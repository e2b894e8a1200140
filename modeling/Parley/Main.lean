import Parley.Service.Offline
import Parley.Terminal.Transcript
import Std.Time.DateTime.Timestamp

/-!
# The program

Runs a conversation in the terminal.  Files and replies are read here, and lines are printed;
what they are is decided elsewhere.
-/

namespace Parley

/-- What a file holds, if it can be read. -/
def readFile? (path : String) : IO (String × Option String) := do
  try
    let content ← IO.FS.readFile path
    return (path, some content)
  catch _ => return (path, none)

def presentMilliseconds : IO Nat := do
  let now ← Std.Time.Timestamp.now
  return now.toMillisecondsSinceUnixEpoch.toInt.toNat

def Machine.boot : IO Machine := do
  let bytes ← IO.getRandomBytes 8
  let seed := bytes.toList.foldl (fun n b => 256 * n + b.toNat) 0
  return { milliseconds := ← presentMilliseconds, dice := mkStdGen seed }

/-- A reply is a line without its end. -/
def nextReply? : IO (Option String) := do
  let line ← (← IO.getStdin).getLine
  if line = "" then return none
  let withoutEnd :=
    match line.toList.reverse with
    | '\n' :: '\r' :: rest | '\n' :: rest => rest
    | rest => rest
  return some (String.ofList withoutEnd.reverse)

def giveUp (e : Error) : IO UInt32 := do
  IO.eprintln ("Error: " ++ e.message)
  return 1

/-- Shows a turn and takes the next one, until there is none. -/
partial def runTurns (config : Config) (turn : Turn) (state : Store × Machine) : IO UInt32 := do
  (Terminal.turnLines turn).forM IO.println
  (← IO.getStdout).flush
  if Terminal.isLast turn then return 0
  match ← nextReply? with
  | none => return 0
  | some reply =>
    let state := (state.1, { state.2 with milliseconds := ← presentMilliseconds })
    let services := (Machine.outside config.chat).withStore
    match (proceed services config turn.session reply).run state with
    | (.error e, _) => giveUp e
    | (.ok next, state) => runTurns config next state

/-- Credentials may also be named by the environment. -/
def completed (settings : Terminal.Settings) : IO Terminal.Settings := do
  let secretsPath ← IO.getEnv "CHATFLOW_SECRETS"
  return { settings with secretsPath := settings.secretsPath.or secretsPath }

def converseWith (flowPath : String) (given : Terminal.Settings) : IO UInt32 := do
  let settings ← completed given
  let paths := flowPath :: settings.configPath.getD Terminal.standardConfigPath ::
    settings.secretsPath.toList ++ settings.webhooksPath.toList
  let contents ← paths.mapM readFile?
  let files := fun path => (contents.lookup path).join
  match Terminal.Setup.ofFiles files flowPath settings with
  | .error e => giveUp e
  | .ok setup =>
    let services := (Machine.outside setup.config.chat).withStore
    match (Terminal.begin services setup).run (setup.store, ← Machine.boot) with
    | (.error e, _) => giveUp e
    | (.ok turn, state) => runTurns setup.config turn state

end Parley

def main (words : List String) : IO UInt32 := do
  match Parley.Terminal.Command.read words with
  | .help =>
    Parley.Terminal.helpLines.forM IO.println
    return 0
  | .version =>
    IO.println Parley.Terminal.versionText
    return 0
  | .misuse =>
    IO.eprintln "error: usage: chatflow [OPTIONS] <TYPEBOT>"
    return 2
  | .converse flowPath settings => Parley.converseWith flowPath settings
