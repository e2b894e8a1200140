import Parley.Text.Split

/-!
# The command line

Which flow to run and with what, as words.  A setting takes its value from the same word, with
or without an equals sign, or from the next word, unless that one looks like a setting too.
-/

namespace Parley
namespace Terminal

structure Settings where
  configPath : Option String
  secretsPath : Option String
  webhooksPath : Option String
  /-- First values of variables, as `name=value`. -/
  pairs : List String
  isPreview : Bool
  deriving DecidableEq, Repr

def Settings.none : Settings :=
  { configPath := Option.none, secretsPath := Option.none, webhooksPath := Option.none,
    pairs := [], isPreview := false }

/-- What the words ask for. -/
inductive Command where
  | help
  | version
  | converse (flowPath : String) (settings : Settings)
  /-- The words make no sense. -/
  | misuse
  deriving DecidableEq, Repr

/-- A setting with a value. -/
inductive Setting where
  | config
  | secrets
  | webhooks
  | pair
  deriving DecidableEq, Repr

/-- What a dash or two ask for. -/
inductive Switch where
  | setting (which : Setting)
  | preview
  | help
  | version
  deriving DecidableEq, Repr

namespace Switch

def ofName? (name : List Char) : Option Switch :=
  match String.ofList name with
  | "config" => some (.setting .config)
  | "secrets" => some (.setting .secrets)
  | "webhooks" => some (.setting .webhooks)
  | "var" => some (.setting .pair)
  | "preview" => some .preview
  | "help" => some .help
  | "version" => some .version
  | _ => none

def ofLetter? : Char → Option Switch
  | 'c' => some (.setting .config)
  | 's' => some (.setting .secrets)
  | 'w' => some (.setting .webhooks)
  | 'v' => some (.setting .pair)
  | 'h' => some .help
  | 'V' => some .version
  | _ => none

end Switch

/-- A word of the command line. -/
inductive Word where
  | plain
  /-- After it, all words are plain. -/
  | divider
  /-- A switch, with its value if the word holds one. -/
  | switch (which : Switch) (value : Option String)
  | unknown
  deriving DecidableEq, Repr

namespace Word

def ofNamed (cs : List Char) : Word :=
  let cut := (Text.splitOnce? '=' cs).map fun cut => (cut.1, some (String.ofList cut.2))
  let (name, value) := cut.getD (cs, none)
  match Switch.ofName? name with
  | some which => .switch which value
  | none => .unknown

/-- What follows the letter is the value of a setting, and of no interest otherwise. -/
def ofLettered (letter : Char) (rest : List Char) : Word :=
  match Switch.ofLetter? letter with
  | some (.setting which) =>
    match rest with
    | [] => .switch (.setting which) none
    | '=' :: value => .switch (.setting which) (some (String.ofList value))
    | value => .switch (.setting which) (some (String.ofList value))
  | some which => .switch which none
  | none => .unknown

/-- A single dash is a plain word. -/
def read (word : String) : Word :=
  match word.toList with
  | ['-', '-'] => .divider
  | '-' :: '-' :: name => ofNamed name
  | '-' :: letter :: rest => ofLettered letter rest
  | _ => .plain

end Word

/-- A path is no empty word, and is given once. -/
def once? (old : Option String) (path : String) : Option (Option String) :=
  if old.isNone ∧ path ≠ "" then some (some path) else none

def Settings.set? (s : Settings) (value : String) : Setting → Option Settings
  | .config => (once? s.configPath value).map fun configPath => { s with configPath }
  | .secrets => (once? s.secretsPath value).map fun secretsPath => { s with secretsPath }
  | .webhooks => (once? s.webhooksPath value).map fun webhooksPath => { s with webhooksPath }
  | .pair => some { s with pairs := s.pairs ++ [value] }

namespace Command

/-- Nothing works without a flow. -/
def ofFlow (s : Settings) : Option String → Command
  | some path => .converse path s
  | none => .misuse

/-- The words after the divider. -/
def ofPlain (s : Settings) (flowPath : Option String) (words : List String) : Command :=
  ((words.foldlM once? flowPath).map (ofFlow s)).getD .misuse

/-- The words from left to right; the first one that decides everything ends the reading. -/
def ofWords (s : Settings) (flowPath : Option String) : List String → Command
  | [] => ofFlow s flowPath
  | word :: rest =>
    match Word.read word with
    | .plain =>
      match once? flowPath word with
      | some flowPath => ofWords s flowPath rest
      | none => .misuse
    | .divider => ofPlain s flowPath rest
    | .switch (.setting which) (some value) =>
      match s.set? value which with
      | some s => ofWords s flowPath rest
      | none => .misuse
    | .switch (.setting which) none =>
      match rest with
      | [] => .misuse
      | value :: rest =>
        if Word.read value = .plain then
          match s.set? value which with
          | some s => ofWords s flowPath rest
          | none => .misuse
        else .misuse
    | .switch .preview none =>
      if s.isPreview then .misuse else ofWords { s with isPreview := true } flowPath rest
    | .switch .help none => .help
    | .switch .version none => .version
    | .switch _ (some _) => .misuse
    | .unknown => .misuse

def read (words : List String) : Command := ofWords .none none words

end Command

/-! ## What the terminal says about itself -/

def versionText : String := "chatflow 0.1.0"

def helpLines : List String :=
  ["Run a typebot conversation in the terminal",
   "",
   "Usage: chatflow [OPTIONS] <TYPEBOT>",
   "",
   "Arguments:",
   "  <TYPEBOT>  Typebot definition (JSON)",
   "",
   "Options:",
   "  -c, --config <CONFIG>      Engine config file [default: config.json]",
   "  -s, --secrets <SECRETS>    Credentials file, keyed by credentials id [env: CHATFLOW_SECRETS=]",
   "  -w, --webhooks <WEBHOOKS>  Webhook records (JSON array)",
   "  -v, --var <VARIABLES>      Prefilled variables as name=value",
   "      --preview              Do not record a result",
   "  -h, --help                 Print help",
   "  -V, --version              Print version"]

end Terminal
end Parley
