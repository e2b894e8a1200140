import Parley.Http.Host

/-!
# URLs

A URL is read as browsers read it, and written in its one normal spelling: the scheme and the
host in small letters, without the usual port, the path without `.` and `..`, and with percent
signs for the characters that a part cannot hold.  There is no base, so a text without a scheme
is no URL.
-/

namespace Parley
namespace Http

structure Url where
  scheme : String
  /-- Stands in front of the host, if it is not empty. -/
  username : String
  /-- Is never empty. -/
  password : Option String
  host : Option String
  port : Option Nat
  path : String
  query : Option String
  fragment : Option String
  deriving DecidableEq, Repr

namespace Url

/-! ## Characters -/

def isControl (c : Char) : Bool := c.toNat < 0x20 || 0x7e < c.toNat

def escapedInFragment (c : Char) : Bool := isControl c || " \"<>`".toList.contains c

def escapedInQuery (special : Bool) (c : Char) : Bool :=
  isControl c || " \"#<>".toList.contains c || (special && c = '\x27')

def escapedInPath (c : Char) : Bool :=
  isControl c || " \"<>`#?\x7b\x7d".toList.contains c

def escapedInUser (c : Char) : Bool := escapedInPath c || "/:;=@[\\]^|".toList.contains c

def escapeWhere (escaped : Char → Bool) (cs : List Char) : List Char :=
  cs.flatMap fun c =>
    if escaped c then (String.utf8EncodeChar c).flatMap Text.Form.percentByte else [c]

/-! ## Schemes -/

/-- Schemes that always have a host, with their usual ports. -/
def usualPorts : List (String × Nat) :=
  [("http", 80), ("https", 443), ("ws", 80), ("wss", 443), ("ftp", 21)]

def isSpecial (scheme : String) : Bool :=
  scheme = "file" || (usualPorts.lookup scheme).isSome

def isSchemeChar (c : Char) : Bool :=
  Text.isLetter c || Text.isDigit c || c = '+' || c = '-' || c = '.'

def splitScheme? (cs : List Char) : Option (String × List Char) := do
  let (scheme, rest) ← Text.splitOnce? ':' cs
  if scheme.head?.any Text.isLetter ∧ scheme.all isSchemeChar then
    some (String.ofList (scheme.map Text.lowerAscii), rest)
  else none

/-! ## The part before the path -/

structure Authority where
  username : String
  password : Option String
  host : String
  port : Option Nat
  deriving DecidableEq, Repr

/-- What stands before and after the last separator. -/
def splitLast? (separator : Char) (cs : List Char) : Option (List Char × List Char) :=
  (Text.splitOnce? separator cs.reverse).map fun cut => (cut.2.reverse, cut.1.reverse)

/-- A part that may be missing: what stands before the mark, and what follows it. -/
def cutAt (mark : Char) (cs : List Char) : List Char × Option (List Char) :=
  match Text.splitOnce? mark cs with
  | some (before, after) => (before, some after)
  | none => (cs, none)

/-- A name and a password.  An empty password is none. -/
def readUser (cs : List Char) : String × Option String :=
  let (name, password) := cutAt ':' cs
  let escape (cs : List Char) : String := String.ofList (escapeWhere escapedInUser cs)
  (escape name, (password.filter fun cs => cs ≠ []).map escape)

/-- The host and the text of the port. -/
def splitPort? (cs : List Char) : Option (List Char × List Char) :=
  if cs.head? = some '[' then do
    let (inner, rest) ← Text.splitOnce? ']' cs
    match rest with
    | [] => some (inner ++ [']'], [])
    | ':' :: port => some (inner ++ [']'], port)
    | _ => none
  else some ((Text.splitOnce? ':' cs).getD (cs, []))

/-- A port of its own; the usual one does not count. -/
def readPort? (scheme : String) (cs : List Char) : Option (Option Nat) :=
  if cs = [] then some none
  else do
    let port ← Text.natural? cs
    if 65535 < port then none
    else some (if usualPorts.lookup scheme = some port then none else some port)

def readHost? (scheme : String) (cs : List Char) : Option String :=
  match cs with
  | '[' :: rest => (Host.bracketed? rest).map String.ofList
  | _ =>
    if isSpecial scheme then (Host.domain? cs).map String.ofList
    else if cs.any Host.forbidden then none
    else some (String.ofList (escapeWhere isControl cs))

/-- Without a host there is neither a name nor a port.  A lone `@` has nothing after it, as
`ends` says.  A port may be followed by a backslash; the path then starts with it. -/
def readAuthority? (scheme : String) (ends : Bool) (cs : List Char) :
    Option (Authority × List Char) := do
  if cs = ['@'] ∧ !ends then none
  let (user, rest) := (splitLast? '@' cs).getD ([], cs)
  let (username, password) := readUser user
  let (host, port) ← splitPort? rest
  let host ← readHost? scheme host
  let start := port.dropWhile fun c => c ≠ '\\'
  let port ← readPort? scheme (port.takeWhile fun c => c ≠ '\\')
  if host = "" ∧ (username ≠ "" ∨ password ≠ none ∨ rest ≠ []) then none
  else some ({ username, password, host, port }, start)

/-- A letter that stands for a drive. -/
def isDrive : List Char → Bool
  | [letter, c] => Text.isLetter letter && (c = ':' || c = '|')
  | _ => false

/-- A file lies on a host and nothing else; the machine at hand needs no name. -/
def readFileHost? (cs : List Char) : Option (Option Authority) :=
  if cs = [] then some none
  else do
    let host ← readHost? "file" cs
    if host = "localhost" then some none
    else some (some { username := "", password := none, host, port := none })

/-! ## The path -/

def isDot (segment : List Char) : Bool :=
  [".", "%2e"].contains (String.ofList (segment.map Text.lowerAscii))

def isDoubleDot (segment : List Char) : Bool :=
  ["..", ".%2e", "%2e.", "%2e%2e"].contains (String.ofList (segment.map Text.lowerAscii))

/-- One step up; but there is nothing above a drive. -/
def leave : List (List Char) → List (List Char)
  | [] => []
  | segment :: above => if isDrive segment then segment :: above else above

/-- The segments that remain when `.` and `..` have been followed.  `above` is the way down from
the root, the deepest first. -/
def resolveDots (above : List (List Char)) : List (List Char) → List (List Char)
  | [] => above.reverse
  | [last] =>
    if isDoubleDot last then ([] :: leave above).reverse
    else if isDot last then ([] :: above).reverse
    else (last :: above).reverse
  | segment :: rest =>
    if isDoubleDot segment then resolveDots (leave above) rest
    else if isDot segment then resolveDots above rest
    else resolveDots (segment :: above) rest

def isSlash (special : Bool) (c : Char) : Bool := c = '/' || (special && c = '\\')

/-- A path below the root; `cs` starts after the first slash. -/
def normalPath (special : Bool) (cs : List Char) : List Char :=
  let unified := cs.map fun c => if isSlash special c then '/' else c
  let segments := resolveDots [] (Text.splitOn '/' unified)
  segments.flatMap fun segment => '/' :: escapeWhere escapedInPath segment

/-- The path that follows a host. -/
def pathBelowHost (special : Bool) : List Char → List Char
  | [] => if special then ['/'] else []
  | c :: rest => normalPath special (if isSlash special c then rest else c :: rest)

/-- The path of a file, on the drive that it names.  Several slashes at the front count as
one. -/
def filePath (cs : List Char) : List Char × Bool :=
  let path := (normalPath true cs).dropWhile fun c => c = '/'
  let first := path.takeWhile fun c => c ≠ '/'
  if isDrive first then ('/' :: (first.take 1 ++ ':' :: path.drop 2), true) else ('/' :: path, false)

/-! ## The whole -/

def isStripped (c : Char) : Bool := c.toNat ≤ 0x20

/-- Without control characters and spaces at the ends, and without line breaks and tabs. -/
def cleaned (cs : List Char) : List Char :=
  (((cs.dropWhile isStripped).reverse.dropWhile isStripped).reverse).filter fun c =>
    c ≠ '\t' && c ≠ '\n' && c ≠ '\r'

/-- The host and the path of a file, both after two slashes.  A drive needs no host. -/
def fileHierarchy? (cs : List Char) : Option (Option Authority × List Char) := do
  let before := cs.takeWhile fun c => !isSlash true c
  let after := cs.dropWhile fun c => !isSlash true c
  let authority ← if isDrive before then some none else readFileHost? before
  let (path, hasDrive) := filePath (if isDrive before then cs else after.tail)
  some (if hasDrive then none else authority, path)

/-- The host and the path.  `cs` starts after the scheme, and `ends` says that nothing comes
after it. -/
def hierarchy? (scheme : String) (ends : Bool) (cs : List Char) :
    Option (Option Authority × List Char) :=
  let special := isSpecial scheme
  let split (rest : List Char) : Option (Option Authority × List Char) := do
    let before := rest.takeWhile fun c => !isSlash special c
    let after := rest.dropWhile fun c => !isSlash special c
    let (authority, start) ← readAuthority? scheme (ends && after = []) before
    some (some authority, pathBelowHost special (start ++ after))
  if scheme = "file" then
    match cs.map (fun c => if isSlash true c then '/' else c) with
    | '/' :: '/' :: rest => fileHierarchy? rest
    | other => some (none, (filePath other).1)
  else if special then split (cs.dropWhile (isSlash true))
  else
    match cs with
    | '/' :: '/' :: rest => split rest
    | '/' :: rest => some (none, normalPath false rest)
    | other => some (none, escapeWhere isControl other)

def parse? (text : String) : Option Url := do
  let (scheme, rest) ← splitScheme? (cleaned text.toList)
  let (rest, fragment) := cutAt '#' rest
  let (rest, query) := cutAt '?' rest
  let (authority, path) ← hierarchy? scheme (query.isNone && fragment.isNone) rest
  some
    { scheme
      username := (authority.map Authority.username).getD ""
      password := authority.bind Authority.password
      host := authority.map Authority.host
      port := authority.bind Authority.port
      path := String.ofList path
      query := query.map fun cs => String.ofList (escapeWhere (escapedInQuery (isSpecial scheme)) cs)
      fragment := fragment.map fun cs => String.ofList (escapeWhere escapedInFragment cs) }

def portText : Option Nat → String
  | some port => String.ofList (':' :: Text.numeral port)
  | none => ""

def markedText (mark : String) : Option String → String
  | some part => mark ++ part
  | none => ""

def userText (u : Url) : String :=
  if u.username = "" ∧ u.password = none then ""
  else u.username ++ markedText ":" u.password ++ "@"

/-- Two slashes at the start of a path must not be taken for those of a host. -/
def hostText (u : Url) : String :=
  match u.host with
  | some host => "//" ++ u.userText ++ host ++ portText u.port
  | none =>
    if u.scheme = "file" then "//"
    else if "//".toList.isPrefixOf u.path.toList then "/."
    else ""

def text (u : Url) : String :=
  u.scheme ++ ":" ++ u.hostText ++ u.path ++ markedText "?" u.query ++ markedText "#" u.fragment

/-! ## Credentials -/

/-- The name and the password as plain text.  Without a name that can be read there are none; a
password that cannot be read is no password. -/
def credentials? (u : Url) : Option (String × Option String) := do
  let name ← Host.decodedText? u.username.toList
  let password := u.password.bind fun password => Host.decodedText? password.toList
  if name = "" ∧ password = none then none else some (name, password)

/-- A URL whose credentials are sent in a header does not show them. -/
def withoutCredentials (u : Url) : Url :=
  if u.credentials?.isSome then { u with username := "", password := none } else u

end Url
end Http
end Parley
