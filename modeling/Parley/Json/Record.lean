import Parley.Json.Basic

/-!
# Records in JSON

How the fields of a record are written and read.  A record is written as an object.  It is read
from an object, in which a field stands at most once and unknown members do not matter, or from
the array of its fields in their order, which may end early where the missing fields have
defaults.
-/

namespace Parley
namespace Json

/-! ## Writing -/

def field (name : String) (value : Json) : Members := [(name, value)]

/-- A field that is left out when it has no value. -/
def optionalField (name : String) : Option Json → Members
  | some value => [(name, value)]
  | none => []

/-- A list that is left out when it is empty. -/
def listField (name : String) : List Json → Members
  | [] => []
  | items => [(name, .array items)]

def ofStrings (items : List String) : Json := .array (items.map .string)

def ofStringMap (entries : List (String × String)) : Json :=
  .object (entries.map fun entry => (entry.1, .string entry.2))

/-! ## Reading values -/

def bool? : Json → Option Bool
  | .bool b => some b
  | _ => none

/-- A whole number below `limit`; one with a point or an exponent does not count. -/
def natBelow? (limit : Nat) : Json → Option Nat
  | .number (.integer i) => if 0 ≤ i ∧ i.toNat < limit then some i.toNat else none
  | _ => none

/-- Any value, in its canonical form. -/
def any? (j : Json) : Option Json := some j.canonical

def listOf? {α : Type} (read? : Json → Option α) : Json → Option (List α)
  | .array items => items.mapM read?
  | _ => none

/-- A map from strings; the last of equal keys wins. -/
def mapOf? {α : Type} (read? : Json → Option α) : Json → Option (List (String × α))
  | .object members =>
    (members.mapM fun m => (read? m.2).map fun value => (m.1, value)).map Keyed.ofList
  | _ => none

/-! ## Reading names -/

/-- How strictly the names of alternatives are read. -/
inductive Strictness where
  | exact
  /-- Within a block or an action, whose kind has been found by looking at all of its members, a
  tag may be given by its place among the tags, and no value may be given as an empty object. -/
  | lenient
  deriving DecidableEq, Repr

/-- The value is none. -/
def Strictness.isNothing (strictness : Strictness) : Json → Bool
  | .null => true
  | .object [] => strictness = .lenient
  | _ => false

/-- One of several names: the name itself, or an object whose only member has this name and no
value. -/
def choice? (strictness : Strictness) : Json → Option String
  | .string s => some s
  | .object [(s, value)] => if strictness.isNothing value then some s else none
  | _ => none

/-- One of the alternatives, by its name. -/
def oneOf? {α : Type} (alternatives : List α) (name : α → String) (strictness : Strictness)
    (j : Json) : Option α :=
  (j.choice? strictness).bind fun s => alternatives.find? fun a => name a = s

/-! ## Reading fields -/

/-- No name in `names` stands for two members. -/
def unrepeated (names : List String) (members : Members) : Bool :=
  names.all fun name => (members.filter fun m => m.1 == name).length ≤ 1

/-- The fields of a record that is written with braces. -/
def fields? (names : List String) : Json → Option Members
  | .object members => if unrepeated names members then some members else none
  | _ => none

/-- The fields of a record. -/
def record? (names : List String) : Json → Option Members
  | .array items => if items.length ≤ names.length then some (names.zip items) else none
  | other => fields? names other

/-- The members that are no fields. -/
def others (names : List String) (members : Members) : Members :=
  members.filter fun m => !names.contains m.1

/-- Members kept as they are, in canonical form. -/
def keep (members : Members) : Members :=
  Keyed.ofList (members.map fun m => (m.1, m.2.canonical))

variable {α : Type}

def required (name : String) (read? : Json → Option α) (members : Members) : Option α :=
  (members.lookup name).bind read?

/-- A field that may be missing or `null`. -/
def optional (name : String) (read? : Json → Option α) (members : Members) : Option (Option α) :=
  match members.lookup name with
  | none => some none
  | some .null => some none
  | some value => (read? value).map some

/-- A field that may be missing, but not `null`. -/
def defaulted (name : String) (default : α) (read? : Json → Option α) (members : Members) :
    Option α :=
  match members.lookup name with
  | none => some default
  | some value => read? value

/-! ## Tagged records -/

/-- The tag of a record that is one of several kinds, and its other fields.  Written as an
array, it has the tag in front. -/
def tagged? (tag : String) : Json → Option (Json × Json)
  | .object members =>
    match members.filter fun m => m.1 == tag with
    | [(_, value)] => some (value, .object (others [tag] members))
    | _ => none
  | .array (value :: items) => some (value, .array items)
  | _ => none

/-- The place of a tag among the tags. -/
def Strictness.place? (strictness : Strictness) (names : List String) : Json → Option Nat
  | .string s => names.idxOf? s
  | .number (.integer i) =>
    if strictness = .lenient ∧ 0 ≤ i ∧ i.toNat < names.length then some i.toNat else none
  | _ => none

end Json
end Parley
