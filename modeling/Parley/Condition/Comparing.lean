import Parley.Calendar.Moment
import Parley.Condition.Basic
import Parley.Number.Decimal
import Parley.Text.Lower
import Parley.Text.Split
import Parley.Variable.Interpolation

/-!
# Comparing values

Comparisons look at single texts.  A list is compared element by element: `Contains` and
`Does not contain` ask for some pair of elements, the other tests for every pair.  The order
of two texts is that of the numbers or dates they stand for; a list counts as its length.
-/

namespace Parley

namespace Value

def isBlank : Option Value → Bool
  | none => true
  | some v => v.isEmpty

/-- A text without the white space around it and without capitals. -/
def folded (s : String) : List Char := Text.lower (Text.trim s.toList)

/-- Empty text counts as zero. -/
def number? (s : String) : Option Number.Floating :=
  let cs := Text.trim s.toList
  if cs = [] then some (.ofInt .binary64 0)
  else (Number.decimal? cs).filter fun x => !x.isNaN

/-- A number, or a date as milliseconds since the start of 1970. -/
def numberOrDate? (s : String) : Option Number.Floating :=
  (number? s).or ((Calendar.moment? (Text.trim s.toList)).map fun m =>
    .ofInt .binary64 m.milliseconds)

def count (items : List String) : Number.Floating := .ofInt .binary64 items.length

/-- The two numbers that an order comparison is about.  Dates only stand against each other. -/
def ordered? : Option Value → Option Value → Option (Number.Floating × Number.Floating)
  | some (.text a), some (.text b) => do some (← numberOrDate? a, ← numberOrDate? b)
  | some (.text a), some (.list b) => do some (← number? a, count b)
  | some (.list a), some (.text b) => do some (count a, ← number? b)
  | some (.list a), some (.list b) => some (count a, count b)
  | _, _ => none

end Value

/-- How many of the elements of a list have to pass a test. -/
inductive Quantifier where
  | every
  | any
  deriving DecidableEq, Repr

def Quantifier.holds : Quantifier → List Bool → Bool
  | .every, results => results.all id
  | .any, results => results.any id

namespace Operator

abbrev Test := Option String → Option String → Bool

def containsTest : Test
  | some a, some b =>
    a ≠ "" && b ≠ "" && Text.occursIn (Value.folded b) (Value.folded a)
  | _, _ => false

def lacksTest : Test
  | some a, some b => b = "" || !Text.occursIn (Value.folded b) (Value.folded a)
  | _, _ => true

def startsTest : Test
  | some a, some b => b ≠ "" && (Value.folded b).isPrefixOf (Value.folded a)
  | _, _ => false

def endsTest : Test
  | some a, some b => b ≠ "" && (Value.folded b).isSuffixOf (Value.folded a)
  | _, _ => false

/-- Goes through the elements of a list on either side, and through the pairs of elements of two
lists. -/
def compared (q : Quantifier) (test : Test) : Option Value → Option Value → Bool
  | some (.list xs), some (.list ys) =>
    q.holds (xs.map fun x => q.holds (ys.map fun y => test (some x) (some y)))
  | some (.list xs), b =>
    q.holds (xs.map fun x => test (some x) (b.bind Value.asText?))
  | a, some (.list ys) =>
    q.holds (ys.map fun y => test (a.bind Value.asText?) (some y))
  | a, b => test (a.bind Value.asText?) (b.bind Value.asText?)

def holds (o : Operator) (input comparand : Option Value) : Bool :=
  match o with
  | .equal => compared .every (fun x y => x = y) input comparand
  | .notEqual => compared .every (fun x y => x ≠ y) input comparand
  | .contains => compared .any containsTest input comparand
  | .lacks =>
    Value.isBlank input || Value.isBlank comparand || compared .any lacksTest input comparand
  | .greater => (Value.ordered? input comparand).any fun pair => pair.2.lt pair.1
  | .less => (Value.ordered? input comparand).any fun pair => pair.1.lt pair.2
  | .isSet => !Value.isBlank input
  | .isEmpty => Value.isBlank input
  | .startsWith => compared .every startsTest input comparand
  | .endsWith => compared .every endsTest input comparand
  | .unknown => false

end Operator

namespace Comparison

/-- The value to compare with.  The words `undefined` and `null` mean none. -/
def comparand? (vars : List Variable) : Option String → Option Value
  | none => none
  | some text =>
    if text = "undefined" ∨ text = "null" then none
    else some (Variable.evaluate vars text)

/-- A comparison without a variable or without an operator does not hold. -/
def holds (vars : List Variable) (c : Comparison) : Bool :=
  match c.variableId, c.operator with
  | some id, some operator =>
    operator.holds ((Variable.byId? vars id).bind (·.value)) (comparand? vars c.value)
  | _, _ => false

end Comparison

def Condition.holds (vars : List Variable) (c : Condition) : Bool :=
  match c.junction with
  | .all => c.comparisons.all fun comparison => comparison.holds vars
  | .any => c.comparisons.any fun comparison => comparison.holds vars

/-- The edge of the first branch whose condition holds. -/
def Branch.taken? (vars : List Variable) (branches : List Branch) : Option String :=
  (branches.find? fun b => b.condition.holds vars).bind (·.outgoingEdgeId)

end Parley
