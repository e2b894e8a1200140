import Parley.Json.Record

/-!
# Conditions

A condition joins comparisons of variables with values.  Operators that are not known are kept
apart, so that a flow with one of them can still be read; such a comparison never holds.
-/

namespace Parley

inductive Operator where
  | equal
  | notEqual
  | contains
  | lacks
  | greater
  | less
  | isSet
  | isEmpty
  | startsWith
  | endsWith
  | unknown
  deriving DecidableEq, Repr

namespace Operator

def name : Operator → String
  | .equal => "Equal to"
  | .notEqual => "Not equal"
  | .contains => "Contains"
  | .lacks => "Does not contain"
  | .greater => "Greater than"
  | .less => "Less than"
  | .isSet => "Is set"
  | .isEmpty => "Is empty"
  | .startsWith => "Starts with"
  | .endsWith => "Ends with"
  | .unknown => "Unknown"

def known : List Operator :=
  [.equal, .notEqual, .contains, .lacks, .greater, .less, .isSet, .isEmpty, .startsWith,
   .endsWith]

def ofName (name : String) : Operator := (known.find? fun o => o.name = name).getD .unknown

theorem ofName_name (o : Operator) : ofName o.name = o := by cases o <;> decide

def toJson (o : Operator) : Json := .string o.name

def read? (strictness : Json.Strictness) (j : Json) : Option Operator :=
  (j.choice? strictness).map ofName

end Operator

/-- How the comparisons of a condition are joined. -/
inductive Junction where
  | all
  | any
  deriving DecidableEq, Repr, Inhabited

namespace Junction

def name : Junction → String
  | .all => "AND"
  | .any => "OR"

def toJson (j : Junction) : Json := .string j.name

def read? : Json.Strictness → Json → Option Junction := Json.oneOf? [.all, .any] name

end Junction

structure Comparison where
  id : Option String
  variableId : Option String
  operator : Option Operator
  value : Option String
  deriving DecidableEq, Repr

namespace Comparison

def fieldNames : List String := ["id", "variableId", "comparisonOperator", "value"]

def toJson (c : Comparison) : Json :=
  .object (Json.optionalField "id" (c.id.map .string) ++
    Json.optionalField "variableId" (c.variableId.map .string) ++
    Json.optionalField "comparisonOperator" (c.operator.map Operator.toJson) ++
    Json.optionalField "value" (c.value.map .string))

def read? (strictness : Json.Strictness) (j : Json) : Option Comparison := do
  let fields ← Json.record? fieldNames j
  let id ← Json.optional "id" Json.string? fields
  let variableId ← Json.optional "variableId" Json.string? fields
  let operator ← Json.optional "comparisonOperator" (Operator.read? strictness) fields
  let value ← Json.optional "value" Json.string? fields
  some { id, variableId, operator, value }

end Comparison

structure Condition where
  junction : Junction
  comparisons : List Comparison
  deriving DecidableEq, Repr

namespace Condition

/-- Holds always: all of no comparisons. -/
def trivial : Condition := { junction := .all, comparisons := [] }

def fieldNames : List String := ["logicalOperator", "comparisons"]

def toJson (c : Condition) : Json :=
  .object (Json.field "logicalOperator" c.junction.toJson ++
    Json.field "comparisons" (.array (c.comparisons.map Comparison.toJson)))

def read? (strictness : Json.Strictness) (j : Json) : Option Condition := do
  let fields ← Json.record? fieldNames j
  let junction ← Json.defaulted "logicalOperator" .all (Junction.read? strictness) fields
  let comparisons ←
    Json.defaulted "comparisons" [] (Json.listOf? (Comparison.read? strictness)) fields
  some { junction, comparisons }

end Condition

/-- A way out of a condition block, taken if its condition is the first that holds. -/
structure Branch where
  id : String
  condition : Condition
  outgoingEdgeId : Option String
  deriving DecidableEq, Repr

namespace Branch

def fieldNames : List String := ["id", "content", "outgoingEdgeId"]

def toJson (b : Branch) : Json :=
  .object (Json.field "id" (.string b.id) ++ Json.field "content" b.condition.toJson ++
    Json.optionalField "outgoingEdgeId" (b.outgoingEdgeId.map .string))

def read? (strictness : Json.Strictness) (j : Json) : Option Branch := do
  let fields ← Json.record? fieldNames j
  let id ← Json.required "id" Json.string? fields
  let condition ← Json.defaulted "content" .trivial (Condition.read? strictness) fields
  let outgoingEdgeId ← Json.optional "outgoingEdgeId" Json.string? fields
  some { id, condition, outgoingEdgeId }

end Branch
end Parley
