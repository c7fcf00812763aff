import RecordFilter.Query.Like
import RecordFilter.Query.Lookup
import RecordFilter.Query.Operand

/-!
# Constraints

A constraint says something about one field of a record. A field that is missing or null fails every
constraint, the negated ones included.
-/

namespace RecordFilter

/-- The six comparisons. -/
inductive Comparison
  | eq | ne | lt | le | gt | ge
deriving DecidableEq, Repr

namespace Comparison

/-- The sign of the comparison. -/
def symbol : Comparison → String
  | eq => "="
  | ne => "!="
  | lt => "<"
  | le => "<="
  | gt => ">"
  | ge => ">="

/-- Whether the comparison holds of things in this order. -/
def holds : Comparison → Ordering → Bool
  | eq, o => o = .eq
  | ne, o => o ≠ .eq
  | lt, o => o = .lt
  | le, o => o ≠ .gt
  | gt, o => o = .gt
  | ge, o => o ≠ .lt

end Comparison

/-- What is asked of a field. -/
inductive Constraint
  | compare (field : String) (comparison : Comparison) (value : String)
  | isIn (field : String) (values : List String)
  | notIn (field : String) (values : List String)
  | between (field low high : String)
  | notBetween (field low high : String)
  | like (field pattern : String)
deriving DecidableEq, Repr

namespace Constraint

/-- The field that is asked about. -/
def field : Constraint → String
  | compare f _ _ | isIn f _ | notIn f _ | between f _ _ | notBetween f _ _ | like f _ => f

/-- Whether a value that is there satisfies the constraint. -/
def accepts : Constraint → Json → Bool
  | compare _ comparison value, actual => (compareOperand? actual value).any comparison.holds
  | isIn _ values, actual => containsOperand actual values
  | notIn _ values, actual => actual.scalarText?.isSome && !containsOperand actual values
  | between _ low high, actual => (within? actual low high).any id
  | notBetween _ low high, actual => (within? actual low high).any not
  | like _ pattern, actual => actual.scalarText?.any (likeMatches pattern)

/-- Whether a record satisfies the constraint. -/
def admits (c : Constraint) (record : Json) : Bool :=
  (lookup? record c.field).any c.accepts

/-- The constraint as people read it. -/
def text : Constraint → String
  | compare f comparison value => f ++ " " ++ comparison.symbol ++ " " ++ value
  | isIn f values => f ++ " IN (" ++ joinWith ", " values ++ ")"
  | notIn f values => f ++ " NOT IN (" ++ joinWith ", " values ++ ")"
  | between f low high => f ++ " BETWEEN " ++ low ++ " AND " ++ high
  | notBetween f low high => f ++ " NOT BETWEEN " ++ low ++ " AND " ++ high
  | like f pattern => f ++ " LIKE " ++ pattern

end Constraint

end RecordFilter
