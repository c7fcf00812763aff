import RecordFilter.Query.Plan

/-!
# Plans as SQL

A plan becomes a `WHERE` clause with a placeholder for each operand, and the operands in the order of
their placeholders. Operands never enter the clause; fields enter it as quoted identifiers, so that
no field name can end its quotes.
-/

namespace RecordFilter

/-- A `WHERE` clause, empty where nothing is asked for, and the operands of its placeholders. -/
structure SqlFragment where
  clause : String
  params : List String
deriving DecidableEq, Repr

namespace Sql

/-- A part of an identifier in double quotes; a quote inside is written twice. -/
def quotePart (part : String) : String :=
  String.ofList ('"' :: (part.toList.flatMap (fun c => if c = '"' then ['"', '"'] else [c]) ++ ['"']))

/-- A field as a column; points divide it into parts. -/
def column (field : String) : String :=
  joinWith "." ((pieces '.' field).map quotePart)

/-- As many placeholders as there are operands. -/
def placeholders (operands : List String) : String :=
  joinWith ", " (operands.map fun _ => "?")

end Sql

namespace Constraint

/-- The condition of a constraint. A list without values holds of nothing, its negation of all. -/
def sqlCondition : Constraint → String
  | compare f comparison _ => Sql.column f ++ " " ++ comparison.symbol ++ " ?"
  | isIn _ [] => "1 = 0"
  | notIn _ [] => "1 = 1"
  | isIn f values => Sql.column f ++ " IN (" ++ Sql.placeholders values ++ ")"
  | notIn f values => Sql.column f ++ " NOT IN (" ++ Sql.placeholders values ++ ")"
  | between f _ _ => Sql.column f ++ " BETWEEN ? AND ?"
  | notBetween f _ _ => Sql.column f ++ " NOT BETWEEN ? AND ?"
  | like f _ => Sql.column f ++ " LIKE ?"

/-- The operands of a constraint. -/
def operands : Constraint → List String
  | compare _ _ value => [value]
  | isIn _ values | notIn _ values => values
  | between _ low high | notBetween _ low high => [low, high]
  | like _ pattern => [pattern]

end Constraint

/-- The plan as a clause and its operands. -/
def QueryPlan.toSql (plan : QueryPlan) : SqlFragment where
  clause :=
    if plan.isEmpty then ""
    else "WHERE " ++ joinWith " AND " (plan.constraints.map Constraint.sqlCondition)
  params := plan.constraints.flatMap Constraint.operands

end RecordFilter
