import RecordFilter.Query.Constraint

/-!
# Query plans

A plan is a conjunction of constraints, in the order in which they were added. There is no
disjunction, and nothing is ever taken out.
-/

namespace RecordFilter

/-- Constraints that a record has to satisfy all together. -/
structure QueryPlan where
  constraints : List Constraint
deriving DecidableEq, Repr

namespace QueryPlan

/-- The plan that asks for nothing. -/
def empty : QueryPlan := ⟨[]⟩

/-- The plan with one more constraint. -/
def add (plan : QueryPlan) (c : Constraint) : QueryPlan :=
  ⟨plan.constraints ++ [c]⟩

/-- Whether the plan asks for nothing. -/
def isEmpty (plan : QueryPlan) : Bool :=
  plan.constraints.isEmpty

/-- Whether a record satisfies the plan. -/
def admits (plan : QueryPlan) (record : Json) : Bool :=
  plan.constraints.all fun c => c.admits record

/-- The records that satisfy the plan, in their order. -/
def select (plan : QueryPlan) (records : List Json) : List Json :=
  records.filter plan.admits

/-- The plan as people read it. -/
def predicate (plan : QueryPlan) : String :=
  if plan.isEmpty then "TRUE" else joinWith " AND " (plan.constraints.map Constraint.text)

@[simp] theorem constraints_add (plan : QueryPlan) (c : Constraint) :
    (plan.add c).constraints = plan.constraints ++ [c] := rfl

@[simp] theorem admits_add (plan : QueryPlan) (c : Constraint) (record : Json) :
    (plan.add c).admits record = (plan.admits record && c.admits record) := by
  simp [admits, List.all_append]

end QueryPlan

end RecordFilter
