import RecordFilter.Proofs.Query.Clause

/-!
# Nulls in clauses

A clause is read as conditions with three truth values: what is asked of a column without a value is
unknown, and a conjunction holds only if all of its conditions do. A constraint on a missing field fails,
and its condition is then not true, with one exception: the condition of a negated list without values does
not look at its column.

* `Sql.Condition` are the conditions that a clause may have, and `Sql.truth` the truth of their conjunction.
* `QueryPlan.whereClause_eq_iff`: a clause is read as the conditions of its plan and in no other way.
* `QueryPlan.null_fails` says when a clause is true, and that it is not on a field that is missing.
-/

namespace RecordFilter

namespace Sql

/-! ## Conditions and their truth -/

/-- The conjunction of two truth values, of which `none` is unknown. -/
def both : Option Bool → Option Bool → Option Bool
  | some false, _ => some false
  | _, some false => some false
  | some true, some true => some true
  | _, _ => none

theorem both_eq_true_iff (a b : Option Bool) :
    both a b = some true ↔ a = some true ∧ b = some true := by
  rcases a with _ | _ | _ <;> rcases b with _ | _ | _ <;> decide

/-- What a condition asks of its column. A list has one placeholder and `more` others. -/
inductive Test
  | compare (comparison : Comparison)
  | list (negated : Bool) (more : Nat)
  | range (negated : Bool)
  | like
deriving DecidableEq, Repr

namespace Test

/-- The test as it stands behind its column. -/
def text : Test → String
  | compare comparison => " " ++ comparison.symbol ++ " ?"
  | list false more => " IN (" ++ joinWith ", " (List.replicate (more + 1) "?") ++ ")"
  | list true more => " NOT IN (" ++ joinWith ", " (List.replicate (more + 1) "?") ++ ")"
  | range false => " BETWEEN ? AND ?"
  | range true => " NOT BETWEEN ? AND ?"
  | like => " LIKE ?"

/-- The number of placeholders. -/
def count : Test → Nat
  | compare _ => 1
  | list _ more => more + 1
  | range _ => 2
  | like => 1

end Test

/-- A condition holds or fails by itself, or tests a column. -/
inductive Condition
  | literal (holds : Bool)
  | on (field : String) (test : Test)
deriving DecidableEq, Repr

namespace Condition

/-- The condition as it stands in a clause. -/
def text : Condition → String
  | literal false => "1 = 0"
  | literal true => "1 = 1"
  | on field test => column field ++ test.text

/-- The number of placeholders. -/
def count : Condition → Nat
  | literal _ => 0
  | on _ test => test.count

/-- The truth of a condition on a record. A test of a column that has no value there is unknown; what the
other tests are, `known` tells. -/
def truth (record : Json) (known : Condition → List String → Option Bool) (operands : List String) :
    Condition → Option Bool
  | literal holds => some holds
  | on field test => (lookup? record field).bind fun _ => known (.on field test) operands

end Condition

/-- Conditions as a clause. -/
def whereClause (conditions : List Condition) : String :=
  if conditions.isEmpty then "" else "WHERE " ++ joinWith " AND " (conditions.map Condition.text)

/-- The truth of conditions together, each with its part of the operands. -/
def truth (record : Json) (known : Condition → List String → Option Bool) :
    List Condition → List String → Option Bool
  | [], _ => some true
  | condition :: conditions, operands =>
    both (condition.truth record known (operands.take condition.count))
      (truth record known conditions (operands.drop condition.count))

end Sql

/-! ## The condition of a constraint -/

/-- What a constraint with `more` operands after the first one asks of its column. -/
def ConstraintKind.test (more : Nat) : ConstraintKind → Sql.Test
  | compare comparison => .compare comparison
  | isIn => .list false more
  | notIn => .list true more
  | between => .range false
  | notBetween => .range true
  | like => .like

namespace Constraint

/-- The condition of a constraint. Without operands it is a list without values. -/
def condition (c : Constraint) : Sql.Condition :=
  if c.operands = [] then .literal (c.kind = .notIn)
  else .on c.field (c.kind.test c.operands.tail.length)

theorem text_condition (c : Constraint) : c.condition.text = c.sqlCondition := by
  cases c with
  | isIn f values | notIn f values =>
    cases values with
    | nil => rfl
    | cons v values =>
      simp [condition, operands, kind, field, ConstraintKind.test, sqlCondition, Sql.Condition.text,
        Sql.Test.text, Sql.placeholders, List.replicate_succ, String.append_assoc]
  | _ =>
    simp [condition, operands, kind, field, ConstraintKind.test, sqlCondition, Sql.Condition.text,
      Sql.Test.text, String.append_assoc]

theorem count_condition (c : Constraint) : c.condition.count = c.operands.length := by
  cases c with
  | isIn f values | notIn f values => cases values <;> rfl
  | _ => rfl

/-- Constraints of the same form have one condition. -/
theorem SameForm.condition_eq {c c' : Constraint} (h : c.SameForm c') :
    c.condition = c'.condition := by
  have htail : c.operands.tail.length = c'.operands.tail.length := by
    rw [List.length_tail, List.length_tail, h.count]
  by_cases hc : c.operands = []
  · have hc' : c'.operands = [] := h.operands_eq_nil_iff.mp hc
    rw [condition, condition, if_pos hc, if_pos hc', h.kind]
  · have hc' : c'.operands ≠ [] := fun hc' => hc (h.operands_eq_nil_iff.mpr hc')
    rw [condition, condition, if_neg hc, if_neg hc', h.kind, h.field.resolve_right hc, htail]

/-- A constraint with a given condition. -/
def ofCondition : Sql.Condition → Constraint
  | .literal false => isIn "" []
  | .literal true => notIn "" []
  | .on f (.compare comparison) => compare f comparison ""
  | .on f (.list false more) => isIn f (List.replicate (more + 1) "")
  | .on f (.list true more) => notIn f (List.replicate (more + 1) "")
  | .on f (.range false) => between f "" ""
  | .on f (.range true) => notBetween f "" ""
  | .on f .like => like f ""

theorem condition_ofCondition (condition : Sql.Condition) :
    (ofCondition condition).condition = condition := by
  cases condition with
  | literal holds => cases holds <;> rfl
  | on f test =>
    cases test with
    | list negated more =>
      cases negated <;>
        simp [ofCondition, Constraint.condition, operands, kind, field, ConstraintKind.test]
    | range negated => cases negated <;> rfl
    | _ => rfl

theorem exists_eq_notIn_iff {c : Constraint} (h : c.operands = []) :
    (∃ f, c = notIn f []) ↔ c.kind = .notIn := by
  constructor
  · rintro ⟨f, rfl⟩
    rfl
  · intro hkind
    cases c with
    | notIn f values =>
      obtain rfl : values = [] := h
      exact ⟨f, rfl⟩
    | _ => cases hkind

/-- A condition is true if it is that of a negated list without values, or if its column has a value and the
test of it is true. -/
theorem truth_condition_iff (c : Constraint) (record : Json)
    (known : Sql.Condition → List String → Option Bool) :
    c.condition.truth record known c.operands = some true ↔
      (∃ f, c = notIn f []) ∨ (c.operands ≠ [] ∧ (lookup? record c.field).isSome ∧
        known c.condition c.operands = some true) := by
  by_cases hc : c.operands = []
  · rw [condition, if_pos hc, exists_eq_notIn_iff hc]
    simp [Sql.Condition.truth, hc]
  · have hliteral : ¬∃ f, c = notIn f [] := by
      rintro ⟨f, rfl⟩
      exact hc rfl
    rw [condition, if_neg hc, Sql.Condition.truth]
    cases hvalue : lookup? record c.field with
    | none => simp [hliteral]
    | some value => simp [hliteral, hc]

end Constraint

namespace QueryPlan

open Constraint (condition operands ofCondition SameForm)

/-! ## Reading a clause -/

theorem whereClause_condition (plan : QueryPlan) :
    Sql.whereClause (plan.constraints.map condition) = plan.toSql.clause := by
  have htext : Sql.Condition.text ∘ condition = Constraint.sqlCondition :=
    funext Constraint.text_condition
  rw [Sql.whereClause, List.isEmpty_map, List.map_map, htext, toSql, isEmpty]

/-- A clause is read as the conditions of its plan, and in no other way. -/
theorem whereClause_eq_iff (plan : QueryPlan) (conditions : List Sql.Condition) :
    Sql.whereClause conditions = plan.toSql.clause ↔
      conditions = plan.constraints.map condition := by
  constructor
  · intro h
    have hconditions : (conditions.map ofCondition).map condition = conditions := by
      rw [List.map_map]
      exact List.map_id'' Constraint.condition_ofCondition conditions
    -- any reading is that of a plan, and two plans with one clause have the same conditions
    have hforms := forall₂_sameForm ((whereClause_condition ⟨conditions.map ofCondition⟩).symm.trans
      ((congrArg Sql.whereClause hconditions).trans h))
    rw [← Constraint.map_eq_of_forall₂ hforms fun _ _ => SameForm.condition_eq, hconditions]
  · rintro rfl
    exact whereClause_condition plan

/-! ## The truth of a clause -/

/-- A clause is true exactly if all conditions of its plan are, each on the operands of its constraint. -/
theorem truth_conditions_iff (record : Json) (known : Sql.Condition → List String → Option Bool)
    (cs : List Constraint) :
    Sql.truth record known (cs.map condition) (cs.flatMap operands) = some true ↔
      ∀ c ∈ cs, c.condition.truth record known c.operands = some true := by
  induction cs with
  | nil => simp [Sql.truth]
  | cons c cs ih =>
    rw [List.map_cons, List.flatMap_cons, Sql.truth, Sql.both_eq_true_iff, Constraint.count_condition,
      List.take_left, List.drop_left, ih, List.forall_mem_cons]

theorem truth_clause_iff (plan : QueryPlan) (record : Json)
    (known : Sql.Condition → List String → Option Bool) :
    Sql.truth record known (plan.constraints.map condition) plan.toSql.params = some true ↔
      ∀ c ∈ plan.constraints, (∃ f, c = .notIn f []) ∨ (c.operands ≠ [] ∧
        (lookup? record c.field).isSome ∧ known c.condition c.operands = some true) :=
  (truth_conditions_iff record known plan.constraints).trans
    (forall₂_congr fun c _ => c.truth_condition_iff record known)

/-- A record fails a plan that asks for a field that it has not. -/
theorem admits_eq_false_of_lookup? {plan : QueryPlan} {record : Json} {c : Constraint}
    (hc : c ∈ plan.constraints) (h : lookup? record c.field = none) : plan.admits record = false := by
  have hfails : c.admits record = false := by rw [Constraint.admits, h, Option.any_none]
  rw [admits, List.all_eq_false]
  exact ⟨c, hc, Bool.eq_false_iff.mp hfails⟩

/-- Whatever the tests of columns with a value are: a clause is true exactly if every condition of it is that
of a negated list without values, or a true test of a column with a value. So on a record without the field of
some constraint the plan fails, and its clause is not true, unless the constraint is a negated list without
values. -/
theorem null_fails (plan : QueryPlan) (record : Json)
    (known : Sql.Condition → List String → Option Bool) :
    ∃ conditions, (∀ conditions', Sql.whereClause conditions' = plan.toSql.clause ↔
        conditions' = conditions) ∧
      (Sql.truth record known conditions plan.toSql.params = some true ↔ ∀ c ∈ plan.constraints,
        (∃ f, c = .notIn f []) ∨ (c.operands ≠ [] ∧ (lookup? record c.field).isSome ∧
          known c.condition c.operands = some true)) ∧
      ∀ c ∈ plan.constraints, lookup? record c.field = none →
        plan.admits record = false ∧ ((∀ f, c ≠ .notIn f []) →
          Sql.truth record known conditions plan.toSql.params ≠ some true) := by
  have htruth := truth_clause_iff plan record known
  refine ⟨plan.constraints.map condition, whereClause_eq_iff plan, htruth, ?_⟩
  intro c hc hmissing
  -- the condition of the constraint that lacks its value cannot be true
  refine ⟨admits_eq_false_of_lookup? hc hmissing, ?_⟩
  intro hlist htrue
  rcases htruth.mp htrue c hc with ⟨f, hf⟩ | ⟨-, hvalue, -⟩
  · exact hlist f hf
  · rw [hmissing] at hvalue
    cases hvalue

/-- A list with values and one without, both negated, on a record without their fields. -/
theorem null_fails_negated :
    ∃ conditions, Sql.whereClause conditions =
        (QueryPlan.mk [.notIn "tag" [], .notIn "name" ["a"]]).toSql.clause ∧
      (QueryPlan.mk [.notIn "tag" [], .notIn "name" ["a"]]).admits (Json.ofFields []) = false ∧
      Sql.truth (Json.ofFields []) (fun _ _ => some true) conditions ["a"] ≠ some true := by
  obtain ⟨conditions, hreading, -, hmissing⟩ :=
    null_fails ⟨[.notIn "tag" [], .notIn "name" ["a"]]⟩ (Json.ofFields []) fun _ _ => some true
  obtain ⟨hfails, hclause⟩ := hmissing (.notIn "name" ["a"]) (by decide) rfl
  exact ⟨conditions, (hreading conditions).mpr rfl, hfails, hclause fun f hf => by cases hf⟩

/-- A negated list without values is true of a record that has not its field. -/
theorem null_taken_by_empty_list :
    lookup? (Json.ofFields []) "tag" = none ∧
      (QueryPlan.mk [.notIn "tag" []]).toSql.clause = "WHERE 1 = 1" ∧
      Sql.whereClause [.literal true] = "WHERE 1 = 1" ∧
      Sql.truth (Json.ofFields []) (fun _ _ => none) [.literal true] [] = some true ∧
      (QueryPlan.mk [.notIn "tag" []]).admits (Json.ofFields []) = false := by
  decide

end QueryPlan

end RecordFilter
