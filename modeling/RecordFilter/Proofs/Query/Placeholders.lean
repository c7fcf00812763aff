import RecordFilter.Proofs.Query.Clause

/-!
# Placeholders and their operands

The placeholders of a clause are its question marks outside quoted identifiers. Each condition has as many of
them as its constraint has operands, and closes the identifiers that it opens, whatever its field is. So the
placeholders of a clause and the operands of its plan stand in one order.

* `Sql.places` are the places of the placeholders.
* `Sql.Carries` says that a text closes its identifiers and has so many placeholders; it is closed under
  putting texts together.
* `Constraint.carries_sqlCondition`: a condition carries its operands.
* `QueryPlan.params_line_up` says what a clause depends on, and which operand belongs to which placeholder.
-/

namespace RecordFilter

namespace Sql

/-! ## Places -/

/-- Whether an identifier is open after a character. A quote written twice closes it and opens it again. -/
def quotedAfter (quoted : Bool) (c : Char) : Bool :=
  if c = '"' then !quoted else quoted

/-- The places of the question marks that no open identifier holds. -/
def placesFrom (quoted : Bool) : List Char → List Nat
  | [] => []
  | c :: rest =>
    let later := (placesFrom (quotedAfter quoted c) rest).map (· + 1)
    if c = '?' ∧ quoted = false then 0 :: later else later

/-- The places of the placeholders in a clause. -/
def places (clause : String) : List Nat :=
  placesFrom false clause.toList

theorem placesFrom_append (quoted : Bool) (s t : List Char) :
    placesFrom quoted (s ++ t) = placesFrom quoted s ++
      (placesFrom (s.foldl quotedAfter quoted) t).map (· + s.length) := by
  induction s generalizing quoted with
  | nil => simp [placesFrom]
  | cons c s ih =>
    rw [List.cons_append, placesFrom, ih, List.map_append, List.map_map, placesFrom, List.foldl_cons]
    split
    · simp [Function.comp_def, Nat.add_assoc]
    · simp [Function.comp_def, Nat.add_assoc]

/-- At the places, and nowhere else, there is a question mark with no open identifier before it. -/
theorem mem_placesFrom_iff (quoted : Bool) (s : List Char) (place : Nat) :
    place ∈ placesFrom quoted s ↔
      s[place]? = some '?' ∧ (s.take place).foldl quotedAfter quoted = false := by
  induction s generalizing quoted place with
  | nil => simp [placesFrom]
  | cons c s ih =>
    have hlater : place ∈ (placesFrom (quotedAfter quoted c) s).map (· + 1) ↔
        ∃ place', place = place' + 1 ∧ s[place']? = some '?' ∧
          (s.take place').foldl quotedAfter (quotedAfter quoted c) = false := by
      simp only [List.mem_map, ih]
      exact ⟨fun ⟨p, hp, heq⟩ => ⟨p, heq.symm, hp⟩, fun ⟨p, heq, hp⟩ => ⟨p, hp, heq.symm⟩⟩
    rw [placesFrom]
    cases place with
    | zero => split <;> simp_all
    | succ place => split <;> simp_all

theorem mem_places_iff (clause : String) (place : Nat) :
    place ∈ places clause ↔ clause.toList[place]? = some '?' ∧
      (clause.toList.take place).foldl quotedAfter false = false :=
  mem_placesFrom_iff false clause.toList place

/-! ## Closed texts -/

/-- A text closes the identifiers that it opens, and has so many placeholders. -/
structure Carries (s : List Char) (count : Nat) : Prop where
  closed : s.foldl quotedAfter false = false
  length_places : (placesFrom false s).length = count

theorem Carries.places_append {s : List Char} {count : Nat} (h : Carries s count) (t : List Char) :
    placesFrom false (s ++ t) = placesFrom false s ++ (placesFrom false t).map (· + s.length) := by
  rw [placesFrom_append, h.closed]

theorem Carries.append {s t : List Char} {n m : Nat} (hs : Carries s n) (ht : Carries t m) :
    Carries (s ++ t) (n + m) where
  closed := by rw [List.foldl_append, hs.closed, ht.closed]
  length_places := by
    rw [hs.places_append, List.length_append, List.length_map, hs.length_places, ht.length_places]

theorem carries_nil : Carries [] 0 := ⟨rfl, rfl⟩

theorem carries_and : Carries " AND ".toList 0 := ⟨by decide, by decide⟩

/-- Texts one after the other carry what each of them carries. -/
theorem Carries.flatMap {α β : Type} {text : α → List Char} {carried : α → List β}
    (h : ∀ a, Carries (text a) (carried a).length) (l : List α) :
    Carries (l.flatMap text) (l.flatMap carried).length := by
  induction l with
  | nil => exact carries_nil
  | cons a l ih =>
    rw [List.flatMap_cons, List.flatMap_cons, List.length_append]
    exact (h a).append ih

/-- Inside an identifier a character of a field leaves it open, and there is no placeholder. -/
theorem inColumn_quoted (c : Char) :
    (inColumn c).foldl quotedAfter true = true ∧ placesFrom true (inColumn c) = [] := by
  unfold inColumn
  split_ifs with hpoint hquote
  · decide
  · decide
  · simp [quotedAfter, placesFrom, hquote]

theorem flatMap_inColumn_quoted (s : List Char) :
    (s.flatMap inColumn).foldl quotedAfter true = true ∧
      placesFrom true (s.flatMap inColumn) = [] := by
  induction s with
  | nil => exact ⟨rfl, rfl⟩
  | cons c s ih =>
    obtain ⟨hopen, hnone⟩ := inColumn_quoted c
    rw [List.flatMap_cons, List.foldl_append, placesFrom_append, hopen, hnone, ih.1, ih.2]
    exact ⟨rfl, rfl⟩

/-- A column holds no placeholder, whatever the field is. -/
theorem carries_column (field : String) : Carries (column field).toList 0 := by
  obtain ⟨hopen, hnone⟩ := flatMap_inColumn_quoted field.toList
  rw [toList_column]
  constructor
  · have hfirst : quotedAfter false '"' = true := rfl
    rw [List.foldl_cons, List.foldl_append, hfirst, hopen]
    rfl
  · have hfirst (s : List Char) : placesFrom false ('"' :: s) = (placesFrom true s).map (· + 1) := rfl
    rw [hfirst, placesFrom_append, hopen, hnone]
    rfl

theorem carries_otherPlaceholders (operands : List String) :
    Carries (otherPlaceholders operands) operands.tail.length := by
  have hword (operand : String) : Carries ", ?".toList [operand].length := ⟨by decide, rfl⟩
  have hend : Carries [')'] 0 := ⟨rfl, rfl⟩
  have hall := (Carries.flatMap hword operands.tail).append hend
  rwa [List.flatMap_singleton', Nat.add_zero] at hall

end Sql

/-! ## Conditions -/

theorem ConstraintKind.carries_phrase : ∀ k ∈ all,
    Sql.Carries k.phrase.toList (if k.shape = .pair then 2 else 1) := by
  have hcheck : ∀ k ∈ all, k.phrase.toList.foldl Sql.quotedAfter false = false ∧
      (Sql.placesFrom false k.phrase.toList).length = if k.shape = .pair then 2 else 1 := by
    decide
  exact fun k hk => ⟨(hcheck k hk).1, (hcheck k hk).2⟩

namespace Constraint

/-- A condition closes its identifiers, and has a placeholder for each operand of its constraint. -/
theorem carries_sqlCondition (c : Constraint) : Sql.Carries c.sqlCondition.toList c.operands.length := by
  -- without operands the condition is one of two fixed texts, else a column, a phrase and an ending
  by_cases hnil : c.operands = []
  · rw [(toList_sqlCondition_nil hnil).2, hnil]
    split
    · exact ⟨by decide, by decide⟩
    · exact ⟨by decide, by decide⟩
  · have hphrase := c.kind.carries_phrase c.kind.mem_all
    have hcondition := (Sql.carries_column c.field).append hphrase
    rw [Nat.zero_add] at hcondition
    rw [toList_sqlCondition hnil, ending, ← List.append_assoc]
    by_cases hlist : c.kind.shape = .list
    · have hpair : c.kind.shape ≠ .pair := by simp [hlist]
      have hcount : 1 + c.operands.tail.length = c.operands.length := by
        have hpos := List.length_pos_of_ne_nil hnil
        rw [List.length_tail]
        omega
      have hall := hcondition.append (Sql.carries_otherPlaceholders c.operands)
      rw [if_neg hpair, hcount] at hall
      rwa [if_pos hlist]
    · rwa [if_neg hlist, List.append_nil, length_operands hlist]

end Constraint

/-! ## Plans -/

namespace QueryPlan

open Constraint (operands)

/-- What a clause has before the condition that follows these constraints. -/
def lead (before : List Constraint) : List Char :=
  "WHERE ".toList ++ before.flatMap fun d => d.sqlCondition.toList ++ " AND ".toList

/-- What a clause has after the condition that these constraints follow. -/
def trail (after : List Constraint) : List Char :=
  after.flatMap fun d => " AND ".toList ++ d.sqlCondition.toList

theorem lead_eq (before : List Constraint) : lead before =
    "WHERE ".toList ++ before.flatMap fun d => d.sqlCondition.toList ++ " AND ".toList := rfl

theorem carries_lead (before : List Constraint) :
    Sql.Carries (lead before) (before.flatMap operands).length := by
  have hstart : Sql.Carries "WHERE ".toList 0 := ⟨by decide, by decide⟩
  have hword (d : Constraint) :
      Sql.Carries (d.sqlCondition.toList ++ " AND ".toList) d.operands.length :=
    d.carries_sqlCondition.append Sql.carries_and
  have hall := hstart.append (Sql.Carries.flatMap hword before)
  rwa [Nat.zero_add] at hall

theorem carries_trail (after : List Constraint) :
    Sql.Carries (trail after) (after.flatMap operands).length := by
  have hword (d : Constraint) :
      Sql.Carries (" AND ".toList ++ d.sqlCondition.toList) d.operands.length := by
    have hall := Sql.carries_and.append d.carries_sqlCondition
    rwa [Nat.zero_add] at hall
  exact Sql.Carries.flatMap hword after

/-- A clause is what leads to a condition, the condition, and what trails it. -/
theorem toList_clause {plan : QueryPlan} {before after : List Constraint} {c : Constraint}
    (h : plan.constraints = before ++ c :: after) :
    plan.toSql.clause.toList = lead before ++ (c.sqlCondition.toList ++ trail after) := by
  have hne : plan.isEmpty = false := by
    rw [isEmpty, h, List.isEmpty_eq_false_iff]
    exact List.append_ne_nil_of_right_ne_nil _ (List.cons_ne_nil _ _)
  rw [toSql, hne, if_neg Bool.false_ne_true, String.toList_append, h, List.map_append, List.map_cons,
    toList_joinWith_append_cons, List.flatMap_map, List.flatMap_map, lead_eq, trail,
    List.append_assoc]

/-- There are as many placeholders as operands. -/
theorem length_places (plan : QueryPlan) :
    (Sql.places plan.toSql.clause).length = plan.toSql.params.length := by
  obtain ⟨cs⟩ := plan
  cases cs with
  | nil => rfl
  | cons c cs =>
    have hsplit : (QueryPlan.mk (c :: cs)).constraints = [] ++ c :: cs := rfl
    have hclause := toList_clause hsplit
    have hall := (carries_lead []).append (c.carries_sqlCondition.append (carries_trail cs))
    rw [← hclause] at hall
    rw [Sql.places, hall.length_places, toSql, List.flatMap_cons, List.length_append, List.flatMap_nil,
      List.length_nil, Nat.zero_add]

/-- The placeholders of a condition stand in the clause where the operands of its constraint stand among the
operands of the plan. -/
theorem getElem?_places {plan : QueryPlan} {before after : List Constraint} {c : Constraint}
    (h : plan.constraints = before ++ c :: after) {j : Nat} (hj : j < c.operands.length) :
    (Sql.places plan.toSql.clause)[(before.flatMap operands).length + j]? =
      ((Sql.places c.sqlCondition)[j]?).map (· + (lead before).length) := by
  have hcondition := c.carries_sqlCondition
  have hlead := carries_lead before
  rw [Sql.places, toList_clause h, hlead.places_append, hcondition.places_append,
    List.getElem?_append_right (by rw [hlead.length_places]; omega), hlead.length_places,
    Nat.add_sub_cancel_left, List.getElem?_map,
    List.getElem?_append_left (by rwa [hcondition.length_places]), Sql.places]

theorem getElem?_params {plan : QueryPlan} {before after : List Constraint} {c : Constraint}
    (h : plan.constraints = before ++ c :: after) {j : Nat} (hj : j < c.operands.length) :
    plan.toSql.params[(before.flatMap operands).length + j]? = c.operands[j]? := by
  rw [toSql, h, List.flatMap_append, List.flatMap_cons,
    List.getElem?_append_right (Nat.le_add_right _ _), Nat.add_sub_cancel_left,
    List.getElem?_append_left hj]

/-- A clause depends on the kinds, comparisons, fields and numbers of operands of its plan, and on no operand.
It has as many placeholders as there are operands, which are those of the constraints one after the other, and
a placeholder inside a condition is bound to the operand of its constraint. -/
theorem params_line_up (plan : QueryPlan) :
    (∀ plan' : QueryPlan, plan.toSql.clause = plan'.toSql.clause ↔
      List.Forall₂ Constraint.SameForm plan.constraints plan'.constraints) ∧
    (Sql.places plan.toSql.clause).length = plan.toSql.params.length ∧
    plan.toSql.params = plan.constraints.flatMap operands ∧
    ∀ before c after, plan.constraints = before ++ c :: after →
      plan.toSql.clause.toList = lead before ++ (c.sqlCondition.toList ++ trail after) ∧
      ∀ j operand, c.operands[j]? = some operand →
        plan.toSql.params[(before.flatMap operands).length + j]? = some operand ∧
        ∃ place < c.sqlCondition.toList.length,
          (Sql.places plan.toSql.clause)[(before.flatMap operands).length + j]? =
            some (place + (lead before).length) := by
  refine ⟨fun plan' => ⟨forall₂_sameForm, clause_eq_of_sameForm⟩, length_places plan, rfl, ?_⟩
  intro before c after h
  refine ⟨toList_clause h, ?_⟩
  intro j operand hoperand
  have hj : j < c.operands.length := (List.getElem?_eq_some_iff.mp hoperand).1
  refine ⟨(getElem?_params h hj).trans hoperand, ?_⟩
  -- the condition has a placeholder for each operand, so there is one for this operand too
  obtain ⟨place, hplace⟩ : ∃ place, (Sql.places c.sqlCondition)[j]? = some place := by
    have hcount : (Sql.places c.sqlCondition).length = c.operands.length :=
      c.carries_sqlCondition.length_places
    exact ⟨_, List.getElem?_eq_getElem (hcount ▸ hj)⟩
  refine ⟨place, ?_, ?_⟩
  · -- at the place there is a question mark of the condition
    have hmark := ((Sql.mem_places_iff _ _).mp (List.mem_of_getElem? hplace)).1
    exact (List.getElem?_eq_some_iff.mp hmark).1
  · rw [getElem?_places h hj, hplace, Option.map_some]

/-- A plan with a list without values, and with a question mark and a quote in a field. -/
def oddFieldPlan : QueryPlan :=
  ⟨[.isIn "tag" [], .between "a?\"b" "1" "9", .compare "id" .eq "?"]⟩

/-- The second placeholder of the odd plan is in its range, and bound to the upper end of it. -/
theorem params_line_up_odd_field :
    (Sql.places oddFieldPlan.toSql.clause).length = oddFieldPlan.toSql.params.length ∧
      oddFieldPlan.toSql.params[1]? = some "9" ∧
      ∃ place < (Constraint.between "a?\"b" "1" "9").sqlCondition.toList.length,
        (Sql.places oddFieldPlan.toSql.clause)[1]? =
          some (place + (lead [.isIn "tag" []]).length) := by
  obtain ⟨-, hcount, -, hbound⟩ := params_line_up oddFieldPlan
  obtain ⟨-, hrange⟩ := hbound [.isIn "tag" []] (.between "a?\"b" "1" "9") [.compare "id" .eq "?"] rfl
  exact ⟨hcount, hrange 1 "9" rfl⟩

end QueryPlan

end RecordFilter
