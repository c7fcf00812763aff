import Mathlib.Data.List.Induction
import RecordFilter.Filter.Resolution

/-!
# Registering operators

Operators are registered one after the other, and each one goes to its place among those before it: after all
of its level and of lower levels. Which operator resolves an expression can be told without this order. All this
holds of operators of any type; nothing is asked of how they extract expressions.

* `Registry.insert_perm`, `Registry.sorted_insert`, `Registry.find?_insert_eq_some_iff` and
  `Registry.insert_comm` are about one registration.
* `Registry.IsPick` is the choice among registered operators by level and by place of registration.
* `Registry.find?_ofList_eq_some_iff`: the first operator of a registry that passes a test is the pick.
* `Registry.ofList_move`: operators of different levels can be registered in any order.
* `Registry.resolve?_ofList_picks`: what a registry resolves an expression to.
-/

namespace RecordFilter.Registry

open FilterSyntax (level extract?)

variable {ω : Type} [FilterSyntax ω]

/-- No operator is tried before one of a lower level. -/
def Sorted (ops : List ω) : Prop :=
  ops.Pairwise fun op other => level op ≤ level other

/-! ## One more operator -/

section

variable {new : ω} {ops : List ω}

theorem insert_perm (new : ω) (ops : List ω) :
    (insert new ops).Perm (new :: ops) := by
  induction ops with
  | nil => exact List.Perm.refl _
  | cons op ops ih =>
    rw [insert]
    split
    · exact List.Perm.refl _
    · exact (ih.cons op).trans (List.Perm.swap new op ops)

/-- What is lower than the first operator is lower than all. -/
theorem Sorted.lt_of_lt_head {op : ω} (h : Sorted (op :: ops)) (hlt : level new < level op) :
    ∀ other ∈ op :: ops, level new < level other := by
  intro other hother
  rcases List.mem_cons.mp hother with rfl | hother
  · exact hlt
  · exact Nat.lt_of_lt_of_le hlt (List.rel_of_pairwise_cons h hother)

theorem sorted_insert (h : Sorted ops) : Sorted (insert new ops) := by
  induction ops with
  | nil => exact List.pairwise_singleton _ _
  -- along the list, at each place either the new operator goes here or further on
  | cons op ops ih =>
    obtain ⟨hop, hops⟩ := List.pairwise_cons.mp h
    rw [insert]
    split
    · rename_i hlt
      refine List.pairwise_cons.mpr ⟨?_, h⟩
      intro other hother
      exact Nat.le_of_lt (h.lt_of_lt_head hlt other hother)
    · rename_i hle
      refine List.pairwise_cons.mpr ⟨?_, ih hops⟩
      intro other hother
      rcases List.mem_cons.mp ((insert_perm new ops).mem_iff.mp hother) with rfl | hother
      · exact Nat.le_of_not_lt hle
      · exact hop other hother

/-- An operator that is lower than all others is found before them. -/
theorem find?_cons_eq_some_iff_of_lt {test : ω → Bool}
    (h : ∀ other ∈ ops, level new < level other) {found : ω} :
    (new :: ops).find? test = some found ↔
      (ops.find? test = some found ∧ (test new = true → level found ≤ level new)) ∨
      (found = new ∧ test new = true ∧
        ∀ other ∈ ops, test other = true → level new < level other) := by
  -- the new operator comes first, so all depends on whether it passes itself
  by_cases hnew : test new = true
  · rw [List.find?_cons_of_pos hnew]
    constructor
    · intro hfound
      exact Or.inr ⟨(Option.some.inj hfound).symm, hnew, fun other hother _ => h other hother⟩
    · rintro (⟨hfound, hle⟩ | ⟨rfl, -, -⟩)
      · have hlater := h found (List.mem_of_find?_eq_some hfound)
        exact absurd (hle hnew) (Nat.not_le_of_lt hlater)
      · rfl
  · rw [List.find?_cons_of_neg hnew]
    constructor
    · intro hfound
      exact Or.inl ⟨hfound, fun htest => absurd htest hnew⟩
    · rintro (⟨hfound, -⟩ | ⟨-, htest, -⟩)
      · exact hfound
      · exact absurd htest hnew

/-- The new operator is found if its level is lower than those of all others that could be. Otherwise the one
that was found before is found. -/
theorem find?_insert_eq_some_iff {test : ω → Bool} (h : Sorted ops) {found : ω} :
    (insert new ops).find? test = some found ↔
      (ops.find? test = some found ∧ (test new = true → level found ≤ level new)) ∨
      (found = new ∧ test new = true ∧
        ∀ other ∈ ops, test other = true → level new < level other) := by
  -- the insertion walks over the operators whose level is not higher, and so does this induction
  induction ops with
  | nil => exact find?_cons_eq_some_iff_of_lt (List.forall_mem_nil _)
  | cons op ops ih =>
    rw [insert]
    split
    · rename_i hlt
      exact find?_cons_eq_some_iff_of_lt (h.lt_of_lt_head hlt)
    · rename_i hle
      by_cases htest : test op = true
      · -- it was found before and is not higher than the new one
        rw [List.find?_cons_of_pos htest, List.find?_cons_of_pos htest]
        constructor
        · intro hfound
          obtain rfl := Option.some.inj hfound
          exact Or.inl ⟨rfl, fun _ => Nat.le_of_not_lt hle⟩
        · rintro (⟨hfound, -⟩ | ⟨-, -, hlower⟩)
          · exact hfound
          · exact absurd (hlower op List.mem_cons_self htest) hle
      · have hlower : (∀ other ∈ op :: ops, test other = true → level new < level other) ↔
            ∀ other ∈ ops, test other = true → level new < level other :=
          List.forall_mem_cons.trans (and_iff_right fun h => absurd h htest)
        rw [List.find?_cons_of_neg htest, List.find?_cons_of_neg htest, ih (List.Pairwise.of_cons h), hlower]

/-- Of two operators with different levels, either may be registered first. -/
theorem insert_comm {a b : ω} (h : level a ≠ level b) (ops : List ω) :
    insert a (insert b ops) = insert b (insert a ops) := by
  -- by the operator at the head, each of the two goes before or after it
  induction ops with
  | nil =>
    rcases Nat.lt_or_gt_of_ne h with hab | hba
    · simp only [insert, hab, Nat.lt_asymm hab, if_true, if_false]
    · simp only [insert, hba, Nat.lt_asymm hba, if_true, if_false]
  | cons op ops ih =>
    by_cases ha : level a < level op
    · by_cases hb : level b < level op
      · rcases Nat.lt_or_gt_of_ne h with hab | hba
        · simp only [insert, ha, hb, hab, Nat.lt_asymm hab, if_true, if_false]
        · simp only [insert, ha, hb, hba, Nat.lt_asymm hba, if_true, if_false]
      · have hba : ¬level b < level a := by omega
        simp only [insert, ha, hb, hba, if_true, if_false]
    · by_cases hb : level b < level op
      · have hab : ¬level a < level b := by omega
        simp only [insert, ha, hb, hab, if_true, if_false]
      · simp only [insert, ha, hb, if_false, ih]

end

/-! ## All operators -/

theorem operators_ofList_append (ops others : List ω) :
    (ofList (ops ++ others)).operators =
      others.foldl (fun sorted op => insert op sorted) (ofList ops).operators :=
  List.foldl_append

theorem operators_ofList_perm (ops : List ω) : (ofList ops).operators.Perm ops := by
  induction ops using List.reverseRecOn with
  | nil => exact List.Perm.refl _
  | append_singleton ops new ih =>
    rw [operators_ofList_append]
    exact ((insert_perm new _).trans (ih.cons new)).trans (List.perm_append_singleton new ops).symm

theorem sorted_ofList (ops : List ω) : Sorted (ofList ops).operators := by
  induction ops using List.reverseRecOn with
  | nil => exact List.Pairwise.nil
  | append_singleton ops new ih =>
    rw [operators_ofList_append]
    exact sorted_insert ih

/-- Of the operators that pass a test, this one has the lowest level, and of those of its level it was
registered first. -/
def IsPick (test : ω → Bool) (ops : List ω) (op : ω) : Prop :=
  ∃ before after, ops = before ++ op :: after ∧ test op = true ∧
    (∀ other ∈ before, test other = true → level op < level other) ∧
    ∀ other ∈ after, test other = true → level op ≤ level other

/-- The pick changes with one more operator if this one is lower than all others that pass. -/
theorem isPick_append_singleton_iff {test : ω → Bool} {ops : List ω}
    {new op : ω} :
    IsPick test (ops ++ [new]) op ↔
      (IsPick test ops op ∧ (test new = true → level op ≤ level new)) ∨
      (op = new ∧ test new = true ∧ ∀ other ∈ ops, test other = true → level new < level other) := by
  -- the question is whether the pick is the last of the longer list or stands before it
  constructor
  · rintro ⟨before, after, heq, htest, hbefore, hafter⟩
    rcases List.eq_nil_or_concat after with rfl | ⟨after, last, rfl⟩
    · -- nothing is after the pick, so it is the new one
      obtain ⟨rfl, hnew⟩ := List.append_inj' heq rfl
      obtain rfl := List.singleton_inj.mp hnew
      exact Or.inr ⟨rfl, htest, hbefore⟩
    · rw [List.concat_eq_append] at heq hafter
      rw [← List.cons_append, ← List.append_assoc] at heq
      obtain ⟨rfl, hnew⟩ := List.append_inj' heq rfl
      obtain rfl := List.singleton_inj.mp hnew
      refine Or.inl ⟨⟨before, after, rfl, htest, hbefore, ?_⟩, hafter new (by simp)⟩
      intro other hother
      exact hafter other (List.mem_append_left _ hother)
  · rintro (⟨⟨before, after, rfl, htest, hbefore, hafter⟩, hnew⟩ | ⟨rfl, htest, hops⟩)
    · refine ⟨before, after ++ [new], by simp, htest, hbefore, ?_⟩
      intro other hother
      rcases List.mem_append.mp hother with hother | hother
      · exact hafter other hother
      · obtain rfl := List.mem_singleton.mp hother
        exact hnew
    · exact ⟨ops, [], rfl, htest, hops, by simp⟩

/-- The first operator of a registry that passes a test is the pick of the registered ones. -/
theorem find?_ofList_eq_some_iff {test : ω → Bool} {ops : List ω} {op : ω} :
    (ofList ops).operators.find? test = some op ↔ IsPick test ops op := by
  induction ops using List.reverseRecOn with
  | nil =>
    constructor
    · intro h
      cases h
    · rintro ⟨before, after, h, -⟩
      simp at h
  | append_singleton ops new ih =>
    -- one registration changes the one as it changes the other
    have hmem : ∀ other, other ∈ (ofList ops).operators ↔ other ∈ ops :=
      fun other => (operators_ofList_perm ops).mem_iff
    rw [operators_ofList_append, List.foldl_cons, List.foldl_nil,
      find?_insert_eq_some_iff (sorted_ofList ops), ih, isPick_append_singleton_iff]
    simp only [hmem]

theorem foldl_insert_comm {op : ω} {others : List ω}
    (h : ∀ other ∈ others, level op ≠ level other) (ops : List ω) :
    others.foldl (fun sorted op => insert op sorted) (insert op ops) =
      insert op (others.foldl (fun sorted op => insert op sorted) ops) := by
  induction others generalizing ops with
  | nil => rfl
  | cons other others ih =>
    obtain ⟨hother, hothers⟩ := List.forall_mem_cons.mp h
    rw [List.foldl_cons, List.foldl_cons, insert_comm hother.symm, ih hothers]

/-- An operator may be registered before or after operators of other levels. -/
theorem ofList_move {op : ω} {others : List ω}
    (h : ∀ other ∈ others, level op ≠ level other) (before after : List ω) :
    ofList (before ++ op :: (others ++ after)) = ofList (before ++ (others ++ op :: after)) := by
  have hoperators : (ofList (before ++ op :: (others ++ after))).operators =
      (ofList (before ++ (others ++ op :: after))).operators := by
    rw [operators_ofList_append, operators_ofList_append, List.foldl_cons, List.foldl_append,
      List.foldl_append, List.foldl_cons, foldl_insert_comm h]
  exact congrArg Registry.mk hoperators

/-! ## Resolving -/

/-- A registry resolves an expression by its first operator that extracts anything. -/
theorem resolve?_eq_bind_find? (r : Registry ω) (token : String) :
    r.resolve? token = (r.operators.find? fun op => (extract? op token).isSome).bind fun op =>
      (extract? op token).map fun (field, value) => ⟨field, value, op⟩ := by
  rw [resolve?]
  induction r.operators with
  | nil => rfl
  | cons op ops ih =>
    cases hop : extract? op token with
    | none =>
      rw [List.findSome?_cons, hop, List.find?_cons_of_neg (by simp [hop])]
      exact ih
    | some extracted =>
      rw [List.findSome?_cons, hop, List.find?_cons_of_pos (by simp [hop]), Option.bind_some, hop]
      rfl

theorem resolve?_eq_some_iff_find? {r : Registry ω} {token : String} {f : Filter ω} :
    r.resolve? token = some f ↔
      r.operators.find? (fun op => (extract? op token).isSome) = some f.operator ∧
        extract? f.operator token = some (f.field, f.value) := by
  rw [resolve?_eq_bind_find?, Option.bind_eq_some_iff]
  constructor
  · rintro ⟨op, hfind, hfilter⟩
    obtain ⟨⟨field, value⟩, hextract, rfl⟩ := Option.map_eq_some_iff.mp hfilter
    exact ⟨hfind, hextract⟩
  · rintro ⟨hfind, hextract⟩
    exact ⟨f.operator, hfind, by rw [hextract]; rfl⟩

theorem resolve?_eq_none_iff {r : Registry ω} {token : String} :
    r.resolve? token = none ↔ ∀ op ∈ r.operators, extract? op token = none := by
  simp only [resolve?, List.findSome?_eq_none_iff, Option.map_eq_none_iff]

/-- An expression is not recognized if no registered operator extracts it. Otherwise it is resolved by the one of
the lowest level that does, the first registered of these. So the order of registration of operators with
different levels does not matter. -/
theorem resolve?_ofList_picks (token : String) :
    (∀ ops : List ω,
      ((ofList ops).resolve? token = none ↔ ∀ op ∈ ops, extract? op token = none) ∧
      ∀ f : Filter ω, (ofList ops).resolve? token = some f ↔
        IsPick (fun op => (extract? op token).isSome) ops f.operator ∧
          extract? f.operator token = some (f.field, f.value)) ∧
    ∀ (op : ω) (before others after : List ω),
      (∀ other ∈ others, level op ≠ level other) →
        (ofList (before ++ op :: (others ++ after))).resolve? token =
          (ofList (before ++ (others ++ op :: after))).resolve? token := by
  refine ⟨fun ops => ⟨?_, fun f => ?_⟩, ?_⟩
  · simp only [resolve?_eq_none_iff, (operators_ofList_perm ops).mem_iff]
  · rw [resolve?_eq_some_iff_find?, find?_ofList_eq_some_iff]
  · intro op before others after hlevels
    rw [ofList_move hlevels before after]

/-- Three operators extract the expression. Two have the lower level, and one of these was registered first. -/
theorem resolve?_ofList_picks_tied :
    let loose := { Operator.gt with name := "loose", level := 11 }
    let first := { Operator.gte with name := "first", level := 5 }
    let second := { Operator.gt with name := "second", level := 5 }
    let found := Filter.mk "a" (.scalar "1") first
    (∀ other ∈ [first, second], loose.level ≠ other.level) ∧
      (ofList [loose, first, second]).resolve? "a>=1" = some found ∧
      (ofList [first, second, loose]).resolve? "a>=1" = some found := by
  intro loose first second found
  obtain ⟨hpicks, hmove⟩ := @resolve?_ofList_picks Operator _ "a>=1"
  have hlevels : ∀ other ∈ [first, second], loose.level ≠ other.level := by decide
  have hfound : (ofList [loose, first, second]).resolve? "a>=1" = some found := by
    -- the pick is the first of level five, with one higher operator before it and one equal after
    refine ((hpicks _).2 found).mpr ⟨⟨[loose], [second], rfl, ?_, ?_, ?_⟩, ?_⟩
    · decide +kernel
    · decide +kernel
    · decide +kernel
    · decide +kernel
  exact ⟨hlevels, hfound, (hmove loose [] [first, second] [] hlevels).symm.trans hfound⟩

end RecordFilter.Registry
