import RecordFilter.Proofs.Filter.Compiling
import RecordFilter.Query.Sql

/-!
# What a clause tells

A clause is a sequence of words of a prefix code: no character of a field ends its column early, no phrase
is the start of another, and a list of placeholders ends at its bracket. So a clause and its operands tell
the plan, up to the fields of lists without values.

* `forall₂_of_flatMap_append` reads the words of a prefix code one after the other.
* `Sql.column_append_inj` reads a field off its column, whatever characters it has.
* `Constraint.sqlCondition_append_inj` reads the kind, the field and the number of operands off a condition.
* `QueryPlan.toSql_eq_iff` says which plans have one clause and the same operands.
-/

namespace RecordFilter

/-- Words of a prefix code are read one after the other, up to something that no word starts. -/
theorem forall₂_of_flatMap_append {α β : Type} {word : α → List β} {R : α → α → Prop}
    (Ends : List β → Prop)
    (hword : ∀ a b s s', word a ++ s = word b ++ s' → R a b ∧ s = s')
    (hends : ∀ a s, ¬Ends (word a ++ s)) {l l' : List α} {s s' : List β} (hs : Ends s)
    (hs' : Ends s') (h : l.flatMap word ++ s = l'.flatMap word ++ s') :
    List.Forall₂ R l l' ∧ s = s' := by
  induction l generalizing l' with
  | nil =>
    cases l' with
    | nil => exact ⟨.nil, h⟩
    | cons b l' =>
      -- the end of one would start with a word of the other
      rw [List.flatMap_nil, List.nil_append, List.flatMap_cons, List.append_assoc] at h
      rw [h] at hs
      exact absurd hs (hends b _)
  | cons a l ih =>
    cases l' with
    | nil =>
      rw [List.flatMap_nil, List.nil_append, List.flatMap_cons, List.append_assoc] at h
      rw [← h] at hs'
      exact absurd hs' (hends a _)
    | cons b l' =>
      rw [List.flatMap_cons, List.flatMap_cons, List.append_assoc, List.append_assoc] at h
      obtain ⟨hab, hrest⟩ := hword a b _ _ h
      obtain ⟨hl, hss⟩ := ih hrest
      exact ⟨.cons hab hl, hss⟩

namespace Sql

/-! ## Columns -/

/-- A character of a field inside the quotes of its column. -/
def inColumn (c : Char) : List Char :=
  if c = '.' then ['"', '.', '"'] else if c = '"' then ['"', '"'] else [c]

theorem toList_quotePart {part : String} (h : '.' ∉ part.toList) :
    (quotePart part).toList = '"' :: (part.toList.flatMap inColumn ++ ['"']) := by
  have hsame : part.toList.flatMap (fun c => if c = '"' then ['"', '"'] else [c]) =
      part.toList.flatMap inColumn := by
    refine List.flatMap_congr fun c hc => ?_
    have hpoint : c ≠ '.' := fun heq => h (heq ▸ hc)
    rw [inColumn, if_neg hpoint]
  rw [quotePart, String.toList_ofList, hsame]

theorem toList_joinWith_quotePart {parts : List String} (hne : parts ≠ [])
    (h : ∀ part ∈ parts, '.' ∉ part.toList) :
    (joinWith "." (parts.map quotePart)).toList =
      '"' :: ((joinWith "." parts).toList.flatMap inColumn ++ ['"']) := by
  induction parts with
  | nil => exact absurd rfl hne
  | cons part parts ih =>
    have hpart := toList_quotePart (h part List.mem_cons_self)
    -- between two parts stands a dot, and the last part has none
    cases parts with
    | nil => simpa [joinWith] using hpart
    | cons next parts =>
      have hrest := ih (List.cons_ne_nil _ _) fun p hp => h p (List.mem_cons_of_mem _ hp)
      simp only [joinWith, List.map_cons, String.intercalate_cons_cons,
        String.toList_append] at hrest ⊢
      rw [hpart, hrest]
      simp [inColumn]

/-- A column is the field in quotes, character by character. -/
theorem toList_column (field : String) :
    (column field).toList = '"' :: (field.toList.flatMap inColumn ++ ['"']) := by
  have hfield : joinWith "." (pieces '.' field) = field := joinWith_pieces '.' field
  rw [column, toList_joinWith_quotePart (pieces_ne_nil '.' field)
    (fun _ => not_mem_of_mem_pieces), hfield]

theorem inColumn_append_inj (c d : Char) (s s' : List Char)
    (h : inColumn c ++ s = inColumn d ++ s') : c = d ∧ s = s' := by
  unfold inColumn at h
  split_ifs at h <;> grind

/-- The quote at the end of a column belongs to no character, since a blank follows. -/
theorem not_end_prefix_inColumn (c : Char) (s : List Char) : ¬['"', ' '] <+: inColumn c ++ s := by
  rintro ⟨rest, h⟩
  unfold inColumn at h
  split_ifs at h <;> grind

/-- A column is read up to the quote before a blank. -/
theorem column_append_inj {field field' : String} {s s' : List Char} (hs : [' '] <+: s)
    (hs' : [' '] <+: s') (h : (column field).toList ++ s = (column field').toList ++ s') :
    field = field' ∧ s = s' := by
  rw [toList_column, toList_column] at h
  simp only [List.cons_append, List.append_assoc, List.cons.injEq, true_and] at h
  obtain ⟨hchars, hrest⟩ := forall₂_of_flatMap_append (['"', ' '] <+: ·) inColumn_append_inj
    not_end_prefix_inColumn (List.prefix_append_right_inj ['"'] |>.mpr hs)
    (List.prefix_append_right_inj ['"'] |>.mpr hs') h
  rw [List.forall₂_eq_eq_eq] at hchars
  exact ⟨String.toList_inj.mp hchars, List.append_cancel_left hrest⟩

/-! ## Placeholders -/

/-- What a list of placeholders has after the first one. -/
def otherPlaceholders (operands : List String) : List Char :=
  operands.tail.flatMap (fun _ => ", ?".toList) ++ [')']

theorem toList_placeholders_cons (operand : String) (operands : List String) :
    (placeholders (operand :: operands)).toList =
      '?' :: operands.flatMap fun _ => ", ?".toList := by
  rw [placeholders, List.map_cons, toList_joinWith_cons, List.flatMap_map]
  rfl

/-- The placeholders depend on the number of operands alone. -/
theorem otherPlaceholders_eq {operands operands' : List String}
    (h : operands.length = operands'.length) :
    otherPlaceholders operands = otherPlaceholders operands' := by
  have htail : operands.tail.length = operands'.tail.length := by
    rw [List.length_tail, List.length_tail, h]
  rw [otherPlaceholders, otherPlaceholders, List.flatMap_def, List.flatMap_def, List.map_const',
    List.map_const', htail]

/-- Placeholders are counted up to the bracket. -/
theorem otherPlaceholders_append_inj {operands operands' : List String} {s s' : List Char}
    (h : otherPlaceholders operands ++ s = otherPlaceholders operands' ++ s') :
    operands.tail.length = operands'.tail.length ∧ s = s' := by
  rw [otherPlaceholders, otherPlaceholders, List.append_assoc, List.append_assoc] at h
  have hword (a b : String) (t t' : List Char) (h : ", ?".toList ++ t = ", ?".toList ++ t') :
      True ∧ t = t' := ⟨trivial, List.append_cancel_left h⟩
  have hends (a : String) (t : List Char) : ¬[')'] <+: ", ?".toList ++ t := by
    rintro ⟨rest, h⟩
    simp at h
  -- all words are the same, so that only their number is told
  obtain ⟨hcount, hrest⟩ := forall₂_of_flatMap_append ([')'] <+: ·) hword hends ⟨s, rfl⟩ ⟨s', rfl⟩ h
  exact ⟨hcount.length_eq, by simpa using hrest⟩

end Sql

/-! ## Conditions -/

/-- What follows the column of a condition, up to a first list of placeholders. -/
def ConstraintKind.phrase : ConstraintKind → String
  | compare comparison => " " ++ comparison.symbol ++ " ?"
  | isIn => " IN (?"
  | notIn => " NOT IN (?"
  | between => " BETWEEN ? AND ?"
  | notBetween => " NOT BETWEEN ? AND ?"
  | like => " LIKE ?"

/-- All kinds of constraints. -/
def ConstraintKind.all : List ConstraintKind :=
  [.compare .eq, .compare .ne, .compare .lt, .compare .le, .compare .gt, .compare .ge, .isIn, .notIn,
    .between, .notBetween, .like]

theorem ConstraintKind.mem_all (k : ConstraintKind) : k ∈ all := by
  cases k with
  | compare comparison => cases comparison <;> decide
  | _ => decide

theorem ConstraintKind.eq_of_prefix_phrase :
    ∀ k ∈ all, ∀ k' ∈ all, k.phrase.toList <+: k'.phrase.toList → k = k' := by
  decide

/-- No phrase is the start of another. -/
theorem ConstraintKind.phrase_append_inj {k k' : ConstraintKind} {s s' : List Char}
    (h : k.phrase.toList ++ s = k'.phrase.toList ++ s') : k = k' ∧ s = s' := by
  have hprefix : k.phrase.toList <+: k'.phrase.toList ++ s' := ⟨s, h⟩
  have hkind : k = k' := by
    rcases List.prefix_or_prefix_of_prefix hprefix (List.prefix_append _ s') with hle | hle
    · exact eq_of_prefix_phrase k k.mem_all k' k'.mem_all hle
    · exact (eq_of_prefix_phrase k' k'.mem_all k k.mem_all hle).symm
  subst hkind
  exact ⟨rfl, List.append_cancel_left h⟩

theorem ConstraintKind.blank_prefix_phrase (k : ConstraintKind) (s : List Char) :
    [' '] <+: k.phrase.toList ++ s := by
  cases k with
  | compare comparison => simp [phrase]
  | _ => simp [phrase]

namespace Constraint

/-- What follows the phrase of a condition. -/
def ending (c : Constraint) : List Char :=
  if c.kind.shape = .list then Sql.otherPlaceholders c.operands else []

/-- A condition with operands is a column, a phrase and what follows it. -/
theorem toList_sqlCondition {c : Constraint} (h : c.operands ≠ []) :
    c.sqlCondition.toList =
      (Sql.column c.field).toList ++ (c.kind.phrase.toList ++ c.ending) := by
  cases c with
  | isIn f values | notIn f values =>
    cases values with
    | nil => exact absurd rfl h
    | cons v values =>
      simp [sqlCondition, ending, kind, field, operands, ConstraintKind.phrase, ConstraintKind.shape,
        Sql.otherPlaceholders, Sql.toList_placeholders_cons]
  | _ =>
    simp [sqlCondition, ending, kind, field, ConstraintKind.phrase, ConstraintKind.shape]

/-- A condition without operands tells whether the list is to hold the field. -/
theorem toList_sqlCondition_nil {c : Constraint} (h : c.operands = []) :
    (c.kind = .isIn ∨ c.kind = .notIn) ∧
      c.sqlCondition.toList = "1 = ".toList ++ [if c.kind = .isIn then '0' else '1'] := by
  cases c with
  | isIn f values =>
    obtain rfl : values = [] := h
    exact ⟨Or.inl rfl, by simp [sqlCondition, kind]⟩
  | notIn f values =>
    obtain rfl : values = [] := h
    exact ⟨Or.inr rfl, by simp [sqlCondition, kind]⟩
  | _ => cases h

/-- The number of operands of a constraint without a list. -/
theorem length_operands {c : Constraint} (h : c.kind.shape ≠ .list) :
    c.operands.length = if c.kind.shape = .pair then 2 else 1 := by
  cases c with
  | isIn | notIn => exact absurd rfl h
  | _ => rfl

/-- Two constraints have conditions of the same form. -/
structure SameForm (c c' : Constraint) : Prop where
  kind : c.kind = c'.kind
  count : c.operands.length = c'.operands.length
  field : c.field = c'.field ∨ c.operands = []

theorem SameForm.operands_eq_nil_iff {c c' : Constraint} (h : c.SameForm c') :
    c.operands = [] ↔ c'.operands = [] := by
  rw [← List.length_eq_zero_iff, h.count, List.length_eq_zero_iff]

/-- Constraints of the same form have one condition, whatever their operands are. -/
theorem SameForm.sqlCondition_eq {c c' : Constraint} (h : c.SameForm c') :
    c.sqlCondition = c'.sqlCondition := by
  apply String.toList_inj.mp
  by_cases hc : c.operands = []
  · have hc' : c'.operands = [] := h.operands_eq_nil_iff.mp hc
    rw [(toList_sqlCondition_nil hc).2, (toList_sqlCondition_nil hc').2, h.kind]
  · have hc' : c'.operands ≠ [] := fun hc' => hc (h.operands_eq_nil_iff.mpr hc')
    rw [toList_sqlCondition hc, toList_sqlCondition hc', h.field.resolve_right hc, ending, ending,
      h.kind, Sql.otherPlaceholders_eq h.count]

/-- What follows equal phrases tells the number of operands. -/
theorem ending_append_inj {c c' : Constraint} {s s' : List Char} (hkind : c.kind = c'.kind)
    (hc : c.operands ≠ []) (hc' : c'.operands ≠ []) (h : c.ending ++ s = c'.ending ++ s') :
    c.operands.length = c'.operands.length ∧ s = s' := by
  unfold ending at h
  rw [← hkind] at h
  by_cases hlist : c.kind.shape = .list
  · rw [if_pos hlist, if_pos hlist] at h
    obtain ⟨htail, hrest⟩ := Sql.otherPlaceholders_append_inj h
    rw [List.length_tail, List.length_tail] at htail
    have hpos := List.length_pos_of_ne_nil hc
    have hpos' := List.length_pos_of_ne_nil hc'
    exact ⟨by omega, hrest⟩
  · rw [if_neg hlist, if_neg hlist] at h
    have hlist' : c'.kind.shape ≠ .list := hkind ▸ hlist
    exact ⟨by rw [length_operands hlist, length_operands hlist', hkind], h⟩

/-- The first character tells whether there are operands. -/
theorem head?_sqlCondition_append (c : Constraint) (s : List Char) :
    (c.sqlCondition.toList ++ s).head? = some (if c.operands = [] then '1' else '"') := by
  by_cases hc : c.operands = []
  · rw [if_pos hc, (toList_sqlCondition_nil hc).2]
    rfl
  · rw [if_neg hc, toList_sqlCondition hc, Sql.toList_column]
    rfl

theorem sqlCondition_append_inj_of_nil {c c' : Constraint} {s s' : List Char}
    (hc : c.operands = []) (hc' : c'.operands = [])
    (h : c.sqlCondition.toList ++ s = c'.sqlCondition.toList ++ s') : c.SameForm c' ∧ s = s' := by
  obtain ⟨hlist, htext⟩ := toList_sqlCondition_nil hc
  obtain ⟨hlist', htext'⟩ := toList_sqlCondition_nil hc'
  rw [htext, htext', List.append_assoc, List.append_assoc] at h
  obtain ⟨hdigit, hrest⟩ := List.cons.inj (List.append_cancel_left h)
  have hkind : c.kind = c'.kind := by
    rcases hlist with hk | hk <;> rcases hlist' with hk' | hk' <;> simp_all
  exact ⟨⟨hkind, by rw [hc, hc'], Or.inr hc⟩, hrest⟩

/-- A condition ends by itself, and tells all of its constraint but the operands. -/
theorem sqlCondition_append_inj {c c' : Constraint} {s s' : List Char}
    (h : c.sqlCondition.toList ++ s = c'.sqlCondition.toList ++ s') : c.SameForm c' ∧ s = s' := by
  -- a digit or a quote, and so both have operands or neither has
  have hnil : c.operands = [] ↔ c'.operands = [] := by
    have hhead := head?_sqlCondition_append c s
    rw [h, head?_sqlCondition_append] at hhead
    by_cases hc : c.operands = [] <;> by_cases hc' : c'.operands = [] <;> simp_all
  by_cases hc : c.operands = []
  · exact sqlCondition_append_inj_of_nil hc (hnil.mp hc) h
  · have hc' : c'.operands ≠ [] := fun hc' => hc (hnil.mpr hc')
    rw [toList_sqlCondition hc, toList_sqlCondition hc'] at h
    simp only [List.append_assoc] at h
    obtain ⟨hfield, hphrase⟩ := Sql.column_append_inj (c.kind.blank_prefix_phrase _)
      (c'.kind.blank_prefix_phrase _) h
    obtain ⟨hkind, hending⟩ := ConstraintKind.phrase_append_inj hphrase
    obtain ⟨hcount, hrest⟩ := ending_append_inj hkind hc hc' hending
    exact ⟨⟨hkind, hcount, Or.inl hfield⟩, hrest⟩

/-! ## Plans -/

/-- Two constraints agree: only where there are no values the fields may differ. -/
structure Agrees (c c' : Constraint) : Prop where
  kind : c.kind = c'.kind
  operands : c.operands = c'.operands
  field : c.field = c'.field ∨ c.operands = []

theorem Agrees.sameForm {c c' : Constraint} (h : c.Agrees c') : c.SameForm c' :=
  ⟨h.kind, congrArg List.length h.operands, h.field⟩

theorem map_eq_of_forall₂ {α : Type} {R : Constraint → Constraint → Prop} {f : Constraint → α}
    {cs cs' : List Constraint} (h : List.Forall₂ R cs cs') (hf : ∀ c c', R c c' → f c = f c') :
    cs.map f = cs'.map f := by
  induction h with
  | nil => rfl
  | cons hc _ ih => rw [List.map_cons, List.map_cons, hf _ _ hc, ih]

/-- The operands of constraints that have so many each are told by all operands in a row. -/
theorem forall₂_agrees {cs cs' : List Constraint} (h : List.Forall₂ SameForm cs cs')
    (hoperands : cs.flatMap operands = cs'.flatMap operands) : List.Forall₂ Agrees cs cs' := by
  induction h with
  | nil => exact .nil
  | cons hform _ ih =>
    rw [List.flatMap_cons, List.flatMap_cons] at hoperands
    obtain ⟨hhead, htail⟩ := List.append_inj hoperands hform.count
    exact .cons ⟨hform.kind, hhead, hform.field⟩ (ih htail)

end Constraint

namespace QueryPlan

open Constraint (Agrees SameForm)

theorem toList_clause_cons (c : Constraint) (cs : List Constraint) :
    (toSql ⟨c :: cs⟩).clause.toList = "WHERE ".toList ++ (c.sqlCondition.toList ++
      cs.flatMap fun d => " AND ".toList ++ d.sqlCondition.toList) := by
  rw [toSql, isEmpty, List.isEmpty_cons, if_neg Bool.false_ne_true, String.toList_append,
    List.map_cons, toList_joinWith_cons, List.flatMap_map]

/-- Equal clauses have conditions of the same forms. -/
theorem forall₂_sameForm {plan plan' : QueryPlan} (h : plan.toSql.clause = plan'.toSql.clause) :
    List.Forall₂ SameForm plan.constraints plan'.constraints := by
  obtain ⟨cs⟩ := plan
  obtain ⟨cs'⟩ := plan'
  have hlist := congrArg String.toList h
  cases cs with
  | nil =>
    cases cs' with
    | nil => exact .nil
    | cons c' cs' =>
      rw [toList_clause_cons] at hlist
      cases hlist
  | cons c cs =>
    cases cs' with
    | nil =>
      rw [toList_clause_cons] at hlist
      cases hlist
    | cons c' cs' =>
      rw [toList_clause_cons, toList_clause_cons] at hlist
      obtain ⟨hhead, hrest⟩ := Constraint.sqlCondition_append_inj (List.append_cancel_left hlist)
      have hword (d d' : Constraint) (s s' : List Char)
          (hd : " AND ".toList ++ d.sqlCondition.toList ++ s =
            " AND ".toList ++ d'.sqlCondition.toList ++ s') : d.SameForm d' ∧ s = s' := by
        rw [List.append_assoc, List.append_assoc] at hd
        exact Constraint.sqlCondition_append_inj (List.append_cancel_left hd)
      have hends (d : Constraint) (s : List Char) :
          " AND ".toList ++ d.sqlCondition.toList ++ s ≠ [] := by
        simp
      -- the words are the conditions after the first, each with what joins it to the one before
      obtain ⟨htail, -⟩ := forall₂_of_flatMap_append (· = []) hword hends rfl rfl
        (congrArg (· ++ []) hrest)
      exact .cons hhead htail

theorem clause_eq_of_sameForm {plan plan' : QueryPlan}
    (h : List.Forall₂ SameForm plan.constraints plan'.constraints) :
    plan.toSql.clause = plan'.toSql.clause := by
  have hconditions := Constraint.map_eq_of_forall₂ h fun _ _ => SameForm.sqlCondition_eq
  have hempty : plan.isEmpty = plan'.isEmpty := by
    rw [isEmpty, isEmpty, ← List.isEmpty_map, hconditions, List.isEmpty_map]
  rw [toSql, toSql, hempty, hconditions]

/-- Two plans have one clause and the same operands exactly if they agree constraint by constraint, in kind,
comparison, operands and field. Only a list without values does not tell its field. -/
theorem toSql_eq_iff (plan plan' : QueryPlan) :
    plan.toSql = plan'.toSql ↔
      List.Forall₂ Constraint.Agrees plan.constraints plan'.constraints := by
  constructor
  · intro h
    exact Constraint.forall₂_agrees (forall₂_sameForm (congrArg SqlFragment.clause h))
      (congrArg SqlFragment.params h)
  · intro h
    have hclause := clause_eq_of_sameForm (h.imp fun _ _ => Agrees.sameForm)
    have hoperands := Constraint.map_eq_of_forall₂ h fun _ _ => Agrees.operands
    rw [SqlFragment.mk.injEq]
    refine ⟨hclause, ?_⟩
    rw [toSql, toSql, List.flatMap_def, List.flatMap_def, hoperands]

example : (QueryPlan.mk [.isIn "a" []]).toSql = (QueryPlan.mk [.isIn "b" []]).toSql := rfl

end QueryPlan

end RecordFilter
