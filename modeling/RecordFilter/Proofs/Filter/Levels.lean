import RecordFilter.Proofs.Filter.Grammar

/-!
# What the levels of the standard operators decide

Hardly two standard operators extract anything of one expression. So the levels and the order of registration
decide only between `gte` and `gt` and between `lte` and `lt`, and any others that try the first of each pair
before the second serve as well.

* `Operator.extracting` are the operators that extract something of an expression.
* `Operator.extracting_standard_cases`: of the standard operators there are none, one, or one of the two pairs.
* `Registry.extracting_ofList`: other levels keep these operators in their order.
* `Registry.resolve?_rearranged`: a registry with other levels resolves every expression alike.
-/

namespace RecordFilter

namespace Operator

/-- The operators that extract something of an expression. -/
def extracting (ops : List Operator) (token : String) : List Operator :=
  ops.filter fun op => (op.extract? token).isSome

theorem mem_extracting_iff {ops : List Operator} {token : String} {op : Operator} :
    op ∈ extracting ops token ↔ op ∈ ops ∧ (op.extract? token).isSome = true :=
  List.mem_filter

/-! ## The standard operators -/

open Spelling (Extends)

/-- Two standard operators that extract something of one expression are one, or one extends the other. -/
theorem eq_or_extends_of_mem_extracting {token : String} {op other : Operator}
    (h : op ∈ extracting standard token) (h' : other ∈ extracting standard token) :
    op = other ∨ Extends op other ∨ Extends other op := by
  have hreads {op : Operator} (h : op ∈ extracting standard token) :
      ∃ sp ∈ Spelling.standard, sp.operator = op ∧ ∃ v, sp.Reads (Expression.tail token) v := by
    obtain ⟨hmem, hsome⟩ := mem_extracting_iff.mp h
    obtain ⟨sp, hsp, rfl⟩ := Spelling.mem_operator_standard_iff.mp hmem
    obtain ⟨⟨name, v⟩, hextract⟩ := Option.isSome_iff_exists.mp hsome
    obtain ⟨-, -, hreads⟩ :=
      (Spelling.extract?_eq_some_iff (Spelling.faithful_of_mem_standard hsp)).mp hextract
    exact ⟨sp, hsp, rfl, v, hreads⟩
  -- each operator comes from a spelling that reads the tail, and two of these overlap only as the table shows
  obtain ⟨sp, hsp, rfl, v, hv⟩ := hreads h
  obtain ⟨sp', hsp', rfl, v', hv'⟩ := hreads h'
  rcases Spelling.eq_or_extends_of_reads hsp hsp' hv hv' with rfl | hext
  · exact Or.inl rfl
  · exact Or.inr hext

/-- What extends an operator is not extended itself. -/
theorem not_extends_of_extends {op other third : Operator} (h : Extends op other) :
    ¬Extends other third := by
  rcases h with ⟨-, rfl⟩ | ⟨-, rfl⟩
  · rintro (⟨hgt, -⟩ | ⟨hgt, -⟩)
    · exact absurd hgt (by decide)
    · exact absurd hgt (by decide)
  · rintro (⟨hlt, -⟩ | ⟨hlt, -⟩)
    · exact absurd hlt (by decide)
    · exact absurd hlt (by decide)

/-- The standard operators that extract something of an expression are none, a single one, or one of the pairs of
which the first extends the second. -/
theorem extracting_standard_cases (token : String) :
    extracting standard token = [] ∨ (∃ op ∈ standard, extracting standard token = [op]) ∨
      ∃ op other, Extends op other ∧ extracting standard token = [op, other] := by
  have hlevels : (extracting standard token).Pairwise fun op other => op.level < other.level :=
    pairwise_level_standard.sublist List.filter_sublist
  have hpairs {op other : Operator} (h : op ∈ extracting standard token)
      (h' : other ∈ extracting standard token) (hlt : op.level < other.level) :
      Extends op other := by
    rcases eq_or_extends_of_mem_extracting h h' with rfl | hext | hext
    · exact absurd hlt (Nat.lt_irrefl _)
    · exact hext
    · exact absurd (Spelling.level_lt_of_extends hext) (Nat.lt_asymm hlt)
  have hstandard : ∀ op ∈ extracting standard token, op ∈ standard :=
    fun op hop => (mem_extracting_iff.mp hop).1
  generalize extracting standard token = ops at hlevels hpairs hstandard
  match ops with
  | [] => exact Or.inl rfl
  | [op] => exact Or.inr (Or.inl ⟨op, hstandard op List.mem_cons_self, rfl⟩)
  | [op, other] =>
    have hext : Extends op other :=
      hpairs (by simp) (by simp) (List.rel_of_pairwise_cons hlevels (by simp))
    exact Or.inr (Or.inr ⟨op, other, hext, rfl⟩)
  | op :: other :: third :: ops =>
    -- the second would be extended and extend the third
    have hext : Extends op other :=
      hpairs (by simp) (by simp) (List.rel_of_pairwise_cons hlevels (by simp))
    have hext' : Extends other third :=
      hpairs (by simp) (by simp) (List.rel_of_pairwise_cons hlevels.of_cons (by simp))
    exact absurd hext' (not_extends_of_extends hext)

/-! ## Other levels -/

/-- The operator at another level. -/
def atLevel (op : Operator) (level : Nat) : Operator :=
  { op with level := level }

theorem extract?_atLevel (op : Operator) (level : Nat) (token : String) :
    (op.atLevel level).extract? token = op.extract? token := rfl

/-- What operators extract has nothing to do with their levels. -/
theorem extracting_map_atLevel (levels : Operator → Nat) (ops : List Operator) (token : String) :
    extracting (ops.map fun op => op.atLevel (levels op)) token =
      (extracting ops token).map fun op => op.atLevel (levels op) :=
  List.filter_map

end Operator

namespace Registry

open Operator (extracting)

/-- The first operator is tried before the second one. -/
def TriesBefore (r : Registry) (op other : Operator) : Prop :=
  [op, other].Sublist r.operators

/-- The first of the operators that extract something resolves an expression. -/
theorem resolve?_eq_bind_extracting (r : Registry) (token : String) :
    r.resolve? token = (extracting r.operators token).head?.bind fun op =>
      (op.extract? token).map fun (field, value) => ⟨field, value, op⟩ := by
  simp only [extracting, List.head?_filter, resolve?_eq_bind_find?, Operator.filterSyntax_extract?]

section

variable {levels : Operator → Nat} {ops : List Operator}

/-- Two operators that are tried one after the other are extracting in this order. -/
theorem extracting_of_triesBefore {r : Registry} {token : String} {op other : Operator}
    (hperm : (extracting r.operators token).Perm [op, other]) (htries : r.TriesBefore op other) :
    extracting r.operators token = [op, other] := by
  have hextracts : ∀ o ∈ [op, other], (o.extract? token).isSome = true :=
    fun o ho => (Operator.mem_extracting_iff.mp (hperm.mem_iff.mpr ho)).2
  have hsublist : ([op, other].filter fun o => (o.extract? token).isSome).Sublist
      (extracting r.operators token) := htries.filter _
  rw [List.filter_eq_self.mpr hextracts] at hsublist
  exact (hsublist.eq_of_length hperm.length_eq.symm).symm

/-- In a registry of the standard operators at other levels, the same operators extract something of an expression,
in the same order, if the first of each pair is tried before the second. -/
theorem extracting_ofList
    (hperm : ops.Perm (Operator.standard.map fun op => op.atLevel (levels op)))
    (htries : ∀ op other, Spelling.Extends op other →
      (ofList ops).TriesBefore (op.atLevel (levels op)) (other.atLevel (levels other)))
    (token : String) :
    extracting (ofList ops).operators token =
      (extracting Operator.standard token).map fun op => op.atLevel (levels op) := by
  have hextracting : (extracting (ofList ops).operators token).Perm
      ((extracting Operator.standard token).map fun op => op.atLevel (levels op)) := by
    rw [← Operator.extracting_map_atLevel]
    exact ((operators_ofList_perm ops).trans hperm).filter _
  -- a permutation of no or of one operator is that list, and only a pair needs its order
  rcases Operator.extracting_standard_cases token with hnone | ⟨op, -, hone⟩ | ⟨op, other, hext, hpair⟩
  · rw [hnone] at hextracting ⊢
    exact hextracting.eq_nil
  · rw [hone] at hextracting ⊢
    exact List.perm_singleton.mp hextracting
  · rw [hpair] at hextracting ⊢
    exact extracting_of_triesBefore hextracting (htries op other hext)

/-- Of the standard operators none, one, `gte` and `gt`, or `lte` and `lt` extract something of an expression. So a
registry of them in any order and at any levels that tries `gte` before `gt` and `lte` before `lt` resolves it to
the same field and operands, by the operator of the same name. -/
theorem resolve?_rearranged (token : String) :
    (extracting Operator.standard token = [] ∨
      (∃ op ∈ Operator.standard, extracting Operator.standard token = [op]) ∨
      extracting Operator.standard token = [.gte, .gt] ∨
      extracting Operator.standard token = [.lte, .lt]) ∧
    ∀ (levels : Operator → Nat) (ops : List Operator),
      ops.Perm (Operator.standard.map fun op => op.atLevel (levels op)) →
      (ofList ops).TriesBefore (.atLevel .gte (levels .gte)) (.atLevel .gt (levels .gt)) →
      (ofList ops).TriesBefore (.atLevel .lte (levels .lte)) (.atLevel .lt (levels .lt)) →
        ((ofList ops).resolve? token).map (fun f => (f.operator.name, f.field, f.value)) =
          (standard.resolve? token).map fun f => (f.operator.name, f.field, f.value) := by
  constructor
  · rcases Operator.extracting_standard_cases token with hnone | hone | ⟨op, other, hext, hpair⟩
    · exact Or.inl hnone
    · exact Or.inr (Or.inl hone)
    · rcases hext with ⟨rfl, rfl⟩ | ⟨rfl, rfl⟩
      · exact Or.inr (Or.inr (Or.inl hpair))
      · exact Or.inr (Or.inr (Or.inr hpair))
  · intro levels ops hperm hgreater hless
    -- the two orders are asked of the operators one by one, and are used as one rule over the table
    have htries : ∀ op other, Spelling.Extends op other →
        (ofList ops).TriesBefore (op.atLevel (levels op)) (other.atLevel (levels other)) := by
      rintro op other (⟨rfl, rfl⟩ | ⟨rfl, rfl⟩)
      · exact hgreater
      · exact hless
    have hstandard : standard.operators = Operator.standard := rfl
    -- both registries take the first of what extracts, and the two lists of these are the same
    rw [resolve?_eq_bind_extracting, resolve?_eq_bind_extracting, extracting_ofList hperm htries, hstandard]
    cases extracting Operator.standard token with
    | nil => rfl
    | cons op ops =>
      simp only [List.map_cons, List.head?_cons, Option.bind_some, Operator.extract?_atLevel,
        Option.map_map]
      rfl

end

/-- All at one level but `gt` and `lt`, and registered from the last to the first. -/
theorem resolve?_rearranged_reversed :
    let levels : Operator → Nat := fun op => if op = .gt ∨ op = .lt then 9 else 3
    let ops := (Operator.standard.map fun op => op.atLevel (levels op)).reverse
    let reading : Filter → String × String × Operand := fun f => (f.operator.name, f.field, f.value)
    (ops.Perm (Operator.standard.map fun op => op.atLevel (levels op)) ∧
      (ofList ops).TriesBefore (.atLevel .gte (levels .gte)) (.atLevel .gt (levels .gt)) ∧
      (ofList ops).TriesBefore (.atLevel .lte (levels .lte)) (.atLevel .lt (levels .lt))) ∧
    extracting Operator.standard "a>=1" = [.gte, .gt] ∧
    ((ofList ops).resolve? "a>=1").map reading = some ("gte", "a", .scalar "1") ∧
    ((ofList ops).resolve? "a>=1").map reading = (standard.resolve? "a>=1").map reading := by
  intro levels ops reading
  have hperm : ops.Perm (Operator.standard.map fun op => op.atLevel (levels op)) :=
    List.reverse_perm _
  have hgreater : (ofList ops).TriesBefore (.atLevel .gte (levels .gte)) (.atLevel .gt (levels .gt)) := by
    unfold TriesBefore
    decide +kernel
  have hless : (ofList ops).TriesBefore (.atLevel .lte (levels .lte)) (.atLevel .lt (levels .lt)) := by
    unfold TriesBefore
    decide +kernel
  have hsame := (resolve?_rearranged "a>=1").2 levels ops hperm hgreater hless
  exact ⟨⟨hperm, hgreater, hless⟩, by decide +kernel, by decide +kernel, hsame⟩

end Registry

end RecordFilter
