import RecordFilter.Proofs.Filter.Compiling
import RecordFilter.Proofs.Filter.Rendering

/-!
# Equal requests

A request can be compared by its recognized expressions, by its filters and by its plan. With the standard
operators the three come to the same: an expression is the rendering of its filter, and the kind of a
constraint tells the operator of its filter.

* `Registry.compile_eq_iff_recognized_eq`, `Registry.compile_eq_iff_plan_eq` and
  `Registry.compile_beq_iff_eq` relate expressions, plans and the equality test of filters to the filters.
* `Registry.equalities_agree` puts them together.
-/

namespace RecordFilter

/-- Lists are equal item by item. -/
theorem list_beq_iff_eq {α : Type} [BEq α] {l l' : List α}
    (h : ∀ a ∈ l, ∀ b ∈ l', (a == b) = true ↔ a = b) : (l == l') = true ↔ l = l' := by
  induction l generalizing l' with
  | nil => cases l' <;> simp
  | cons a l ih =>
    cases l' with
    | nil => simp
    | cons b l' =>
      have hhead := h a List.mem_cons_self b List.mem_cons_self
      have htail := ih fun a' ha' b' hb' =>
        h a' (List.mem_cons_of_mem _ ha') b' (List.mem_cons_of_mem _ hb')
      rw [List.cons_beq_cons, Bool.and_eq_true, hhead, htail, List.cons.injEq]

/-! ## The standard operators apart -/

namespace Operator

theorem fits_of_mem_standard : ∀ op ∈ standard, op.Fits := by
  unfold Fits
  decide

theorem eq_of_kind_eq : ∀ op ∈ standard, ∀ op' ∈ standard, op.kind = op'.kind → op = op' := by
  decide

theorem eq_of_name_eq : ∀ op ∈ standard, ∀ op' ∈ standard, op.name = op'.name → op = op' := by
  decide

end Operator

namespace Filter

theorem eq_of_parts {f g : Filter} (hfield : f.field = g.field) (hvalue : f.value = g.value)
    (hoperator : f.operator = g.operator) : f = g := by
  cases f
  cases g
  simp_all

/-- A filter of a standard operator is told by its constraint. -/
theorem eq_of_becomes {f g : Filter} {c : Constraint} (hf : f.operator ∈ Operator.standard)
    (hg : g.operator ∈ Operator.standard) (hfc : f.Becomes c) (hgc : g.Becomes c) : f = g := by
  have hfield : f.field = g.field := hfc.field.symm.trans hgc.field
  have hvalue : f.value = g.value := hfc.value.symm.trans hgc.value
  have hkind : f.operator.kind = g.operator.kind := hfc.kind.symm.trans hgc.kind
  exact eq_of_parts hfield hvalue (Operator.eq_of_kind_eq _ hf _ hg hkind)

/-- Filters of standard operators are told by their constraints, one by one. -/
theorem eq_of_forall₂_becomes {fs gs : List Filter} {cs : List Constraint}
    (hfs : ∀ f ∈ fs, f.operator ∈ Operator.standard)
    (hgs : ∀ g ∈ gs, g.operator ∈ Operator.standard) (hfcs : List.Forall₂ Becomes fs cs)
    (hgcs : List.Forall₂ Becomes gs cs) : fs = gs := by
  induction hfcs generalizing gs with
  | nil =>
    cases hgcs
    rfl
  | cons hfc _ ih =>
    cases hgcs with
    | cons hgc hgcs =>
      have hhead := eq_of_becomes (hfs _ List.mem_cons_self) (hgs _ List.mem_cons_self) hfc hgc
      have htail := ih (fun f hf => hfs f (List.mem_cons_of_mem _ hf))
        (fun g hg => hgs g (List.mem_cons_of_mem _ hg)) hgcs
      rw [hhead, htail]

/-- Filters of standard operators are equal only where they are the same. -/
theorem beq_iff_eq_of_standard {f g : Filter} (hf : f.operator ∈ Operator.standard)
    (hg : g.operator ∈ Operator.standard) : (f == g) = true ↔ f = g := by
  constructor
  · intro h
    have hparts : ((f.field = g.field ∧ f.value = g.value) ∧ f.operator.name = g.operator.name) ∧
        f.operator.level = g.operator.level := by
      simpa [BEq.beq] using h
    obtain ⟨⟨⟨hfield, hvalue⟩, hname⟩, -⟩ := hparts
    exact eq_of_parts hfield hvalue (Operator.eq_of_name_eq _ hf _ hg hname)
  · rintro rfl
    simp [BEq.beq]

end Filter

namespace Registry

theorem operators_standard : standard.operators = Operator.standard := rfl

theorem operator_mem_of_compile {tokens : List String} {f : Filter}
    (h : f ∈ standard.compile tokens) : f.operator ∈ Operator.standard := by
  obtain ⟨token, -, hresolve⟩ := List.mem_filterMap.mp h
  rw [← operators_standard]
  exact (extract?_of_resolve? hresolve).1

/-- An expression is the rendering of the filter that it resolves to. -/
theorem render_of_resolve?_standard {token : String} {f : Filter}
    (h : standard.resolve? token = some f) : f.render = token := by
  obtain ⟨hfield, -, hmeans⟩ := means_of_resolve?_standard h
  obtain ⟨-, htail⟩ := Expression.means_iff_takes.mp hmeans
  apply String.toList_inj.mp
  rw [f.toList_render, hfield, ← htail, ← Expression.toList_eq_field_append_tail]

/-! ## Requests -/

theorem compile_eq_iff_recognized_eq (a b : List String) :
    standard.compile a = standard.compile b ↔ standard.recognized a = standard.recognized b := by
  constructor
  · intro h
    -- two expressions of one filter are both its rendering
    have hunique : Relator.LeftUnique fun token f => standard.resolve? token = some f := by
      intro token token' f htoken htoken'
      rw [← render_of_resolve?_standard htoken, render_of_resolve?_standard htoken']
    have ha := forall₂_resolve? standard a
    rw [h] at ha
    exact List.left_unique_forall₂' hunique ha (forall₂_resolve? standard b)
  · intro h
    rw [← compile_recognized, h, compile_recognized]

theorem forall₂_standard (tokens : List String) :
    List.Forall₂ Filter.Becomes (standard.compile tokens) (standard.plan tokens).constraints :=
  forall₂_becomes Operator.fits_of_mem_standard tokens

theorem compile_eq_iff_plan_eq (a b : List String) :
    standard.compile a = standard.compile b ↔ standard.plan a = standard.plan b := by
  constructor
  · intro h
    rw [plan, plan, h]
  · intro h
    have ha := forall₂_standard a
    rw [h] at ha
    exact Filter.eq_of_forall₂_becomes (fun _ => operator_mem_of_compile)
      (fun _ => operator_mem_of_compile) ha (forall₂_standard b)

theorem compile_beq_iff_eq (a b : List String) :
    (standard.compile a == standard.compile b) = true ↔
      standard.compile a = standard.compile b :=
  list_beq_iff_eq fun _ hf _ hg =>
    Filter.beq_iff_eq_of_standard (operator_mem_of_compile hf) (operator_mem_of_compile hg)

/-- Two requests have equal filters, equal plans and the same recognized expressions in one order all
together or not at all. The plan of a request has one constraint a filter, in its place, with the field and
the operands of the filter and of the kind of its operator. -/
theorem equalities_agree (a b : List String) :
    ((standard.compile a == standard.compile b) = true ↔ standard.plan a = standard.plan b) ∧
    (standard.plan a = standard.plan b ↔ standard.recognized a = standard.recognized b) ∧
    List.Forall₂ Filter.Becomes (standard.compile a) (standard.plan a).constraints := by
  refine ⟨?_, ?_, forall₂_standard a⟩
  · rw [compile_beq_iff_eq, compile_eq_iff_plan_eq]
  · rw [← compile_eq_iff_plan_eq, compile_eq_iff_recognized_eq]

end Registry

end RecordFilter
