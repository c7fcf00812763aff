import RecordFilter.Proofs.Filter.Grammar

/-!
# Rendering filters

A filter is rendered as its field, the delimiter of its operator and its operands. Rendering and resolving
undo each other.

* `Operator.delimiter` and `Filter.render` write a filter as an expression.
* `OperandForm.Takes` are the operands that have a form, `Filter.Renderable` are the filters whose operands
  their operator can take.
* `Expression.means_iff_takes`: the grammar reads the rendered operands, and nothing else.
* `Registry.resolve?_standard_iff_render`: an expression resolves to a filter exactly if it is the rendering
  of that filter.
-/

namespace RecordFilter

/-! ## Renderings -/

/-- What stands between the field and the operands of a standard operator. -/
def Operator.delimiter (op : Operator) : List Char :=
  ((Spelling.standard.find? fun sp => sp.operator = op).map Spelling.delimiter).getD []

/-- The expression of a filter. -/
def Filter.render (f : Filter) : String :=
  f.field ++ String.ofList f.operator.delimiter ++ f.value.text

theorem Spelling.delimiter_operator :
    ∀ sp ∈ Spelling.standard, sp.operator.delimiter = sp.delimiter := by
  decide

theorem Filter.toList_render (f : Filter) :
    f.render.toList = f.field.toList ++ (f.operator.delimiter ++ f.value.text.toList) := by
  simp [render]

/-! ## Operands of a form -/

namespace OperandForm

/-- Operands have a form. A list is not empty and does not hold the empty text alone, and its texts hold no
semicolon. -/
inductive Takes : OperandForm → Operand → Prop
  | any (v : String) : Takes .any (.scalar v)
  | plain (v : String) (bracket : v.toList.head? ≠ some '[')
    (brace : v.toList.head? ≠ some '\x7b') : Takes .plain (.scalar v)
  | bounds (low high : String) (hlow : IsNumeral low.toList) (hhigh : IsNumeral high.toList) :
    Takes .bounds (.range low high)
  | values (vs : List String) (hne : vs ≠ []) (hempty : vs ≠ [""])
    (hwhole : ∀ v ∈ vs, ';' ∉ v.toList) : Takes .values (.list vs)

theorem joinWith_eq_empty_iff {texts : List String} (h : texts ≠ []) :
    joinWith ";" texts = "" ↔ texts = [""] := by
  cases texts with
  | nil => exact absurd rfl h
  | cons first others =>
    cases others with
    | nil => simp [joinWith]
    | cons second others =>
      -- two texts have a semicolon between them
      constructor
      · intro hjoin
        have hlist := congrArg String.toList hjoin
        simp [joinWith] at hlist
      · intro heq
        simp at heq

/-- The texts that a form accepts are those of operands that have it. -/
theorem accepts_iff_takes {form : OperandForm} {w : List Char} {v : Operand} :
    form.Accepts w v ↔ form.Takes v ∧ w = v.text.toList := by
  constructor
  · -- by the form of the operand, and only a list has to be cut and joined again
    intro h
    cases h with
    | any v => exact ⟨.any _, by simp [Operand.text]⟩
    | plain v bracket brace => exact ⟨.plain _ (by simpa) (by simpa), by simp [Operand.text]⟩
    | bounds low high hlow hhigh =>
      exact ⟨.bounds _ _ (by simpa) (by simpa), by simp [Operand.text]⟩
    | values x hx =>
      have hjoin : joinWith ";" (pieces ';' (String.ofList x)) = String.ofList x :=
        joinWith_pieces ';' _
      refine ⟨.values _ (pieces_ne_nil _ _) ?_ fun v hv => not_mem_of_mem_pieces hv, ?_⟩
      · intro hempty
        have hnil := (joinWith_eq_empty_iff (pieces_ne_nil ';' (String.ofList x))).mpr hempty
        rw [hjoin] at hnil
        exact hx (by simpa using hnil)
      · simp [Operand.text, hjoin]
  · rintro ⟨h, rfl⟩
    cases h with
    | any v => simpa [Operand.text] using Accepts.any v.toList
    | plain v bracket brace => simpa [Operand.text] using Accepts.plain v.toList bracket brace
    | bounds low high hlow hhigh =>
      simpa [Operand.text] using Accepts.bounds low.toList high.toList hlow hhigh
    | values vs hne hempty hwhole =>
      have hx : (joinWith ";" vs).toList ≠ [] := by
        intro hnil
        exact hempty ((joinWith_eq_empty_iff hne).mp (by simpa using hnil))
      have hpieces : pieces ';' (joinWith ";" vs) = vs := pieces_joinWith hne hwhole
      have haccepts := Accepts.values (joinWith ";" vs).toList hx
      rw [String.ofList_toList, hpieces] at haccepts
      simpa [Operand.text] using haccepts

end OperandForm

/-! ## Operands of an operator -/

/-- What `gt` and `lt` read after an equals sign another operator reads, whatever it is. -/
theorem Spelling.exists_extends : ∀ sp ∈ standard, sp.operator = .gt ∨ sp.operator = .lt →
    ∃ sp' ∈ standard, Extends sp'.operator sp.operator ∧
      sp'.delimiter = sp.delimiter ++ ['='] ∧ sp'.form = .any := by
  decide

/-- Operands that a standard operator can take: those of its form. The scalars of `gt` and `lt` do not start
with an equals sign, with which they would be those of `gte` and `lte`. -/
structure Operator.Takes (op : Operator) (v : Operand) : Prop where
  form : ∃ sp ∈ Spelling.standard, sp.operator = op ∧ sp.form.Takes v
  sign : op = .gt ∨ op = .lt → v.text.toList.head? ≠ some '='

theorem Expression.means_iff_takes {tail : List Char} {op : Operator} {v : Operand} :
    Means tail op v ↔ op.Takes v ∧ tail = op.delimiter ++ v.text.toList := by
  rw [means_iff]
  constructor
  · rintro ⟨sp, hsp, rfl, ⟨w, rfl, hw⟩, hfree⟩
    obtain ⟨htakes, rfl⟩ := OperandForm.accepts_iff_takes.mp hw
    refine ⟨⟨⟨sp, hsp, rfl, htakes⟩, ?_⟩, by rw [Spelling.delimiter_operator sp hsp]⟩
    intro hop sign
    obtain ⟨w, hw⟩ := List.head?_eq_some_iff.mp sign
    -- with the equals sign the operator that this one extends reads the text
    obtain ⟨sp', hsp', hext, hdelimiter, hform⟩ := Spelling.exists_extends sp hsp hop
    refine hfree sp' hsp' hext (.scalar (String.ofList w)) ⟨w, ?_, ?_⟩
    · rw [hw, hdelimiter, List.append_assoc, List.singleton_append]
    · rw [hform]
      exact .any w
  · rintro ⟨⟨⟨sp, hsp, rfl, htakes⟩, hsign⟩, rfl⟩
    have hw := OperandForm.accepts_iff_takes.mpr ⟨htakes, rfl⟩
    rw [Spelling.delimiter_operator sp hsp]
    refine ⟨sp, hsp, rfl, ⟨_, rfl, hw⟩, ?_⟩
    by_cases hop : sp.operator = .gt ∨ sp.operator = .lt
    · exact Spelling.free_of_head hsp (hsign hop)
    · obtain ⟨hgt, hlt⟩ := not_or.mp hop
      exact Spelling.free_of_ne hgt hlt _

/-! ## Filters -/

/-- A filter has a field name, and operands that its standard operator can take. -/
structure Filter.Renderable (f : Filter) : Prop where
  named : f.field ≠ ""
  field : ∀ c ∈ f.field.toList, Expression.isFieldChar c = true
  operands : f.operator.Takes f.value

theorem Operator.exists_delimiter_eq_cons {op : Operator} {v : Operand} (h : op.Takes v) :
    ∃ c rest, op.delimiter = c :: rest ∧ Expression.isFieldChar c = false := by
  obtain ⟨sp, hsp, rfl, -⟩ := h.form
  rw [Spelling.delimiter_operator sp hsp]
  exact (Spelling.faithful_of_mem_standard hsp).delimiter

/-- A rendered filter falls apart at the end of its field. -/
theorem Filter.Renderable.field_and_tail {f : Filter} (h : f.Renderable) :
    Expression.field f.render = f.field ∧
      Expression.tail f.render = f.operator.delimiter ++ f.value.text.toList := by
  obtain ⟨c, rest, hdelimiter, hc⟩ := Operator.exists_delimiter_eq_cons h.operands
  have hlist := f.toList_render
  rw [hdelimiter, List.cons_append] at hlist ⊢
  obtain ⟨hfield, htail⟩ := Expression.field_and_tail hlist h.field hc
  exact ⟨by rw [hfield, String.ofList_toList], htail⟩

/-- An expression resolves to a filter exactly if the filter can be rendered and the expression is its
rendering: to render what an expression resolves to gives the expression again, and the rendering of a
filter resolves to that filter. -/
theorem Registry.resolve?_standard_iff_render (token : String) (f : Filter) :
    Registry.standard.resolve? token = some f ↔ f.Renderable ∧ f.render = token := by
  constructor
  · intro h
    obtain ⟨hfield, hne, hmeans⟩ := means_of_resolve?_standard h
    obtain ⟨htakes, htail⟩ := Expression.means_iff_takes.mp hmeans
    refine ⟨⟨hne, ?_, htakes⟩, ?_⟩
    · intro c hc
      rw [hfield, Expression.field, String.toList_ofList] at hc
      exact List.all_eq_true.mp List.all_takeWhile c hc
    · -- the expression is its field followed by the tail, and both are those of the filter
      apply String.toList_inj.mp
      rw [f.toList_render, ← htail, hfield, ← Expression.toList_eq_field_append_tail]
  · rintro ⟨hf, rfl⟩
    obtain ⟨hfield, htail⟩ := hf.field_and_tail
    exact resolve?_standard_of_means hfield.symm hf.named
      (Expression.means_iff_takes.mpr ⟨hf.operands, htail⟩)

end RecordFilter
