import Mathlib.Tactic.SplitIfs
import RecordFilter.Json.Json5
import RecordFilter.Json.Strict
import RecordFilter.Proofs.Keyed

/-!
# The order of fields

Values that are read have the fields of their objects in increasing order, whatever the order was in
the text.

* `Json.Ordered` is this order, at every depth.
* `Dialect.State.Ordered.step`: reading a lexeme keeps it.
* `Dialect.ordered_of_read?_json5` and `Dialect.ordered_of_read?_strict`: so it holds of what is read.
-/

namespace RecordFilter.Json

/-- In all objects, at every depth, the names of the fields increase. -/
inductive Ordered : Json → Prop
  | null : Ordered .null
  | bool (b : Bool) : Ordered (.bool b)
  | number (n : Number) : Ordered (.number n)
  | string (s : String) : Ordered (.string s)
  | array {items : List Json} (each : ∀ v ∈ items, Ordered v) : Ordered (.array items)
  | object {fields : List (String × Json)} (keys : Keyed.Ordered fields)
    (each : ∀ e ∈ fields, Ordered e.2) : Ordered (.object fields)

theorem ordered_array_iff {items : List Json} :
    (Json.array items).Ordered ↔ ∀ v ∈ items, v.Ordered := by
  constructor
  · intro h
    cases h with
    | array each => exact each
  · exact .array

theorem ordered_object_iff {fields : List (String × Json)} :
    (Json.object fields).Ordered ↔ Keyed.Ordered fields ∧ ∀ e ∈ fields, e.2.Ordered := by
  constructor
  · intro h
    cases h with
    | object keys each => exact ⟨keys, each⟩
  · rintro ⟨keys, each⟩
    exact .object keys each

namespace Ordered

theorem nil_array : (Json.array []).Ordered :=
  .array fun _ hv => absurd hv List.not_mem_nil

theorem nil_object : (Json.object []).Ordered :=
  .object List.Pairwise.nil fun _ he => absurd he List.not_mem_nil

theorem cons {v : Json} {items : List Json} (hv : v.Ordered) (h : (Json.array items).Ordered) :
    (Json.array (v :: items)).Ordered :=
  .array (List.forall_mem_cons.mpr ⟨hv, ordered_array_iff.mp h⟩)

theorem reverse {items : List Json} (h : (Json.array items).Ordered) :
    (Json.array items.reverse).Ordered :=
  .array fun v hv => ordered_array_iff.mp h v (List.mem_reverse.mp hv)

theorem put {v : Json} {fields : Keyed Json} (hv : v.Ordered) (h : (Json.object fields).Ordered)
    (name : String) : (Json.object (fields.put name v)).Ordered := by
  obtain ⟨keys, each⟩ := ordered_object_iff.mp h
  refine .object (keys.put name v) ?_
  intro e he
  rcases Keyed.mem_put he with rfl | he
  · exact hv
  · exact each e he

theorem remove {fields : Keyed Json} (h : (Json.object fields).Ordered) (name : String) :
    (Json.object (fields.remove name)).Ordered := by
  obtain ⟨keys, each⟩ := ordered_object_iff.mp h
  exact .object (keys.remove name) fun e he => each e ((Keyed.remove_sublist name fields).subset he)

end Ordered

theorem ordered_ofNumber? (n? : Option Number) : (ofNumber? n?).Ordered := by
  cases n? with
  | none => exact .null
  | some n => exact .number n

/-! ## Values that are read -/

namespace Dialect

/-- The values in an open array or object are ordered. -/
def Frame.Ordered : Frame → Prop
  | .array items => (Json.array items).Ordered
  | .object fields _ => (Json.object fields).Ordered

/-- The values read so far of an array or object, or a whole value, are ordered. -/
def Focus.Ordered : Focus → Prop
  | .value => True
  | .item items _ => (Json.array items).Ordered
  | .name fields _ | .colon fields _ => (Json.object fields).Ordered
  | .done v => v.Ordered

/-- All values that have been read are ordered. -/
structure State.Ordered (s : State) : Prop where
  focus : s.focus.Ordered
  stack : ∀ frame ∈ s.stack, frame.Ordered

/-- What stands without quotes is no object. -/
def BareOrdered (d : Dialect) : Prop :=
  ∀ run v, d.value? run = some v → v.Ordered

variable {d : Dialect}

theorem ordered_of_openValue (hd : d.BareOrdered) {stack : List Frame}
    (hstack : ∀ frame ∈ stack, frame.Ordered) {x : Lexeme} {t : State}
    (h : d.openValue stack x = some t) : t.Ordered := by
  -- what opens is empty, and what is complete at once is ordered by itself
  rw [openValue.eq_def] at h
  split at h
  · split at h
    · cases h
      exact ⟨Ordered.nil_array, hstack⟩
    · cases h
  · split at h
    · cases h
      exact ⟨Ordered.nil_object, hstack⟩
    · cases h
  · cases h
  · obtain ⟨s, -, rfl⟩ := Option.map_eq_some_iff.mp h
    exact ⟨Ordered.string _, hstack⟩
  · obtain ⟨v, hv, rfl⟩ := Option.map_eq_some_iff.mp h
    exact ⟨hd _ v hv, hstack⟩

theorem ordered_of_afterValue {v : Json} (hv : v.Ordered) {stack : List Frame}
    (hstack : ∀ frame ∈ stack, frame.Ordered) {c : Char} {t : State}
    (h : d.afterValue v stack c = some t) : t.Ordered := by
  cases stack with
  | nil => cases h
  | cons frame outer =>
    obtain ⟨hframe, houter⟩ := List.forall_mem_cons.mp hstack
    cases frame with
    | array items =>
      -- the value is the next item, and the array goes on or ends
      have hitems : (Json.array (v :: items)).Ordered := Ordered.cons hv hframe
      rw [afterValue] at h
      split at h
      · cases h
        exact ⟨hitems, houter⟩
      · split at h
        · cases h
          exact ⟨hitems.reverse, houter⟩
        · cases h
    | object fields name =>
      have hfields : (Json.object (fields.put name v)).Ordered := Ordered.put hv hframe name
      rw [afterValue] at h
      split at h
      · cases h
        exact ⟨hfields, houter⟩
      · split at h
        · cases h
          exact ⟨hfields, houter⟩
        · cases h

/-- Reading a lexeme keeps the values ordered. -/
theorem State.Ordered.step (hd : d.BareOrdered) {s t : State} (hs : s.Ordered) {x : Lexeme}
    (h : d.step s x = some t) : t.Ordered := by
  obtain ⟨focus, stack⟩ := s
  obtain ⟨hfocus, hstack⟩ := hs
  -- by what is awaited, since each of these accepts other lexemes
  cases focus with
  | value => exact ordered_of_openValue hd hstack h
  | item items closable =>
    simp only [Dialect.step] at h
    split at h
    · split at h
      · cases h
        exact ⟨Json.Ordered.reverse hfocus, hstack⟩
      · cases h
    · -- a first lexeme of an item is read inside of the array
      have hinside : ∀ frame ∈ Frame.array items :: stack, frame.Ordered :=
        List.forall_mem_cons.mpr ⟨hfocus, hstack⟩
      exact ordered_of_openValue hd hinside h
  | name fields closable =>
    simp only [Dialect.step] at h
    split at h
    · split at h
      · cases h
        exact ⟨hfocus, hstack⟩
      · cases h
    · obtain ⟨n, -, rfl⟩ := Option.map_eq_some_iff.mp h
      exact ⟨hfocus, hstack⟩
    · obtain ⟨n, -, rfl⟩ := Option.map_eq_some_iff.mp h
      exact ⟨hfocus, hstack⟩
  | colon fields name =>
    simp only [Dialect.step] at h
    split at h
    · cases h
      exact ⟨trivial, List.forall_mem_cons.mpr ⟨hfocus, hstack⟩⟩
    · cases h
  | done v =>
    simp only [Dialect.step] at h
    split at h
    · exact ordered_of_afterValue hfocus hstack h
    · cases h

theorem State.Ordered.foldlM (hd : d.BareOrdered) {lexemes : List Lexeme} {s t : State}
    (hs : s.Ordered) (h : lexemes.foldlM d.step s = some t) : t.Ordered := by
  induction lexemes generalizing s with
  | nil =>
    cases h
    exact hs
  | cons x lexemes ih =>
    rw [List.foldlM_cons] at h
    obtain ⟨s', hstep, hrest⟩ := Option.bind_eq_some_iff.mp h
    exact ih (hs.step hd hstep) hrest

theorem ordered_of_read? (hd : d.BareOrdered) {text : String} {v : Json}
    (h : d.read? text = some v) : v.Ordered := by
  obtain ⟨lexemes, -, hlexemes⟩ := Option.bind_eq_some_iff.mp h
  obtain ⟨t, hrun, hfinish⟩ := Option.bind_eq_some_iff.mp hlexemes
  have hstart : State.Ordered ⟨.value, []⟩ := ⟨trivial, fun _ hframe => absurd hframe List.not_mem_nil⟩
  have ht : t.Ordered := hstart.foldlM hd hrun
  unfold finish? at hfinish
  split at hfinish
  · cases hfinish
    exact ht.focus
  · cases hfinish

/-! ## The two dialects -/

theorem ordered_of_hexadecimal? {negative : Bool} {digits : List Char} {v : Json}
    (h : Json5.hexadecimal? negative digits = some v) : v.Ordered := by
  unfold Json5.hexadecimal? at h
  split at h
  · cases h
  · obtain ⟨n, -, hn⟩ := Option.bind_eq_some_iff.mp h
    replace hn := (Option.ite_none_right_eq_some.mp hn).2
    split at hn
    · rw [← Option.some.inj hn]
      exact .number _
    · rw [← Option.some.inj hn]
      exact ordered_ofNumber? _

theorem ordered_of_unsigned? {negative : Bool} {run : List Char} {v : Json}
    (h : Json5.unsigned? negative run = some v) : v.Ordered := by
  unfold Json5.unsigned? at h
  split at h
  · cases h
    exact .null
  · split at h
    · exact ordered_of_hexadecimal? h
    · exact ordered_of_hexadecimal? h
    · split at h
      · cases h
        exact ordered_ofNumber? _
      · cases h

theorem bareOrdered_json5 : Dialect.json5.BareOrdered := by
  intro run v h
  change Json5.value? run = some v at h
  unfold Json5.value? at h
  split_ifs at h
  · cases h
    exact .null
  · cases h
    exact .bool true
  · cases h
    exact .bool false
  · split at h
    · exact ordered_of_unsigned? h
    · exact ordered_of_unsigned? h
    · exact ordered_of_unsigned? h

theorem bareOrdered_strict : Dialect.strict.BareOrdered := by
  intro run v h
  change Strict.value? run = some v at h
  unfold Strict.value? at h
  split_ifs at h
  · cases h
    exact .null
  · cases h
    exact .bool true
  · cases h
    exact .bool false
  · obtain ⟨n, -, rfl⟩ := Option.map_eq_some_iff.mp h
    exact .number n

theorem ordered_of_read?_json5 {text : String} {v : Json}
    (h : Dialect.json5.read? text = some v) : v.Ordered :=
  ordered_of_read? bareOrdered_json5 h

theorem ordered_of_read?_strict {text : String} {v : Json}
    (h : Dialect.strict.read? text = some v) : v.Ordered :=
  ordered_of_read? bareOrdered_strict h

end Dialect

end RecordFilter.Json
