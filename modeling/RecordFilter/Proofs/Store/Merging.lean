import RecordFilter.Proofs.Keyed
import RecordFilter.Store.Basic

/-!
# Merging attributes into records

An update puts the attributes that differ into the record, and collects them beside it.

* `merge_fields`: what was collected makes the new fields of the old ones.
* `get?_merge`: a field is what was collected for it, or what it was.
* `get?_merge_of_not_mem`: a field that no attribute names is what it was.
* `Differs` says of an attribute that a record lacks it or has it with another value.
* `dirty_merge`: what is collected are the attributes that differ, and no others.
* `not_differs_merge`: after a merge none of its attributes differs.
* `merge_comm`: attributes that share no name are merged in any order.
-/

namespace RecordFilter

/-- The changed attributes of a merge make its fields of those it began with. -/
structure Merge.Tracks (base : Keyed Json) (m : Merge) : Prop where
  fields_eq : m.fields = base.putAll m.dirty
  ordered : m.dirty.Ordered

theorem Merge.Tracks.step {base : Keyed Json} {m : Merge} (h : m.Tracks base)
    (entry : String × Json) : (m.step entry).Tracks base := by
  rw [Merge.step]
  split
  · exact h
  · constructor
    · show m.fields.put entry.1 entry.2 = _
      rw [h.fields_eq, Keyed.putAll_put h.ordered]
    · exact h.ordered.put entry.1 entry.2

theorem merge_tracks (fields attributes : Keyed Json) :
    (merge fields attributes).Tracks fields := by
  -- from any stage of the loop on, the rest of the attributes keeps what holds
  have hall (m : Merge) (h : m.Tracks fields) :
      (attributes.foldl Merge.step m).Tracks fields := by
    induction attributes generalizing m with
    | nil => exact h
    | cons entry attributes ih => exact ih _ (h.step entry)
  exact hall ⟨fields, []⟩ ⟨rfl, List.Pairwise.nil⟩

/-- The changed attributes, put into the old fields, give the new ones. -/
theorem merge_fields (fields attributes : Keyed Json) :
    (merge fields attributes).fields = fields.putAll (merge fields attributes).dirty :=
  (merge_tracks fields attributes).fields_eq

/-- A field is what was collected for it, or what it was. -/
theorem get?_merge (fields attributes : Keyed Json) (key : String) :
    (merge fields attributes).fields.get? key =
      ((merge fields attributes).dirty.get? key).or (fields.get? key) := by
  rw [merge_fields, Keyed.get?_putAll (merge_tracks fields attributes).ordered]

/-- What was collected is what the fields are now. -/
theorem get?_merge_of_dirty {fields attributes : Keyed Json} {key : String} {value : Json}
    (h : (merge fields attributes).dirty.get? key = some value) :
    (merge fields attributes).fields.get? key = some value := by
  rw [get?_merge, h, Option.some_or]

/-- All that differs was collected. -/
theorem get?_dirty_of_ne {fields attributes : Keyed Json} {key : String}
    (h : (merge fields attributes).fields.get? key ≠ fields.get? key) :
    (merge fields attributes).dirty.get? key = (merge fields attributes).fields.get? key := by
  rw [get?_merge] at h ⊢
  cases hdirty : (merge fields attributes).dirty.get? key with
  | none =>
    rw [hdirty, Option.none_or] at h
    exact absurd rfl h
  | some value => rw [Option.some_or]

/-- Where no attribute has changed, no field has. -/
theorem merge_fields_of_isEmpty {fields attributes : Keyed Json}
    (h : (merge fields attributes).dirty.isEmpty = true) :
    (merge fields attributes).fields = fields := by
  rw [merge_fields, List.isEmpty_iff.mp h]
  rfl

theorem Merge.get?_step_of_ne {key : String} {entry : String × Json} (h : key ≠ entry.1)
    (m : Merge) : (m.step entry).fields.get? key = m.fields.get? key := by
  rw [Merge.step]
  split
  · rfl
  · exact Keyed.get?_put_of_ne h entry.2 m.fields

/-- Steps for other attributes leave a field alone. -/
theorem Merge.get?_foldl_step_of_not_mem {key : String} {attributes : Keyed Json}
    (h : ∀ entry ∈ attributes, entry.1 ≠ key) (m : Merge) :
    (attributes.foldl Merge.step m).fields.get? key = m.fields.get? key := by
  induction attributes generalizing m with
  | nil => rfl
  | cons entry attributes ih =>
    rw [List.foldl_cons, ih fun e he => h e (List.mem_cons_of_mem _ he)]
    exact Merge.get?_step_of_ne (h entry List.mem_cons_self).symm m

/-- A field that no attribute names is what it was. -/
theorem get?_merge_of_not_mem {key : String} {attributes : Keyed Json}
    (h : ∀ entry ∈ attributes, entry.1 ≠ key) (fields : Keyed Json) :
    (merge fields attributes).fields.get? key = fields.get? key :=
  Merge.get?_foldl_step_of_not_mem h ⟨fields, []⟩

/-- A client's attributes leave the `id` of a record alone. -/
theorem get?_id_merge (fields attributes : Keyed Json) :
    (merge fields (Keyed.remove "id" attributes)).fields.get? "id" = fields.get? "id" :=
  get?_merge_of_not_mem (fun _ he => Keyed.ne_of_mem_remove he) fields

/-- Nor do they touch the number that it stands for. -/
theorem recordId?_merge (fields attributes : Keyed Json) :
    recordId? (.object (merge fields (Keyed.remove "id" attributes)).fields) =
      recordId? (.object fields) := by
  simp only [recordId?, Json.field?, Json.fields?, Option.bind_some, get?_id_merge]

/-! ## The attributes that differ -/

/-- Fields lack an attribute, or have it with another value. -/
def Differs (fields : Keyed Json) (entry : String × Json) : Prop :=
  ∀ old, fields.get? entry.1 = some old → old.sameAs entry.2 = false

theorem differs_iff {fields : Keyed Json} {entry : String × Json} :
    Differs fields entry ↔ ¬(fields.get? entry.1).any (·.sameAs entry.2) = true := by
  unfold Differs
  cases fields.get? entry.1 with
  | none => simp
  | some old => simp

instance (fields : Keyed Json) (entry : String × Json) : Decidable (Differs fields entry) :=
  decidable_of_iff _ differs_iff.symm

theorem not_differs_iff {fields : Keyed Json} {entry : String × Json} :
    ¬Differs fields entry ↔
      ∃ value, fields.get? entry.1 = some value ∧ value.sameAs entry.2 = true := by
  simp [Differs]

theorem differs_congr {fields others : Keyed Json} {entry : String × Json}
    (h : fields.get? entry.1 = others.get? entry.1) :
    Differs fields entry ↔ Differs others entry := by
  unfold Differs
  rw [h]

theorem Merge.step_of_differs {m : Merge} {entry : String × Json} (h : Differs m.fields entry) :
    m.step entry = ⟨m.fields.put entry.1 entry.2, m.dirty.put entry.1 entry.2⟩ := by
  rw [Merge.step, if_neg (differs_iff.mp h)]

theorem Merge.step_of_not_differs {m : Merge} {entry : String × Json}
    (h : ¬Differs m.fields entry) : m.step entry = m := by
  rw [Merge.step, if_pos (Decidable.of_not_not (mt differs_iff.mpr h))]

/-- An attribute has been merged after its step. -/
theorem Merge.not_differs_step (m : Merge) (entry : String × Json) :
    ¬Differs (m.step entry).fields entry := by
  by_cases h : Differs m.fields entry
  · rw [Merge.step_of_differs h]
    intro hnow
    have hother : entry.2.sameAs entry.2 = false := hnow entry.2 (Keyed.get?_put_self _ _ _)
    rw [Json.sameAs_refl] at hother
    cases hother
  · rw [Merge.step_of_not_differs h]
    exact h

/-- After a merge none of its attributes differs. -/
theorem not_differs_merge {attributes : Keyed Json} (hordered : attributes.Ordered)
    (fields : Keyed Json) : ∀ entry ∈ attributes, ¬Differs (merge fields attributes).fields entry := by
  -- the induction is over any merge so far, and the attributes that follow are its tail
  have hall (m : Merge) :
      ∀ entry ∈ attributes, ¬Differs (attributes.foldl Merge.step m).fields entry := by
    induction attributes generalizing m with
    | nil => simp
    | cons first attributes ih =>
      obtain ⟨hfirst, hrest⟩ := List.pairwise_cons.mp hordered
      intro entry hentry
      rw [List.foldl_cons]
      rcases List.mem_cons.mp hentry with rfl | hentry
      · -- the attributes that follow have other names
        have hothers : ∀ e ∈ attributes, e.1 ≠ entry.1 :=
          fun e he => (String.ne_of_lt (hfirst e he)).symm
        rw [differs_congr (Merge.get?_foldl_step_of_not_mem hothers _)]
        exact m.not_differs_step entry
      · exact ih hrest _ entry hentry
  exact hall ⟨fields, []⟩

/-- From any stage on, a merge collects the attributes left that differ at that stage. -/
theorem Merge.dirty_foldl_step {attributes : Keyed Json} (hordered : attributes.Ordered) (m : Merge)
    (hbefore : ∀ d ∈ m.dirty, ∀ entry ∈ attributes, d.1 < entry.1) :
    (attributes.foldl Merge.step m).dirty =
      m.dirty ++ attributes.filter fun entry => Differs m.fields entry := by
  induction attributes generalizing m with
  | nil => simp
  | cons entry attributes ih =>
    obtain ⟨hentry, hrest⟩ := List.pairwise_cons.mp hordered
    have hlast : ∀ d ∈ m.dirty, d.1 < entry.1 := fun d hd => hbefore d hd entry List.mem_cons_self
    -- whether an attribute that is left differs is not for this step to change
    have hsame : ∀ e ∈ attributes,
        decide (Differs (m.step entry).fields e) = decide (Differs m.fields e) := by
      intro e he
      have hne : e.1 ≠ entry.1 := (String.ne_of_lt (hentry e he)).symm
      exact decide_eq_decide.mpr (differs_congr (Merge.get?_step_of_ne hne m))
    rw [List.foldl_cons]
    by_cases hdiffers : Differs m.fields entry
    · have hdirty : (m.step entry).dirty = m.dirty ++ [entry] := by
        rw [Merge.step_of_differs hdiffers]
        exact Keyed.put_of_forall_lt hlast entry.2
      have hnext : ∀ d ∈ (m.step entry).dirty, ∀ e ∈ attributes, d.1 < e.1 := by
        intro d hd e he
        rw [hdirty, List.mem_append, List.mem_singleton] at hd
        rcases hd with hd | rfl
        · exact hbefore d hd e (List.mem_cons_of_mem _ he)
        · exact hentry e he
      rw [ih hrest _ hnext, List.filter_congr hsame, hdirty, List.append_assoc,
        List.singleton_append, List.filter_cons_of_pos (by simp [hdiffers])]
    · have hnext : ∀ d ∈ m.dirty, ∀ e ∈ attributes, d.1 < e.1 :=
        fun d hd e he => hbefore d hd e (List.mem_cons_of_mem _ he)
      rw [Merge.step_of_not_differs hdiffers, ih hrest _ hnext,
        List.filter_cons_of_neg (by simp [hdiffers])]

/-- What a merge collects are the attributes that differ. -/
theorem dirty_merge {attributes : Keyed Json} (hordered : attributes.Ordered) (fields : Keyed Json) :
    (merge fields attributes).dirty = attributes.filter fun entry => Differs fields entry :=
  Merge.dirty_foldl_step hordered ⟨fields, []⟩ (by simp)

/-- A second merge of the same attributes collects nothing. -/
theorem dirty_merge_again {attributes : Keyed Json} (hordered : attributes.Ordered)
    (fields : Keyed Json) : (merge (merge fields attributes).fields attributes).dirty = [] := by
  rw [dirty_merge hordered, List.filter_eq_nil_iff]
  intro entry hentry
  simpa using not_differs_merge hordered fields entry hentry

/-! ## Two merges -/

/-- Fields with an attribute put where it differs. -/
def putDiffering (fields : Keyed Json) (entry : String × Json) : Keyed Json :=
  if Differs fields entry then fields.put entry.1 entry.2 else fields

theorem Merge.fields_step (m : Merge) (entry : String × Json) :
    (m.step entry).fields = putDiffering m.fields entry := by
  unfold putDiffering
  split
  · rename_i h
    rw [Merge.step_of_differs h]
  · rename_i h
    rw [Merge.step_of_not_differs h]

theorem merge_fields_eq_foldl (fields attributes : Keyed Json) :
    (merge fields attributes).fields = attributes.foldl putDiffering fields := by
  have hall (m : Merge) :
      (attributes.foldl Merge.step m).fields = attributes.foldl putDiffering m.fields := by
    induction attributes generalizing m with
    | nil => rfl
    | cons entry attributes ih => rw [List.foldl_cons, ih, Merge.fields_step, List.foldl_cons]
  exact hall ⟨fields, []⟩

theorem get?_putDiffering_of_ne {key : String} {entry : String × Json} (h : key ≠ entry.1)
    (fields : Keyed Json) : (putDiffering fields entry).get? key = fields.get? key := by
  unfold putDiffering
  split
  · exact Keyed.get?_put_of_ne h entry.2 fields
  · rfl

/-- Attributes of different names are put in any order. -/
theorem putDiffering_comm {entry other : String × Json} (h : entry.1 ≠ other.1)
    (fields : Keyed Json) :
    putDiffering (putDiffering fields entry) other =
      putDiffering (putDiffering fields other) entry := by
  -- whether one of them differs does not depend on the other
  have hother : Differs (putDiffering fields entry) other ↔ Differs fields other :=
    differs_congr (get?_putDiffering_of_ne h.symm fields)
  have hentry : Differs (putDiffering fields other) entry ↔ Differs fields entry :=
    differs_congr (get?_putDiffering_of_ne h fields)
  rw [putDiffering, putDiffering.eq_1 (putDiffering fields other)]
  simp only [hother, hentry]
  unfold putDiffering
  split
  · split
    · exact Keyed.put_comm h.symm other.2 entry.2 fields
    · rfl
  · rfl

/-- An attribute that no other one names is put before them or after them. -/
theorem foldl_putDiffering_comm {entry : String × Json} {attributes : Keyed Json}
    (h : ∀ other ∈ attributes, entry.1 ≠ other.1) (fields : Keyed Json) :
    attributes.foldl putDiffering (putDiffering fields entry) =
      putDiffering (attributes.foldl putDiffering fields) entry := by
  induction attributes generalizing fields with
  | nil => rfl
  | cons other attributes ih =>
    obtain ⟨hother, hrest⟩ := List.forall_mem_cons.mp h
    rw [List.foldl_cons, putDiffering_comm hother, ih hrest, List.foldl_cons]

/-- Attributes that share no name are merged in any order. -/
theorem merge_comm {attributes others : Keyed Json}
    (h : ∀ entry ∈ attributes, ∀ other ∈ others, entry.1 ≠ other.1) (fields : Keyed Json) :
    (merge (merge fields attributes).fields others).fields =
      (merge (merge fields others).fields attributes).fields := by
  simp only [merge_fields_eq_foldl]
  induction attributes generalizing fields with
  | nil => rfl
  | cons entry attributes ih =>
    obtain ⟨hentry, hrest⟩ := List.forall_mem_cons.mp h
    rw [List.foldl_cons, ih hrest, foldl_putDiffering_comm hentry, List.foldl_cons]

end RecordFilter
