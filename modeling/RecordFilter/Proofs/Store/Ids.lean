import RecordFilter.Proofs.Store.Calls

/-!
# The ids that a store assigns

* `IsNextId` says that an id is past all those of records, `Exhausted` that none is.
* `nextId?_eq_none_iff` and `isNextId_of_nextId?`: the id that is computed is such an id, if there is one.
* `Store.call_create_of_exhausted` and `Store.call_create_of_not_exhausted`: what a creation does in
  either case.
-/

namespace RecordFilter

/-! ## The next id -/

/-- The id next to all those of records: `1` where there are none. -/
structure IsNextId (records : List Json) (id : UInt64) : Prop where
  greater : ∀ record ∈ records, ∀ i, recordId? record = some i → i < id
  first : (∀ record ∈ records, recordId? record = none) → id = 1

/-- Some record has the greatest id. -/
def Exhausted (records : List Json) : Prop :=
  ∃ record ∈ records, recordId? record = some greatestId

/-- The greatest of ids, counted from `a` on, is past none of them, and it is one of them. -/
theorem foldl_max_spec (ids : List UInt64) (a : UInt64) :
    a ≤ ids.foldl max a ∧ (∀ i ∈ ids, i ≤ ids.foldl max a) ∧
      (ids.foldl max a = a ∨ ids.foldl max a ∈ ids) := by
  -- from any start, since each step of the fold starts the next one
  induction ids generalizing a with
  | nil => exact ⟨UInt64.le_refl a, by simp, Or.inl rfl⟩
  | cons b ids ih =>
    have hmax : max a b = if a ≤ b then b else a := rfl
    rw [List.foldl_cons, hmax]
    split
    · rename_i hab
      obtain ⟨hle, hall, hmem⟩ := ih b
      refine ⟨UInt64.le_trans hab hle, List.forall_mem_cons.mpr ⟨hle, hall⟩, Or.inr ?_⟩
      exact List.mem_cons.mpr hmem
    · rename_i hab
      obtain ⟨hle, hall, hmem⟩ := ih a
      have hba : b ≤ a := UInt64.le_of_lt (UInt64.not_le.mp hab)
      refine ⟨hle, List.forall_mem_cons.mpr ⟨UInt64.le_trans hba hle, hall⟩, ?_⟩
      exact hmem.imp_right (List.mem_cons_of_mem b)

/-- No id is past the greatest one. -/
theorem le_greatestId (id : UInt64) : id ≤ greatestId := by
  have hlt := id.toNat_lt
  rw [UInt64.le_iff_toNat_le]
  have hgreatest : greatestId.toNat = 2 ^ 64 - 1 := rfl
  omega

theorem lt_add_one_of_le {i greatest : UInt64} (hle : i ≤ greatest)
    (hne : greatest ≠ greatestId) : i < greatest + 1 := by
  have hlt : greatest.toNat < greatestId.toNat :=
    UInt64.lt_iff_toNat_lt.mp (Std.lt_of_le_of_ne (le_greatestId greatest) hne)
  have hgreatest : greatestId.toNat = 2 ^ 64 - 1 := rfl
  -- below the greatest id, the sum does not wrap around
  have hsum : (greatest + 1).toNat = greatest.toNat + 1 := by
    rw [UInt64.toNat_add, UInt64.toNat_one, Nat.mod_eq_of_lt (by omega)]
  rw [UInt64.le_iff_toNat_le] at hle
  rw [UInt64.lt_iff_toNat_lt]
  omega

/-- There is a next id where the greatest one is left. -/
theorem nextId?_eq_none_iff (records : List Json) : nextId? records = none ↔ Exhausted records := by
  have hmem (i : UInt64) : i ∈ records.filterMap recordId? ↔
      ∃ record ∈ records, recordId? record = some i := List.mem_filterMap
  simp only [nextId?]
  rw [Exhausted, ← hmem]
  generalize records.filterMap recordId? = ids
  constructor
  · intro h
    split at h
    · rename_i hgreatest
      -- counting starts from zero, which is not the greatest id, so that one is among the ids
      rcases (foldl_max_spec ids 0).2.2 with hzero | hids
      · rw [hzero] at hgreatest
        cases hgreatest
      · rw [← hgreatest]
        exact hids
    · cases h
  · intro h
    rw [if_pos (Std.le_antisymm (le_greatestId _) ((foldl_max_spec ids 0).2.1 _ h))]

theorem isNextId_of_nextId? {records : List Json} {id : UInt64} (h : nextId? records = some id) :
    IsNextId records id := by
  simp only [nextId?] at h
  split at h
  · cases h
  · rename_i hne
    cases h
    constructor
    · intro record hrecord i hi
      have hmem : i ∈ records.filterMap recordId? := List.mem_filterMap.mpr ⟨record, hrecord, hi⟩
      exact lt_add_one_of_le ((foldl_max_spec _ 0).2.1 i hmem) hne
    · intro hnone
      rw [List.filterMap_eq_nil_iff.mpr hnone]
      rfl

/-- No record has the next id yet. -/
theorem IsNextId.hasId_eq_false {records : List Json} {id : UInt64} (h : IsNextId records id)
    {record : Json} (hrecord : record ∈ records) : Collections.hasId id record = false := by
  rw [Collections.hasId, decide_eq_false_iff_not]
  intro hid
  exact UInt64.lt_irrefl id (h.greater record hrecord id hid)

/-! ## The record under it -/

@[simp] theorem idOfNat_toNat (id : UInt64) : idOfNat id.toNat = id := by
  rw [idOfNat, if_pos id.toNat_lt, UInt64.ofNat_toNat]

theorem field?_newRecord (id : UInt64) (attributes : Keyed Json) (key : String) :
    (newRecord id attributes).field? key =
      if key = "id" then some (.ofId id) else attributes.get? key := by
  show (Keyed.put "id" (Json.ofId id) (Keyed.remove "id" attributes)).get? key = _
  by_cases hkey : key = "id"
  · rw [if_pos hkey, hkey, Keyed.get?_put_self]
  · rw [if_neg hkey, Keyed.get?_put_of_ne hkey, Keyed.get?_remove, if_neg hkey]

@[simp] theorem recordId?_newRecord (id : UInt64) (attributes : Keyed Json) :
    recordId? (newRecord id attributes) = some id := by
  rw [recordId?, field?_newRecord, if_pos rfl]
  simp [Json.ofId, Number.ofUInt64, idOfNumber?]

/-! ## Creations -/

namespace Change

variable {c : Collections} {entity : String}

theorem get?_adding (record : Json) (other : String) :
    (adding c entity record).collections.get? other =
      if other = entity then some (c.stock entity ++ [record]) else c.get? other := by
  show (Keyed.replace entity _ (c.ensure entity [])).get? other = _
  rw [Keyed.get?_replace, Collections.get?_ensure_self]
  split
  · rfl
  · rename_i hother
    rw [Keyed.get?_ensure, if_neg hother]

theorem find_adding {id : UInt64} (h : IsNextId (c.stock entity) id) (attributes : Keyed Json) :
    (adding c entity (newRecord id attributes)).collections.find entity id =
      .ok (newRecord id attributes) := by
  have hnone : (c.stock entity).find? (Collections.hasId id) = none := by
    rw [List.find?_eq_none]
    intro record hrecord
    rw [h.hasId_eq_false hrecord]
    exact Bool.false_ne_true
  have hhas : Collections.hasId id (newRecord id attributes) = true := by
    simp [Collections.hasId]
  rw [Collections.find, Collections.records, get?_adding, if_pos rfl]
  simp [Except.bind, List.find?_append, hnone, hhas]

end Change

namespace Store

variable {σ : Type} {s : Store σ} {entity : String}

theorem call_create_of_exhausted (h : Exhausted (s.collections.stock entity))
    (attributes : Keyed Json) :
    s.call (.create entity (.object attributes)) = (.error (.idExhausted entity), s) := by
  rw [call_create, Call.change, (nextId?_eq_none_iff _).mpr h]
  rfl

/-- Unless ids are exhausted, a record is made under the next one, where it is found. -/
theorem call_create_of_not_exhausted (h : ¬Exhausted (s.collections.stock entity))
    (attributes : Keyed Json) :
    ∃ id, IsNextId (s.collections.stock entity) id ∧
      s.call (.create entity (.object attributes)) =
        s.carryOut (.ok (.adding s.collections entity (newRecord id attributes))) := by
  obtain ⟨id, hid⟩ := Option.ne_none_iff_exists'.mp (mt (nextId?_eq_none_iff _).mp h)
  refine ⟨id, isNextId_of_nextId? hid, ?_⟩
  rw [call_create, Call.change, hid]

end Store

end RecordFilter
