import RecordFilter.Proofs.Store.Updates

/-!
# The record that an id addresses

A lookup, a deletion and an update each search for their record. They come to the same one, the first in storage
order that has the id, and the two calls touch nothing else.

* `Collections.Addresses` splits the records of an entity at the record that an id addresses.
* `Collections.find_cases`: an id addresses a record, or the error of the lookup says what is missing.
* `Store.call_delete_eq_find` and `Store.call_update_eq_find`: both calls answer by what the lookup finds.
* `Store.one_record_addressed` puts these together, with what the calls leave as it was.
-/

namespace RecordFilter

variable {c : Collections} {entity : String} {id : UInt64} {before after : List Json} {record : Json}

/-- A record of an entity is the first one there that has an id. -/
structure Collections.Addresses (c : Collections) (entity : String) (id : UInt64) (before : List Json)
    (record : Json) (after : List Json) : Prop where
  stored : c.get? entity = some (before ++ record :: after)
  first : ∀ r ∈ before, recordId? r ≠ some id
  addressed : recordId? record = some id

/-- A record that has an id is an object. -/
theorem exists_fields_of_recordId? (h : recordId? record = some id) :
    ∃ fields, record = .object fields := by
  cases record with
  | object fields => exact ⟨fields, rfl⟩
  | null | bool | number | string | array => cases h

namespace Collections

/-! ## What a lookup finds -/

theorem Addresses.isFirst (h : c.Addresses entity id before record after) :
    IsFirst (hasId id) (before ++ record :: after) before record after where
  eq_append := rfl
  rejects := fun r hr => decide_eq_false (h.first r hr)
  passes := decide_eq_true h.addressed

theorem addresses_of_isFirst {records : List Json} (hrecords : c.get? entity = some records)
    (hfirst : IsFirst (hasId id) records before record after) :
    c.Addresses entity id before record after where
  stored := by rw [hrecords, hfirst.eq_append]
  first := fun r hr => of_decide_eq_false (hfirst.rejects r hr)
  addressed := of_decide_eq_true hfirst.passes

theorem Addresses.find (h : c.Addresses entity id before record after) :
    c.find entity id = .ok record :=
  find_of_isFirst h.stored h.isFirst

/-- The entity is missing, or no record of it has the id, or one record is addressed and found. -/
theorem find_cases (c : Collections) (entity : String) (id : UInt64) :
    (c.get? entity = none ∧ c.find entity id = .error (.unknownEntity entity)) ∨
      (∃ records, c.get? entity = some records ∧ records.find? (hasId id) = none ∧
        c.find entity id = .error (.recordNotFound entity id)) ∨
      ∃ before record after, c.Addresses entity id before record after := by
  cases hrecords : c.get? entity with
  | none =>
    left
    refine ⟨rfl, ?_⟩
    rw [find, Collections.records, hrecords]
    rfl
  | some records =>
    right
    cases hfind : records.find? (hasId id) with
    | none =>
      left
      refine ⟨records, rfl, hfind, ?_⟩
      rw [find, Collections.records, hrecords]
      simp only [Except.bind, hfind]
    | some record =>
      right
      obtain ⟨before, after, hfirst⟩ := exists_isFirst_of_find? hfind
      exact ⟨before, record, after, addresses_of_isFirst hrecords hfirst⟩

theorem find_eq_ok_iff :
    c.find entity id = .ok record ↔ ∃ before after, c.Addresses entity id before record after := by
  constructor
  · intro h
    rcases c.find_cases entity id with
      ⟨-, hfind⟩ | ⟨records, -, -, hfind⟩ | ⟨before, found, after, haddressed⟩
    · rw [hfind] at h
      cases h
    · rw [hfind] at h
      cases h
    · rw [haddressed.find] at h
      cases h
      exact ⟨before, after, haddressed⟩
  · rintro ⟨before, after, haddressed⟩
    exact haddressed.find

end Collections

/-! ## What the calls make of it -/

namespace Call

/-- Where a lookup fails, so do both calls, with the same error. -/
theorem change_eq_error_of_find {e : StoreError} (h : c.find entity id = .error e) :
    (delete entity id).change c = .error e ∧
      ∀ given, (update entity id (.object given)).change c = .error e := by
  -- by the three outcomes of a lookup, of which the last is no error
  rcases c.find_cases entity id with
    ⟨hnone, hfind⟩ | ⟨records, hrecords, hnone, hfind⟩ | ⟨before, record, after, haddressed⟩
  · rw [hfind] at h
    cases h
    rw [change, hnone]
    refine ⟨rfl, fun given => ?_⟩
    rw [change, hnone]
  · rw [hfind] at h
    cases h
    constructor
    · have hposition : records.findFinIdx? (Collections.hasId id) = none :=
        List.findFinIdx?_eq_none_iff.mpr (List.find?_eq_none.mp hnone)
      rw [change, hrecords]
      simp only [hposition]
    · intro given
      rw [change, hrecords]
      simp only [focus?_eq_none_iff.mpr hnone]
  · rw [haddressed.find] at h
    cases h

/-- A deletion takes the addressed record out from between the others. -/
theorem change_delete (h : c.Addresses entity id before record after) :
    (delete entity id).change c =
      .ok (.removing c entity (.one record) [record] (before ++ after)) := by
  obtain ⟨position, hposition, hrecord, hothers⟩ := h.isFirst.findFinIdx?
  rw [change, h.stored]
  simp only [hposition]
  rw [List.get_eq_getElem, ← Fin.getElem_fin, hrecord, hothers]

end Call

/-- A record with the attributes of a client merged into it. -/
def Json.merged (given : Keyed Json) : Json → Json
  | .object fields => .object (merge fields (Keyed.remove "id" given)).fields
  | value => value

/-- It has the id that it had. -/
theorem Json.recordId?_merged (given : Keyed Json) (record : Json) :
    recordId? (record.merged given) = recordId? record := by
  cases record with
  | object fields => exact recordId?_merge fields given
  | null | bool | number | string | array => rfl

/-- An update puts the merged record in the place of the addressed one. -/
theorem Call.exists_change_update (h : c.Addresses entity id before record after)
    (given : Keyed Json) :
    ∃ change, (update entity id (.object given)).change c = .ok change ∧
      change.answer = .one (record.merged given) ∧
      change.collections = c.replace entity (before ++ record.merged given :: after) := by
  obtain ⟨fields, rfl⟩ := exists_fields_of_recordId? h.addressed
  exact ⟨_, change_update h.stored h.isFirst given, rfl, rfl⟩

theorem map_eq_error_iff {ε α β : Type} {f : α → β} {outcome : Except ε α} {e : ε} :
    outcome.map f = .error e ↔ outcome = .error e := by
  cases outcome with
  | error e' => simp [Except.map]
  | ok a => simp [Except.map]

namespace Store

variable {σ : Type}

/-- A deletion answers what a lookup finds, and fails where it fails. -/
theorem call_delete_eq_find (s : Store σ) (entity : String) (id : UInt64) :
    (s.call (.delete entity id)).1 = (s.collections.find entity id).map .one := by
  rw [answer_call]
  cases hfind : s.collections.find entity id with
  | error e =>
    rw [(Call.change_eq_error_of_find hfind).1]
    rfl
  | ok record =>
    obtain ⟨before, after, haddressed⟩ := Collections.find_eq_ok_iff.mp hfind
    rw [Call.change_delete haddressed]
    rfl

/-- An update answers what a lookup finds, with the attributes merged into it. -/
theorem call_update_eq_find (s : Store σ) (entity : String) (id : UInt64) (given : Keyed Json) :
    (s.call (.update entity id (.object given))).1 =
      (s.collections.find entity id).map fun record => .one (record.merged given) := by
  rw [answer_call]
  cases hfind : s.collections.find entity id with
  | error e =>
    rw [(Call.change_eq_error_of_find hfind).2 given]
    rfl
  | ok record =>
    obtain ⟨before, after, haddressed⟩ := Collections.find_eq_ok_iff.mp hfind
    obtain ⟨change, hchange, hanswer, -⟩ := Call.exists_change_update haddressed given
    rw [hchange]
    exact congrArg Except.ok hanswer

theorem collections_call_delete {s : Store σ}
    (h : s.collections.Addresses entity id before record after) :
    (s.call (.delete entity id)).2.collections = s.collections.replace entity (before ++ after) := by
  rw [collections_call, Collections.after, Call.change_delete h]
  rfl

theorem collections_call_update {s : Store σ}
    (h : s.collections.Addresses entity id before record after) (given : Keyed Json) :
    (s.call (.update entity id (.object given))).2.collections =
      s.collections.replace entity (before ++ record.merged given :: after) := by
  obtain ⟨change, hchange, -, hcollections⟩ := Call.exists_change_update h given
  rw [collections_call, Collections.after, hchange]
  exact hcollections

/-- A deletion and an update with any attributes fail exactly where a lookup does, with the same error. Otherwise
all three act on the first record of the entity that has the id. The deletion answers this record and leaves the
others in their order. The update answers the record that stands in its place from then on, under the same id, and
leaves the others where they are. No other entity is touched, and the entities stay the same. -/
theorem one_record_addressed (s : Store σ) (entity : String) (id : UInt64) (given : Keyed Json) :
    let delete := Call.delete entity id
    let update := Call.update entity id (.object given)
    (∀ e, (s.call delete).1 = .error e ↔ s.collections.find entity id = .error e) ∧
    (∀ e, (s.call update).1 = .error e ↔ s.collections.find entity id = .error e) ∧
    ∀ record, s.collections.find entity id = .ok record →
      ∃ before after new,
        s.collections.Addresses entity id before record after ∧
        (s.call delete).1 = .ok (.one record) ∧
        (s.call delete).2.collections.get? entity = some (before ++ after) ∧
        (s.call update).1 = .ok (.one new) ∧
        (s.call update).2.collections.Addresses entity id before new after ∧
        ((s.call delete).2.collections.keys = s.collections.keys ∧
          (s.call update).2.collections.keys = s.collections.keys) ∧
        ∀ other, other ≠ entity →
          (s.call delete).2.collections.get? other = s.collections.get? other ∧
            (s.call update).2.collections.get? other = s.collections.get? other := by
  intro delete update
  refine ⟨?_, ?_, ?_⟩
  · intro e
    rw [call_delete_eq_find, map_eq_error_iff]
  · intro e
    rw [call_update_eq_find, map_eq_error_iff]
  · intro record hfind
    -- all three calls start from the same place, and only what they put there differs
    obtain ⟨before, after, haddressed⟩ := Collections.find_eq_ok_iff.mp hfind
    have hdelete := collections_call_delete haddressed
    have hupdate := collections_call_update haddressed given
    refine ⟨before, after, record.merged given, haddressed, ?_, ?_, ?_, ?_, ?_, ?_⟩
    · rw [call_delete_eq_find, hfind]
      rfl
    · rw [hdelete, Keyed.get?_replace_self haddressed.stored]
    · rw [call_update_eq_find, hfind]
      rfl
    · constructor
      · rw [hupdate, Keyed.get?_replace_self haddressed.stored]
      · exact haddressed.first
      · rw [Json.recordId?_merged, haddressed.addressed]
    · rw [hdelete, hupdate, Keyed.keys_replace, Keyed.keys_replace]
      exact ⟨rfl, rfl⟩
    · intro other hother
      rw [hdelete, hupdate, Keyed.get?_replace, Keyed.get?_replace, if_neg hother, if_neg hother]
      exact ⟨rfl, rfl⟩

/-- Of two users with one id, the first in the storage is found and deleted, though its id is a text, and a record
without an id stands before it. Where no user has the id, the update fails as the lookup does. -/
theorem one_record_addressed_twins :
    let nameless := Json.object [("name", .string "a")]
    let spelled := Json.object [("id", .string "07")]
    let seven := Json.object [("id", .ofId 7)]
    let s := Store.quiet [("users", [nameless, spelled, seven])]
    s.collections.find "users" 7 = .ok spelled ∧
      (s.call (.delete "users" 7)).1 = .ok (.one spelled) ∧
      (∃ before after, (s.call (.delete "users" 7)).2.collections.get? "users" =
          some (before ++ after) ∧ before ++ spelled :: after = [nameless, spelled, seven]) ∧
      (s.call (.update "users" 8 (.object []))).1 = .error (.recordNotFound "users" 8) ∧
      ("drafts" ≠ "users" ∧ (s.call (.delete "users" 7)).2.collections.get? "drafts" = none) := by
  intro nameless spelled seven s
  have hfound : s.collections.find "users" 7 = .ok spelled := by decide +kernel
  have hmissing : s.collections.find "users" 8 = .error (.recordNotFound "users" 8) := by
    decide +kernel
  obtain ⟨-, -, haddressed⟩ := one_record_addressed s "users" 7 []
  obtain ⟨-, hupdate, -⟩ := one_record_addressed s "users" 8 []
  obtain ⟨before, after, new, hsplit, hdeleted, hothers, -, -, -, hkept⟩ := haddressed spelled hfound
  have hstored : some (before ++ spelled :: after) = some [nameless, spelled, seven] :=
    hsplit.stored.symm
  exact ⟨hfound, hdeleted, ⟨before, after, hothers, Option.some.inj hstored⟩,
    (hupdate _).mpr hmissing, by decide, (hkept "drafts" (by decide)).1⟩

end Store

end RecordFilter
