import RecordFilter.Proofs.Store.Located
import RecordFilter.Proofs.Store.Origins
import RecordFilter.Proofs.Store.Replay

/-!
# Calls that leave each other alone

Calls about different entities commute, and so do updates of one entity that address different ids. Updates of one
record commute where they share no attribute; then each answers the record as it finds it, and the second one the
record with both.

* `Collections.assign` is all that a call does to collections: it gives its entity other records.
* `Call.change_of_get?_eq`: a call reads nothing but the records of its entity.
* `Collections.after_comm`: so calls about different entities leave the same collections in either order.
* `Collections.after_update`: an update changes the first record with its id, and that is all it does.
* `Store.independent_calls_commute` puts these together.
-/

namespace RecordFilter

/-! ## One entity -/

namespace Collections

variable {c d : Collections} {entity other : String} {records kept : List Json}

/-- The collections with other records under an entity, which is made if it is not there. -/
def assign (c : Collections) (entity : String) (records : List Json) : Collections :=
  Keyed.replace entity records (c.ensure entity [])

theorem assign_of_get? (h : c.get? entity = some records) (kept : List Json) :
    c.assign entity kept = c.replace entity kept := by
  rw [assign, Keyed.ensure_of_get?_eq_some h]

theorem get?_assign_of_ne (h : other ≠ entity) (c : Collections) (records : List Json) :
    Keyed.get? other (c.assign entity records) = c.get? other := by
  rw [assign, Keyed.get?_replace, if_neg h, Keyed.get?_ensure, if_neg h]

/-- Different entities get their records in any order. -/
theorem assign_comm (h : entity ≠ other) (c : Collections) (records kept : List Json) :
    (c.assign entity records).assign other kept = (c.assign other kept).assign entity records := by
  unfold assign
  rw [Keyed.ensure_replace h.symm, Keyed.ensure_replace h, Keyed.replace_comm h.symm,
    Keyed.ensure_comm h.symm]

end Collections

namespace Call

variable {c d : Collections} {call : Call}

/-- A call reads the records of its entity and gives the entity others. Whatever else there is has no effect on
its answer and its events. -/
theorem change_of_get?_eq (h : d.get? call.entity = c.get? call.entity) :
    call.change d = (call.change c).map fun change =>
      { change with collections := d.assign call.entity (change.collections.stock call.entity) } := by
  -- each call reads only what stands under its entity, so rewriting that one entry decides all of it
  cases call with
  | create entity attributes =>
    cases attributes with
    | object attributes =>
      have hget : d.get? entity = c.get? entity := h
      have hstock : d.stock entity = c.stock entity := by
        rw [Collections.stock, hget, Collections.stock]
      -- a creation puts its entity there if need be, so what it looks at is the stock
      rw [change, change, hstock]
      cases nextId? (c.stock entity) with
      | none => rfl
      | some id =>
        have hadded := Collections.stock_adding c entity (newRecord id attributes) entity
        rw [if_pos rfl] at hadded
        simp only [Except.map, Call.entity, hadded]
        rw [Change.adding, hstock]
        rfl
    | null | bool | number | string | array => rfl
  | update entity id attributes =>
    cases attributes with
    | object attributes =>
      have hget : d.get? entity = c.get? entity := h
      rw [change, change, hget]
      -- the others ask for an entity that is there, and answer with its records
      cases hrecords : c.get? entity with
      | none => rfl
      | some records =>
        rw [hrecords] at hget
        simp only
        split
        · rfl
        · simp only [Except.map, Call.entity, Change.merging, Collections.stock_replace hrecords,
            Collections.assign_of_get? hget, if_true]
        · rfl
    | null | bool | number | string | array => rfl
  | delete entity id =>
    have hget : d.get? entity = c.get? entity := h
    rw [change, change, hget]
    cases hrecords : c.get? entity with
    | none => rfl
    | some records =>
      rw [hrecords] at hget
      simp only
      split
      · rfl
      · simp only [Except.map, Call.entity, Change.removing, Collections.stock_replace hrecords,
          Collections.assign_of_get? hget, if_true]
  | deleteWhere entity plan =>
    have hget : d.get? entity = c.get? entity := h
    rw [change, change, hget]
    cases hrecords : c.get? entity with
    | none => rfl
    | some records =>
      rw [hrecords] at hget
      simp only [Except.map, Call.entity, Change.removing, Collections.stock_replace hrecords,
        Collections.assign_of_get? hget, if_true]

end Call

namespace Collections

variable {c d : Collections} {a b call : Call}

/-- A call gives its entity the same records in all collections that have the same ones there before it, or
leaves all of them alone. -/
theorem after_of_get?_eq (h : d.get? call.entity = c.get? call.entity) :
    (c.after call = c ∧ d.after call = d) ∨
      ∃ records, c.after call = c.assign call.entity records ∧
        d.after call = d.assign call.entity records := by
  -- the same law for the collections themselves, so that both sides are told by one list of records
  have hsame : c.get? call.entity = c.get? call.entity := rfl
  have hc := Call.change_of_get?_eq hsame
  have hd := Call.change_of_get?_eq h
  unfold after
  cases hchange : call.change c with
  | error e =>
    rw [hchange] at hd
    rw [hd]
    exact Or.inl ⟨rfl, rfl⟩
  | ok change =>
    rw [hchange] at hc hd
    rw [hd]
    refine Or.inr ⟨change.collections.stock call.entity, ?_, rfl⟩
    exact congrArg Change.collections (Except.ok.inj hc)

/-- The records of other entities are what they were. -/
theorem get?_after_of_ne {other : String} (h : other ≠ call.entity) :
    (c.after call).get? other = c.get? other := by
  have hsame : c.get? call.entity = c.get? call.entity := rfl
  rcases after_of_get?_eq hsame with ⟨hafter, -⟩ | ⟨records, hafter, -⟩
  · rw [hafter]
  · rw [hafter, get?_assign_of_ne h]

/-- Calls about different entities leave the same collections in either order. -/
theorem after_comm (h : a.entity ≠ b.entity) : (c.after a).after b = (c.after b).after a := by
  -- neither call sees what the other one does
  have hgetA : (c.after b).get? a.entity = c.get? a.entity := get?_after_of_ne h
  have hgetB : (c.after a).get? b.entity = c.get? b.entity := get?_after_of_ne h.symm
  have hb := after_of_get?_eq hgetB
  rcases after_of_get?_eq hgetA with ⟨ha, ha'⟩ | ⟨records, ha, ha'⟩
  · rw [ha', ha]
  · rcases hb with ⟨hb, hb'⟩ | ⟨others, hb, hb'⟩
    · rw [hb', hb]
    · rw [ha', hb', ha, hb, assign_comm h]

end Collections

/-! ## Updates of one entity -/

namespace Json

/-- Attributes that share no name but `id` are merged in any order. -/
theorem merged_comm {given others : Keyed Json}
    (h : ∀ entry ∈ given, ∀ other ∈ others, entry.1 = other.1 → entry.1 = "id") (record : Json) :
    (record.merged given).merged others = (record.merged others).merged given := by
  cases record with
  | object fields =>
    have hnames : ∀ entry ∈ Keyed.remove "id" given, ∀ other ∈ Keyed.remove "id" others,
        entry.1 ≠ other.1 := by
      intro entry hentry other hother hname
      have hgiven : entry ∈ given := (Keyed.remove_sublist "id" given).subset hentry
      have hothers : other ∈ others := (Keyed.remove_sublist "id" others).subset hother
      exact Keyed.ne_of_mem_remove hentry (h entry hgiven other hothers hname)
    exact congrArg Json.object (merge_comm hnames fields)
  | null | bool | number | string | array => rfl

end Json

namespace Collections

variable {c : Collections} {entity : String} {id id' : UInt64}

theorem hasId_merged (id : UInt64) (given : Keyed Json) (record : Json) :
    hasId id (record.merged given) = hasId id record := by
  rw [hasId, hasId, Json.recordId?_merged]

theorem not_hasId_of_ne (h : id ≠ id') (record : Json) (hid : hasId id record = true) :
    ¬hasId id' record = true := by
  intro hid'
  have heq : some id = some id' := (of_decide_eq_true hid).symm.trans (of_decide_eq_true hid')
  exact h (Option.some.inj heq)

/-- An update merges its attributes into the first record with its id. Where there is none it does nothing. -/
theorem after_update (c : Collections) (entity : String) (id : UInt64) (given : Keyed Json) :
    c.after (.update entity id (.object given)) =
      c.alter entity (modifyFirst (hasId id) (Json.merged given)) := by
  unfold after
  rcases c.find_cases entity id with
    ⟨hnone, hfind⟩ | ⟨records, hrecords, hnone, hfind⟩ | ⟨before, record, after, haddressed⟩
  · rw [(Call.change_eq_error_of_find hfind).2, alter_of_get?_eq_none hnone]
  · rw [(Call.change_eq_error_of_find hfind).2, alter_of_get? hrecords,
      modifyFirst_of_find?_eq_none hnone, Keyed.replace_eq_self hrecords]
  · obtain ⟨change, hchange, -, hcollections⟩ := Call.exists_change_update haddressed given
    rw [hchange, alter_of_get? haddressed.stored, modifyFirst, haddressed.isFirst.modify]
    exact hcollections

/-- What is found after an update of the same id is the merged record. -/
theorem find_after_update_self (c : Collections) (entity : String) (id : UInt64)
    (given : Keyed Json) :
    (c.after (.update entity id (.object given))).find entity id =
      (c.find entity id).map (Json.merged given) := by
  -- an update is a change of the first record with the id, and the merged record keeps that id
  rw [after_update]
  cases hrecords : c.get? entity with
  | none =>
    rw [alter_of_get?_eq_none hrecords, find, records, hrecords]
    rfl
  | some stored =>
    rw [alter_of_get? hrecords, find, records, Keyed.get?_replace_self hrecords, find, records,
      hrecords]
    simp only [Except.bind, find?_modifyFirst_self (hasId_merged id given)]
    cases stored.find? (hasId id) with
    | none => rfl
    | some record => rfl

/-- What is found under another id is what it was. -/
theorem find_after_update_of_ne (h : id ≠ id') (c : Collections) (entity : String)
    (given : Keyed Json) :
    (c.after (.update entity id (.object given))).find entity id' = c.find entity id' := by
  rw [after_update]
  cases hrecords : c.get? entity with
  | none => rw [alter_of_get?_eq_none hrecords]
  | some stored =>
    rw [alter_of_get? hrecords, find, records, Keyed.get?_replace_self hrecords, find, records,
      hrecords]
    simp only [Except.bind,
      find?_modifyFirst_of_not_passes (hasId_merged id' given) (not_hasId_of_ne h)]

/-- Updates of different ids leave the same collections in either order. -/
theorem after_updates_comm_of_ne (h : id ≠ id') (c : Collections) (entity : String)
    (given others : Keyed Json) :
    let a := Call.update entity id (.object given)
    let b := Call.update entity id' (.object others)
    (c.after a).after b = (c.after b).after a := by
  intro a b
  rw [after_update, after_update, after_update, after_update, alter_alter, alter_alter]
  congr 1
  funext records
  exact modifyFirst_comm (hasId_merged id' given) (hasId_merged id others) (not_hasId_of_ne h) records

/-- So do updates of one id that share no attribute but `id`. -/
theorem after_updates_comm {given others : Keyed Json}
    (h : ∀ entry ∈ given, ∀ other ∈ others, entry.1 = other.1 → entry.1 = "id")
    (c : Collections) (entity : String) (id : UInt64) :
    let a := Call.update entity id (.object given)
    let b := Call.update entity id (.object others)
    (c.after a).after b = (c.after b).after a := by
  -- both orders are two changes of one record in a row, which merge to the same
  intro a b
  rw [after_update, after_update, after_update, after_update, alter_alter, alter_alter]
  congr 1
  funext records
  show modifyFirst _ _ (modifyFirst _ _ records) = modifyFirst _ _ (modifyFirst _ _ records)
  rw [modifyFirst_modifyFirst (hasId_merged id given),
    modifyFirst_modifyFirst (hasId_merged id others)]
  congr 1
  funext record
  exact Json.merged_comm h record

end Collections

/-! ## On a store -/

namespace Store

variable {σ : Type} {s : Store σ} {a b : Call}

/-- In either order two calls leave the same collections, and each answers as it does without the other. -/
structure Commute (s : Store σ) (a b : Call) : Prop where
  collections : ((s.call a).2.call b).2.collections = ((s.call b).2.call a).2.collections
  left : ((s.call b).2.call a).1 = (s.call a).1
  right : ((s.call a).2.call b).1 = (s.call b).1

/-- What is called about another entity has no effect on an answer. -/
theorem answer_call_of_ne (h : b.entity ≠ a.entity) : ((s.call a).2.call b).1 = (s.call b).1 := by
  have hget : (s.collections.after a).get? b.entity = s.collections.get? b.entity :=
    Collections.get?_after_of_ne h
  rw [answer_call, answer_call, collections_call, Call.change_of_get?_eq hget]
  cases b.change s.collections with
  | error e => rfl
  | ok change => rfl

theorem commute_of_entity_ne (h : a.entity ≠ b.entity) : s.Commute a b where
  collections := by
    simp only [collections_call]
    exact Collections.after_comm h
  left := answer_call_of_ne h
  right := answer_call_of_ne h.symm

/-- A call that can only fail commutes with every call. -/
theorem commute_of_fails {e : StoreError} (h : ∀ t : Store σ, t.call a = (.error e, t))
    (b : Call) : s.Commute a b where
  collections := by rw [h, h]
  left := by rw [h, h]
  right := by rw [h]

theorem Commute.symm (h : s.Commute a b) : s.Commute b a where
  collections := h.collections.symm
  left := h.right
  right := h.left

/-- An update without an object fails before it looks at the store. -/
theorem call_update_of_not_object {attributes : Json} (h : attributes.fields? = none)
    (entity : String) (id : UInt64) (t : Store σ) :
    t.call (.update entity id attributes) = (.error .invalidAttributes, t) := by
  cases attributes with
  | object fields => cases h
  | null | bool | number | string | array => rfl

theorem commute_updates_of_ne {id id' : UInt64} (h : id ≠ id') (entity : String)
    (attributes others : Json) :
    s.Commute (.update entity id attributes) (.update entity id' others) := by
  -- an update whose attributes are no object fails whatever was called before
  cases attributes with
  | object given =>
    cases others with
    | object others =>
      constructor
      · simp only [collections_call]
        exact Collections.after_updates_comm_of_ne h s.collections entity given others
      · rw [call_update_eq_find, call_update_eq_find, collections_call,
          Collections.find_after_update_of_ne h.symm]
      · rw [call_update_eq_find, call_update_eq_find, collections_call,
          Collections.find_after_update_of_ne h]
    | null | bool | number | string | array =>
      exact (commute_of_fails (call_update_of_not_object rfl entity id') _).symm
  | null | bool | number | string | array =>
    exact commute_of_fails (call_update_of_not_object rfl entity id) _

/-- After an update of the same record with other attributes, an update answers the record with both. -/
theorem answer_call_update_again (s : Store σ) (entity : String) (id : UInt64)
    (given others : Keyed Json) :
    ((s.call (.update entity id (.object given))).2.call (.update entity id (.object others))).1 =
      (s.collections.find entity id).map fun record => .one ((record.merged given).merged others) := by
  rw [call_update_eq_find, collections_call, Collections.find_after_update_self]
  cases s.collections.find entity id with
  | error e => rfl
  | ok record => rfl

/-- Calls about different entities leave the same collections in either order, and each answers as it does without
the other, whether they succeed or fail. The same holds of two updates of one entity that address different ids. Two
updates of one id that share no attribute but `id` leave the same collections in either order too. Then each fails
where it does without the other, with the same error, and whichever comes second answers the same record. -/
theorem independent_calls_commute (s : Store σ) :
    (∀ a b : Call, a.entity ≠ b.entity → s.Commute a b) ∧
    (∀ entity id id' attributes others, id ≠ id' →
      s.Commute (.update entity id attributes) (.update entity id' others)) ∧
    ∀ entity id (given others : Keyed Json),
      (∀ entry ∈ given, ∀ other ∈ others, entry.1 = other.1 → entry.1 = "id") →
      let a := Call.update entity id (.object given)
      let b := Call.update entity id (.object others)
      ((s.call a).2.call b).2.collections = ((s.call b).2.call a).2.collections ∧
      (∀ e, ((s.call b).2.call a).1 = .error e ↔ (s.call a).1 = .error e) ∧
      (∀ e, ((s.call a).2.call b).1 = .error e ↔ (s.call b).1 = .error e) ∧
      ((s.call a).2.call b).1 = ((s.call b).2.call a).1 := by
  refine ⟨?_, ?_, ?_⟩
  · intro a b h
    exact commute_of_entity_ne h
  · intro entity id id' attributes others h
    exact commute_updates_of_ne h entity attributes others
  · intro entity id given others h a b
    refine ⟨?_, ?_, ?_, ?_⟩
    · simp only [collections_call]
      exact Collections.after_updates_comm h s.collections entity id
    · intro e
      rw [answer_call_update_again, call_update_eq_find, map_eq_error_iff, map_eq_error_iff]
    · intro e
      rw [answer_call_update_again, call_update_eq_find, map_eq_error_iff, map_eq_error_iff]
    · rw [answer_call_update_again, answer_call_update_again]
      simp only [Json.merged_comm h]

/-- A note that makes its entity, beside a deletion of all users; updates of two users; and two updates of one user
that both give an `id`, one of an age and one of a name. -/
theorem independent_calls_commute_users :
    let user (id : UInt64) := Json.object [("id", .ofId id), ("name", .string "a")]
    let s := Store.quiet [("users", [user 1, user 2])]
    let note := Call.create "notes" (.object [])
    let clear := Call.deleteWhere "users" .empty
    let aged : Keyed Json := [("age", .ofId 30), ("id", .ofId 9)]
    let named : Keyed Json := [("id", .ofId 8), ("name", .string "b")]
    (note.entity ≠ clear.entity ∧ s.Commute note clear) ∧
      ((1 : UInt64) ≠ 2 ∧
        s.Commute (.update "users" 1 (.object aged)) (.update "users" 2 (.object named))) ∧
      (∀ entry ∈ aged, ∀ other ∈ named, entry.1 = other.1 → entry.1 = "id") ∧
      ((s.call (.update "users" 1 (.object aged))).2.call (.update "users" 1 (.object named))).1 =
        ((s.call (.update "users" 1 (.object named))).2.call (.update "users" 1 (.object aged))).1 := by
  intro user s note clear aged named
  -- the three laws at one store, each used with the calls that it is about
  obtain ⟨hentities, hids, hattributes⟩ := independent_calls_commute s
  have hentity : note.entity ≠ clear.entity := by decide
  have hid : (1 : UInt64) ≠ 2 := by decide
  have hnames : ∀ entry ∈ aged, ∀ other ∈ named, entry.1 = other.1 → entry.1 = "id" := by decide
  obtain ⟨-, -, -, hsame⟩ := hattributes "users" 1 aged named hnames
  exact ⟨⟨hentity, hentities note clear hentity⟩, ⟨hid, hids "users" 1 2 _ _ hid⟩, hnames, hsame⟩

end Store

end RecordFilter
