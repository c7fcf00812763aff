import RecordFilter.Proofs.Json.Order
import RecordFilter.Proofs.Number.Rounding
import RecordFilter.Proofs.Store.Atomicity
import RecordFilter.Proofs.Store.Merging

/-!
# What an update does, and what its event tells

An update merges the attributes it is given into the first record with an id. Its event is the record as it
is now, and gives the attributes that have changed under `updated_data`. So all of the record can be read off
it but an attribute of that name.

* `Change.find_merging`: after an update the record is found as what the attributes were merged into.
* `Call.update_again`: what the update has made of the collections, the same update leaves alone.
* `Store.update_tells_record` says what can be read off the events of an update.
* `Store.update_merges_changes` says what is merged and told, and that all of it happens once.
-/

namespace RecordFilter

variable {c : Collections} {entity : String} {id : UInt64} {records before after : List Json}

/-! ## The record before and after -/

theorem Collections.find_of_isFirst {record : Json} (hrecords : c.get? entity = some records)
    (hfirst : IsFirst (hasId id) records before record after) : c.find entity id = .ok record := by
  rw [find, Collections.records, hrecords]
  simp only [Except.bind, hfirst.find?]

variable {fields : Keyed Json}

/-- An update keeps a record the first one with its id. -/
theorem isFirst_merge
    (hfirst : IsFirst (Collections.hasId id) records before (.object fields) after)
    (attributes : Keyed Json) :
    let now := Json.object (merge fields (Keyed.remove "id" attributes)).fields
    IsFirst (Collections.hasId id) (before ++ now :: after) before now after := by
  refine hfirst.replaced ?_
  have hid := hfirst.passes
  rwa [Collections.hasId, ← recordId?_merge fields attributes, ← Collections.hasId] at hid

theorem Change.get?_merging (hrecords : c.get? entity = some records) (put : Json → List Json)
    (merged : Merge) :
    (merging c entity put merged).collections.get? entity = some (put (.object merged.fields)) :=
  Keyed.get?_replace_self hrecords _

/-- After an update the record is found as what the attributes were merged into. -/
theorem Change.find_merging (hrecords : c.get? entity = some records)
    (hfirst : IsFirst (Collections.hasId id) records before (.object fields) after)
    (attributes : Keyed Json) :
    let merged := merge fields (Keyed.remove "id" attributes)
    (merging c entity (fun record => before ++ record :: after) merged).collections.find entity id =
      .ok (.object merged.fields) :=
  Collections.find_of_isFirst (get?_merging hrecords _ _) (isFirst_merge hfirst attributes)

/-! ## The same update again -/

/-- An update that changes collections merges the attributes of an object into the first record with the id. -/
theorem Call.update_of_change {attributes : Json} {change : Change}
    (h : (Call.update entity id attributes).change c = .ok change) :
    ∃ (given fields : Keyed Json) (records before after : List Json),
      attributes = .object given ∧ c.get? entity = some records ∧
      IsFirst (Collections.hasId id) records before (.object fields) after ∧
      change = .merging c entity (fun record => before ++ record :: after)
        (merge fields (Keyed.remove "id" given)) := by
  cases Call.makes_of_change h with
  | update hrecords hfirst => exact ⟨_, _, _, _, _, rfl, hrecords, hfirst, rfl⟩

theorem Call.change_update (hrecords : c.get? entity = some records)
    (hfirst : IsFirst (Collections.hasId id) records before (.object fields) after)
    (attributes : Keyed Json) :
    (Call.update entity id (.object attributes)).change c =
      .ok (.merging c entity (fun record => before ++ record :: after)
        (merge fields (Keyed.remove "id" attributes))) := by
  rw [Call.change, hrecords]
  simp only [hfirst.focus?]

/-- Where nothing is collected, a merge leaves the collections as they are, and nothing is told. -/
theorem Change.merging_of_dirty_eq_nil {put : Json → List Json} {merged : Merge}
    (hdirty : merged.dirty = []) (hput : c.get? entity = some (put (.object merged.fields))) :
    merging c entity put merged = ⟨.one (.object merged.fields), c, []⟩ := by
  rw [merging, hdirty, Keyed.replace_eq_self hput]
  rfl

/-- What an update has made of the collections, the same update leaves alone: it answers the same record, and
tells nothing. -/
theorem Call.update_again {attributes : Json} {change : Change} (hordered : attributes.Ordered)
    (h : (Call.update entity id attributes).change c = .ok change) :
    (Call.update entity id attributes).change change.collections =
      .ok ⟨change.answer, change.collections, []⟩ := by
  obtain ⟨given, fields, records, before, after, rfl, hrecords, hfirst, rfl⟩ := update_of_change h
  have hkeys : given.Ordered := (Json.ordered_object_iff.mp hordered).1
  have hnow := Change.get?_merging hrecords (fun record => before ++ record :: after)
    (merge fields (Keyed.remove "id" given))
  have hdirty := dirty_merge_again (hkeys.remove "id") fields
  -- nothing differs any more, so the record stays what it is
  have hfields := merge_fields_of_isEmpty (List.isEmpty_iff.mpr hdirty)
  rw [change_update hnow (isFirst_merge hfirst given),
    Change.merging_of_dirty_eq_nil hdirty (by rw [hfields]; exact hnow), hfields]
  rfl

/-! ## The event -/

theorem Change.events_merging (put : Json → List Json) {merged : Merge} (h : merged.dirty ≠ []) :
    (merging c entity put merged).events =
      [fun exchange => .updated exchange entity (.object merged.fields) (.object merged.dirty)] := by
  have hchanged : ¬merged.dirty.isEmpty = true := by simpa using h
  rw [merging, if_neg hchanged]

theorem Change.eq_updated_of_mem_events {put : Json → List Json} {merged : Merge} {exchange : String}
    {e : ChangeEvent} (h : e ∈ (merging c entity put merged).events.map (· exchange)) :
    e = .updated exchange entity (.object merged.fields) (.object merged.dirty) := by
  rw [merging] at h
  split at h
  · cases h
  · exact List.mem_singleton.mp h

namespace Store

variable {σ : Type}

/-- The event of an update tells the record as it is found now: every attribute but `updated_data` is read off
the payload as it is in the record. Under `updated_data` stand attributes of the record, and among them are
all that the update has changed. -/
theorem update_tells_record (s : Store σ) (entity : String) (id : UInt64) (attributes : Json)
    (e : ChangeEvent) (he : e ∈ s.handed (.update entity id attributes)) :
    ∃ old new changed : Keyed Json,
      s.collections.find entity id = .ok (.object old) ∧
      (s.call (.update entity id attributes)).1 = .ok (.one (.object new)) ∧
      (s.call (.update entity id attributes)).2.collections.find entity id = .ok (.object new) ∧
      (e.exchange = s.exchange ∧ e.entity = entity ∧ e.kind = .updated) ∧
      (∀ key, key ≠ "updated_data" → e.payload.field? key = new.get? key) ∧
      e.payload.field? "updated_data" = some (.object changed) ∧
      (∀ key value, changed.get? key = some value → new.get? key = some value) ∧
      ∀ key, new.get? key ≠ old.get? key → changed.get? key = new.get? key := by
  -- a call that fails hands nothing over, so the update was made
  cases hchange : (Call.update entity id attributes).change s.collections with
  | error error =>
    rw [handed_of_change_error hchange] at he
    cases he
  | ok change =>
    rw [handed_of_change_ok hchange] at he
    rw [call_eq_carryOut, hchange]
    cases Call.makes_of_change hchange with
    | @update _ _ attributes old records before after hrecords hfirst =>
      obtain rfl := Change.eq_updated_of_mem_events he
      exact ⟨old, _, _, Collections.find_of_isFirst hrecords hfirst, rfl,
        Change.find_merging hrecords hfirst attributes, ⟨rfl, rfl, rfl⟩,
        fun key hkey => ChangeEvent.field?_updated_of_ne hkey _ _ _ _,
        ChangeEvent.field?_updated_self _ _ _ _, fun key value => get?_merge_of_dirty,
        fun key => get?_dirty_of_ne⟩

/-- A store with one user, who has an attribute `updated_data`. -/
def oddlyNamed : Store Unit :=
  Store.quiet [("users", [.object [("id", .ofId 1), ("updated_data", .string "x")]])]

/-- The event of an update of that user. -/
def oddlyNamedEvent : ChangeEvent where
  exchange := defaultExchange
  entity := "users"
  kind := .updated
  payload := .object [("id", .ofId 1), ("name", .string "b"),
    ("updated_data", .object [("name", .string "b")])]

/-- The event tells the name of the user as the store has it. -/
theorem update_tells_record_name :
    oddlyNamedEvent ∈ oddlyNamed.handed (.update "users" 1 (.object [("name", .string "b")])) ∧
      ∃ new : Keyed Json,
        (oddlyNamed.call (.update "users" 1 (.object [("name", .string "b")]))).1 =
          .ok (.one (.object new)) ∧
        oddlyNamedEvent.payload.field? "name" = new.get? "name" := by
  have hhanded : oddlyNamedEvent ∈
      oddlyNamed.handed (.update "users" 1 (.object [("name", .string "b")])) := by
    decide
  obtain ⟨old, new, changed, -, hanswer, -, -, htells, -⟩ :=
    update_tells_record oddlyNamed "users" 1 (.object [("name", .string "b")]) oddlyNamedEvent hhanded
  exact ⟨hhanded, new, hanswer, htells "name" (by decide)⟩

/-- The attribute `updated_data` of the user is not told: other things stand there. -/
theorem update_hides_attribute :
    oddlyNamedEvent ∈ oddlyNamed.handed (.update "users" 1 (.object [("name", .string "b")])) ∧
      (oddlyNamed.call (.update "users" 1 (.object [("name", .string "b")]))).1 =
        .ok (.one (.object [("id", .ofId 1), ("name", .string "b"), ("updated_data", .string "x")])) ∧
      oddlyNamedEvent.payload.field? "updated_data" ≠ some (.string "x") :=
  ⟨by decide, rfl, by decide⟩

/-! ## What is merged -/

/-- A call that succeeds makes a change, and answers what it does. -/
theorem change_of_call_eq_ok {s : Store σ} {call : Call} {answer : Answer}
    (h : (s.call call).1 = .ok answer) :
    ∃ change, call.change s.collections = .ok change ∧ change.answer = answer ∧
      (s.call call).2.collections = change.collections := by
  rw [call_eq_carryOut] at h ⊢
  cases hchange : call.change s.collections with
  | error error =>
    rw [hchange] at h
    cases h
  | ok change =>
    rw [hchange] at h
    exact ⟨change, rfl, Except.ok.inj h, rfl⟩

/-- An update that has been made answers the same record again, leaves the store alone and tells nothing. -/
theorem call_update_again {s : Store σ} {attributes : Json} {answer : Answer}
    (hordered : attributes.Ordered)
    (hanswer : (s.call (.update entity id attributes)).1 = .ok answer) :
    let call := Call.update entity id attributes
    let s' := (s.call call).2
    (s'.call call).1 = .ok answer ∧ (s'.call call).2.collections = s'.collections ∧
      s'.handed call = [] := by
  intro call s'
  obtain ⟨change, hchange, rfl, hs'⟩ := change_of_call_eq_ok hanswer
  -- the second update finds the record as the first one left it, and has nothing to change there
  have hagain : call.change s'.collections = .ok ⟨change.answer, s'.collections, []⟩ := by
    show (Call.update entity id attributes).change (s.call _).2.collections = _
    rw [hs']
    exact Call.update_again hordered hchange
  refine ⟨?_, ?_, handed_of_change_ok hagain⟩
  · rw [call_eq_carryOut, hagain]
    rfl
  · rw [call_eq_carryOut, hagain]
    rfl

/-- What an update merges are the attributes that are not `id` and that the record lacks or has with another
value. The record it answers, which is the one found from then on, has these and is what it was otherwise; so all
attributes given but `id` are in it. Where there are such attributes, one event is handed over, with just them
under `updated_data`, and otherwise none. The same call again answers the same record, leaves all collections
alone and tells nothing. The attributes are ordered, as all values are that were read. -/
theorem update_merges_changes (s : Store σ) (entity : String) (id : UInt64) (attributes : Json)
    (answer : Answer) (hordered : attributes.Ordered)
    (hanswer : (s.call (.update entity id attributes)).1 = .ok answer) :
    let call := Call.update entity id attributes
    let s' := (s.call call).2
    ∃ given old new changed : Keyed Json,
      attributes = .object given ∧
      s.collections.find entity id = .ok (.object old) ∧
      answer = .one (.object new) ∧
      s'.collections.find entity id = .ok (.object new) ∧
      changed = given.filter (fun entry => entry.1 ≠ "id" ∧ Differs old entry) ∧
      (∀ key, new.get? key = (changed.get? key).or (old.get? key)) ∧
      (∀ entry ∈ given, entry.1 ≠ "id" →
        ∃ value, new.get? entry.1 = some value ∧ value.sameAs entry.2 = true) ∧
      (changed = [] → s.handed call = []) ∧
      (changed ≠ [] → ∃ e, s.handed call = [e] ∧ e.entity = entity ∧ e.kind = .updated ∧
        e.payload.field? "updated_data" = some (.object changed)) ∧
      (s'.call call).1 = .ok answer ∧
      (s'.call call).2.collections = s'.collections ∧
      s'.handed call = [] := by
  intro call s'
  obtain ⟨change, hchange, rfl, hs'⟩ := change_of_call_eq_ok hanswer
  obtain ⟨given, old, records, before, after, rfl, hrecords, hfirst, rfl⟩ :=
    Call.update_of_change hchange
  -- what the merge leaves out is exactly `id`, so the keys it compares are the others
  have hkeys : (Keyed.remove "id" given).Ordered := (Json.ordered_object_iff.mp hordered).1.remove "id"
  have hhanded := handed_of_change_ok hchange
  refine ⟨given, old, _, _, rfl, Collections.find_of_isFirst hrecords hfirst, rfl, ?_, ?_,
    get?_merge old _, ?_, ?_, ?_, call_update_again hordered hanswer⟩
  · show (s.call _).2.collections.find entity id = _
    rw [hs']
    exact Change.find_merging hrecords hfirst given
  · rw [dirty_merge hkeys, Keyed.remove_eq_filter, List.filter_filter]
    simp only [Bool.decide_and, Bool.and_comm]
  · intro entry hentry hid
    refine not_differs_iff.mp (not_differs_merge hkeys old entry ?_)
    rw [Keyed.remove_eq_filter]
    exact List.mem_filter.mpr ⟨hentry, by simpa using hid⟩
  · intro hnone
    rw [hhanded, Change.merging, hnone]
    rfl
  · intro hchanged
    rw [hhanded, Change.events_merging _ hchanged]
    exact ⟨_, rfl, rfl, rfl, ChangeEvent.field?_updated_self _ _ _ _⟩

/-- A user gets an age. The name that is given is the one of the user, the rate differs by the sign of its zero
only, and the id is not for a client to set. -/
theorem update_merges_changes_age :
    let zero (negative : Bool) := Json.number (.float ⟨negative, 0, Binary64.representable_zero⟩)
    let old : Keyed Json := [("id", .ofId 1), ("name", .string "a"), ("rate", zero false)]
    let given : Keyed Json :=
      [("age", .ofId 30), ("id", .ofId 9), ("name", .string "a"), ("rate", zero true)]
    let new : Keyed Json :=
      [("age", .ofId 30), ("id", .ofId 1), ("name", .string "a"), ("rate", zero false)]
    let s := Store.quiet [("users", [.object old])]
    let call := Call.update "users" 1 (.object given)
    (Json.object given).Ordered ∧ (s.call call).1 = .ok (.one (.object new)) ∧
      (∃ e, s.handed call = [e] ∧
        e.payload.field? "updated_data" = some (.object [("age", .ofId 30)])) ∧
      ((s.call call).2.call call).1 = .ok (.one (.object new)) ∧
      (s.call call).2.handed call = [] := by
  intro zero old given new s call
  have hordered : (Json.object given).Ordered := by
    refine Json.ordered_object_iff.mpr ⟨?_, ?_⟩
    · show given.Pairwise fun a b => a.1 < b.1
      decide
    · rw [List.forall_mem_cons, List.forall_mem_cons, List.forall_mem_cons, List.forall_mem_singleton]
      exact ⟨.number _, .number _, .string _, .number _⟩
  have hanswer : (s.call call).1 = .ok (.one (.object new)) := by decide +kernel
  obtain ⟨given', old', new', changed, hgiven, hold, -, -, hchanged, -, -, -, htold, hagain, -, hsilent⟩ :=
    update_merges_changes s "users" 1 (.object given) _ hordered hanswer
  cases hgiven
  cases hold
  have hage : changed = [("age", .ofId 30)] := by
    rw [hchanged]
    decide +kernel
  obtain ⟨e, he, -, -, hdata⟩ := htold (by simp [hage])
  exact ⟨hordered, hanswer, ⟨e, he, by rw [hdata, hage]⟩, hagain, hsilent⟩

end Store

end RecordFilter
