import RecordFilter.Proofs.Store.Calls
import RecordFilter.Proofs.Store.Merging

/-!
# Replaying the events of a store

The events tell all that happens to the records: who has the collections that a store began with, and
its events, can make the collections that it has now.

* `Collections.replayEvent` does to collections what an event tells, `Collections.replay` goes through
  events in their order.
* `Call.replay_of_makes`: the events of a change replay it.
* `Store.replay_recorded`: the recorded events of any calls replay them.
-/

namespace RecordFilter

/-! ## What an event tells -/

/-- The attributes that an event gives under `updated_data`. -/
def ChangeEvent.updatedData (e : ChangeEvent) : Keyed Json :=
  ((e.payload.field? "updated_data").bind Json.fields?).getD []

/-- A record with attributes overwritten. -/
def Json.overwrite (attributes : Keyed Json) : Json → Json
  | .object fields => .object (Keyed.putAll fields attributes)
  | value => value

namespace Collections

/-- Changes the records of an entity that is there. -/
def alter (c : Collections) (entity : String) (f : List Json → List Json) : Collections :=
  match c.get? entity with
  | none => c
  | some records => c.replace entity (f records)

/-- Does to collections what an event tells: the payload is added to its entity, attributes of the first
record with the id of the payload are overwritten, or the first record that is the payload is removed. -/
def replayEvent (c : Collections) (e : ChangeEvent) : Collections :=
  match e.kind with
  | .created => Collections.alter (c.ensure e.entity []) e.entity (· ++ [e.payload])
  | .updated =>
    c.alter e.entity fun records =>
      records.modify (records.findIdx fun record => recordId? record = recordId? e.payload)
        (Json.overwrite e.updatedData)
  | .deleted => c.alter e.entity (·.erase e.payload)

/-- Does what events tell, one after the other. -/
def replay (c : Collections) (events : List ChangeEvent) : Collections :=
  events.foldl replayEvent c

@[simp] theorem replay_nil (c : Collections) : c.replay [] = c := rfl

@[simp] theorem replay_cons (c : Collections) (e : ChangeEvent) (events : List ChangeEvent) :
    c.replay (e :: events) = (c.replayEvent e).replay events := rfl

theorem replay_append (c : Collections) (events more : List ChangeEvent) :
    c.replay (events ++ more) = (c.replay events).replay more :=
  List.foldl_append

theorem alter_of_get? {c : Collections} {entity : String} {records : List Json}
    (h : c.get? entity = some records) (f : List Json → List Json) :
    c.alter entity f = c.replace entity (f records) := by
  rw [alter, h]

theorem alter_of_get?_eq_none {c : Collections} {entity : String} (h : c.get? entity = none)
    (f : List Json → List Json) : c.alter entity f = c := by
  rw [alter, h]

/-- Two alterations of one entity are one. -/
theorem alter_alter (c : Collections) (entity : String) (f g : List Json → List Json) :
    (c.alter entity f).alter entity g = c.alter entity (g ∘ f) := by
  cases hrecords : c.get? entity with
  | none =>
    rw [alter_of_get?_eq_none hrecords, alter_of_get?_eq_none hrecords,
      alter_of_get?_eq_none hrecords]
  | some records =>
    have hnow : (c.alter entity f).get? entity = some (f records) := by
      rw [alter_of_get? hrecords, Keyed.get?_replace_self hrecords]
    rw [alter_of_get? hnow, alter_of_get? hrecords, Keyed.replace_replace, alter_of_get? hrecords]
    rfl

end Collections

/-! ## One change -/

/-- The payload of an update is addressed as the record is. -/
theorem ChangeEvent.recordId?_updated (exchange entity : String) (fields : Keyed Json)
    (changed : Json) :
    recordId? (ChangeEvent.updated exchange entity (.object fields) changed).payload =
      recordId? (.object fields) := by
  rw [recordId?, field?_updated_of_ne (by decide)]
  rfl

/-- It gives the attributes that changed, also where the record has an attribute of that name. -/
theorem ChangeEvent.updatedData_updated (exchange entity : String) (fields changed : Keyed Json) :
    (ChangeEvent.updated exchange entity (.object fields) (.object changed)).updatedData =
      changed := by
  rw [updatedData, field?_updated_self]
  rfl

namespace Collections

variable (c : Collections) (entity exchange : String)

theorem replay_adding (record : Json) :
    c.replay ((Change.adding c entity record).events.map (· exchange)) =
      (Change.adding c entity record).collections := by
  show Collections.alter (c.ensure entity []) entity (· ++ [record]) = _
  rw [alter_of_get? (get?_ensure_self c entity)]
  rfl

variable {c entity} {records before after : List Json}

theorem replay_merging {id : UInt64} {fields attributes : Keyed Json}
    (hrecords : c.get? entity = some records)
    (hfirst : IsFirst (hasId id) records before (.object fields) after) :
    let change := Change.merging c entity (fun record => before ++ record :: after)
      (merge fields (Keyed.remove "id" attributes))
    c.replay (change.events.map (· exchange)) = change.collections := by
  have hid : recordId? (.object fields) = some id := by simpa [hasId] using hfirst.passes
  have hmerged := recordId?_merge fields attributes
  have hfields := merge_fields fields (Keyed.remove "id" attributes)
  have hsame := @merge_fields_of_isEmpty fields (Keyed.remove "id" attributes)
  -- from here on only what the lemmas say of the merge is used
  generalize merge fields (Keyed.remove "id" attributes) = merged at hmerged hfields hsame
  simp only [Change.merging]
  split
  · -- nothing is told, and nothing has been changed
    rename_i hempty
    rw [hsame hempty, ← hfirst.eq_append, Keyed.replace_eq_self hrecords]
    rfl
  · have hplace : records.modify (records.findIdx (hasId id)) (Json.overwrite merged.dirty) =
        before ++ .object merged.fields :: after := by
      rw [hfirst.modify, Json.overwrite, hfields]
    simp only [List.map_cons, List.map_nil, replay_cons, replay_nil]
    show c.alter entity _ = _
    rw [alter_of_get? hrecords, ChangeEvent.updatedData_updated, ChangeEvent.recordId?_updated,
      hmerged, hid]
    exact congrArg (Keyed.replace entity · c) hplace

/-- Records that are removed one by one are gone in the end. -/
theorem replay_deleted (hrecords : c.get? entity = some records) (removed : List Json) :
    c.replay (removed.map fun record => ⟨exchange, entity, .deleted, record⟩) =
      c.replace entity (removed.foldl List.erase records) := by
  induction removed generalizing c records with
  | nil => exact (Keyed.replace_eq_self hrecords).symm
  | cons record removed ih =>
    have hget : (c.replace entity (records.erase record)).get? entity =
        some (records.erase record) :=
      Keyed.get?_replace_self hrecords _
    rw [List.map_cons, replay_cons]
    show Collections.replay (c.alter entity _) _ = _
    rw [alter_of_get? hrecords, ih hget, Keyed.replace_replace, List.foldl_cons]

theorem replay_removing (hrecords : c.get? entity = some records) (answer : Answer)
    {removed kept : List Json} (herase : removed.foldl List.erase records = kept) :
    c.replay ((Change.removing c entity answer removed kept).events.map (· exchange)) =
      (Change.removing c entity answer removed kept).collections := by
  simp only [Change.removing, List.map_map]
  rw [← herase]
  exact replay_deleted exchange hrecords removed

end Collections

/-- The events of a change replay it. -/
theorem Call.replay_of_makes {c : Collections} {call : Call} {change : Change}
    (h : call.Makes c change) (exchange : String) :
    c.replay (change.events.map (· exchange)) = change.collections := by
  cases h with
  | create hid => exact Collections.replay_adding c _ exchange _
  | update hrecords hfirst => exact Collections.replay_merging exchange hrecords hfirst
  | delete hrecords hfirst => exact Collections.replay_removing exchange hrecords _ hfirst.erase
  | deleteWhere hrecords =>
    exact Collections.replay_removing exchange hrecords _ (foldl_erase_filter _ _)

/-! ## Runs -/

/-- The store records its events, and they replay to its collections. -/
structure Store.ReplaysFrom (start : Collections) (s : Store (List ChangeEvent)) : Prop where
  records : s.publisher = .recorder
  replay_eq : start.replay s.sink = s.collections

theorem Store.ReplaysFrom.call {start : Collections} {s : Store (List ChangeEvent)}
    (h : s.ReplaysFrom start) (call : Call) : (s.call call).2.ReplaysFrom start := by
  rcases s.call_cases call with ⟨e, hcall⟩ | ⟨change, hmakes, hcall⟩
  · rw [hcall]
    exact h
  · rw [hcall]
    constructor
    · exact h.records
    · show start.replay (s.publisher.publishAll _ s.sink) = change.collections
      rw [h.records, Publisher.publishAll_recorder, Collections.replay_append, h.replay_eq]
      exact Call.replay_of_makes hmakes s.exchange

theorem Store.ReplaysFrom.callAll {start : Collections} {s : Store (List ChangeEvent)}
    (h : s.ReplaysFrom start) (calls : List Call) : (s.callAll calls).ReplaysFrom start := by
  induction calls generalizing s with
  | nil => exact h
  | cons call calls ih => exact ih (h.call call)

/-- Whatever a store begins with and whatever is called, the recorded events replay to its collections. -/
theorem Store.replay_recorded (start : Collections) (exchange : String) (calls : List Call) :
    let s := ((Store.quiet start).withPublisher .recorder [] exchange).callAll calls
    start.replay s.sink = s.collections := by
  have hstart : ((Store.quiet start).withPublisher .recorder [] exchange).ReplaysFrom start :=
    ⟨rfl, rfl⟩
  exact (hstart.callAll calls).replay_eq

end RecordFilter
