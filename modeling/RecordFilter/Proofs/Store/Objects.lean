import RecordFilter.Proofs.Store.Located
import RecordFilter.Proofs.Store.Saving

/-!
# Records are objects

A document is refused unless all its records are objects, and no call makes anything else of them. An update does
fail on what is no object, and the event of an update would tell nothing there, but neither ever happens.

* `Store.holds_isObject_callAll`: records stay objects, whatever is called.
* `Store.call_update_ne_notACollection`: an update finds no record that is no object.
* `Store.gives_changes_of_handedAll`: the events of updates tell what has changed.
* `Store.records_stay_objects` puts these together: so the collections are those of a document again.
-/

namespace RecordFilter

variable {σ : Type}

/-- Whatever a call makes or updates is an object. -/
theorem Call.keeps_isObject (call : Call) : call.Keeps fun record => record.isObject = true := by
  cases call with
  | create entity attributes =>
    cases attributes with
    | object attributes => exact fun _ => rfl
    | _ => trivial
  | update entity id attributes =>
    cases attributes with
    | object attributes => exact fun _ _ => rfl
    | _ => trivial
  | delete | deleteWhere => trivial

/-- An event, if it is one of an update, gives attributes under `updated_data`. -/
def ChangeEvent.GivesChanges (e : ChangeEvent) : Prop :=
  e.kind = .updated →
    ∃ changed, changed ≠ [] ∧ e.payload.field? "updated_data" = some (.object changed)

/-- Only a change that merges attributes tells of an update, and only where an attribute has changed. -/
theorem Call.Makes.givesChanges {c : Collections} {call : Call} {change : Change}
    (h : call.Makes c change) (exchange : String) :
    ∀ e ∈ change.events.map (· exchange), e.GivesChanges := by
  intro e he
  -- by what the call makes; only the update tells of an update, and it tells the dirty attributes
  cases h with
  | create | delete =>
    obtain rfl := List.mem_singleton.mp he
    intro hkind
    cases hkind
  | update hrecords hfirst =>
    rename_i entity id attributes fields records before after
    intro _
    refine ⟨(merge fields (Keyed.remove "id" attributes)).dirty, ?_, ?_⟩
    · intro hnone
      rw [Change.merging, hnone] at he
      cases he
    · rw [Change.eq_updated_of_mem_events he]
      exact ChangeEvent.field?_updated_self _ _ _ _
  | deleteWhere hrecords =>
    rw [Change.removing, List.map_map] at he
    obtain ⟨record, -, rfl⟩ := List.mem_map.mp he
    intro hkind
    cases hkind

namespace Store

theorem holds_isObject_callAll {s : Store σ}
    (h : s.collections.Holds fun record => record.isObject = true) (calls : List Call) :
    (s.callAll calls).collections.Holds fun record => record.isObject = true :=
  holds_callAll h fun call _ => call.keeps_isObject

/-- What an update finds has an id, and so is an object. -/
theorem call_update_ne_notACollection (s : Store σ) (entity : String) (id : UInt64) (attributes : Json)
    (name : String) : (s.call (.update entity id attributes)).1 ≠ .error (.notACollection name) := by
  cases attributes with
  | object given =>
    rw [call_update_eq_find]
    rcases s.collections.find_cases entity id with
      ⟨-, hfind⟩ | ⟨records, -, -, hfind⟩ | ⟨before, record, after, haddressed⟩
    · rw [hfind]
      rintro ⟨⟩
    · rw [hfind]
      rintro ⟨⟩
    · rw [haddressed.find]
      rintro ⟨⟩
  | null | bool | number | string | array => rintro ⟨⟩

theorem gives_changes_of_handed (s : Store σ) (call : Call) :
    ∀ e ∈ s.handed call, e.GivesChanges := by
  cases hchange : call.change s.collections with
  | error e =>
    rw [handed_of_change_error hchange]
    exact List.forall_mem_nil _
  | ok change =>
    rw [handed_of_change_ok hchange]
    exact (Call.makes_of_change hchange).givesChanges s.exchange

theorem gives_changes_of_handedAll (s : Store σ) (calls : List Call) :
    ∀ e ∈ s.handedAll calls, e.GivesChanges := by
  induction calls generalizing s with
  | nil => exact List.forall_mem_nil _
  | cons call calls ih =>
    rw [handedAll, List.forall_mem_append]
    exact ⟨s.gives_changes_of_handed call, ih (s.call call).2⟩

/-- Whatever is called, every record of a store that began with a document is an object. So an update never fails
because there is something else, every event of an update gives the changed attributes under `updated_data`, and
the document of the collections is accepted and gives the same collections. -/
theorem records_stay_objects {document : Json} (s : Store σ)
    (hstart : Collections.ofDocument document = .ok s.collections) (calls : List Call) :
    let final := s.callAll calls
    (∀ e ∈ final.collections, ∀ record ∈ e.2, record.isObject = true) ∧
    (∀ entity id attributes name,
      (final.call (.update entity id attributes)).1 ≠ .error (.notACollection name)) ∧
    (∀ e ∈ s.handedAll calls, e.kind = .updated →
      ∃ changed, changed ≠ [] ∧ e.payload.field? "updated_data" = some (.object changed)) ∧
    Collections.ofDocument final.collections.toDocument = .ok final.collections := by
  intro final
  obtain ⟨-, hobjects⟩ := (Collections.ofDocument_eq_ok_iff document s.collections).mp hstart
  have hfinal : ∀ e ∈ final.collections, ∀ record ∈ e.2, record.isObject = true :=
    holds_isObject_callAll hobjects calls
  exact ⟨hfinal, final.call_update_ne_notACollection, s.gives_changes_of_handedAll calls,
    (Collections.ofDocument_eq_ok_iff _ _).mpr ⟨rfl, hfinal⟩⟩

/-- A text is refused as the attributes of a user, then the user gets another name, and a note is made without
attributes. All is as stated, for the user, the note and the one event of an update. -/
theorem records_stay_objects_named :
    let user (name : String) := Json.object [("id", .ofId 1), ("name", .string name)]
    let note := Json.object [("id", .ofId 1)]
    let s := Store.quiet [("users", [user "a"])]
    let rename := Call.update "users" 1 (.object [("name", .string "b")])
    let calls := [Call.create "users" (.string "b"), rename, .create "notes" (.object [])]
    let final := s.callAll calls
    Collections.ofDocument (.object [("users", .array [user "a"])]) = .ok s.collections ∧
      final.collections = [("notes", [note]), ("users", [user "b"])] ∧
      (note.isObject = true ∧ (user "b").isObject = true) ∧
      (final.call (.update "notes" 2 (.object []))).1 ≠ .error (.notACollection "notes") ∧
      (∃ e ∈ s.handedAll calls, e.kind = .updated ∧
        ∃ changed, changed ≠ [] ∧ e.payload.field? "updated_data" = some (.object changed)) ∧
      Collections.ofDocument final.collections.toDocument = .ok final.collections := by
  intro user note s rename calls final
  have hstart : Collections.ofDocument (.object [("users", .array [user "a"])]) = .ok s.collections :=
    rfl
  have hfinal : final.collections = [("notes", [note]), ("users", [user "b"])] := by decide +kernel
  obtain ⟨hobjects, hupdate, hevents, hagain⟩ := records_stay_objects s hstart calls
  have hnote : note.isObject = true := hobjects ("notes", [note]) (by rw [hfinal]; simp) note (by simp)
  have huser : (user "b").isObject = true :=
    hobjects ("users", [user "b"]) (by rw [hfinal]; simp) (user "b") (by simp)
  have htold : ∃ e ∈ s.handedAll calls, e.kind = .updated := by decide +kernel
  obtain ⟨e, he, hkind⟩ := htold
  exact ⟨hstart, hfinal, ⟨hnote, huser⟩, hupdate _ _ _ _, ⟨e, he, hkind, hevents e he hkind⟩, hagain⟩

end Store

end RecordFilter
