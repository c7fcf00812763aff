import RecordFilter.Proofs.Keyed
import RecordFilter.Proofs.Store.Calls

/-!
# What holds of all records

Calls add a record, merge attributes into one, or remove some, and leave all others as they are. So what holds of
the records at first, and of those that calls make and update, holds of all records from then on.

* `Collections.Holds` says that something holds of all records.
* `Call.Keeps` says that a call makes and updates only records of which it holds.
* `Call.Makes.holds` is one call, `Store.holds_callAll` any number of them.
-/

namespace RecordFilter

variable {P : Json → Prop} {c : Collections}

namespace Collections

/-- Something holds of every record of every entity. -/
def Holds (P : Json → Prop) (c : Collections) : Prop :=
  ∀ e ∈ c, ∀ record ∈ e.2, P record

theorem Holds.of_get? (h : c.Holds P) {entity : String} {records : List Json}
    (hrecords : c.get? entity = some records) : ∀ record ∈ records, P record :=
  h _ (Keyed.mem_of_get?_eq_some hrecords)

theorem Holds.stock (h : c.Holds P) (entity : String) : ∀ record ∈ c.stock entity, P record := by
  intro record hrecord
  rw [Collections.stock] at hrecord
  cases hget : c.get? entity with
  | none =>
    rw [hget] at hrecord
    cases hrecord
  | some records =>
    rw [hget] at hrecord
    exact h.of_get? hget record hrecord

theorem Holds.replace (h : c.Holds P) (entity : String) {records : List Json}
    (hrecords : ∀ record ∈ records, P record) : Holds P (c.replace entity records) := by
  intro e he
  rcases Keyed.mem_replace he with rfl | he
  · exact hrecords
  · exact h e he

theorem Holds.ensure (h : c.Holds P) (entity : String) : Holds P (c.ensure entity []) := by
  intro e he
  rcases Keyed.mem_ensure he with rfl | he
  · intro record hrecord
    cases hrecord
  · exact h e he

end Collections

/-- What a call makes of attributes, and of a record into which it merges them, is a record of which `P` holds. -/
def Call.Keeps (P : Json → Prop) : Call → Prop
  | .create _ (.object attributes) => ∀ id, P (newRecord id attributes)
  | .update _ _ (.object attributes) =>
    ∀ fields, P (.object fields) → P (.object (merge fields (Keyed.remove "id" attributes)).fields)
  | _ => True

/-- What holds of all records holds of them after the change of a call that keeps it. -/
theorem Call.Makes.holds {call : Call} {change : Change} (h : call.Makes c change)
    (hkeeps : call.Keeps P) (hc : c.Holds P) : change.collections.Holds P := by
  cases h with
  | create hid =>
    rename_i entity attributes id
    refine (hc.ensure entity).replace entity ?_
    rw [List.forall_mem_append, List.forall_mem_singleton]
    exact ⟨hc.stock entity, hkeeps id⟩
  | update hrecords hfirst =>
    rename_i entity id attributes fields records before after
    -- the records around the first one with the id are what they were
    obtain ⟨hbefore, hfields, hafter⟩ := hfirst.forall_mem (hc.of_get? hrecords)
    refine hc.replace entity ?_
    rw [List.forall_mem_append, List.forall_mem_cons]
    exact ⟨hbefore, hkeeps fields hfields, hafter⟩
  | delete hrecords hfirst =>
    rename_i entity id records before after record
    obtain ⟨hbefore, -, hafter⟩ := hfirst.forall_mem (hc.of_get? hrecords)
    refine hc.replace entity ?_
    rw [List.forall_mem_append]
    exact ⟨hbefore, hafter⟩
  | deleteWhere hrecords =>
    rename_i entity plan records
    refine hc.replace entity ?_
    intro record hrecord
    exact hc.of_get? hrecords record (List.mem_filter.mp hrecord).1

namespace Store

variable {σ : Type} {s : Store σ}

theorem holds_call (hs : s.collections.Holds P) {call : Call} (hkeeps : call.Keeps P) :
    (s.call call).2.collections.Holds P := by
  rcases s.call_cases call with ⟨e, herror⟩ | ⟨change, hmakes, hdone⟩
  · rw [herror]
    exact hs
  · rw [hdone]
    exact hmakes.holds hkeeps hs

/-- What holds of all records holds of them after calls that keep it, whether these succeed or not. -/
theorem holds_callAll (hs : s.collections.Holds P) {calls : List Call}
    (hkeeps : ∀ call ∈ calls, call.Keeps P) : (s.callAll calls).collections.Holds P := by
  induction calls generalizing s with
  | nil => exact hs
  | cons call calls ih =>
    obtain ⟨hcall, hcalls⟩ := List.forall_mem_cons.mp hkeeps
    exact ih (holds_call hs hcall) hcalls

end Store

end RecordFilter
