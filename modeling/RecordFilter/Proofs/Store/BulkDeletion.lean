import RecordFilter.Proofs.Store.Atomicity

/-!
# Bulk deletions and queries

A bulk deletion takes the records that a query with its plan lists, and keeps all others. A query borrows the
records that it looks through, a deletion takes them apart; the two split the records alike.

* `Collections.query_eq_ok_iff` tells what a query lists.
* `Store.call_deleteWhere_eq_query`: a deletion answers what the query does.
* `Store.listed_and_removed_of_admits`: what satisfies the plan is listed, and then gone.
* `Store.deleteWhere_removes_listed` says what is removed, kept and told, and that nothing is left to be removed.
-/

namespace RecordFilter

namespace Collections

variable {c : Collections} {entity : String} {records : List Json} {plan : QueryPlan}

/-! ## What a query answers -/

theorem query_of_get? (h : c.get? entity = some records) (plan : QueryPlan) :
    c.query entity plan = .ok (records.filter plan.admits) := by
  rw [query, Collections.records, h]
  rfl

theorem query_of_get?_eq_none (h : c.get? entity = none) (plan : QueryPlan) :
    c.query entity plan = .error (.unknownEntity entity) := by
  rw [query, Collections.records, h]
  rfl

/-- A query lists the records of its entity that satisfy the plan. -/
theorem query_eq_ok_iff {listed : List Json} :
    c.query entity plan = .ok listed ↔
      ∃ records, c.get? entity = some records ∧ listed = records.filter plan.admits := by
  cases hrecords : c.get? entity with
  | none => simp [query_of_get?_eq_none hrecords]
  | some records => simp [query_of_get? hrecords, eq_comm]

/-- A record that satisfies the plan is not among those that are kept. -/
theorem not_mem_kept {record : Json} (hadmits : plan.admits record = true) :
    record ∉ records.filter fun record => !plan.admits record := by
  intro hrecord
  have hkept := (List.mem_filter.mp hrecord).2
  rw [hadmits] at hkept
  cases hkept

/-- Where all records that satisfy the plan are gone, it lists none. -/
theorem query_of_kept
    (h : c.get? entity = some (records.filter fun record => !plan.admits record)) :
    c.query entity plan = .ok [] := by
  have hnone : (records.filter fun record => !plan.admits record).filter plan.admits = [] := by
    rw [List.filter_eq_nil_iff]
    intro record hrecord hadmits
    exact not_mem_kept hadmits hrecord
  rw [query_of_get? h, hnone]

end Collections

namespace Store

variable {σ : Type} {s : Store σ} {entity : String} {records : List Json}

/-! ## What a bulk deletion does -/

theorem call_deleteWhere_of_none (h : s.collections.get? entity = none) (plan : QueryPlan) :
    s.call (.deleteWhere entity plan) = (.error (.unknownEntity entity), s) := by
  rw [call_deleteWhere, Call.change, h]
  rfl

/-- A deletion answers the records that the query lists, and fails where it fails. -/
theorem call_deleteWhere_eq_query (s : Store σ) (entity : String) (plan : QueryPlan) :
    (s.call (.deleteWhere entity plan)).1 = (s.collections.query entity plan).map .many := by
  cases hrecords : s.collections.get? entity with
  | none =>
    rw [call_deleteWhere_of_none hrecords, Collections.query_of_get?_eq_none hrecords]
    rfl
  | some records =>
    rw [(call_deleteWhere_of_some hrecords plan).1, Collections.query_of_get? hrecords]
    rfl

/-- It keeps the records of the entity that do not satisfy the plan. -/
theorem get?_call_deleteWhere (h : s.collections.get? entity = some records) (plan : QueryPlan) :
    (s.call (.deleteWhere entity plan)).2.collections.get? entity =
      some (records.filter fun record => !plan.admits record) := by
  rw [(call_deleteWhere_of_some h plan).2, if_pos rfl]

theorem change_deleteWhere (h : s.collections.get? entity = some records) (plan : QueryPlan) :
    (Call.deleteWhere entity plan).change s.collections =
      .ok (.removing s.collections entity (.many (records.filter plan.admits))
        (records.filter plan.admits) (records.filter fun record => !plan.admits record)) := by
  rw [Call.change, h]

/-- It tells of each record that satisfies the plan, one after the other. -/
theorem handed_deleteWhere (h : s.collections.get? entity = some records) (plan : QueryPlan) :
    s.handed (.deleteWhere entity plan) =
      (records.filter plan.admits).map fun record => ⟨s.exchange, entity, .deleted, record⟩ := by
  rw [handed_of_change_ok (change_deleteWhere h plan), Change.removing, List.map_map]
  rfl

/-- A record that satisfies the plan is listed by the query, and removed by the deletion. -/
theorem listed_and_removed_of_admits {plan : QueryPlan} {record : Json}
    (hrecords : s.collections.get? entity = some records) (hrecord : record ∈ records)
    (hadmits : plan.admits record = true) :
    ∃ listed kept, s.collections.query entity plan = .ok listed ∧ record ∈ listed ∧
      (s.call (.deleteWhere entity plan)).1 = .ok (.many listed) ∧
      (s.call (.deleteWhere entity plan)).2.collections.get? entity = some kept ∧
      record ∉ kept := by
  have hlisted : record ∈ records.filter plan.admits := List.mem_filter.mpr ⟨hrecord, hadmits⟩
  exact ⟨_, _, Collections.query_of_get? hrecords plan, hlisted,
    (call_deleteWhere_of_some hrecords plan).1, get?_call_deleteWhere hrecords plan,
    Collections.not_mem_kept hadmits⟩

/-- Where the query lists nothing, a deletion does nothing. -/
theorem call_deleteWhere_of_query_nil {plan : QueryPlan}
    (h : s.collections.query entity plan = .ok []) :
    (s.call (.deleteWhere entity plan)).1 = .ok (.many []) ∧
      (s.call (.deleteWhere entity plan)).2.collections = s.collections ∧
      s.handed (.deleteWhere entity plan) = [] := by
  obtain ⟨records, hrecords, hnil⟩ := Collections.query_eq_ok_iff.mp h
  -- no record is admitted, so all of them are kept
  have hkept : (records.filter fun record => !plan.admits record) = records := by
    rw [List.filter_eq_self]
    intro record hrecord
    simpa using List.filter_eq_nil_iff.mp hnil.symm record hrecord
  refine ⟨?_, ?_, ?_⟩
  · rw [call_deleteWhere_eq_query, h]
    rfl
  · rw [call_eq_carryOut, change_deleteWhere hrecords, hkept]
    exact Keyed.replace_eq_self hrecords
  · rw [handed_deleteWhere hrecords, ← hnil]
    rfl

/-- A bulk deletion and the query with its plan fail on the same entities, with the same error. Otherwise the
deletion answers what the query has just listed, and tells of each of these records in this order. Together with
them, the records that are kept are those of the entity, each as often as before, and they stand in the order in
which they stood. No other entity is touched. Then the query lists nothing, and a second deletion removes nothing
and tells nothing. -/
theorem deleteWhere_removes_listed (s : Store σ) (entity : String) (plan : QueryPlan) :
    let call := Call.deleteWhere entity plan
    let s' := (s.call call).2
    (∀ e, (s.call call).1 = .error e ↔ s.collections.query entity plan = .error e) ∧
    ∀ listed, s.collections.query entity plan = .ok listed →
      (s.call call).1 = .ok (.many listed) ∧
      s.handed call = listed.map (fun record => ⟨s.exchange, entity, .deleted, record⟩) ∧
      (∃ records kept, s.collections.get? entity = some records ∧
        s'.collections.get? entity = some kept ∧
        kept = records.filter (fun record => !plan.admits record) ∧
        (listed ++ kept).Perm records) ∧
      (∀ other, other ≠ entity → s'.collections.get? other = s.collections.get? other) ∧
      s'.collections.query entity plan = .ok [] ∧
      (s'.call call).1 = .ok (.many []) ∧
      (s'.call call).2.collections = s'.collections ∧
      s'.handed call = [] := by
  intro call s'
  constructor
  · intro e
    rw [call_deleteWhere_eq_query]
    cases s.collections.query entity plan with
    | error e' => simp [Except.map]
    | ok listed => simp [Except.map]
  · intro listed hlisted
    obtain ⟨records, hrecords, rfl⟩ := Collections.query_eq_ok_iff.mp hlisted
    obtain ⟨hanswer, hget⟩ := call_deleteWhere_of_some hrecords plan
    have hkept := get?_call_deleteWhere hrecords plan
    -- that nothing is listed afterwards is all that the second run needs
    have hquery : s'.collections.query entity plan = .ok [] := Collections.query_of_kept hkept
    refine ⟨hanswer, handed_deleteWhere hrecords plan, ?_, ?_, hquery,
      call_deleteWhere_of_query_nil hquery⟩
    · exact ⟨records, _, hrecords, hkept, rfl, List.filter_append_perm plan.admits records⟩
    · intro other hother
      rw [hget other, if_neg hother]

/-- A note that is stored twice is removed twice, and the one between them is kept. -/
theorem deleteWhere_removes_listed_twins :
    let note := Json.object [("id", .ofId 1), ("done", .bool true)]
    let kept := Json.object [("id", .ofId 2)]
    let s := (Store.quiet [("notes", [note, kept, note])]).withPublisher .recorder [] defaultExchange
    let plan : QueryPlan := ⟨[.compare "done" .eq "true"]⟩
    let call := Call.deleteWhere "notes" plan
    s.collections.query "notes" plan = .ok [note, note] ∧
      (s.call call).1 = .ok (.many [note, note]) ∧
      (s.call call).2.collections.query "notes" plan = .ok [] ∧
      (s.call call).2.handed call = [] ∧
      ("drafts" ≠ "notes" ∧ (s.call call).2.collections.get? "drafts" = none) := by
  intro note kept s plan call
  have hlisted : s.collections.query "notes" plan = .ok [note, note] :=
    Collections.query_eq_ok_iff.mpr ⟨[note, kept, note], rfl, by decide +kernel⟩
  obtain ⟨-, hdone⟩ := deleteWhere_removes_listed s "notes" plan
  obtain ⟨hanswer, -, -, hother, hnone, -, -, hsilent⟩ := hdone [note, note] hlisted
  exact ⟨hlisted, hanswer, hnone, hsilent, by decide, hother "drafts" (by decide)⟩

end Store

end RecordFilter
