import RecordFilter.Proofs.Store.Calls

/-!
# Calls happen as a whole, whoever listens

* `Store.handed` are the events that a call hands to the publisher, refused or not, and `Store.handedAll` those
  of many calls.
* `Store.call_of_error`: a call that fails changes nothing and tells nothing.
* `Store.SameRecords.callAll`: stores with the same records and different publishers keep the same records.
* `Store.call_all_or_nothing` puts these together.
-/

namespace RecordFilter

variable {σ τ : Type}

/-! ## The events handed over -/

/-- The publisher which, beside what it keeps anyway, keeps every event that it is handed. -/
def Publisher.logging (p : Publisher σ) : Publisher (σ × List ChangeEvent) where
  publish := fun e (sink, log) =>
    let (outcome, sink) := p.publish e sink
    (outcome, (sink, log ++ [e]))

theorem Publisher.publishAll_logging (p : Publisher σ) (events : List ChangeEvent) (sink : σ)
    (log : List ChangeEvent) :
    p.logging.publishAll events (sink, log) = (p.publishAll events sink, log ++ events) := by
  induction events generalizing sink log with
  | nil => rw [List.append_nil]; rfl
  | cons e events ih =>
    show p.logging.publishAll events ((p.publish e sink).2, log ++ [e]) = _
    rw [ih, List.append_assoc]
    rfl

theorem Publisher.publishAll_append (p : Publisher σ) (events more : List ChangeEvent) (sink : σ) :
    p.publishAll (events ++ more) sink = p.publishAll more (p.publishAll events sink) :=
  List.foldl_append

namespace Store

/-- The events that a call hands to the publisher of the store. -/
def handed (s : Store σ) (call : Call) : List ChangeEvent :=
  ((s.withPublisher s.publisher.logging (s.sink, []) s.exchange).call call).2.sink.2

@[simp] theorem collections_withPublisher (s : Store σ) (publisher : Publisher τ) (sink : τ)
    (exchange : String) : (s.withPublisher publisher sink exchange).collections = s.collections :=
  rfl

theorem handed_of_change_ok {s : Store σ} {call : Call} {change : Change}
    (h : call.change s.collections = .ok change) :
    s.handed call = change.events.map (· s.exchange) := by
  rw [handed, call_eq_carryOut, collections_withPublisher, h]
  show (s.publisher.logging.publishAll _ (s.sink, [])).2 = _
  rw [Publisher.publishAll_logging, List.nil_append]
  rfl

theorem handed_of_change_error {s : Store σ} {call : Call} {e : StoreError}
    (h : call.change s.collections = .error e) : s.handed call = [] := by
  rw [handed, call_eq_carryOut, collections_withPublisher, h]
  rfl

/-- These are all that the publisher comes to know. -/
theorem sink_call (s : Store σ) (call : Call) :
    (s.call call).2.sink = s.publisher.publishAll (s.handed call) s.sink := by
  rw [call_eq_carryOut]
  cases hchange : call.change s.collections with
  | error e =>
    rw [handed_of_change_error hchange]
    rfl
  | ok change =>
    rw [handed_of_change_ok hchange]
    rfl

theorem publisher_call (s : Store σ) (call : Call) : (s.call call).2.publisher = s.publisher := by
  rw [call_eq_carryOut]
  cases call.change s.collections with
  | error e => rfl
  | ok change => rfl

/-- The events that calls hand to the publisher, one call after the other. -/
def handedAll (s : Store σ) : List Call → List ChangeEvent
  | [] => []
  | call :: calls => s.handed call ++ handedAll (s.call call).2 calls

/-- These are all that the publisher comes to know of the calls. -/
theorem sink_callAll (s : Store σ) (calls : List Call) :
    (s.callAll calls).sink = s.publisher.publishAll (s.handedAll calls) s.sink := by
  induction calls generalizing s with
  | nil => rfl
  | cons call calls ih =>
    show ((s.call call).2.callAll calls).sink = _
    rw [ih, publisher_call, sink_call, handedAll, Publisher.publishAll_append]

/-- A call that fails changes nothing and tells nothing. -/
theorem call_of_error {s : Store σ} {call : Call} {e : StoreError}
    (h : (s.call call).1 = .error e) : (s.call call).2 = s ∧ s.handed call = [] := by
  rw [call_eq_carryOut] at h ⊢
  cases hchange : call.change s.collections with
  | error e' => exact ⟨rfl, handed_of_change_error hchange⟩
  | ok change =>
    rw [hchange] at h
    cases h

/-! ## Two publishers -/

/-- Two stores hold the same records, and tell different publishers of what happens to them. -/
def SameRecords (s : Store σ) (t : Store τ) : Prop :=
  s.collections = t.collections

theorem SameRecords.call {s : Store σ} {t : Store τ} (h : SameRecords s t) (call : Call) :
    (s.call call).1 = (t.call call).1 ∧ SameRecords (s.call call).2 (t.call call).2 := by
  rw [call_eq_carryOut, call_eq_carryOut, h]
  cases call.change t.collections with
  | error e => exact ⟨rfl, h⟩
  | ok change => exact ⟨rfl, rfl⟩

theorem SameRecords.callAll {s : Store σ} {t : Store τ} (h : SameRecords s t)
    (calls : List Call) : SameRecords (s.callAll calls) (t.callAll calls) := by
  induction calls generalizing s t with
  | nil => exact h
  | cons call calls ih => exact ih (h.call call).2

/-! ## Bulk deletion -/

/-- Every record that satisfies the plan is removed, and no other one of any entity. -/
theorem call_deleteWhere_of_some {s : Store σ} {entity : String} {records : List Json}
    (h : s.collections.get? entity = some records) (plan : QueryPlan) :
    (s.call (.deleteWhere entity plan)).1 = .ok (.many (records.filter plan.admits)) ∧
      ∀ other, (s.call (.deleteWhere entity plan)).2.collections.get? other =
        if other = entity then some (records.filter fun record => !plan.admits record)
        else s.collections.get? other := by
  rw [call_eq_carryOut, Call.change, h]
  constructor
  · rfl
  · intro other
    show Keyed.get? other (s.collections.replace entity _) = _
    rw [Keyed.get?_replace, h]
    rfl

/-- A call that fails leaves all records as they are and hands no event to the publisher. What a call
answers and which records it leaves is the same for any two publishers, also after any calls before. A
bulk deletion removes whatever satisfies its plan, whether its events are refused or not. -/
theorem call_all_or_nothing (s : Store σ) (call : Call) :
    (∀ e, (s.call call).1 = .error e →
      (s.call call).2.collections = s.collections ∧ s.handed call = []) ∧
    (∀ (τ : Type) (publisher : Publisher τ) (sink : τ) (exchange : String) (calls : List Call),
      let s' := s.callAll calls
      let t' := (s.withPublisher publisher sink exchange).callAll calls
      (t'.call call).1 = (s'.call call).1 ∧
        (t'.call call).2.collections = (s'.call call).2.collections) ∧
    ∀ entity plan records, call = .deleteWhere entity plan →
      s.collections.get? entity = some records →
      (s.call call).1 = .ok (.many (records.filter plan.admits)) ∧
        ∀ other, (s.call call).2.collections.get? other =
          if other = entity then some (records.filter fun record => !plan.admits record)
          else s.collections.get? other := by
  refine ⟨?_, ?_, ?_⟩
  · intro e herror
    obtain ⟨hstore, hhanded⟩ := call_of_error herror
    exact ⟨by rw [hstore], hhanded⟩
  · intro τ publisher sink exchange calls
    have hstart : SameRecords (s.withPublisher publisher sink exchange) s := rfl
    exact (hstart.callAll calls).call call
  · intro entity plan records hcall hrecords
    rw [hcall]
    exact call_deleteWhere_of_some hrecords plan

/-- Where every event is refused, a bulk deletion still removes both records, and a deletion that finds
nothing tells nothing. -/
theorem call_all_or_nothing_rejecting :
    let note := Json.object [("id", .ofId 1)]
    let s := (Store.quiet [("notes", [note, note])]).withPublisher (.rejecting : Publisher Unit) ()
      Store.defaultExchange
    ((s.call (.delete "notes" 2)).2.collections = s.collections ∧
        s.handed (.delete "notes" 2) = []) ∧
      (s.call (.deleteWhere "notes" .empty)).1 = .ok (.many [note, note]) ∧
      (s.call (.deleteWhere "notes" .empty)).2.collections.get? "notes" = some [] := by
  intro note s
  obtain ⟨hfailed, -, -⟩ := call_all_or_nothing s (.delete "notes" 2)
  obtain ⟨-, -, hbulk⟩ := call_all_or_nothing s (.deleteWhere "notes" .empty)
  obtain ⟨hanswer, hrecords⟩ := hbulk "notes" .empty [note, note] rfl rfl
  exact ⟨hfailed (.recordNotFound "notes" 2) rfl, hanswer, hrecords "notes"⟩

end Store

end RecordFilter
