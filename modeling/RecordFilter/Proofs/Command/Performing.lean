import RecordFilter.Command.Run
import RecordFilter.Proofs.Json.Order
import RecordFilter.Proofs.Store.Saving

/-!
# What a request does to a store

* `Request.changes` says which requests may change a store; the others never write a data file back.
* `CommandLine.call?` is the call that a command line makes, if it is not refused before it makes one.
* `perform_of_call?_eq_some`: what is written back is what this call makes of the store that was read.
* `FailsEarly`: a request fails for no reason for which a file cannot be written or a report not be printed.
-/

namespace RecordFilter.Command

/-- Whether the request may change a store. -/
def Request.changes : Request → Bool
  | .create .. | .update .. | .delete .. | .deleteWhere .. => true
  | .query .. | .view .. | .explain .. | .operators => false

/-- The call that a command line makes of its store: none where it only looks, and none where it is
refused for its attributes, for an expression that nobody recognizes, or because it would delete
everything. -/
def CommandLine.call? (line : CommandLine) (settings : Settings) : Option Call :=
  match line.request with
  | .create _ entity text => (attributes text).toOption.map (.create entity)
  | .update _ entity id text => (attributes text).toOption.map (.update entity id)
  | .delete _ entity id => some (.delete entity id)
  | .deleteWhere _ entity tokens queryString? all =>
    let plan? := plan (policy line settings) (expressions settings tokens queryString?)
    plan?.toOption.bind fun plan => if plan.isEmpty ∧ ¬all then none else some (.deleteWhere entity plan)
  | .query .. | .view .. | .explain .. | .operators => none

/-! ## Results -/

theorem exists_of_bind_eq_ok {ε α β : Type} {r : Except ε α} {f : α → Except ε β} {b : β}
    (h : (r >>= f) = .ok b) : ∃ a, r = .ok a ∧ f a = .ok b := by
  cases r with
  | error e => cases h
  | ok a => exact ⟨a, rfl, h⟩

theorem eq_ok_of_toOption {ε α : Type} {r : Except ε α} {a : α} (h : r.toOption = some a) :
    r = .ok a := by
  cases r with
  | error e => cases h
  | ok b => rw [Option.some.inj h]

theorem exists_error_of_toOption {ε α : Type} {r : Except ε α} (h : r.toOption = none) :
    ∃ e, r = .error e := by
  cases r with
  | error e => exact ⟨e, rfl⟩
  | ok a => cases h

/-- What comes of a request whose call makes a change, or fails to make one. -/
def Realizes (outcome : Except Failure Effects) : Except StoreError Change → Prop
  | .error e => outcome = .error (.store e)
  | .ok change =>
    ∃ effects, outcome = .ok effects ∧ effects.saved? = some change.collections.fileText

/-- What is left to do after an operation on a store. -/
def finishing {α : Type} (outcome : Except StoreError α × Store (List ChangeEvent))
    (report : α → String) : Except Failure Effects := do
  let a ← succeed outcome.1
  return changing outcome.2 (report a)

theorem realizes_finishing {α : Type} {outcome : Except StoreError α × Store (List ChangeEvent)}
    {answer : α → Answer} {s : Store (List ChangeEvent)} {change? : Except StoreError Change}
    (h : Store.answering answer outcome = s.carryOut change?) (report : α → String) :
    Realizes (finishing outcome report) change? := by
  obtain ⟨result, after⟩ := outcome
  -- the operation and its change fail together, so two of the four cases are left
  cases change? with
  | error e =>
    cases result with
    | error e' =>
      cases h
      rfl
    | ok a => cases h
  | ok change =>
    cases result with
    | error e => cases h
    | ok a =>
      refine ⟨changing after (report a), rfl, ?_⟩
      have hcollections : after.collections = change.collections :=
        congrArg (fun outcome => outcome.2.collections) h
      rw [changing, hcollections]

/-! ## Failures before anything is written -/

/-- A failure of a run that has not begun to write a file or to print. -/
def Failure.early : Failure → Bool
  | .saving .. | .printing _ | .output .. => false
  | _ => true

theorem Failure.code_ne_zero (f : Failure) : f.code ≠ 0 := by
  cases f <;> exact nofun

theorem Failure.code_of_early {f : Failure} (h : f.early = true) : f.code = 1 := by
  cases f with
  | printing fault => cases h
  | _ => rfl

/-- A result that is no failure, or an early one. -/
def FailsEarly {α : Type} (r : Except Failure α) : Prop :=
  ∀ f, r = .error f → f.early = true

namespace FailsEarly

variable {α β : Type}

theorem ok (a : α) : FailsEarly (.ok a) := by
  intro f h
  cases h

theorem error {f : Failure} (h : f.early = true) : FailsEarly (.error f : Except Failure α) := by
  intro f' hf'
  cases hf'
  exact h

theorem bind {r : Except Failure α} (hr : FailsEarly r) {next : α → Except Failure β}
    (hnext : ∀ a, FailsEarly (next a)) : FailsEarly (r >>= next) := by
  intro f h
  cases r with
  | error e => exact hr f (congrArg _ (Except.error.inj h))
  | ok a => exact hnext a f h

theorem succeed (r : Except StoreError α) : FailsEarly (succeed r) := by
  cases r with
  | error e => exact error rfl
  | ok a => exact ok a

theorem attributes (text : String) : FailsEarly (attributes text) := by
  unfold Command.attributes
  split
  · exact error rfl
  · split
    · exact ok _
    · exact error rfl

theorem openStore (path : String) (events : EventRules) (data : Except FileFault ByteArray) :
    FailsEarly (openStore path events data) := by
  unfold Command.openStore
  split
  · exact ok _
  · exact error rfl

theorem plan (policy : UnrecognizedPolicy) (tokens : List String) :
    FailsEarly (plan policy tokens) := by
  unfold Command.plan
  split
  · exact ok _
  · exact error rfl

end FailsEarly

/-- What a request does asks nothing of the system, so that it fails early if it does. -/
theorem failsEarly_perform (line : CommandLine) (settings : Settings) (colors : Bool)
    (data : Except FileFault ByteArray) : FailsEarly (perform line settings colors data) := by
  unfold perform
  -- one case a request, one `bind` a step of it
  split
  · refine .bind (.plan _ _) fun _ => .bind (.openStore _ _ _) fun _ => ?_
    exact .bind (.succeed _) fun _ => .ok _
  · exact .bind (.openStore _ _ _) fun _ => .bind (.succeed _) fun _ => .ok _
  · exact .ok _
  · exact .ok _
  · refine .bind (.attributes _) fun _ => .bind (.openStore _ _ _) fun _ => ?_
    exact .bind (.succeed _) fun _ => .ok _
  · refine .bind (.attributes _) fun _ => .bind (.openStore _ _ _) fun _ => ?_
    exact .bind (.succeed _) fun _ => .ok _
  · exact .bind (.openStore _ _ _) fun _ => .bind (.succeed _) fun _ => .ok _
  · refine .bind (.openStore _ _ _) fun _ => .bind (.plan _ _) fun plan => ?_
    simp only
    split
    · exact .error rfl
    · exact .bind (.succeed _) fun _ => .ok _

/-! ## Requests -/

variable {line : CommandLine} {settings : Settings} {colors : Bool} {data : Except FileFault ByteArray}

/-- A request that only looks writes no data file back. -/
theorem saved?_of_changes_eq_false (hlooks : line.request.changes = false) {effects : Effects}
    (h : perform line settings colors data = .ok effects) : effects.saved? = none := by
  unfold perform at h
  -- one case a request: those that look end with `looking`, the others are ruled out
  split at h
  · obtain ⟨plan, -, h⟩ := exists_of_bind_eq_ok h
    obtain ⟨store, -, h⟩ := exists_of_bind_eq_ok h
    obtain ⟨records, -, h⟩ := exists_of_bind_eq_ok h
    cases h
    rfl
  · obtain ⟨store, -, h⟩ := exists_of_bind_eq_ok h
    obtain ⟨record, -, h⟩ := exists_of_bind_eq_ok h
    cases h
    rfl
  · cases h
    rfl
  · cases h
    rfl
  all_goals
    rename_i hrequest
    rw [hrequest] at hlooks
    cases hlooks

theorem openStore_of_load {path : String} {c : Collections} (h : Collections.load path data = .ok c)
    (events : EventRules) :
    ∃ s : Store (List ChangeEvent), openStore path events data = .ok s ∧ s.collections = c := by
  unfold openStore
  rw [h]
  exact ⟨_, rfl, rfl⟩

/-- A command line that makes no call of the store it would change is refused. -/
theorem perform_of_call?_eq_none (hchanges : line.request.changes = true)
    (hcall : line.call? settings = none) :
    ∃ f, perform line settings colors data = .error f := by
  unfold CommandLine.call? at hcall
  unfold perform
  -- what is refused is refused for the reason for which there is no call
  split at hcall
  · rename_i hrequest
    obtain ⟨f, hattributes⟩ := exists_error_of_toOption (Option.map_eq_none_iff.mp hcall)
    rw [hrequest]
    simp only [hattributes]
    exact ⟨f, rfl⟩
  · rename_i hrequest
    obtain ⟨f, hattributes⟩ := exists_error_of_toOption (Option.map_eq_none_iff.mp hcall)
    rw [hrequest]
    simp only [hattributes]
    exact ⟨f, rfl⟩
  · cases hcall
  · rename_i path entity tokens queryString? all hrequest
    rw [hrequest]
    -- here the store is opened first, so that this may fail too
    cases hopen : openStore path settings.events data with
    | error f =>
      simp only [hopen]
      exact ⟨f, rfl⟩
    | ok s =>
      cases hplan : plan (policy line settings) (expressions settings tokens queryString?) with
      | error f =>
        simp only [hopen, hplan]
        exact ⟨f, rfl⟩
      | ok plan =>
        rw [hplan] at hcall
        change (if plan.isEmpty ∧ ¬all then none else _) = none at hcall
        split at hcall
        · rename_i hall
          simp only [hopen, hplan]
          refine ⟨.deletesAll entity, ?_⟩
          show (if plan.isEmpty ∧ ¬all then _ else _) = _
          rw [if_pos hall]
          rfl
        · cases hcall
  all_goals
    rename_i hrequest
    rw [hrequest] at hchanges
    cases hchanges

/-- What is written back is what the call makes of the store that was read. -/
theorem perform_of_call?_eq_some {call : Call} (hcall : line.call? settings = some call)
    {path : String} (hpath : line.request.data? = some path) {c : Collections}
    (hload : Collections.load path data = .ok c) :
    Realizes (perform line settings colors data) (call.change c) := by
  obtain ⟨s, hopen, rfl⟩ := openStore_of_load hload settings.events
  -- the operation of each request is its call, so one lemma on what follows it serves them all
  have hanswer := s.call_eq_carryOut call
  unfold CommandLine.call? at hcall
  unfold perform
  split at hcall
  · rename_i data' entity text hrequest
    rw [hrequest] at hpath
    cases hpath
    obtain ⟨a, ha, rfl⟩ := Option.map_eq_some_iff.mp hcall
    rw [hrequest]
    simp only [eq_ok_of_toOption ha, hopen]
    exact realizes_finishing hanswer _
  · rename_i data' entity id text hrequest
    rw [hrequest] at hpath
    cases hpath
    obtain ⟨a, ha, rfl⟩ := Option.map_eq_some_iff.mp hcall
    rw [hrequest]
    simp only [eq_ok_of_toOption ha, hopen]
    exact realizes_finishing hanswer _
  · rename_i data' entity id hrequest
    rw [hrequest] at hpath
    cases hpath
    cases hcall
    rw [hrequest]
    simp only [hopen]
    exact realizes_finishing hanswer _
  · rename_i data' entity tokens queryString? all hrequest
    rw [hrequest] at hpath
    cases hpath
    obtain ⟨p, hplan, hp⟩ := Option.bind_eq_some_iff.mp hcall
    obtain ⟨hsome, rfl⟩ : ¬(p.isEmpty ∧ ¬all) ∧ Call.deleteWhere entity p = call := by
      by_cases hall : p.isEmpty ∧ ¬all
      · rw [if_pos hall] at hp
        cases hp
      · rw [if_neg hall] at hp
        exact ⟨hall, Option.some.inj hp⟩
    rw [hrequest]
    simp only [hopen, eq_ok_of_toOption hplan]
    show Realizes (if p.isEmpty ∧ ¬all then _ else _) _
    rw [if_neg hsome]
    exact realizes_finishing hanswer _
  all_goals cases hcall

/-- The attributes of the call are a JSON value that was read. -/
theorem ordered_of_call? {call : Call} (hcall : line.call? settings = some call) : call.Ordered := by
  -- only attributes bring values from outside into a call
  have hread {text : String} {a : Json} (h : (attributes text).toOption = some a) : a.Ordered := by
    have hok := eq_ok_of_toOption h
    unfold attributes at hok
    split at hok
    · cases hok
    · rename_i value hvalue
      split at hok
      · cases hok
        exact Json.Dialect.ordered_of_read?_strict hvalue
      · cases hok
  unfold CommandLine.call? at hcall
  split at hcall
  · obtain ⟨a, ha, rfl⟩ := Option.map_eq_some_iff.mp hcall
    exact hread ha
  · obtain ⟨a, ha, rfl⟩ := Option.map_eq_some_iff.mp hcall
    exact hread ha
  · cases hcall
    trivial
  · obtain ⟨p, -, hp⟩ := Option.bind_eq_some_iff.mp hcall
    split at hp
    · cases hp
    · cases hp
      trivial
  all_goals cases hcall

end RecordFilter.Command
