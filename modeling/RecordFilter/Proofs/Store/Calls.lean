import RecordFilter.Proofs.Store.Focus

/-!
# Calls of a store

The four operations of a store work step by step. Here each is summed up: a call either fails, and then
nothing has happened, or it makes one change, which tells its result, the collections after it and the
events, in this order.

* `Call` is an operation with its arguments, `Store.call` carries it out, `Store.callAll` one after the
  other.
* `Call.change` is what a call does, told from the collections alone.
* `Store.call_eq_carryOut`: carrying out a call is carrying out its change. `Store.answer_call` and
  `Store.collections_call` are the answer and the collections of it.
* `Call.Makes` lists the changes that calls make, `Store.call_cases` says that there are no others.
-/

namespace RecordFilter

/-- The records of an entity: none where it is not there. -/
def Collections.stock (c : Collections) (entity : String) : List Json :=
  (c.get? entity).getD []

theorem Collections.get?_ensure_self (c : Collections) (entity : String) :
    (c.ensure entity []).get? entity = some (c.stock entity) := by
  rw [Keyed.get?_ensure, if_pos rfl]
  rfl

/-- An operation that may change a store. -/
inductive Call
  | create (entity : String) (attributes : Json)
  | update (entity : String) (id : UInt64) (attributes : Json)
  | delete (entity : String) (id : UInt64)
  | deleteWhere (entity : String) (plan : QueryPlan)

/-- What a call answers: the record that it is about, or all that it removes. -/
inductive Answer
  | one (record : Json)
  | many (records : List Json)
deriving DecidableEq

namespace Store

variable {σ : Type}

/-- The outcome of an operation as that of a call. -/
def answering {α : Type} (answer : α → Answer) (outcome : Except StoreError α × Store σ) :
    Except StoreError Answer × Store σ :=
  (outcome.1.map answer, outcome.2)

/-- Carries out a call. -/
def call (s : Store σ) : Call → Except StoreError Answer × Store σ
  | .create entity attributes => answering .one (s.create entity attributes)
  | .update entity id attributes => answering .one (s.update entity id attributes)
  | .delete entity id => answering .one (s.delete entity id)
  | .deleteWhere entity plan => answering .many (s.deleteWhere entity plan)

/-- Carries out calls one after the other, those that fail too. -/
def callAll (s : Store σ) (calls : List Call) : Store σ :=
  calls.foldl (fun s call => (s.call call).2) s

end Store

/-! ## Steps of an operation -/

namespace StoreM

variable {σ α β : Type} (s : Store σ)

@[simp] theorem exec_pure (a : α) : (pure a : StoreM σ α).exec s = (.ok a, s) := rfl

@[simp] theorem exec_throw (e : StoreError) :
    (throw e : StoreM σ α).exec s = (.error e, s) := rfl

@[simp] theorem exec_get : (get : StoreM σ (Store σ)).exec s = (.ok s, s) := rfl

/-- Work goes on with what the work before it has left. -/
theorem exec_bind_of_ok {work : StoreM σ α} {s t : Store σ} {a : α}
    (h : work.exec s = (.ok a, t)) (next : α → StoreM σ β) :
    (work >>= next).exec s = (next a).exec t := by
  have hrun : work s = (.ok a, t) := h
  show (match work s with | (r, t) => ExceptT.bindCont next r t) = _
  rw [hrun]
  rfl

/-- Work that fails is the last. -/
theorem exec_bind_of_error {work : StoreM σ α} {s t : Store σ} {e : StoreError}
    (h : work.exec s = (.error e, t)) (next : α → StoreM σ β) :
    (work >>= next).exec s = (.error e, t) := by
  have hrun : work s = (.error e, t) := h
  show (match work s with | (r, t) => ExceptT.bindCont next r t) = _
  rw [hrun]
  rfl

theorem exec_stored_of_some {entity : String} {records : List Json}
    (h : s.collections.get? entity = some records) :
    (stored entity).exec s = (.ok records, s) := by
  rw [stored, exec_bind_of_ok (exec_get s)]
  simp [h]

theorem exec_stored_of_none {entity : String} (h : s.collections.get? entity = none) :
    (stored entity).exec s = (.error (.unknownEntity entity), s) := by
  rw [stored, exec_bind_of_ok (exec_get s)]
  simp [h]

theorem exec_settable (attributes : Keyed Json) :
    (settable (.object attributes)).exec s = (.ok (Keyed.remove "id" attributes), s) := rfl

theorem exec_entry (entity : String) :
    (entry entity).exec s =
      (.ok (s.collections.stock entity),
        { s with collections := s.collections.ensure entity [] }) := by
  show (Except.ok (((s.collections.ensure entity []).get? entity).getD []), _) = _
  rw [Collections.get?_ensure_self]
  rfl

theorem exec_rewrite (entity : String) (records : List Json) :
    (rewrite entity records).exec s =
      (.ok (), { s with collections := s.collections.replace entity records }) := rfl

theorem exec_notify (event : String → ChangeEvent) :
    (notify event).exec s =
      (.ok (), { s with sink := (s.publisher.publish (event s.exchange) s.sink).2 }) := rfl

/-- Events are handed over one after the other. -/
theorem exec_forM_notify (records : List Json) (event : Json → String → ChangeEvent) :
    (forM records fun record => notify (event record)).exec s =
      (.ok (), { s with
        sink := s.publisher.publishAll (records.map fun record => event record s.exchange) s.sink }) := by
  induction records generalizing s with
  | nil => rfl
  | cons record records ih =>
    -- the other events go to the store that the first one has left
    rw [List.forM_cons, exec_bind_of_ok (exec_notify s (event record))]
    exact ih _

/-- A record is borrowed from the store as it is. -/
theorem exec_borrow_of_some {entity : String} {records : List Json} (id : UInt64)
    (h : s.collections.get? entity = some records) :
    (borrow entity id).exec s =
      match focus? (Collections.hasId id) records with
      | none => (.error (.recordNotFound entity id), s)
      | some place => (.ok place, s) := by
  rw [borrow, exec_bind_of_ok (exec_stored_of_some s h)]
  cases hplace : focus? (Collections.hasId id) records with
  | none => simp
  | some place => simp

end StoreM

/-! ## Changes -/

/-- What a call does when it succeeds. Events lack their exchange, which the store knows. -/
structure Change where
  answer : Answer
  collections : Collections
  events : List (String → ChangeEvent)

/-- The record of attributes under an id of the store's own. -/
def newRecord (id : UInt64) (attributes : Keyed Json) : Json :=
  .object (Keyed.put "id" (.ofId id) (Keyed.remove "id" attributes))

namespace Change

/-- A record is added at the end of its entity. -/
def adding (c : Collections) (entity : String) (record : Json) : Change where
  answer := .one record
  collections :=
    (c.ensure entity []).replace entity (c.stock entity ++ [record])
  events := [fun exchange => ⟨exchange, entity, .created, record⟩]

/-- A record becomes what attributes have been merged into. -/
def merging (c : Collections) (entity : String) (put : Json → List Json) (merged : Merge) :
    Change where
  answer := .one (.object merged.fields)
  collections := c.replace entity (put (.object merged.fields))
  events :=
    if merged.dirty.isEmpty then []
    else [fun exchange => .updated exchange entity (.object merged.fields) (.object merged.dirty)]

/-- Records are removed and others kept. -/
def removing (c : Collections) (entity : String) (answer : Answer) (removed kept : List Json) :
    Change where
  answer := answer
  collections := c.replace entity kept
  events := removed.map fun record exchange => ⟨exchange, entity, .deleted, record⟩

end Change

/-- What a call does to collections, or why it fails. -/
def Call.change (c : Collections) : Call → Except StoreError Change
  | .create entity (.object attributes) =>
    match nextId? (c.stock entity) with
    | none => .error (.idExhausted entity)
    | some id => .ok (.adding c entity (newRecord id attributes))
  | .update entity id (.object attributes) =>
    match c.get? entity with
    | none => .error (.unknownEntity entity)
    | some records =>
      match focus? (Collections.hasId id) records with
      | none => .error (.recordNotFound entity id)
      | some (.object fields, put) =>
        .ok (.merging c entity put (merge fields (Keyed.remove "id" attributes)))
      | some _ => .error (.notACollection entity)
  | .create _ _ | .update _ _ _ => .error .invalidAttributes
  | .delete entity id =>
    match c.get? entity with
    | none => .error (.unknownEntity entity)
    | some records =>
      match records.findFinIdx? (Collections.hasId id) with
      | none => .error (.recordNotFound entity id)
      | some position =>
        let record := records.get position
        .ok (.removing c entity (.one record) [record] (records.eraseIdx position))
  | .deleteWhere entity plan =>
    match c.get? entity with
    | none => .error (.unknownEntity entity)
    | some records =>
      .ok (.removing c entity (.many (records.filter plan.admits)) (records.filter plan.admits)
        (records.filter fun record => !plan.admits record))

namespace Store

variable {σ : Type}

/-- Carries out a change, if there is one. -/
def carryOut (s : Store σ) : Except StoreError Change → Except StoreError Answer × Store σ
  | .error e => (.error e, s)
  | .ok change =>
    (.ok change.answer,
      { s with
        collections := change.collections
        sink := s.publisher.publishAll (change.events.map fun event => event s.exchange) s.sink })

theorem call_create (s : Store σ) (entity : String) (attributes : Json) :
    s.call (.create entity attributes) =
      s.carryOut (Call.change s.collections (.create entity attributes)) := by
  cases attributes with
  | object attributes =>
    rw [call, create, StoreM.create, StoreM.exec_bind_of_ok (StoreM.exec_settable s attributes),
      StoreM.exec_bind_of_ok (StoreM.exec_entry s entity), Call.change]
    cases hid : nextId? (s.collections.stock entity) with
    | none =>
      -- an entity without records has an id left, so this one has been there before
      cases hrecords : s.collections.get? entity with
      | none =>
        rw [Collections.stock, hrecords] at hid
        cases hid
      | some records =>
        rw [Keyed.ensure_of_get?_eq_some hrecords]
        rfl
    | some id => rfl
  | _ => rfl

theorem call_update (s : Store σ) (entity : String) (id : UInt64) (attributes : Json) :
    s.call (.update entity id attributes) =
      s.carryOut (Call.change s.collections (.update entity id attributes)) := by
  cases attributes with
  | object attributes =>
    rw [call, update, StoreM.update, StoreM.exec_bind_of_ok (StoreM.exec_settable s attributes),
      Call.change]
    cases hrecords : s.collections.get? entity with
    | none =>
      have hborrow : (StoreM.borrow entity id).exec s = (.error (.unknownEntity entity), s) :=
        StoreM.exec_bind_of_error (StoreM.exec_stored_of_none s hrecords) _
      rw [StoreM.exec_bind_of_error hborrow]
      rfl
    | some records =>
      have hborrow := StoreM.exec_borrow_of_some s id hrecords
      cases hplace : focus? (Collections.hasId id) records with
      | none =>
        rw [hplace] at hborrow
        rw [StoreM.exec_bind_of_error hborrow]
        simp only [hplace]
        rfl
      | some place =>
        rw [hplace] at hborrow
        rw [StoreM.exec_bind_of_ok hborrow]
        simp only [hplace]
        obtain ⟨record, put⟩ := place
        cases record with
        | object fields =>
          -- the records are rewritten in any case, an event depends on what has changed
          simp only [Json.fields?, Change.merging, carryOut]
          rw [StoreM.exec_bind_of_ok (StoreM.exec_rewrite s entity _)]
          cases (merge fields (Keyed.remove "id" attributes)).dirty.isEmpty with
          | true => rfl
          | false => rfl
        | _ => rfl
  | _ => rfl

theorem call_delete (s : Store σ) (entity : String) (id : UInt64) :
    s.call (.delete entity id) =
      s.carryOut (Call.change s.collections (.delete entity id)) := by
  rw [call, delete, StoreM.delete, Call.change]
  cases hrecords : s.collections.get? entity with
  | none =>
    rw [StoreM.exec_bind_of_error (StoreM.exec_stored_of_none s hrecords)]
    rfl
  | some records =>
    rw [StoreM.exec_bind_of_ok (StoreM.exec_stored_of_some s hrecords)]
    simp only
    cases records.findFinIdx? (Collections.hasId id) with
    | none => rfl
    | some position => rfl

theorem call_deleteWhere (s : Store σ) (entity : String) (plan : QueryPlan) :
    s.call (.deleteWhere entity plan) =
      s.carryOut (Call.change s.collections (.deleteWhere entity plan)) := by
  rw [call, deleteWhere, StoreM.deleteWhere, Call.change]
  cases hrecords : s.collections.get? entity with
  | none =>
    rw [StoreM.exec_bind_of_error (StoreM.exec_stored_of_none s hrecords)]
    rfl
  | some records =>
    rw [StoreM.exec_bind_of_ok (StoreM.exec_stored_of_some s hrecords)]
    simp only [List.partition_eq_filter_filter]
    rw [StoreM.exec_bind_of_ok (StoreM.exec_rewrite s entity _)]
    rw [StoreM.exec_bind_of_ok (StoreM.exec_forM_notify _ _ _)]
    simp only [carryOut, Change.removing, List.map_map]
    rfl

/-- Carrying out a call is carrying out the change that it makes. -/
theorem call_eq_carryOut (s : Store σ) (call : Call) :
    s.call call = s.carryOut (call.change s.collections) := by
  cases call with
  | create entity attributes => exact call_create s entity attributes
  | update entity id attributes => exact call_update s entity id attributes
  | delete entity id => exact call_delete s entity id
  | deleteWhere entity plan => exact call_deleteWhere s entity plan

end Store

/-- The collections after a call. -/
def Collections.after (c : Collections) (call : Call) : Collections :=
  match call.change c with
  | .ok change => change.collections
  | .error _ => c

namespace Store

variable {σ : Type}

/-- What a call answers depends on the collections alone. -/
theorem answer_call (s : Store σ) (call : Call) :
    (s.call call).1 = (call.change s.collections).map Change.answer := by
  rw [call_eq_carryOut]
  cases call.change s.collections with
  | error e => rfl
  | ok change => rfl

/-- So do the collections that it leaves. -/
theorem collections_call (s : Store σ) (call : Call) :
    (s.call call).2.collections = s.collections.after call := by
  rw [call_eq_carryOut, Collections.after]
  cases call.change s.collections with
  | error e => rfl
  | ok change => rfl

end Store

/-! ## The changes that calls make -/

/-- A call makes a change of collections, by kind of call. -/
inductive Call.Makes (c : Collections) : Call → Change → Prop
  | create {entity : String} {attributes : Keyed Json} {id : UInt64}
    (hid : nextId? (c.stock entity) = some id) :
    Makes c (.create entity (.object attributes)) (.adding c entity (newRecord id attributes))
  | update {entity : String} {id : UInt64} {attributes fields : Keyed Json}
    {records before after : List Json} (hrecords : c.get? entity = some records)
    (hfirst : IsFirst (Collections.hasId id) records before (.object fields) after) :
    Makes c (.update entity id (.object attributes))
      (.merging c entity (fun record => before ++ record :: after)
        (merge fields (Keyed.remove "id" attributes)))
  | delete {entity : String} {id : UInt64} {records before after : List Json} {record : Json}
    (hrecords : c.get? entity = some records)
    (hfirst : IsFirst (Collections.hasId id) records before record after) :
    Makes c (.delete entity id) (.removing c entity (.one record) [record] (before ++ after))
  | deleteWhere {entity : String} {plan : QueryPlan} {records : List Json}
    (hrecords : c.get? entity = some records) :
    Makes c (.deleteWhere entity plan)
      (.removing c entity (.many (records.filter plan.admits)) (records.filter plan.admits)
        (records.filter fun record => !plan.admits record))

theorem Call.makes_of_change {c : Collections} {call : Call} {change : Change}
    (h : call.change c = .ok change) : call.Makes c change := by
  -- by the kind of the call, and then along the lookups that its change makes
  cases call with
  | create entity attributes =>
    cases attributes with
    | object attributes =>
      rw [Call.change] at h
      split at h
      · cases h
      · rename_i id hid
        cases h
        exact .create hid
    | _ => cases h
  | update entity id attributes =>
    cases attributes with
    | object attributes =>
      rw [Call.change] at h
      split at h
      · cases h
      · rename_i records hrecords
        split at h
        · cases h
        · rename_i fields put hplace
          cases h
          obtain ⟨before, after, hfirst, rfl⟩ := isFirst_of_focus? hplace
          exact .update hrecords hfirst
        · cases h
    | _ => cases h
  | delete entity id =>
    rw [Call.change] at h
    split at h
    · cases h
    · rename_i records hrecords
      split at h
      · cases h
      · rename_i position hposition
        cases h
        obtain ⟨before, after, hfirst, herase⟩ := isFirst_of_findFinIdx? hposition
        rw [herase]
        exact .delete hrecords hfirst
  | deleteWhere entity plan =>
    rw [Call.change] at h
    split at h
    · cases h
    · rename_i records hrecords
      cases h
      exact .deleteWhere hrecords

/-- A call fails and leaves the store as it is, or makes a change and carries it out. -/
theorem Store.call_cases {σ : Type} (s : Store σ) (call : Call) :
    (∃ e, s.call call = (.error e, s)) ∨
      ∃ change, call.Makes s.collections change ∧ s.call call = s.carryOut (.ok change) := by
  rw [s.call_eq_carryOut call]
  cases h : call.change s.collections with
  | error e => exact Or.inl ⟨e, rfl⟩
  | ok change => exact Or.inr ⟨change, Call.makes_of_change h, rfl⟩

end RecordFilter
