import RecordFilter.FileFault
import RecordFilter.Json.Same
import RecordFilter.Query.Plan
import RecordFilter.Store.Event
import RecordFilter.Store.Record

/-!
# The record store

A store holds records under entity names, and tells a publisher of what it changes. Its operations work
in place and step by step: where one fails, what it has done by then stays done. What the publisher
answers has no effect.

* `Collections.records`, `query` and `find` read.
* `StoreM` is work on a store, `StoreM.create`, `update`, `delete` and `deleteWhere` are its operations.
* `Store.create` and the others carry them out.
-/

namespace RecordFilter

/-- Why an operation on a store fails. -/
inductive StoreError
  | read (path : String) (fault : FileFault)
  | write (path : String) (fault : FileFault)
  | parse (path : String)
  | notACollection (entity : String)
  | notADocument
  | unknownEntity (entity : String)
  | recordNotFound (entity : String) (id : UInt64)
  | idExhausted (entity : String)
  | invalidAttributes
deriving DecidableEq, Repr

/-- The text of the error. Where in a file its JSON5 goes wrong is not told. -/
def StoreError.message : StoreError → String
  | read path fault => "Failed to read data file '" ++ path ++ "': " ++ fault.message
  | write path fault => "Failed to write data file '" ++ path ++ "': " ++ fault.message
  | parse path => "Failed to parse data file '" ++ path ++ "': malformed JSON5"
  | notACollection entity => "Entity '" ++ entity ++ "' must be an array of JSON objects"
  | notADocument => "Data document must be an object mapping entity names to record arrays"
  | unknownEntity entity => "Unknown entity '" ++ entity ++ "'"
  | recordNotFound entity id =>
    "No record with id " ++ toString id.toNat ++ " in entity '" ++ entity ++ "'"
  | idExhausted entity => "Entity '" ++ entity ++ "' has no id left to assign"
  | invalidAttributes => "Record attributes must be a JSON object"

/-- The fault behind the error, if there is one. -/
def StoreError.fault? : StoreError → Option FileFault
  | read _ fault | write _ fault => some fault
  | _ => none

/-- The records of each entity, in storage order. -/
abbrev Collections := Keyed (List Json)

namespace Collections

/-- The records of an entity. -/
def records (c : Collections) (entity : String) : Except StoreError (List Json) :=
  match c.get? entity with
  | some records => .ok records
  | none => .error (.unknownEntity entity)

/-- The records of an entity that satisfy a plan, in storage order. -/
def query (c : Collections) (entity : String) (plan : QueryPlan) : Except StoreError (List Json) :=
  (c.records entity).map plan.select

/-- Whether a record is one that an id addresses. -/
def hasId (id : UInt64) (record : Json) : Bool :=
  recordId? record = some id

/-- The first record with an id. -/
def find (c : Collections) (entity : String) (id : UInt64) : Except StoreError Json :=
  (c.records entity).bind fun records =>
    match records.find? (hasId id) with
    | some record => .ok record
    | none => .error (.recordNotFound entity id)

end Collections

/-- Collections, and where their changes are told; `σ` is what the publisher keeps. -/
structure Store (σ : Type) where
  collections : Collections
  exchange : String
  publisher : Publisher σ
  sink : σ

/-! ## Records and their attributes -/

/-- The id after the greatest one of the records. -/
def nextId? (records : List Json) : Option UInt64 :=
  let greatest := (records.filterMap recordId?).foldl max 0
  if greatest = greatestId then none else some (greatest + 1)

/-- A record into which attributes are merged: its fields, and those of them that changed. -/
structure Merge where
  fields : Keyed Json
  dirty : Keyed Json

/-- Merges an attribute that the record has not, or has with another value. -/
def Merge.step (m : Merge) (entry : String × Json) : Merge :=
  if (m.fields.get? entry.1).any (·.sameAs entry.2) then m
  else ⟨m.fields.put entry.1 entry.2, m.dirty.put entry.1 entry.2⟩

/-- Merges attributes into fields, one after the other. -/
def merge (fields attributes : Keyed Json) : Merge :=
  attributes.foldl Merge.step ⟨fields, []⟩

/-- The first item that passes a test, and the list with another item in its place. -/
def focus? {α : Type} (test : α → Bool) : List α → Option (α × (α → List α))
  | [] => none
  | a :: rest =>
    if test a then some (a, fun b => b :: rest)
    else (focus? test rest).map fun (found, put) => (found, fun b => a :: put b)

/-! ## The operations -/

/-- Work on a store, which may fail. What was done before a failure stays done. -/
abbrev StoreM (σ : Type) := ExceptT StoreError (StateM (Store σ))

namespace StoreM

variable {σ α : Type}

/-- Carries out work: its result, and the store after it. -/
def exec (work : StoreM σ α) (s : Store σ) : Except StoreError α × Store σ :=
  work.run s

/-- The records of an entity, which has to be there. -/
def stored (entity : String) : StoreM σ (List Json) := do
  match (← get).collections.get? entity with
  | some records => return records
  | none => throw (.unknownEntity entity)

/-- The records of an entity, which is made if it is not there. -/
def entry (entity : String) : StoreM σ (List Json) := do
  modify fun s => { s with collections := s.collections.ensure entity [] }
  return ((← get).collections.get? entity).getD []

/-- Puts records in the place of those of an entity. -/
def rewrite (entity : String) (records : List Json) : StoreM σ Unit :=
  modify fun s => { s with collections := s.collections.replace entity records }

/-- Hands an event to the publisher, whatever that answers. -/
def notify (event : String → ChangeEvent) : StoreM σ Unit :=
  modify fun s => { s with sink := (s.publisher.publish (event s.exchange) s.sink).2 }

/-- The attributes that a client may set: those of an object, without `id`. -/
def settable (attributes : Json) : StoreM σ (Keyed Json) :=
  match attributes with
  | .object fields => return Keyed.remove "id" fields
  | _ => throw .invalidAttributes

/-- The first record with an id, and the records with another one in its place. -/
def borrow (entity : String) (id : UInt64) : StoreM σ (Json × (Json → List Json)) := do
  match focus? (Collections.hasId id) (← stored entity) with
  | some place => return place
  | none => throw (.recordNotFound entity id)

/-- Adds a record with a new id, as the first one of its entity if need be. -/
def create (entity : String) (attributes : Json) : StoreM σ Json := do
  let fields ← settable attributes
  let records ← entry entity
  match nextId? records with
  | none => throw (.idExhausted entity)
  | some id =>
    let record := Json.object (Keyed.put "id" (.ofId id) fields)
    rewrite entity (records ++ [record])
    notify fun exchange => ⟨exchange, entity, .created, record⟩
    return record

/-- Sets attributes of the first record with an id. Nothing is told where nothing differs. -/
def update (entity : String) (id : UInt64) (attributes : Json) : StoreM σ Json := do
  let attributes ← settable attributes
  let (record, put) ← borrow entity id
  match record.fields? with
  | none => throw (.notACollection entity)
  | some fields =>
    let merged := merge fields attributes
    let updated := Json.object merged.fields
    rewrite entity (put updated)
    if !merged.dirty.isEmpty then
      notify fun exchange => .updated exchange entity updated (.object merged.dirty)
    return updated

/-- Removes the first record with an id. -/
def delete (entity : String) (id : UInt64) : StoreM σ Json := do
  let records ← stored entity
  match records.findFinIdx? (Collections.hasId id) with
  | none => throw (.recordNotFound entity id)
  | some position =>
    let removed := records[position]
    rewrite entity (records.eraseIdx position)
    notify fun exchange => ⟨exchange, entity, .deleted, removed⟩
    return removed

/-- Removes the records that satisfy a plan, and tells of each. -/
def deleteWhere (entity : String) (plan : QueryPlan) : StoreM σ (List Json) := do
  let (removed, kept) := (← stored entity).partition plan.admits
  rewrite entity kept
  forM removed fun record => notify fun exchange => ⟨exchange, entity, .deleted, record⟩
  return removed

end StoreM

namespace Store

variable {σ τ : Type}

/-- The exchange that events go to unless another one is named. -/
def defaultExchange : String := "monrestapi"

/-- A store that tells nobody of its changes. -/
def quiet (collections : Collections) : Store Unit :=
  ⟨collections, defaultExchange, .silent, ()⟩

/-- The store with another publisher and exchange. -/
def withPublisher (s : Store σ) (publisher : Publisher τ) (sink : τ) (exchange : String) :
    Store τ :=
  ⟨s.collections, exchange, publisher, sink⟩

/-- Adds a record with a new id. -/
def create (s : Store σ) (entity : String) (attributes : Json) : Except StoreError Json × Store σ :=
  (StoreM.create entity attributes).exec s

/-- Sets attributes of the record with an id. -/
def update (s : Store σ) (entity : String) (id : UInt64) (attributes : Json) :
    Except StoreError Json × Store σ :=
  (StoreM.update entity id attributes).exec s

/-- Removes the record with an id. -/
def delete (s : Store σ) (entity : String) (id : UInt64) : Except StoreError Json × Store σ :=
  (StoreM.delete entity id).exec s

/-- Removes the records that satisfy a plan. -/
def deleteWhere (s : Store σ) (entity : String) (plan : QueryPlan) :
    Except StoreError (List Json) × Store σ :=
  (StoreM.deleteWhere entity plan).exec s

end Store

end RecordFilter
