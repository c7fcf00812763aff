import RecordFilter.Json.Basic

/-!
# Change events

Every change of a record is told by an event on a topic exchange, under a routing key made of the
entity and the kind of change. Events are handed to a publisher, which may refuse them.

* `Publisher.publishAll` hands over events in their order, whether they are refused or not.
* `Publisher.silent`, `Publisher.recorder` and `Publisher.rejecting` are the publishers at hand.
-/

namespace RecordFilter

/-- The kinds of changes. -/
inductive ChangeKind
  | created
  | updated
  | deleted
deriving DecidableEq, Repr

/-- The word for the kind of change. -/
def ChangeKind.word : ChangeKind → String
  | created => "created"
  | updated => "updated"
  | deleted => "deleted"

/-- What is told of a change. -/
structure ChangeEvent where
  exchange : String
  entity : String
  kind : ChangeKind
  payload : Json
deriving DecidableEq

namespace ChangeEvent

/-- The type of the exchange that events go to. -/
def exchangeType : String := "topic"

/-- The key under which an event is routed. -/
def routingKey (e : ChangeEvent) : String :=
  "data." ++ e.entity ++ "." ++ e.kind.word

/-- The event of an updated record: the record, with its changed attributes under `updated_data`. -/
def updated (exchange entity : String) (record changed : Json) : ChangeEvent where
  exchange := exchange
  entity := entity
  kind := .updated
  payload :=
    match record with
    | .object fields => .object (Keyed.put "updated_data" changed fields)
    | other => other

@[simp] theorem field?_updated_self (exchange entity : String) (fields : Keyed Json)
    (changed : Json) :
    (updated exchange entity (.object fields) changed).payload.field? "updated_data" =
      some changed := by
  simp [updated, Json.field?, Json.fields?]

theorem field?_updated_of_ne {key : String} (h : key ≠ "updated_data") (exchange entity : String)
    (fields : Keyed Json) (changed : Json) :
    (updated exchange entity (.object fields) changed).payload.field? key = fields.get? key := by
  simp [updated, Json.field?, Json.fields?, Keyed.get?_put_of_ne h]

/-- The event as an object. -/
def toJson (e : ChangeEvent) : Json :=
  .ofFields [("exchange", .string e.exchange), ("exchange_type", .string exchangeType),
    ("routing_key", .string e.routingKey), ("kind", .string e.kind.word),
    ("entity", .string e.entity), ("payload", e.payload)]

end ChangeEvent

/-- A publisher refused the event with this routing key. -/
structure PublishError where
  routingKey : String
deriving DecidableEq, Repr

/-- The text of the error. -/
def PublishError.message (e : PublishError) : String :=
  "Change event '" ++ e.routingKey ++ "' was rejected by the publisher"

/-- What events are handed to; `σ` is what it keeps of them. -/
structure Publisher (σ : Type) where
  publish : ChangeEvent → σ → Except PublishError Unit × σ

namespace Publisher

variable {σ : Type}

/-- Hands over events one after the other. A refusal changes nothing for those that follow. -/
def publishAll (p : Publisher σ) (events : List ChangeEvent) (sink : σ) : σ :=
  events.foldl (fun sink e => (p.publish e sink).2) sink

/-- Forgets every event. -/
def silent : Publisher σ := ⟨fun _ sink => (.ok (), sink)⟩

/-- Keeps every event, in the order in which they come. -/
def recorder : Publisher (List ChangeEvent) := ⟨fun e sink => (.ok (), sink ++ [e])⟩

/-- Refuses every event. -/
def rejecting : Publisher σ := ⟨fun e sink => (.error ⟨e.routingKey⟩, sink)⟩

@[simp] theorem publishAll_recorder (events sink : List ChangeEvent) :
    recorder.publishAll events sink = sink ++ events := by
  induction events generalizing sink with
  | nil => simp [publishAll]
  | cons e rest ih =>
    have h := ih (sink ++ [e])
    simp only [publishAll, recorder] at h
    simp [publishAll, recorder, h]

end Publisher

end RecordFilter
