import Messaging.Store
import Messaging.Uuid.Text
import Messaging.Uuid.TimeBased

/-!
The service: it gives a submitted message its identity, has it stored, and fetches it again. Each
call asks the store once, and counts how that went.
-/
namespace Messaging

/-- What the clocks show when a message is sent: the moment that goes into its identifier, in
100 ns since 1582-10-15, and the time it is given. -/
structure Moment where
  ticks : Nat
  now : Timestamp

/-- The counters `ism_messages_saved_total` and `ism_messages_fetched_total`, by outcome. -/
structure Counters where
  savedSuccess : Nat := 0
  savedFailure : Nat := 0
  fetchedFound : Nat := 0
  fetchedNotFound : Nat := 0
  fetchedFailure : Nat := 0
  deriving DecidableEq, Repr

namespace Counters

def countSave (c : Counters) : Except ServiceError Message → Counters
  | .ok _ => { c with savedSuccess := c.savedSuccess + 1 }
  | .error _ => { c with savedFailure := c.savedFailure + 1 }

def countFetch (c : Counters) : Except ServiceError (Option Message) → Counters
  | .ok (some _) => { c with fetchedFound := c.fetchedFound + 1 }
  | .ok none => { c with fetchedNotFound := c.fetchedNotFound + 1 }
  | .error _ => { c with fetchedFailure := c.fetchedFailure + 1 }

end Counters

/-- The `MessageService` over a store. -/
structure Service (σ : Type) where
  store : σ
  /-- The node in the identifiers that this service makes. -/
  node : NodeId
  /-- The clock sequence of the next identifier. -/
  sequence : Nat
  counters : Counters

namespace Service

variable {σ : Type}

def new (store : σ) (node : NodeId) (sequence : Nat) : Service σ := ⟨store, node, sequence, {}⟩

def logTarget : String := "ism_server::services::message_service"

/-- The span `send`, which tells neither the body nor the sender. -/
def sendSpan (new : NewMessage) (messageId : Uuid) : Log.Span :=
  ⟨"send", .info, logTarget,
    [⟨"receiver_id", .shown new.receiverId.toText⟩, ⟨"msg_type", .shown new.type.name⟩,
      ⟨"message_id", .shown messageId.toText⟩]⟩

def getSpan (messageId receiverId : Uuid) : Log.Span :=
  ⟨"get", .info, logTarget,
    [⟨"message_id", .shown messageId.toText⟩, ⟨"receiver_id", .shown receiverId.toText⟩]⟩

/-- The identifier of version 1 that a message sent at a moment is given. -/
def nextId (s : Service σ) (moment : Moment) : Uuid :=
  Uuid.timeBased moment.ticks s.sequence s.node

def sendEvents : Except ServiceError Message → List Log.Event
  | .ok _ => [Log.event .debug logTarget "Message stored" []]
  | .error e => [Log.failure logTarget e.message]

/-- The call `send`: gives a message its identifier and `createdAt`, saves it once, and counts how
that went. -/
def send [MessageStore σ] (s : Service σ) (moment : Moment) (new : NewMessage) :
    Reply (Service σ) Message :=
  let messageId := s.nextId moment
  let reply := MessageStore.save s.store (new.toMessage messageId moment.now)
  { result := reply.result
    state :=
      { s with
        store := reply.state
        sequence := (s.sequence + 1) % Uuid.clockSequences
        counters := s.counters.countSave reply.result }
    events := Log.within (sendSpan new messageId) (reply.events ++ sendEvents reply.result) }

/-- A lookup that finds nothing is a `NotFound`. -/
def foundOrError : Except ServiceError (Option Message) → Except ServiceError Message
  | .ok (some m) => .ok m
  | .ok none => .error .notFound
  | .error e => .error e

/-- The call `get`: asks the store once for a message in its receiver's partition, and counts how
that went. -/
def get [MessageStore σ] (s : Service σ) (messageId receiverId : Uuid) :
    Reply (Service σ) Message :=
  let reply := MessageStore.lookup s.store messageId receiverId
  let result := foundOrError reply.result
  { result
    state :=
      { s with store := reply.state, counters := s.counters.countFetch reply.result }
    events :=
      Log.within (getSpan messageId receiverId)
        (reply.events ++ Log.failureOf logTarget ServiceError.message result) }

end Service

end Messaging
