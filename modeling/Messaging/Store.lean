import Messaging.Log
import Messaging.ServiceError

/-!
What the service asks of a store of messages. A call is told by its result, the store after it and
what the store said meanwhile.
-/
namespace Messaging

structure Reply (σ α : Type) where
  result : Except ServiceError α
  state : σ
  events : List Log.Event

/-- The `MessageStore` interface on states of type `σ`: `save`, and `lookup` for `get_by_id`. -/
class MessageStore (σ : Type) where
  /-- Writes one row; saving the same receiver, identifier and time again replaces it. -/
  save : σ → Message → Reply σ Message
  /-- Looks a message up in its receiver's partition. -/
  lookup : σ → (messageId receiverId : Uuid) → Reply σ (Option Message)
  /-- How many rows there are. -/
  rowCount : σ → Nat

end Messaging
