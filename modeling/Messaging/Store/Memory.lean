import Messaging.Store
import Messaging.Store.Rows

/-!
A store that keeps messages as they are, under the instant of their time. It can be made to fail,
and then leaves its rows alone.
-/
namespace Messaging

/-- A store in memory, and the error that every call meets while there is one. -/
structure MemoryStore where
  rows : Rows Message
  failing : Option ServiceError

namespace MemoryStore

def empty : MemoryStore := ⟨[], none⟩

def key (m : Message) : RowKey := ⟨m.receiverId, m.messageId, m.createdAt.unixNanos⟩

def save (s : MemoryStore) (m : Message) : Reply MemoryStore Message :=
  match s.failing with
  | some e => ⟨.error e, s, []⟩
  | none => ⟨.ok m, { s with rows := s.rows.upsert (key m) m }, []⟩

def lookup (s : MemoryStore) (messageId receiverId : Uuid) : Reply MemoryStore (Option Message) :=
  match s.failing with
  | some e => ⟨.error e, s, []⟩
  | none => ⟨.ok (s.rows.first? messageId receiverId), s, []⟩

def withFailure (s : MemoryStore) (failing : Option ServiceError) : MemoryStore :=
  { s with failing }

instance : MessageStore MemoryStore where
  save := save
  lookup := lookup
  rowCount s := s.rows.length

end MemoryStore

end Messaging
