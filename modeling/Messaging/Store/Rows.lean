import Messaging.Number.BigEndian
import Messaging.Uuid

/-!
Rows in the order of their keys. A row is kept under its receiver, its message and a moment; the
unit of the moment is that of whoever keeps the rows. Writing under a key that is there replaces
the row.
-/
namespace Messaging

/-- The number that the bytes of an identifier give; identifiers are ordered by it. -/
def Uuid.toNat (u : Uuid) : Nat := BigEndian.value u.bytes

structure RowKey where
  receiverId : Uuid
  messageId : Uuid
  moment : Int
  deriving DecidableEq

/-- The key comes before another: by receiver, then by message, then by moment. -/
def RowKey.before (k l : RowKey) : Bool :=
  k.receiverId.toNat < l.receiverId.toNat
    || (k.receiverId.toNat = l.receiverId.toNat
      && (k.messageId.toNat < l.messageId.toNat
        || (k.messageId.toNat = l.messageId.toNat && k.moment < l.moment)))

def RowKey.isOf (k : RowKey) (messageId receiverId : Uuid) : Bool :=
  k.receiverId = receiverId && k.messageId = messageId

abbrev Rows (α : Type) := List (RowKey × α)

namespace Rows

variable {α : Type}

/-- The rows with one more, which replaces the one of its key. -/
def upsert (key : RowKey) (row : α) : Rows α → Rows α
  | [] => [(key, row)]
  | (k, r) :: rows =>
    if key = k then (key, row) :: rows
    else if key.before k then (key, row) :: (k, r) :: rows
    else (k, r) :: upsert key row rows

/-- The first row of a message in a receiver's partition. -/
def first? (messageId receiverId : Uuid) (rows : Rows α) : Option α :=
  (rows.find? fun entry => entry.1.isOf messageId receiverId).map Prod.snd

end Rows

end Messaging
