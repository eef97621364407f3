import Messaging.Message

/-!
The members of a message record, apart from the form they are written in: their names, the type
of value each holds, and records of which some members are known.
-/
namespace Messaging

inductive Member
  | messageId
  | senderId
  | receiverId
  | body
  | createdAt
  | type
  | hasRead
  deriving DecidableEq, Repr

namespace Member

def name : Member → String
  | .messageId => "messageId"
  | .senderId => "senderId"
  | .receiverId => "receiverId"
  | .body => "msgBody"
  | .createdAt => "createdAt"
  | .type => "msgType"
  | .hasRead => "hasRead"

abbrev Value : Member → Type
  | .messageId | .senderId | .receiverId => Uuid
  | .body => String
  | .createdAt => Timestamp
  | .type => MessageType
  | .hasRead => Bool

def ofName? (members : List Member) (name : String) : Option Member :=
  members.find? fun m => m.name = name

end Member

def Draft : Type := (m : Member) → Option m.Value

namespace Draft

def empty : Draft := fun _ => none

def set (d : Draft) (m : Member) (v : m.Value) : Draft :=
  fun k => if h : k = m then some (h ▸ v) else d k

@[simp] theorem empty_apply (m : Member) : empty m = none := rfl

@[simp] theorem set_self (d : Draft) (m : Member) (v : m.Value) : d.set m v m = some v := by
  simp [set]

theorem set_of_ne (d : Draft) {m k : Member} (v : m.Value) (h : k ≠ m) : d.set m v k = d k := by
  simp [set, h]

end Draft

/-- How a record is read: its name, its members in order, and the record that they make. -/
structure Shape (α : Type) where
  name : String
  members : List Member
  build? : Draft → Option α

def Message.shape : Shape Message where
  name := "struct Message"
  members := [.messageId, .senderId, .receiverId, .body, .createdAt, .type, .hasRead]
  build? d := do
    return {
      messageId := ← d .messageId
      senderId := ← d .senderId
      receiverId := ← d .receiverId
      body := ← d .body
      createdAt := ← d .createdAt
      type := ← d .type
      hasRead := ← d .hasRead }

def NewMessage.shape : Shape NewMessage where
  name := "struct NewMessage"
  members := [.senderId, .receiverId, .body, .type]
  build? d := do
    return {
      senderId := ← d .senderId
      receiverId := ← d .receiverId
      body := ← d .body
      type := ← d .type }

def Shape.firstMissing? {α : Type} (shape : Shape α) (d : Draft) : Option Member :=
  shape.members.find? fun m => (d m).isNone

end Messaging
