import Messaging.Timestamp
import Messaging.Uuid

/-!
Messages: what a sender submits, and what is stored of it once the writer has given it an
identifier and a time.
-/
namespace Messaging

inductive MessageType
  | video
  | text
  | link
  deriving DecidableEq, Repr

namespace MessageType

def name : MessageType → String
  | .video => "Video"
  | .text => "Text"
  | .link => "Link"

instance : ToString MessageType := ⟨name⟩

def all : List MessageType := [.video, .text, .link]

def ofName? (s : String) : Option MessageType := all.find? fun t => t.name = s

@[simp] theorem ofName?_name (t : MessageType) : ofName? t.name = some t := by
  cases t <;> rfl

def unknown (s : String) : String := "unknown message type: " ++ s

end MessageType

/-- A stored message. Those of one receiver are kept together, in the order of their identifiers and
times. -/
structure Message where
  messageId : Uuid
  senderId : Uuid
  receiverId : Uuid
  body : String
  createdAt : Timestamp
  type : MessageType
  hasRead : Bool
  deriving DecidableEq

/-- The `NewMessage` that a client posts. -/
structure NewMessage where
  senderId : Uuid
  receiverId : Uuid
  body : String
  type : MessageType
  deriving DecidableEq

/-- The unread message that a submission becomes. `createdAt` is kept to the millisecond, the
resolution of the store. -/
def NewMessage.toMessage (new : NewMessage) (messageId : Uuid) (createdAt : Timestamp) :
    Message where
  messageId := messageId
  senderId := new.senderId
  receiverId := new.receiverId
  body := new.body
  createdAt := createdAt.truncateToMillis
  type := new.type
  hasRead := false

end Messaging
