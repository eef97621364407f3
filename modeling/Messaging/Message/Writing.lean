import Messaging.Json.Writing
import Messaging.Message
import Messaging.Timestamp.Rfc3339
import Messaging.Uuid.Text

/-!
Writing a message as a JSON object with its members in order. Every message can be written but
those whose time has no RFC 3339 text.
-/
namespace Messaging

/-- A message with the text of its time as an object. -/
def Message.jsonObject (m : Message) (createdAt : String) : Bytes :=
  Json.object [
    Json.member "messageId" (Json.string m.messageId.toText),
    Json.member "senderId" (Json.string m.senderId.toText),
    Json.member "receiverId" (Json.string m.receiverId.toText),
    Json.member "msgBody" (Json.string m.body),
    Json.member "createdAt" (Json.string createdAt),
    Json.member "msgType" (Json.string m.type.name),
    Json.member "hasRead" (Json.flag m.hasRead)]

/-- A message as an object, or the reason why its time cannot be written. -/
def Message.toJson (m : Message) : Except Timestamp.Rfc3339.WriteError Bytes :=
  (Timestamp.Rfc3339.write m.createdAt).map m.jsonObject

end Messaging
