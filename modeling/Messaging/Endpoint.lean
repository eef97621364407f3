import Messaging.Http.Percent

/-!
The places that requests can be made to, by their undecoded path.
-/
namespace Messaging

inductive Endpoint
  /-- Tells that the server is running. -/
  | livez
  /-- Takes messages. -/
  | messages
  /-- Gives one message, named by two segments of the path that still have their escapes. -/
  | message (receiverId messageId : Bytes)
  deriving DecidableEq, Repr

namespace Endpoint

def slash : UInt8 := 0x2F

def after? : (lead : Bytes) → Bytes → Option Bytes
  | [], bs => some bs
  | _ :: _, [] => none
  | l :: lead, b :: bs => if b = l then after? lead bs else none

/-- The route of a path: `/livez`, `/messages`, or `/messages/{receiverId}/{messageId}`, whose last
segment must not be empty. -/
def ofPath? (path : String) : Option Endpoint :=
  let bs := Utf8.ofString path
  if path = "/livez" then some .livez
  else if path = "/messages" then some .messages
  else match after? (Utf8.ofString "/messages/") bs with
    | none => none
    | some rest =>
      let receiverId := rest.takeWhile (· ≠ slash)
      match rest.dropWhile (· ≠ slash) with
      | [] => none
      | _ :: messageId =>
        if messageId.isEmpty || messageId.contains slash then none
        else some (.message receiverId messageId)

def allowed : Endpoint → String
  | .livez | .message _ _ => "GET,HEAD"
  | .messages => "POST"

def accepts (e : Endpoint) (method : String) : Bool :=
  match e with
  | .livez | .message _ _ => method = "GET" || method = "HEAD"
  | .messages => method = "POST"

end Endpoint

end Messaging
