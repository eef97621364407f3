import Messaging.Http
import Messaging.Json.Writing
import Messaging.Log
import Messaging.ServiceError

/-!
The answer to a request that was not granted. What went wrong inside the store is said in the
log and not to the client, who is told one fixed text for each such cause.
-/
namespace Messaging.ServiceError

def status : ServiceError → Http.Status
  | .database _ => .serviceUnavailable
  | .malformedRow _ => .internalServerError
  | .notFound => .notFound
  | .badRequest _ => .badRequest

def clientText : ServiceError → String
  | .database _ => "Message store unavailable"
  | .malformedRow _ => "Internal server error"
  | .notFound => "Not found"
  | .badRequest reason => reason

/-- The answer that `into_response` makes of an error: an object with the one member `error`. -/
def response (e : ServiceError) : Http.Response :=
  .json e.status (Json.object [Json.member "error" (Json.string e.clientText)])

def logTarget : String := "ism_server::error"

/-- What `into_response` tells the log. -/
def events : ServiceError → List Log.Event
  | .database cause =>
    [Log.event .error logTarget "Database error" [⟨"error", .shown cause.message⟩]]
  | .malformedRow fault =>
    [Log.event .error logTarget "Failed to decode stored message"
      [⟨"error", .shown fault.message⟩]]
  | .notFound => [Log.event .debug logTarget "Resource not found" []]
  | .badRequest reason => [Log.event .debug logTarget reason []]

end Messaging.ServiceError
