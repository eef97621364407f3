import Messaging.Cql.Failure
import Messaging.Message

/-!
Why a request for a message was not granted.
-/
namespace Messaging

inductive RowFault
  /-- Its type has a name that is none. -/
  | unknownType (name : String)
  /-- Its columns or cells do not have their form. -/
  | undecodable (reason : String)
  deriving DecidableEq, Repr

def RowFault.message : RowFault → String
  | .unknownType name => MessageType.unknown name
  | .undecodable reason => reason

/-- The `AppError` of a call of the service. -/
inductive ServiceError
  /-- The database did not carry out a statement. -/
  | database (cause : Cql.Failure)
  /-- A stored row is no message. -/
  | malformedRow (fault : RowFault)
  /-- There is no such message. -/
  | notFound
  /-- The request itself is wrong. -/
  | badRequest (reason : String)
  deriving DecidableEq, Repr

def ServiceError.message : ServiceError → String
  | .database cause => "Database error: " ++ cause.message
  | .malformedRow fault => "Malformed row: " ++ fault.message
  | .notFound => "Not found"
  | .badRequest reason => "Invalid request: " ++ reason

end Messaging
