import Messaging.Cql.Failure

/-!
Why the keyspace and the table of messages could not be made ready.
-/
namespace Messaging.Cql

inductive BadKeyspaceName
  | empty
  | tooLong (name : String) (length : Nat)
  | illegalCharacter (name : String) (found : Char)
  deriving DecidableEq, Repr

def BadKeyspaceName.message : BadKeyspaceName → String
  | .empty => "Keyspace name is empty"
  | .tooLong name length =>
    s!"Keyspace name too long, must be up to 48 characters, found {length} characters. Bad keyspace name: '{name}'"
  | .illegalCharacter name found =>
    s!"Illegal character found: '{found}', only alphanumeric and underscores allowed. Bad keyspace name: '{name}'"

/-- Why a keyspace could not be made the current one. -/
inductive UseFailure
  | badName (reason : BadKeyspaceName)
  | failed (cause : Failure)
  deriving DecidableEq, Repr

def UseFailure.message : UseFailure → String
  | .badName reason => reason.message
  | .failed cause => cause.message

/-- The step of making the schema ready that failed. -/
inductive SchemaError
  | createKeyspace (keyspace : String) (cause : Failure)
  | useKeyspace (keyspace : String) (cause : UseFailure)
  | createTable (cause : Failure)
  deriving DecidableEq, Repr

namespace SchemaError

def stage : SchemaError → String
  | .createKeyspace keyspace _ => "failed to create keyspace " ++ keyspace
  | .useKeyspace keyspace _ => "failed to use keyspace " ++ keyspace
  | .createTable _ => "failed to create messages table"

def cause : SchemaError → String
  | .createKeyspace _ cause => cause.message
  | .useKeyspace _ cause => cause.message
  | .createTable cause => cause.message

def message (e : SchemaError) : String := e.stage ++ ": " ++ e.cause

end SchemaError

end Messaging.Cql
