/-!
Why the database did not carry out a statement.
-/
namespace Messaging.Cql

/-- The answer of a server that refuses a request: the protocol's code and the server's own
words. -/
structure Refusal where
  code : Nat
  reason : String
  deriving DecidableEq, Repr

def syntaxErrorCode : Nat := 0x2000

def invalidCode : Nat := 0x2200

def alreadyExistsCode : Nat := 0x2400

def codeText : Nat → String
  | 0x0000 => "Internal server error. This indicates a server-side bug"
  | 0x000A => "Invalid protocol message received from the driver"
  | 0x0100 => "Authentication failed - bad credentials"
  | 0x1001 => "The request cannot be processed because the coordinator node is overloaded"
  | 0x1002 => "The coordinator node is still bootstrapping"
  | 0x1003 => "Error during truncate operation"
  | 0x2000 => "The submitted query has a syntax error"
  | 0x2100 => "The logged user doesn't have the right to perform the query"
  | 0x2200 => "The query is syntactically correct but invalid"
  | 0x2300 => "The query is invalid because of some configuration issue"
  | code => "Other error not specified in the specification. Error code: " ++ toString code

def Refusal.message (r : Refusal) : String :=
  "Database returned an error: " ++ codeText r.code ++ ", Error message: " ++ r.reason

def overloadedCode : Nat := 0x1001

inductive Failure
  /-- No answer came in time. -/
  | timeout (millis : Nat)
  /-- The server refused it. -/
  | refused (refusal : Refusal)
  /-- There was no node to ask. -/
  | emptyPlan
  deriving DecidableEq, Repr

def Failure.message : Failure → String
  | .timeout millis =>
    "Request execution exceeded a client timeout of " ++ toString millis ++ "ms"
  | .refused refusal => refusal.message
  | .emptyPlan =>
    "Load balancing policy returned an empty plan. If you are using DefaultPolicy, ensure that you"
      ++ " have not selected a nonexistent datacenter as preferred. If you are using a custom LBP"
      ++ " implementation, ensure that your LBP implementation is correct. If neither of the above"
      ++ " suggestions is the cause, then this is most likely a driver bug!"

end Messaging.Cql
