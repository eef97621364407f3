/-!
Log events: what is said, how grave it is, which part of the server says it, and the spans of work
it is said in, from the outermost. Work is told as a value together with the events it emits.
-/
namespace Messaging.Log

inductive Level
  | error
  | warn
  | info
  | debug
  | trace
  deriving DecidableEq, Repr

namespace Level

def name : Level → String
  | .error => "ERROR"
  | .warn => "WARN"
  | .info => "INFO"
  | .debug => "DEBUG"
  | .trace => "TRACE"

def rank : Level → Nat
  | .error => 1
  | .warn => 2
  | .info => 3
  | .debug => 4
  | .trace => 5

end Level

inductive Value
  /-- A text that stands for itself. -/
  | shown (text : String)
  /-- A text that a log line quotes. -/
  | quoted (text : String)
  | number (value : Nat)
  | flag (value : Bool)
  deriving DecidableEq, Repr

structure Field where
  name : String
  value : Value
  deriving DecidableEq, Repr

structure Span where
  name : String
  level : Level
  target : String
  fields : List Field
  deriving DecidableEq, Repr

structure Event where
  level : Level
  target : String
  message : Option String
  fields : List Field
  spans : List Span
  deriving DecidableEq, Repr

def event (level : Level) (target message : String) (fields : List Field) : Event :=
  ⟨level, target, some message, fields, []⟩

/-- The event by which a piece of work tells that it failed. -/
def failure (target error : String) : Event :=
  ⟨.warn, target, none, [⟨"error", .shown error⟩], []⟩

/-- The event, said inside a further span. -/
def Event.inside (span : Span) (e : Event) : Event := { e with spans := span :: e.spans }

def within (span : Span) (events : List Event) : List Event := events.map (Event.inside span)

/-- The warning that a failed piece of work leaves, if it failed. -/
def failureOf {ε α : Type} (target : String) (message : ε → String) : Except ε α → List Event
  | .ok _ => []
  | .error e => [failure target (message e)]

def panicked (location payload : String) : Event :=
  event .error "ism_server" "Panic occurred"
    [⟨"panic.location", .shown location⟩, ⟨"panic.payload", .shown payload⟩]

end Messaging.Log
