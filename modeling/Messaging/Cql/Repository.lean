import Messaging.Cql.Bootstrap
import Messaging.Session

/-!
The store of messages in the database. A message is saved as one row and looked up as the first
row that fits; both statements need one node only.
-/
namespace Messaging.Cql

/-- The `MessageRepository`: a session on the server, with the keyspace that is current in it. -/
structure Repository where
  server : Server
  keyspace : String

namespace Repository

def logTarget : String := "ism_server::adapters::database::message_repo"

def saveSpan (m : Message) : Log.Span :=
  ⟨"save", .debug, logTarget,
    [⟨"receiver_id", .shown m.receiverId.toText⟩, ⟨"message_id", .shown m.messageId.toText⟩]⟩

def lookupSpan (messageId receiverId : Uuid) : Log.Span :=
  ⟨"get_by_id", .debug, logTarget,
    [⟨"message_id", .shown messageId.toText⟩, ⟨"receiver_id", .shown receiverId.toText⟩]⟩

/-- The call `save`: executes the prepared `INSERT` with the cells of the message. -/
def save (r : Repository) (m : Message) : Reply Repository Message :=
  let (answer, server) := r.server.receive (some r.keyspace) (.insert (Record.ofMessage m).cells)
  let result : Except ServiceError Message :=
    match answer with
    | .ok _ => .ok m
    | .error cause => .error (.database cause)
  ⟨result, { r with server },
    Log.within (saveSpan m) (Log.failureOf logTarget ServiceError.message result)⟩

def readAnswer : Except Failure Server.Response → Except ServiceError (Option Message)
  | .error cause => .error (.database cause)
  | .ok .done => .error (.malformedRow (.undecodable "the answer holds no rows"))
  | .ok (.rows rows) => rows.firstMessage.mapError .malformedRow

/-- The call `get_by_id`: executes the prepared `SELECT` with the receiver and the message, and reads
the first row. -/
def lookup (r : Repository) (messageId receiverId : Uuid) : Reply Repository (Option Message) :=
  let (answer, server) :=
    r.server.receive (some r.keyspace)
      (.select (Cell.ofUuid receiverId) (Cell.ofUuid messageId))
  let result := readAnswer answer
  ⟨result, { r with server },
    Log.within (lookupSpan messageId receiverId)
      (Log.failureOf logTarget ServiceError.message result)⟩

instance : MessageStore Repository where
  save := save
  lookup := lookup
  rowCount r := ((r.server.table? (some r.keyspace)).getD []).length

inductive Control
  /-- Other requests fail from now on. -/
  | fail (fails : Request → Option Failure)
  /-- Lookups are answered otherwise from now on. -/
  | reply (canned : Option ResultSet)

instance : Controlled Repository Control where
  control
    | .fail fails, r => { r with server := { r.server with fails } }
    | .reply canned, r => { r with server := { r.server with canned } }

end Repository

/-- The store that starting up gives, or why it gives none, and what was said. -/
def initStore (settings : DatabaseSettings) : Network →
    Except StartError Repository × Option Server × List Log.Event
  | .unresolved => (.error (.connect .unresolved), none, [])
  | .silent => (.error (.connect .unreachable), none, [])
  | .listening server =>
    let started := start settings server
    (started.result.map fun _ => ⟨started.server, settings.keyspace⟩, some started.server,
      started.events)

end Messaging.Cql
