import Messaging.Config
import Messaging.Cql.SchemaError
import Messaging.Cql.Server
import Messaging.Log

/-!
Starting up on the database: connecting, making the keyspace and the table ready or only selecting
the keyspace, and preparing the statements. Whatever fails ends the start, and nothing is asked
after it.
-/
namespace Messaging.Cql

inductive ConnectError
  /-- The host has no address. -/
  | unresolved
  /-- Nothing answers at the address. -/
  | unreachable
  /-- The user or the password is not accepted. -/
  | loginRefused
  deriving DecidableEq, Repr

def ConnectError.message : ConnectError → String
  | .unresolved => "Couldn't resolve any hostname"
  | .unreachable | .loginRefused => "Failed to perform initial cluster metadata fetch"

inductive StartError
  | connect (reason : ConnectError)
  | schema (reason : SchemaError)
  | prepare (cause : Failure)
  deriving DecidableEq, Repr

def StartError.message : StartError → String
  | .connect reason => reason.message
  | .schema reason => reason.message
  | .prepare cause => cause.message

/-- What lies at the contact point, `DB_HOST` and `DB_PORT`. -/
inductive Network
  /-- The host has no address. -/
  | unresolved
  /-- Nothing answers. -/
  | silent
  | listening (server : Server)

structure Started (α : Type) where
  result : Except StartError α
  server : Server
  events : List Log.Event

def schemaTarget : String := "ism_server::adapters::database::schema"

def bootstrapSpan (keyspace : String) : Log.Span :=
  ⟨"bootstrap", .info, schemaTarget, [⟨"keyspace", .quoted keyspace⟩]⟩

/-- Opens a session at the contact point, with `DB_USER` and `DB_PASSWORD` where the server asks for
a login. -/
def connect (settings : DatabaseSettings) (s : Server) : Started Unit :=
  let connected : List Log.Event :=
    [Log.event .info "ism_server::adapters::database" "Connected to message database"
      [⟨"contact_point", .shown settings.contactPoint⟩]]
  match s.credentials with
  | none => ⟨.ok (), s, connected⟩
  | some credentials =>
    let (result, s) := s.receive none (.login settings.user settings.password)
    match result with
    | .error _ => ⟨.error (.connect .loginRefused), s, []⟩
    | .ok _ =>
      if credentials = (settings.user, settings.password) then ⟨.ok (), s, connected⟩
      else ⟨.error (.connect .loginRefused), s, []⟩

/-- What the driver finds wrong with a name before it sends a `USE`: it is empty, longer than 48
characters, or has a character other than letters, digits and `_`. -/
def checkKeyspaceName (name : String) : Except BadKeyspaceName Unit :=
  if name.isEmpty then .error .empty
  else if Keyspace.maxLength < name.length then .error (.tooLong name name.length)
  else match name.toList.find? fun c => !Keyspace.isNameChar c with
    | some c => .error (.illegalCharacter name c)
    | none => .ok ()

/-- `use_keyspace`: the driver checks the name, and sends `USE` with the name in quotes. -/
def useKeyspace (name : String) (s : Server) : Started Unit :=
  match checkKeyspaceName name with
  | .error reason => ⟨.error (.schema (.useKeyspace name (.badName reason))), s, []⟩
  | .ok () =>
    match s.receive none (.use name) with
    | (.error cause, s) => ⟨.error (.schema (.useKeyspace name (.failed cause))), s, []⟩
    | (.ok _, s) => ⟨.ok (), s, []⟩

/-- `bootstrap`: `CREATE KEYSPACE IF NOT EXISTS`, `USE`, and `CREATE TABLE IF NOT EXISTS`, in the
span of that name. -/
def bootstrap (name : String) (s : Server) : Started Unit :=
  let within (started : Started Unit) : Started Unit :=
    { started with events := Log.within (bootstrapSpan name) started.events }
  match s.receive none (.createKeyspace name) with
  | (.error cause, s) => within ⟨.error (.schema (.createKeyspace name cause)), s, []⟩
  | (.ok _, s) =>
    let ready : Log.Event :=
      Log.event .info schemaTarget "Keyspace ready" [⟨"keyspace", .quoted name⟩]
    let used := useKeyspace name s
    match used.result with
    | .error e => within ⟨.error e, used.server, [ready]⟩
    | .ok () =>
      match used.server.receive (some name) .createTable with
      | (.error cause, s) => within ⟨.error (.schema (.createTable cause)), s, [ready]⟩
      | (.ok _, s) =>
        within ⟨.ok (), s, [ready, Log.event .info schemaTarget "Table messages ready" []]⟩

/-- Prepares the `INSERT` and the `SELECT` of a `MessageRepository`. -/
def prepareStatements (name : String) (s : Server) : Started Unit :=
  match s.receive (some name) .prepareInsert with
  | (.error cause, s) => ⟨.error (.prepare cause), s, []⟩
  | (.ok _, s) =>
    match s.receive (some name) .prepareSelect with
    | (.error cause, s) => ⟨.error (.prepare cause), s, []⟩
    | (.ok _, s) => ⟨.ok (), s, []⟩

/-- One step of starting up after another, unless the first failed. -/
def Started.andThen {α β : Type} (first : Started α) (next : Server → Started β) : Started β :=
  match first.result with
  | .error e => ⟨.error e, first.server, first.events⟩
  | .ok _ =>
    let second := next first.server
    { second with events := first.events ++ second.events }

/-- `init_message_store`: connects, makes the schema ready where `DB_INIT` says so or else selects
the keyspace, and prepares the two statements. -/
def start (settings : DatabaseSettings) (s : Server) : Started Unit :=
  ((connect settings s).andThen
    (if settings.init then bootstrap settings.keyspace else useKeyspace settings.keyspace)).andThen
      (prepareStatements settings.keyspace)

end Messaging.Cql
