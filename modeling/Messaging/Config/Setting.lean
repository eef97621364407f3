import Messaging.Config.Truthy
import Messaging.Keyspace
import Messaging.Number.Bounded

/-!
The settings of the server: what each is called on the command line and in the environment, what
it is without either, and how its value is read.
-/
namespace Messaging.Config

inductive LogFormat
  | text
  | json
  deriving DecidableEq, Repr, Inhabited

namespace LogFormat

def word : LogFormat → String
  | .text => "text"
  | .json => "json"

def all : List LogFormat := [.text, .json]

def ofWord? (s : String) : Option LogFormat := all.find? fun f => f.word = s

end LogFormat

inductive Setting
  | host
  | port
  | envMode
  | shutdownTimeout
  | dbHost
  | dbPort
  | dbUser
  | dbPassword
  | dbKeyspace
  | dbInit
  | logFormat
  | otlpEndpoint
  deriving DecidableEq, Repr

namespace Setting

/-- All settings, in the order in which they are listed and checked. -/
def all : List Setting :=
  [.host, .port, .envMode, .shutdownTimeout, .dbHost, .dbPort, .dbUser, .dbPassword, .dbKeyspace,
    .dbInit, .logFormat, .otlpEndpoint]

def option : Setting → String
  | .host => "host"
  | .port => "port"
  | .envMode => "env"
  | .shutdownTimeout => "shutdown-timeout-secs"
  | .dbHost => "db-host"
  | .dbPort => "db-port"
  | .dbUser => "db-user"
  | .dbPassword => "db-password"
  | .dbKeyspace => "db-keyspace"
  | .dbInit => "db-init"
  | .logFormat => "log-format"
  | .otlpEndpoint => "otlp-endpoint"

def placeholder : Setting → String
  | .host => "HOST"
  | .port => "PORT"
  | .envMode => "ENV_MODE"
  | .shutdownTimeout => "SHUTDOWN_TIMEOUT_SECS"
  | .dbHost => "db_host"
  | .dbPort => "db_port"
  | .dbUser => "USER"
  | .dbPassword => "PASSWORD"
  | .dbKeyspace => "KEYSPACE"
  | .dbInit => "INIT"
  | .logFormat => "LOG_FORMAT"
  | .otlpEndpoint => "OTLP_ENDPOINT"

/-- The option with its value, as diagnostics and the help show it. -/
def usage (o : Setting) : String := "--" ++ o.option ++ " <" ++ o.placeholder ++ ">"

def variableName : Setting → String
  | .host => "HOST"
  | .port => "PORT"
  | .envMode => "ENV"
  | .shutdownTimeout => "SHUTDOWN_TIMEOUT_SECS"
  | .dbHost => "DB_HOST"
  | .dbPort => "DB_PORT"
  | .dbUser => "DB_USER"
  | .dbPassword => "DB_PASSWORD"
  | .dbKeyspace => "DB_KEYSPACE"
  | .dbInit => "DB_INIT"
  | .logFormat => "LOG_FORMAT"
  | .otlpEndpoint => "OTEL_EXPORTER_OTLP_ENDPOINT"

def help : Setting → String
  | .host => "Host to listen on"
  | .port => "Port to listen on"
  | .envMode => "Environment mode (development, staging, production, ...)"
  | .shutdownTimeout => "How long to wait for telemetry to flush on shutdown"
  | .dbHost => "Contact point host of the Cassandra/Scylla cluster"
  | .dbPort => "Contact point port of the Cassandra/Scylla cluster"
  | .dbUser => ""
  | .dbPassword => ""
  | .dbKeyspace => "Keyspace holding the messages table"
  | .dbInit => "Create the keyspace and table on startup if they do not exist"
  | .logFormat => "Log output format"
  | .otlpEndpoint => "OTLP gRPC endpoint for traces and metrics. Export is disabled when unset"

/-- The value of a setting that is given nowhere; the endpoint then stays unset. -/
def builtIn? : Setting → Option String
  | .host => some "localhost"
  | .port => some "8080"
  | .envMode => some "development"
  | .shutdownTimeout => some "10"
  | .dbHost => some "localhost"
  | .dbPort => some "5432"
  | .dbUser => some "admin"
  | .dbPassword => some "admin"
  | .dbKeyspace => some "messaging"
  | .dbInit => some "true"
  | .logFormat => some "text"
  | .otlpEndpoint => none

def choices : Setting → List String
  | .logFormat => LogFormat.all.map LogFormat.word
  | _ => []

abbrev Value : Setting → Type
  | .host | .envMode | .dbHost | .dbUser | .dbPassword | .dbKeyspace | .otlpEndpoint => String
  | .port | .dbPort => UInt16
  | .shutdownTimeout => UInt64
  | .dbInit => Bool
  | .logFormat => LogFormat

def ofOption? (name : Bytes) : Option Setting :=
  all.find? fun o => Utf8.ofString o.option = name

end Setting

inductive Refusal
  /-- It is no number within the bounds of its reader. -/
  | number (fault : Bounded.Fault)
  /-- It is the number of no port. -/
  | noPort (n : Int)
  /-- It is no name of a keyspace. -/
  | noKeyspaceName (name : String)
  deriving DecidableEq, Repr

def Refusal.message : Refusal → String
  | .number fault => fault.message
  | .noPort n => Decimal.ofInt n ++ " is not in 0..=65535"
  | .noKeyspaceName name =>
    "'" ++ name
      ++ "' is not a valid keyspace name (letters, digits and '_', starting with a letter, max 48)"

inductive ValueError
  /-- The bytes are no text. -/
  | notText
  /-- The value is empty where a word is to be chosen. -/
  | missing
  /-- The value is none of the words that can be chosen. -/
  | notAChoice (value : String)
  /-- The reader of the setting does not accept the value. -/
  | refused (value : String) (reason : Refusal)
  deriving DecidableEq, Repr

/-- A port: a number of 64 bits, and then one of 16. -/
def readPort (s : String) : Except Refusal UInt16 :=
  match Bounded.readSigned (Bounded.greatestInt64 + 1) Bounded.greatestInt64 (Utf8.ofString s) with
  | .error fault => .error (.number fault)
  | .ok n => if 0 ≤ n ∧ n ≤ 65535 then .ok (UInt16.ofNat n.toNat) else .error (.noPort n)

def readSeconds (s : String) : Except Refusal UInt64 :=
  match Bounded.readUnsigned Bounded.greatestUInt64 (Utf8.ofString s) with
  | .error fault => .error (.number fault)
  | .ok n => .ok (UInt64.ofNat n)

/-- `parse_keyspace`: the value of `--db-keyspace`. -/
def readKeyspace (s : String) : Except Refusal String :=
  match Keyspace.read? s with
  | some name => .ok name
  | none => .error (.noKeyspaceName s)

def readText {α : Type} (reader : String → Except Refusal α) (bs : Bytes) :
    Except ValueError α :=
  match Utf8.toString? bs with
  | none => .error .notText
  | some s => (reader s).mapError (.refused s)

def readLogFormat (bs : Bytes) : Except ValueError LogFormat :=
  if bs.isEmpty then .error .missing
  else match (Utf8.toString? bs).bind LogFormat.ofWord? with
    | some f => .ok f
    | none => .error (.notAChoice (Utf8.toStringLossy bs))

def Setting.read : (o : Setting) → Bytes → Except ValueError o.Value
  | .host | .envMode | .dbHost | .dbUser | .dbPassword | .otlpEndpoint => readText .ok
  | .port | .dbPort => readText readPort
  | .shutdownTimeout => readText readSeconds
  | .dbKeyspace => readText readKeyspace
  | .dbInit => readText fun s => .ok (isTruthy s)
  | .logFormat => readLogFormat

end Messaging.Config
