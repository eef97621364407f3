import Messaging.Config.Help

/-!
The configuration of the server. Each setting has its value from the command line, else from its
environment variable unless that is empty, else the built-in one.
-/
namespace Messaging

open Config

structure ServerSettings where
  host : String
  port : UInt16
  envMode : String
  shutdownTimeoutSecs : UInt64
  deriving DecidableEq, Repr

structure DatabaseSettings where
  host : String
  port : UInt16
  user : String
  password : String
  keyspace : String
  init : Bool
  deriving DecidableEq, Repr

def DatabaseSettings.contactPoint (d : DatabaseSettings) : String :=
  d.host ++ ":" ++ toString d.port

structure TelemetrySettings where
  logFormat : LogFormat
  otlpEndpoint : Option String
  deriving DecidableEq, Repr

/-- The `Config` of the server. -/
structure Settings where
  server : ServerSettings
  database : DatabaseSettings
  telemetry : TelemetrySettings
  deriving DecidableEq, Repr

namespace Settings

abbrev Environment := String → Option String

/-- The default that a flag gets: its environment variable where that is set and not empty, else the
built-in value. -/
def fallback? (env : Environment) (o : Setting) : Option String :=
  match env o.variableName with
  | some value => if value.isEmpty then o.builtIn? else some value
  | none => o.builtIn?

/-- Adds the values of the settings that were not given, in order. -/
def addFallbacks (env : Environment) : List Setting → Given → Except Stop Given
  | [], g => .ok g
  | o :: os, g =>
    match g o, fallback? env o with
    | none, some value => do
      addFallbacks env os (g.set o (← o.readValue (Utf8.ofString value)))
    | _, _ => addFallbacks env os g

def ofGiven (g : Given) : Settings where
  server :=
    { host := (g .host).getD ""
      port := (g .port).getD 0
      envMode := (g .envMode).getD ""
      shutdownTimeoutSecs := (g .shutdownTimeout).getD 0 }
  database :=
    { host := (g .dbHost).getD ""
      port := (g .dbPort).getD 0
      user := (g .dbUser).getD ""
      password := (g .dbPassword).getD ""
      keyspace := (g .dbKeyspace).getD ""
      init := (g .dbInit).getD false }
  telemetry :=
    { logFormat := (g .logFormat).getD .text
      otlpEndpoint := g .otlpEndpoint }

/-- `load_from`: the configuration of a command line, whose first word is the program's own name,
and an environment. -/
def load (words : List Bytes) (env : Environment) : Except Stop Settings := do
  let given ← CommandLine.read words.tail
  return ofGiven (← addFallbacks env Setting.all given)

/-- What the user is told when no settings come of a command line. -/
def stopText (words : List Bytes) (env : Environment) : Stop → String
  | .usage error => error.message ++ "\n"
  | .help =>
    helpText ((words.head?.bind calledAs?).getD programName) (fallback? env)
  | .version => versionText

def stopExitCode : Stop → Nat
  | .usage _ => 2
  | .help | .version => 0

end Settings

end Messaging
