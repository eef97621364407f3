import Messaging.Cql.Repository
import Messaging.Http.Uri
import Messaging.Log.Filter

/-!
The program: it reads its configuration, makes its log and its exporters ready, starts up on the
database, and only then listens for requests, until it is told to stop.
-/
namespace Messaging.Program

open Config (Setting)

structure World where
  /-- The words of the command line, the program's own name first. -/
  words : List Bytes
  env : Settings.Environment
  /-- What lies at an address of the database. -/
  network : DatabaseSettings → Cql.Network
  /-- The address that is listened on, or why none can be. -/
  bind : ServerSettings → Except String String
  /-- The node of the identifiers that are made, and their first clock sequence. -/
  node : NodeId
  sequence : Nat
  /-- The requests that come before the signal to stop. -/
  requests : List (Api.Reading × Http.Request)

structure Outcome where
  exitCode : Nat
  /-- What is told on standard output other than log lines. -/
  output : String
  /-- What is told on standard error. -/
  errors : String
  format : Config.LogFormat
  /-- What the log takes. -/
  events : List Log.Event
  responses : List Http.Response
  /-- The database afterwards, if it was reached. -/
  server : Option Cql.Server

def logTarget : String := "ism_server"

/-- An exporter's endpoint: the one that is configured, unless it is empty, else that of its
signal, else the common one. -/
def exporterEndpoint? (configured : String) (env : Settings.Environment) (signal : String) :
    Option String :=
  [some configured, env ("OTEL_EXPORTER_OTLP_" ++ signal ++ "_ENDPOINT"),
    env "OTEL_EXPORTER_OTLP_ENDPOINT"].findSome? fun e => e.filter fun s => !s.isEmpty

def variableNames : List String :=
  Setting.all.map Setting.variableName
    ++ ["OTEL_EXPORTER_OTLP_TRACES_ENDPOINT", "OTEL_EXPORTER_OTLP_METRICS_ENDPOINT", "RUST_LOG"]

/-- What is wrong with an exporter's endpoint. -/
def endpointError? (endpoint : Option String) : Option String :=
  match endpoint with
  | none => none
  | some s =>
    match Http.Uri.path (Utf8.ofString s) with
    | .ok _ => none
    | .error f => some ("invalid URI " ++ s ++ ". Reason " ++ f.message)

/-- What keeps `init_telemetry` from making its exporters, which it does only where an endpoint is
configured: that of traces comes first, and then that of metrics. -/
def telemetryError? (settings : TelemetrySettings) (env : Settings.Environment) : Option String :=
  settings.otlpEndpoint.bind fun configured =>
    (endpointError? (exporterEndpoint? configured env "TRACES")).or
      (endpointError? (exporterEndpoint? configured env "METRICS"))

def bootSpan (settings : Settings) : Log.Span :=
  ⟨"boot_server", .info, logTarget, [⟨"env", .shown settings.server.envMode⟩]⟩

/-- What is said about the configuration. The user and the password are not told. -/
def loadedEvent (settings : Settings) : Log.Event :=
  Log.event .info logTarget "Loaded configuration"
    [⟨"host", .shown settings.server.host⟩, ⟨"port", .number settings.server.port.toNat⟩,
      ⟨"db_contact_point", .shown settings.database.contactPoint⟩,
      ⟨"db_keyspace", .shown settings.database.keyspace⟩,
      ⟨"db_init", .flag settings.database.init⟩]

def serveAll {σ : Type} [MessageStore σ] (s : Service σ) : List (Api.Reading × Http.Request) →
    List Http.Response × Service σ × List Log.Event
  | [] => ([], s, [])
  | (reading, r) :: more =>
    let o := Api.handle s reading r
    let (responses, s, events) := serveAll o.service more
    (o.response :: responses, s, o.events ++ events)

def failed (format : Config.LogFormat) (error : String) (events : List Log.Event)
    (server : Option Cql.Server) : Outcome :=
  ⟨1, "", "Error: " ++ error ++ "\n", format, events, [], server⟩

/-- `main` once the configuration is loaded: starts up on the database, listens, serves the
requests, and stops at the signal. -/
def boot (w : World) (settings : Settings) : Outcome :=
  let format := settings.telemetry.logFormat
  let inBoot := Log.within (bootSpan settings)
  let (store, server, events) := Cql.initStore settings.database (w.network settings.database)
  let started := loadedEvent settings :: events
  match store with
  | .error e => failed format e.message (inBoot started) server
  | .ok repository =>
    match w.bind settings.server with
    | .error e => failed format e (inBoot started) server
    | .ok address =>
      let listening := Log.event .info logTarget "listening" [⟨"address", .shown address⟩]
      let (responses, service, served) :=
        serveAll (Service.new repository w.node w.sequence) w.requests
      ⟨0, "", "", format,
        inBoot (started ++ [listening]) ++ served
          ++ [Log.event .info logTarget "Shutdown signal received" []],
        responses, some service.store.server⟩

def run (w : World) : Outcome :=
  match Settings.load w.words w.env with
  | .error stop =>
    let text := Settings.stopText w.words w.env stop
    let code := Settings.stopExitCode stop
    if code = 0 then ⟨code, text, "", .text, [], [], none⟩
    else ⟨code, "", text, .text, [], [], none⟩
  | .ok settings =>
    match telemetryError? settings.telemetry w.env with
    | some e => failed settings.telemetry.logFormat e [] none
    | none =>
      let filter := Log.Filter.ofSetting (w.env "RUST_LOG")
      let outcome := boot w settings
      { outcome with events := outcome.events.filterMap filter.take? }

end Messaging.Program
