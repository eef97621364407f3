import Messaging.Endpoint
import Messaging.ErrorResponse
import Messaging.Http.ContentType
import Messaging.Message.Reading
import Messaging.Message.Writing
import Messaging.Service

/-!
The service over the hypertext protocol. Every request has an identifier, its own or a new one,
which its answer bears; it is worked on inside a span of the log, and its completion is logged.
-/
namespace Messaging.Api

open Http

/-- What is read from outside while a request is served: the clocks, chance for an identifier of
the request, and how long it took. -/
structure Reading where
  moment : Moment
  chance : Uuid
  latencyMillis : Nat

structure Outcome (σ : Type) where
  response : Response
  service : Service σ
  events : List Log.Event

def maxBodyLength : Nat := 2097152

def requestIdHeader : String := "x-request-id"

def logTarget : String := "ism_server::api"

/-- A message as the JSON body of an answer. One whose `createdAt` cannot be written is a 500. -/
def messageResponse (status : Status) (m : Message) : Response :=
  match m.toJson with
  | .ok body => .json status body
  | .error e => .text .internalServerError e.message

/-- The answer to a call of the service: a status with the message, or the error's own answer. -/
def ofReply {σ : Type} (status : Status) (reply : Reply (Service σ) Message) : Outcome σ :=
  match reply.result with
  | .ok m => ⟨messageResponse status m, reply.state, reply.events⟩
  | .error e => ⟨e.response, reply.state, reply.events ++ e.events⟩

/-- What `POST /messages` takes from a request: 415 unless the first `Content-Type` is JSON, then
413 past the limit of the body, then 400 for text that is not JSON and 422 for JSON that is no
submission. -/
def submission (r : Request) : Except Response NewMessage :=
  if !((r.header? "content-type").any ContentType.isJson) then
    .error (.text .unsupportedMediaType
      "Expected request with `Content-Type: application/json`")
  else if maxBodyLength < r.body.length then
    .error (.text .payloadTooLarge "Failed to buffer the request body: length limit exceeded")
  else match NewMessage.ofJson r.body with
    | .ok new => .ok new
    | .error f =>
      if f.problem.isMisfit then
        .error (.text .unprocessableEntity
          ("Failed to deserialize the JSON body into the target type: "
            ++ f.messageWithPath r.body))
      else
        .error (.text .badRequest
          ("Failed to parse the request body as JSON: " ++ f.messageWithPath r.body))

/-- Calls `parse_id` for `receiverId` and then for `messageId`: a `BadRequest` names the first that is
no UUID. -/
def pathIds (receiverId messageId : String) : Except ServiceError (Uuid × Uuid) := do
  let receiver ← (Uuid.read receiverId).mapError fun e =>
    .badRequest ("Invalid receiverId: " ++ e.message)
  let message ← (Uuid.read messageId).mapError fun e =>
    .badRequest ("Invalid messageId: " ++ e.message)
  return (receiver, message)

/-- The 400 of a path parameter whose percent escapes spell no UTF-8. -/
def notText (parameter : String) : Response :=
  .text .badRequest ("Invalid URL: Invalid UTF-8 in `" ++ parameter ++ "`")

variable {σ : Type} [MessageStore σ]

/-- The handler `send_message` of `POST /messages`. -/
def submit (s : Service σ) (moment : Moment) (r : Request) : Outcome σ :=
  match submission r with
  | .error response => ⟨response, s, []⟩
  | .ok new => ofReply .created (s.send moment new)

/-- The handler `get_message` of `GET /messages/{receiverId}/{messageId}`. -/
def fetch (s : Service σ) (receiverId messageId : Bytes) : Outcome σ :=
  match Percent.decodeText? receiverId, Percent.decodeText? messageId with
  | none, _ => ⟨notText "receiverId", s, []⟩
  | _, none => ⟨notText "messageId", s, []⟩
  | some receiverId, some messageId =>
    match pathIds receiverId messageId with
    | .error e => ⟨e.response, s, e.events⟩
    | .ok (receiver, message) => ofReply .ok (s.get message receiver)

/-- The routes of `app_router`: an unknown path is a 404, and another method than that of the path is
a 405 with `Allow`. -/
def serve (s : Service σ) (moment : Moment) (r : Request) : Outcome σ :=
  match Endpoint.ofPath? r.path with
  | none => ⟨.empty .notFound, s, []⟩
  | some endpoint =>
    if !endpoint.accepts r.method then
      ⟨(Response.empty .methodNotAllowed).addHeader "allow" (Utf8.ofString endpoint.allowed),
        s, []⟩
    else
      let outcome :=
        match endpoint with
        | .livez => ⟨.empty .ok, s, []⟩
        | .messages => submit s moment r
        | .message receiverId messageId => fetch s receiverId messageId
      if r.method = "HEAD" then { outcome with response := outcome.response.dropBody } else outcome

/-- The `x-request-id` of a request: the first that it bears, byte for byte, or a new UUID of
version 4. -/
def requestId (r : Request) (chance : Uuid) : Bytes :=
  (r.header? requestIdHeader).getD (Utf8.ofString (Uuid.random chance).toText)

/-- The span `request`; `http.response.status_code` is known at its end. -/
def requestSpan (r : Request) (id : Bytes) (status : Option Status) : Log.Span :=
  ⟨"request", .info, logTarget,
    [⟨"request_id", .shown ((headerText? id).getD "")⟩,
      ⟨"http.request.method", .shown r.method⟩, ⟨"url.path", .shown r.path⟩]
      ++ (status.toList.map fun status => ⟨"http.response.status_code", .number status.code⟩)
      ++ [⟨"otel.kind", .quoted "server"⟩]⟩

/-- The event `request completed`, and after it `request failed` for a 5xx. -/
def completionEvents (status : Status) (latencyMillis : Nat) : List Log.Event :=
  Log.event .info logTarget "request completed"
      [⟨"latency_ms", .shown (toString latencyMillis)⟩,
        ⟨"status", .shown (toString status.code)⟩]
    :: if status.isServerError then
        [Log.event .error logTarget "request failed"
          [⟨"error", .shown (s!"Status code: {status.code} " ++ status.reason)⟩]]
      else []

/-- A request on its way to the routes, with the identifier that has been noted of it. -/
structure Incoming where
  request : Request
  id : Option Bytes

abbrev Handler (σ : Type) := Incoming → Outcome σ

/-- The outermost layer, which sets `x-request-id`: a request without one is given a new one, and in
any case it is noted in the request. -/
def setRequestId (chance : Uuid) (inner : Handler σ) : Handler σ := fun i =>
  let id := requestId i.request chance
  match i.request.header? requestIdHeader with
  | some _ => inner { i with id }
  | none => inner ⟨i.request.addHeader requestIdHeader id, some id⟩

/-- The layer that traces: the routes run in the span `request`, and the completion is told after
them. -/
def trace (latencyMillis : Nat) (inner : Handler σ) : Handler σ := fun i =>
  let span := requestSpan i.request (i.id.getD [])
  let outcome := inner i
  let status := outcome.response.status
  { outcome with
    events :=
      Log.within (span none) outcome.events
        ++ Log.within (span (some status)) (completionEvents status latencyMillis) }

/-- The innermost layer: the answer gets the `x-request-id` of the request, unless it has one. -/
def propagateRequestId (inner : Handler σ) : Handler σ := fun i =>
  let outcome := inner i
  match outcome.response.header? requestIdHeader, i.request.header? requestIdHeader with
  | none, some id => { outcome with response := outcome.response.addHeader requestIdHeader id }
  | _, _ => outcome

/-- The `app_router` with its layers: `x-request-id` is set outside the trace, and propagated inside
of it. -/
def handle (s : Service σ) (reading : Reading) (r : Request) : Outcome σ :=
  let routes : Handler σ := fun i => serve s reading.moment i.request
  setRequestId reading.chance (trace reading.latencyMillis (propagateRequestId routes)) ⟨r, none⟩

end Messaging.Api
