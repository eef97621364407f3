import Messaging.Text.Utf8

/-!
Requests and answers of the hypertext protocol, as far as the service deals with them.
-/
namespace Messaging.Http

/-- A header: its name in lower case and the bytes of its value. -/
structure Header where
  name : String
  value : Bytes
  deriving DecidableEq, Repr

structure Request where
  method : String
  path : String
  headers : List Header
  body : Bytes
  deriving DecidableEq, Repr

def header? (headers : List Header) (name : String) : Option Bytes :=
  (headers.find? fun h => h.name = name).map Header.value

def Request.header? (r : Request) (name : String) : Option Bytes := Http.header? r.headers name

def Request.addHeader (r : Request) (name : String) (value : Bytes) : Request :=
  { r with headers := r.headers ++ [⟨name, value⟩] }

inductive Status
  | ok
  | created
  | badRequest
  | notFound
  | methodNotAllowed
  | payloadTooLarge
  | unsupportedMediaType
  | unprocessableEntity
  | internalServerError
  | serviceUnavailable
  deriving DecidableEq, Repr

namespace Status

def code : Status → Nat
  | .ok => 200
  | .created => 201
  | .badRequest => 400
  | .notFound => 404
  | .methodNotAllowed => 405
  | .payloadTooLarge => 413
  | .unsupportedMediaType => 415
  | .unprocessableEntity => 422
  | .internalServerError => 500
  | .serviceUnavailable => 503

def reason : Status → String
  | .ok => "OK"
  | .created => "Created"
  | .badRequest => "Bad Request"
  | .notFound => "Not Found"
  | .methodNotAllowed => "Method Not Allowed"
  | .payloadTooLarge => "Payload Too Large"
  | .unsupportedMediaType => "Unsupported Media Type"
  | .unprocessableEntity => "Unprocessable Entity"
  | .internalServerError => "Internal Server Error"
  | .serviceUnavailable => "Service Unavailable"

def isServerError (s : Status) : Bool := 500 ≤ s.code

end Status

structure Response where
  status : Status
  headers : List Header
  body : Bytes
  deriving DecidableEq, Repr

namespace Response

def empty (status : Status) : Response := ⟨status, [], []⟩

def withBody (status : Status) (contentType : String) (body : Bytes) : Response :=
  ⟨status, [⟨"content-type", Utf8.ofString contentType⟩], body⟩

def text (status : Status) (body : String) : Response :=
  withBody status "text/plain; charset=utf-8" (Utf8.ofString body)

def json (status : Status) (body : Bytes) : Response :=
  withBody status "application/json" body

def header? (r : Response) (name : String) : Option Bytes := Http.header? r.headers name

def addHeader (r : Response) (name : String) (value : Bytes) : Response :=
  { r with headers := r.headers ++ [⟨name, value⟩] }

def dropBody (r : Response) : Response := { r with body := [] }

end Response

/-- The byte may stand in a header that is read as text: a visible ASCII character, a space or a
tab. -/
def isTextByte (b : UInt8) : Bool := (0x20 ≤ b && b ≤ 0x7E) || b = 0x09

/-- The value of a header as text; none if it is not plain. -/
def headerText? (value : Bytes) : Option String :=
  if value.all isTextByte then some (String.ofList (value.map fun b => Char.ofNat b.toNat))
  else none

end Messaging.Http
