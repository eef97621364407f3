import Messaging.Json.Writing
import Messaging.Config.Setting
import Messaging.Log
import Messaging.Text.Quoted
import Messaging.Timestamp.Rfc3339

/-!
Log lines. In text a line gives the level, the spans with their fields, the speaking part, the
message and the fields; in JSON it is an object of the same.
-/
namespace Messaging.Log

def Value.text : Value → String
  | .shown s => s
  | .quoted s => Text.Quoted.quote s
  | .number n => toString n
  | .flag b => toString b

def Field.text (f : Field) : String := f.name ++ "=" ++ f.value.text

def Span.text (s : Span) : String :=
  s.name
    ++ (if s.fields.isEmpty then ""
        else "\x7b" ++ " ".intercalate (s.fields.map Field.text) ++ "\x7d")
    ++ ":"

/-- A line of text, after its time: the level stands in five places. -/
def Event.textLine (e : Event) : String :=
  let level := String.ofList (List.replicate (5 - e.level.name.length) ' ') ++ e.level.name
  let spans := if e.spans.isEmpty then "" else String.join (e.spans.map Span.text) ++ " "
  level ++ " " ++ spans ++ e.target ++ ": "
    ++ " ".intercalate (e.message.toList ++ e.fields.map Field.text)

def Value.json : Value → Bytes
  | .shown s | .quoted s => Json.string s
  | .number n => Utf8.ofString (toString n)
  | .flag b => Json.flag b

def Field.json (f : Field) : Bytes := Json.member f.name f.value.json

def Span.json (s : Span) : Bytes :=
  Json.object (s.fields.map Field.json ++ [Json.member "name" (Json.string s.name)])

/-- A JSON line; the spans stand in it only where there are any, and the innermost once more. -/
def Event.jsonLine (timestamp : String) (e : Event) : Bytes :=
  let fields :=
    Json.object
      ((e.message.toList.map fun m => Json.member "message" (Json.string m))
        ++ e.fields.map Field.json)
  Json.object
    ([Json.member "timestamp" (Json.string timestamp),
        Json.member "level" (Json.string e.level.name), Json.member "fields" fields,
        Json.member "target" (Json.string e.target)]
      ++ match e.spans.getLast? with
        | none => []
        | some innermost =>
          [Json.member "span" innermost.json,
            Json.member "spans"
              (0x5B :: (Json.commaSeparated (e.spans.map Span.json) ++ [0x5D]))])

/-- The time of a line, which is told in UTC and to the microsecond. -/
def timeText (now : Timestamp) : String :=
  String.ofList
    (Timestamp.Rfc3339.localChars now ++ ['.']
      ++ Decimal.padded 6 (now.time.nanosecond.val / 1000) ++ ['Z'])

def Event.line (format : Config.LogFormat) (now : Timestamp) (e : Event) : String :=
  match format with
  | .text => timeText now ++ " " ++ e.textLine
  | .json => Utf8.toStringLossy (e.jsonLine (timeText now))

end Messaging.Log
