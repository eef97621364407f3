import Messaging.Number.Shortest
import Messaging.Text.Decimal
import Messaging.Text.Quoted

/-!
What can be wrong with a JSON text, and where it is noticed. A fault keeps the bytes that were
still unread at that moment, from which line and column follow, and the place in the value that
was being read.
-/
namespace Messaging.Json

inductive Found
  | null
  | flag (value : Bool)
  | integer (value : Int)
  /-- A number with a point or an exponent, or one too long for 64 bits. -/
  | float (negative : Bool) (size : Binary64)
  | text (value : String)
  | sequence
  | map
  deriving DecidableEq, Repr

def Found.describe : Found → String
  | .null => "null"
  | .flag value => "boolean `" ++ (if value then "true" else "false") ++ "`"
  | .integer value => "integer `" ++ Decimal.ofInt value ++ "`"
  | .float negative size =>
    "floating point `" ++ (if negative then "-" else "") ++ size.toText ++ "`"
  | .text value => "string " ++ Text.Quoted.quote value
  | .sequence => "sequence"
  | .map => "map"

inductive Breach
  | expectedValue
  | expectedIdent
  | expectedColon
  | expectedObjectCommaOrEnd
  | expectedListCommaOrEnd
  | keyMustBeString
  | trailingComma
  | trailingCharacters
  | invalidNumber
  | numberOutOfRange
  | invalidEscape
  | unexpectedEndOfEscape
  | loneSurrogate
  | invalidCodePoint
  | controlCharacter
  deriving DecidableEq, Repr

def Breach.message : Breach → String
  | .expectedValue => "expected value"
  | .expectedIdent => "expected ident"
  | .expectedColon => "expected `:`"
  | .expectedObjectCommaOrEnd => "expected `,` or `\x7d`"
  | .expectedListCommaOrEnd => "expected `,` or `]`"
  | .keyMustBeString => "key must be a string"
  | .trailingComma => "trailing comma"
  | .trailingCharacters => "trailing characters"
  | .invalidNumber => "invalid number"
  | .numberOutOfRange => "number out of range"
  | .invalidEscape => "invalid escape"
  | .unexpectedEndOfEscape => "unexpected end of hex escape"
  | .loneSurrogate => "lone leading surrogate in hex escape"
  | .invalidCodePoint => "invalid unicode code point"
  | .controlCharacter => "control character (\\u0000-\\u001F) found while parsing a string"

inductive Unfinished
  | value
  | string
  | list
  | object
  deriving DecidableEq, Repr

def Unfinished.message : Unfinished → String
  | .value => "EOF while parsing a value"
  | .string => "EOF while parsing a string"
  | .list => "EOF while parsing a list"
  | .object => "EOF while parsing an object"

inductive Misfit
  /-- A member of the record does not occur. -/
  | missing (member : String)
  /-- A member of the record occurs again. -/
  | repeated (member : String)
  /-- A name is none of those that are known. -/
  | unknownVariant (name : String) (known : List String)
  /-- A value is of another kind than wanted. -/
  | kind (found : Found) (wanted : String)
  /-- A sequence has another length than wanted. -/
  | length (found : Nat) (wanted : String)
  /-- A map with more or fewer keys than the one that is wanted. -/
  | notSingleKey
  /-- A text of the right kind that does not spell what it should. -/
  | refused (reason : String)
  deriving DecidableEq, Repr

def Misfit.message : Misfit → String
  | .missing member => "missing field `" ++ member ++ "`"
  | .repeated member => "duplicate field `" ++ member ++ "`"
  | .unknownVariant name known =>
    "unknown variant `" ++ name ++ "`, expected one of "
      ++ ", ".intercalate (known.map fun k => "`" ++ k ++ "`")
  | .kind found wanted => "invalid type: " ++ found.describe ++ ", expected " ++ wanted
  | .length found wanted => "invalid length " ++ toString found ++ ", expected " ++ wanted
  | .notSingleKey => "invalid value: map, expected map with a single key"
  | .refused reason => reason

inductive Problem
  | breach (kind : Breach)
  | unfinished (kind : Unfinished)
  | misfit (kind : Misfit)
  deriving DecidableEq, Repr

def Problem.message : Problem → String
  | .breach kind => kind.message
  | .unfinished kind => kind.message
  | .misfit kind => kind.message

/-- The problem is with what a well-formed value says, not with its form. -/
def Problem.isMisfit : Problem → Bool
  | .misfit _ => true
  | _ => false

inductive Step
  | member (name : String)
  | element (index : Nat)
  deriving DecidableEq, Repr

/-- The place of a step: members are set apart by points, elements stand in brackets. -/
def pathText : List Step → String
  | [] => ""
  | first :: more =>
    let shown (separator : String) : Step → String
      | .member name => separator ++ name
      | .element index => "[" ++ toString index ++ "]"
    shown "" first ++ String.join (more.map (shown "."))

/-- A problem, the bytes left when it was noticed, and the place that was being read. -/
structure Fault where
  problem : Problem
  rest : Bytes
  path : List Step := []
  deriving DecidableEq, Repr

namespace Fault

def breach (kind : Breach) (rest : Bytes) : Fault := ⟨.breach kind, rest, []⟩

def breachAt (kind : Breach) (rest : Bytes) : Fault := ⟨.breach kind, rest.tail, []⟩

def unfinished (kind : Unfinished) : Fault := ⟨.unfinished kind, [], []⟩

def misfit (kind : Misfit) (rest : Bytes) : Fault := ⟨.misfit kind, rest, []⟩

def under (step : Step) (f : Fault) : Fault := { f with path := step :: f.path }

/-- The line, counted from one, and the column, counted in bytes, at the end of some bytes. -/
def position (consumed : Bytes) : Nat × Nat :=
  consumed.foldl (fun at_ b => if b = 0x0A then (at_.1 + 1, 0) else (at_.1, at_.2 + 1)) (1, 0)

def message (document : Bytes) (f : Fault) : String :=
  let place := position (document.take (document.length - f.rest.length))
  f.problem.message ++ " at line " ++ toString place.1 ++ " column " ++ toString place.2

/-- The wording of a fault in a document, with the place in the value where there is one. -/
def messageWithPath (document : Bytes) (f : Fault) : String :=
  let path := pathText f.path
  (if path.isEmpty then "" else path ++ ": ") ++ f.message document

end Fault

/-- Marks every fault of a reading as met one step further down. -/
def under {α : Type} (step : Step) (r : Except Fault α) : Except Fault α :=
  r.mapError (Fault.under step)

end Messaging.Json
