import Messaging.Http

/-!
The type of a request's body, `type/subtype` with parameters. JSON is `application/json` and every
`application` type whose subtype ends in `+json`, in any case.
-/
namespace Messaging.Http.ContentType

def isToken (b : UInt8) : Bool :=
  (0x30 ≤ b && b ≤ 0x39) || (0x41 ≤ b && b ≤ 0x5A) || (0x61 ≤ b && b ≤ 0x7A) ||
    [0x21, 0x23, 0x24, 0x25, 0x26, 0x27, 0x2A, 0x2B, 0x2D, 0x2E, 0x5E, 0x5F, 0x60, 0x7C,
      0x7E].contains b

def isQuotable (b : UInt8) : Bool := 0x20 ≤ b && b ≠ 0x7F

inductive ParameterState
  /-- Before a parameter, where blanks may stand. -/
  | start
  | name
  /-- After an equals sign. -/
  | valueStart
  | value
  /-- After an opening quote, where a quote does not close. -/
  | quoteStart
  | quoted
  /-- After a closing quote. -/
  | afterQuote
  deriving DecidableEq, Repr

namespace ParameterState

def step : ParameterState → UInt8 → Option ParameterState
  | .start, b => if b = 0x20 then some .start else if isToken b then some .name else none
  | .name, b => if b = 0x3D then some .valueStart else if isToken b then some .name else none
  | .valueStart, b =>
    if b = 0x22 then some .quoteStart else if isToken b then some .value else none
  | .value, b => if b = 0x3B then some .start else if isToken b then some .value else none
  | .quoteStart, b => if isQuotable b then some .quoted else none
  | .quoted, b =>
    if b = 0x22 then some .afterQuote else if isQuotable b then some .quoted else none
  | .afterQuote, b =>
    if b = 0x3B then some .start else if b = 0x20 then some .afterQuote else none

def isFinal : ParameterState → Bool
  | .start | .valueStart | .value | .afterQuote => true
  | .name | .quoteStart | .quoted => false

end ParameterState

def areParameters (bs : Bytes) : Bool :=
  (bs.foldlM ParameterState.step .start).any ParameterState.isFinal

def lower (b : UInt8) : UInt8 := if 0x41 ≤ b ∧ b ≤ 0x5A then b + 0x20 else b

/-- A subtype up to its last plus sign, and what follows that; a plus sign in first place counts
as part of the name. -/
def splitSuffix (subtype : Bytes) : Bytes × Option Bytes :=
  let suffix := (subtype.reverse.takeWhile (· ≠ 0x2B)).reverse
  let before := subtype.length - suffix.length
  if 2 ≤ before then (subtype.take (before - 1), some suffix) else (subtype, none)

/-- The value of a `Content-Type` counts as that of a JSON body. -/
def isJson (value : Bytes) : Bool :=
  let json := Utf8.ofString "json"
  let type := value.takeWhile isToken
  match value.dropWhile isToken with
  | 0x2F :: rest =>
    let subtype := rest.takeWhile isToken
    let wellFormed :=
      match rest.dropWhile isToken with
      | [] => true
      | 0x3B :: parameters => !subtype.isEmpty && areParameters parameters
      | _ => false
    let (name, suffix) := splitSuffix (subtype.map lower)
    value.all isTextByte && wellFormed && type.map lower = Utf8.ofString "application"
      && (name = json || suffix = some json)
  | _ => false

end Messaging.Http.ContentType
