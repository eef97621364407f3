import Messaging.Json.Fault

/-!
The smallest parts of a JSON text: blanks, the words `null`, `true` and `false`, strings and
numbers. Each reader takes the bytes from its first on and gives back those after its last.
-/
namespace Messaging.Json

/-- The bytes that may stand between the parts. -/
def isBlank (b : UInt8) : Bool := b = 0x20 || b = 0x0A || b = 0x09 || b = 0x0D

def skipBlanks (bs : Bytes) : Bytes := bs.dropWhile isBlank

def word : (expected : Bytes) → Bytes → Except Fault Bytes
  | [], bs => .ok bs
  | _ :: _, [] => .error (.unfinished .value)
  | e :: es, b :: bs => if b = e then word es bs else .error (.breach .expectedIdent bs)

def nullTail : Bytes := [0x75, 0x6C, 0x6C]

def trueTail : Bytes := [0x72, 0x75, 0x65]

def falseTail : Bytes := [0x61, 0x6C, 0x73, 0x65]

namespace StringLiteral

inductive State
  /-- Between two characters. -/
  | plain
  /-- After a backslash. -/
  | escape
  /-- Inside the four digits of a code unit; `high` is a surrogate that waits for its partner. -/
  | unit (digits : Bytes) (high : Option Nat)
  /-- After a high surrogate, where the backslash of its partner must follow. -/
  | partner (high : Nat)
  /-- After that backslash, where the `u` of the partner must follow. -/
  | partnerEscape (high : Nat)
  deriving DecidableEq, Repr

def shortEscape? (b : UInt8) : Option UInt8 :=
  match b with
  | 0x22 => some 0x22
  | 0x5C => some 0x5C
  | 0x2F => some 0x2F
  | 0x62 => some 0x08
  | 0x66 => some 0x0C
  | 0x6E => some 0x0A
  | 0x72 => some 0x0D
  | 0x74 => some 0x09
  | _ => none

def unitValue? (digits : Bytes) : Option Nat :=
  digits.foldlM (fun n b => (Hex.value? b).map (n * 16 + ·)) 0

def isHigh (unit : Nat) : Bool := 0xD800 ≤ unit && unit ≤ 0xDBFF

def isLow (unit : Nat) : Bool := 0xDC00 ≤ unit && unit ≤ 0xDFFF

def pairValue (high low : Nat) : Nat := 0x10000 + (high - 0xD800) * 0x400 + (low - 0xDC00)

def spell (codePoint : Nat) : Bytes := String.utf8EncodeChar (Char.ofNat codePoint)

/-- Takes a whole code unit: it gives a character, or waits for its partner. -/
def finishUnit (digits : Bytes) (high : Option Nat) : Except Breach (State × Bytes) :=
  match unitValue? digits with
  | none => .error .invalidEscape
  | some unit =>
    match high with
    | some high =>
      if isLow unit then .ok (.plain, spell (pairValue high unit)) else .error .loneSurrogate
    | none =>
      if isLow unit then .error .loneSurrogate
      else if isHigh unit then .ok (.partner unit, [])
      else .ok (.plain, spell unit)

/-- Reads one byte of a string, other than its closing quote, and gives the bytes that it adds
to the text. -/
def step : State → UInt8 → Except Breach (State × Bytes)
  | .plain, b =>
    if b = 0x5C then .ok (.escape, [])
    else if b < 0x20 then .error .controlCharacter
    else .ok (.plain, [b])
  | .escape, b =>
    if b = 0x75 then .ok (.unit [] none, [])
    else match shortEscape? b with
      | some c => .ok (.plain, [c])
      | none => .error .invalidEscape
  | .unit digits high, b =>
    if digits.length < 3 then .ok (.unit (digits ++ [b]) high, [])
    else finishUnit (digits ++ [b]) high
  | .partner high, b =>
    if b = 0x5C then .ok (.partnerEscape high, []) else .error .unexpectedEndOfEscape
  | .partnerEscape high, b =>
    if b = 0x75 then .ok (.unit [] (some high), []) else .error .unexpectedEndOfEscape

/-- Reads up to the closing quote; `done` holds the bytes of the text so far, last first. -/
def scan : State → (done : Bytes) → Bytes → Except Fault (Bytes × Bytes)
  | _, _, [] => .error (.unfinished .string)
  | s, done, b :: rest =>
    if s = .plain ∧ b = 0x22 then .ok (done.reverse, rest)
    else match step s b with
      | .error kind => .error (.breach kind rest)
      | .ok (s', out) => scan s' (out.reverse ++ done) rest

/-- Reads a string whose opening quote has been read. The bytes of its text must spell
characters; if not, the fault is at the first that does not. -/
def read (bs : Bytes) : Except Fault (String × Bytes) :=
  match scan .plain [] bs with
  | .error f => .error f
  | .ok (text, rest) =>
    match Utf8.toString? text with
    | some s => .ok (s, rest)
    | none => .error (.breach .invalidCodePoint (bs.drop (Utf8.validLength bs + 1)))

inductive SkipState
  | plain
  | escape
  | unit (digits : Bytes)
  deriving DecidableEq, Repr

/-- Skips up to the closing quote. Escapes must be well formed, but need not make characters. -/
def skip : SkipState → Bytes → Except Fault Bytes
  | _, [] => .error (.unfinished .string)
  | .plain, b :: rest =>
    if b = 0x22 then .ok rest
    else if b = 0x5C then skip .escape rest
    else if b < 0x20 then .error (.breach .controlCharacter (b :: rest))
    else skip .plain rest
  | .escape, b :: rest =>
    if b = 0x75 then skip (.unit []) rest
    else if (shortEscape? b).isSome then skip .plain rest
    else .error (.breach .invalidEscape rest)
  | .unit digits, b :: rest =>
    if digits.length < 3 then skip (.unit (digits ++ [b])) rest
    else if (unitValue? (digits ++ [b])).isSome then skip .plain rest
    else .error (.breach .invalidEscape rest)

end StringLiteral

namespace Numeral

def greatest : Nat := 18446744073709551615

def isExponentMark (b : UInt8) : Bool := b = 0x65 || b = 0x45

/-- Takes digits into a significand while it fits in 64 bits; `count` counts them. -/
def absorb (significand count : Nat) : Bytes → Nat × Nat × Bytes
  | [] => (significand, count, [])
  | b :: rest =>
    let grown := significand * 10 + Decimal.digitValue b
    if Decimal.isDigit b ∧ grown ≤ greatest then absorb grown (count + 1) rest
    else (significand, count, b :: rest)

/-- The value of a significand and a power of ten, or a fault if it is too great. -/
def scaled (negative : Bool) (significand : Nat) (power : Int) (rest : Bytes) :
    Except Fault (Found × Bytes) :=
  match Binary64.ofDecimal? significand power with
  | some size => .ok (.float negative size, rest)
  | none => .error (.breach .numberOutOfRange rest)

/-- Takes the digits of an exponent while it fits in 31 bits; none once it does not. -/
def exponentDigits (value : Nat) : Bytes → Option Nat × Bytes
  | [] => (some value, [])
  | b :: rest =>
    if Decimal.isDigit b then
      let grown := value * 10 + Decimal.digitValue b
      if grown ≤ 2147483647 then exponentDigits grown rest else (none, rest)
    else (some value, b :: rest)

def exponent (negative : Bool) (significand : Nat) (power : Int) (bs : Bytes) :
    Except Fault (Found × Bytes) :=
  let down := bs.head? = some 0x2D
  let bs := if bs.head? = some 0x2B ∨ down then bs.tail else bs
  match bs with
  | [] => .error (.unfinished .value)
  | b :: rest =>
    if Decimal.isDigit b then
      match exponentDigits (Decimal.digitValue b) rest with
      | (some value, rest) =>
        scaled negative significand (if down then power - value else power + value) rest
      | (none, rest) =>
        if significand ≠ 0 ∧ !down then .error (.breach .numberOutOfRange rest)
        else .ok (.float negative .zero, rest.dropWhile Decimal.isDigit)
    else .error (.breach .invalidNumber rest)

/-- Reads the rest of a number after its point. Digits that no longer fit are dropped. -/
def fraction (negative : Bool) (significand : Nat) (power : Int) (bs : Bytes) :
    Except Fault (Found × Bytes) :=
  let (significand, count, rest) := absorb significand 0 bs
  match bs with
  | [] => .error (.unfinished .value)
  | b :: _ =>
    if !Decimal.isDigit b then .error (.breachAt .invalidNumber bs)
    else
      let power := power - count
      match rest.dropWhile Decimal.isDigit with
      | b :: rest =>
        if isExponentMark b then exponent negative significand power rest
        else scaled negative significand power (b :: rest)
      | [] => scaled negative significand power []

/-- What follows the digits before the point; `power` counts those that no longer fitted. -/
def afterWhole (negative : Bool) (significand power : Nat) (bs : Bytes) :
    Except Fault (Found × Bytes) :=
  let plain : Except Fault (Found × Bytes) :=
    if power ≠ 0 then scaled negative significand power bs
    else if !negative then .ok (.integer significand, bs)
    else if 1 ≤ significand ∧ significand ≤ 9223372036854775808 then
      .ok (.integer (-(significand : Int)), bs)
    else scaled negative significand 0 bs
  match bs with
  | [] => plain
  | b :: rest =>
    if b = 0x2E then fraction negative significand power rest
    else if isExponentMark b then exponent negative significand power rest
    else plain

/-- Reads a number after its sign. Whole numbers of 64 bits keep their value; all others become
the binary64 number that their significand and power of ten give. -/
def read (negative : Bool) : Bytes → Except Fault (Found × Bytes)
  | [] => .error (.unfinished .value)
  | b :: rest =>
    if b = 0x30 then
      match rest with
      | [] => afterWhole negative 0 0 []
      | c :: _ =>
        if Decimal.isDigit c then .error (.breachAt .invalidNumber rest)
        else afterWhole negative 0 0 rest
    else if Decimal.isDigit b then
      let (significand, _, rest) := absorb 0 0 (b :: rest)
      afterWhole negative significand (rest.takeWhile Decimal.isDigit).length
        (rest.dropWhile Decimal.isDigit)
    else .error (.breach .invalidNumber rest)

def skipExponent (bs : Bytes) : Except Fault Bytes :=
  let signed := bs.head? = some 0x2B ∨ bs.head? = some 0x2D
  match (if signed then bs.tail else bs) with
  | [] => .error (.breach .invalidNumber [])
  | b :: rest =>
    if Decimal.isDigit b then .ok (rest.dropWhile Decimal.isDigit)
    else .error (.breach .invalidNumber rest)

def skipFraction (bs : Bytes) : Except Fault Bytes :=
  if (bs.head?.any Decimal.isDigit) then
    match bs.dropWhile Decimal.isDigit with
    | [] => .ok []
    | b :: rest => if isExponentMark b then skipExponent rest else .ok (b :: rest)
  else .error (.breachAt .invalidNumber bs)

/-- Skips what may follow the digits before the point. -/
def skipAfterWhole : Bytes → Except Fault Bytes
  | [] => .ok []
  | b :: rest =>
    if b = 0x2E then skipFraction rest
    else if isExponentMark b then skipExponent rest
    else .ok (b :: rest)

def skip : Bytes → Except Fault Bytes
  | [] => .error (.breach .invalidNumber [])
  | b :: rest =>
    if b = 0x30 then
      if rest.head?.any Decimal.isDigit then .error (.breachAt .invalidNumber rest)
      else skipAfterWhole rest
    else if Decimal.isDigit b then skipAfterWhole (rest.dropWhile Decimal.isDigit)
    else .error (.breach .invalidNumber rest)

end Numeral

/-- The fault of a value that is not of the wanted kind: the value is read so far as to say what
it is, but lists and objects only to their first byte. -/
def notA (wanted : String) : Bytes → Fault
  | [] => .unfinished .value
  | b :: rest =>
    let told (found : Found) (rest : Bytes) : Fault := .misfit (.kind found wanted) rest
    let name (tail : Bytes) (found : Found) : Fault :=
      match word tail rest with
      | .ok rest => told found rest
      | .error f => f
    if b = 0x6E then name nullTail .null
    else if b = 0x74 then name trueTail (.flag true)
    else if b = 0x66 then name falseTail (.flag false)
    else if b = 0x2D then
      match Numeral.read true rest with
      | .ok (found, rest) => told found rest
      | .error f => f
    else if Decimal.isDigit b then
      match Numeral.read false (b :: rest) with
      | .ok (found, rest) => told found rest
      | .error f => f
    else if b = 0x22 then
      match StringLiteral.read rest with
      | .ok (s, rest) => told (.text s) rest
      | .error f => f
    else if b = 0x5B then told .sequence (b :: rest)
    else if b = 0x7B then told .map (b :: rest)
    else .breachAt .expectedValue (b :: rest)

end Messaging.Json
