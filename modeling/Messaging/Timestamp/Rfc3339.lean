import Messaging.Text.Decimal
import Messaging.Timestamp

/-!
The text of a timestamp by RFC 3339: `YYYY-MM-DDThh:mm:ss`, a fraction of the second without
trailing zeros, and `Z` or the offset in hours and minutes. Reading goes from left to right and
stops at the first part that has not its form; only then are the numbers held against the
calendar.
-/
namespace Messaging.Timestamp.Rfc3339

inductive Component
  | year | month | day | separator | hour | minute | second | subsecond | offsetHour | offsetMinute
  deriving DecidableEq, Repr

def Component.name : Component → String
  | .year => "year"
  | .month => "month"
  | .day => "day"
  | .separator => "separator"
  | .hour => "hour"
  | .minute => "minute"
  | .second => "second"
  | .subsecond => "subsecond"
  | .offsetHour => "offset hour"
  | .offsetMinute => "offset minute"

inductive WriteError
  /-- The year does not have four digits. -/
  | year
  /-- The offset is a day or more. -/
  | offsetHour
  /-- The offset is no whole number of minutes. -/
  | offsetSecond
  deriving DecidableEq, Repr

def WriteError.message : WriteError → String
  | .year => "The year component cannot be formatted into the requested format."
  | .offsetHour => "The offset_hour component cannot be formatted into the requested format."
  | .offsetSecond => "The offset_second component cannot be formatted into the requested format."

def dropTrailingZeros (cs : List Char) : List Char := (cs.reverse.dropWhile (· = '0')).reverse

/-- The fraction of a second, after its point, or nothing for a whole second. -/
def fractionText (nanosecond : Nat) : List Char :=
  if nanosecond = 0 then [] else '.' :: dropTrailingZeros (Decimal.padded 9 nanosecond)

def offsetText (seconds : Int) : List Char :=
  if seconds = 0 then ['Z']
  else
    [if seconds < 0 then '-' else '+'] ++ Decimal.padded 2 (seconds.natAbs / 3600)
      ++ [':'] ++ Decimal.padded 2 (seconds.natAbs / 60 % 60)

/-- The characters of a local date and time up to whole seconds. -/
def localChars (ts : Timestamp) : List Char :=
  Decimal.padded 4 ts.date.year.toNat ++ ['-'] ++ Decimal.padded 2 ts.date.month ++ ['-']
    ++ Decimal.padded 2 ts.date.day ++ ['T'] ++ Decimal.padded 2 ts.time.hour.val ++ [':']
    ++ Decimal.padded 2 ts.time.minute.val ++ [':'] ++ Decimal.padded 2 ts.time.second.val

def chars (ts : Timestamp) : List Char :=
  localChars ts ++ fractionText ts.time.nanosecond.val ++ offsetText ts.offset.seconds

/-- The text of a timestamp, or the first reason why it has none. -/
def write (ts : Timestamp) : Except WriteError String :=
  if ¬ (0 ≤ ts.date.year ∧ ts.date.year ≤ 9999) then .error .year
  else if 24 ≤ ts.offset.seconds.natAbs / 3600 then .error .offsetHour
  else if ts.offset.seconds.natAbs % 60 ≠ 0 then .error .offsetSecond
  else .ok (String.ofList (chars ts))

inductive ReadError
  /-- A part does not have its form. -/
  | form (part : Component)
  /-- A hyphen or a colon is missing. -/
  | literal
  /-- There is more text after the offset. -/
  | trailing
  /-- A part is no date or time of the calendar. -/
  | range (part : Component)
  deriving DecidableEq, Repr

def ReadError.message : ReadError → String
  | .form part => "the '" ++ part.name ++ "' component could not be parsed"
  | .literal => "a character literal was not valid"
  | .trailing => "unexpected trailing characters; the end of input was expected"
  | .range part => part.name ++ " was not in range"

def digits (part : Component) (count : Nat) (bs : Bytes) : Except ReadError (Nat × Bytes) :=
  let run := bs.take count
  if run.length = count ∧ run.all Decimal.isDigit then
    .ok (Decimal.value run, bs.drop count)
  else .error (.form part)

def literal (expected : UInt8) : Bytes → Except ReadError Bytes
  | [] => .error .literal
  | b :: rest => if b = expected then .ok rest else .error .literal

/-- The nanoseconds that the digits of a fraction give; those past the ninth count nothing. -/
def fractionNanos (digits : Bytes) : Nat :=
  let kept := digits.take 9
  Decimal.value kept * Nat.pow 10 (9 - kept.length)

def fraction : Bytes → Except ReadError (Nat × Bytes)
  | 0x2E :: rest =>
    match rest.takeWhile Decimal.isDigit with
    | [] => .error (.form .subsecond)
    | run => .ok (fractionNanos run, rest.dropWhile Decimal.isDigit)
  | bs => .ok (0, bs)

def offsetParts (bs : Bytes) : Except ReadError (Nat × Bytes) := do
  let (hour, bs) ← digits .offsetHour 2 bs
  if 23 < hour then throw (.form .offsetHour)
  let bs ← literal 0x3A bs
  let (minute, bs) ← digits .offsetMinute 2 bs
  if 59 < minute then throw (.range .offsetMinute)
  return (hour * 3600 + minute * 60, bs)

/-- Reads an offset in seconds, where `Z` in either case is UTC. -/
def offset : Bytes → Except ReadError (Int × Bytes)
  | 0x5A :: rest | 0x7A :: rest => .ok (0, rest)
  | 0x2B :: rest => (offsetParts rest).map fun (seconds, bs) => ((seconds : Int), bs)
  | 0x2D :: rest => (offsetParts rest).map fun (seconds, bs) => (-(seconds : Int), bs)
  | _ => .error (.form .offsetHour)

structure Parts where
  year : Nat
  month : Nat
  day : Nat
  hour : Nat
  minute : Nat
  second : Nat
  nanosecond : Nat
  offset : Int
  deriving DecidableEq, Repr

/-- Reads the numbers and nothing after them. Any one byte may stand between date and time. -/
def parts (bs : Bytes) : Except ReadError Parts := do
  let (year, bs) ← digits .year 4 bs
  let bs ← literal 0x2D bs
  let (month, bs) ← digits .month 2 bs
  if month = 0 then throw (.form .month)
  let bs ← literal 0x2D bs
  let (day, bs) ← digits .day 2 bs
  if bs.isEmpty then throw (.form .separator)
  let (hour, bs) ← digits .hour 2 (bs.drop 1)
  let bs ← literal 0x3A bs
  let (minute, bs) ← digits .minute 2 bs
  let bs ← literal 0x3A bs
  let (second, bs) ← digits .second 2 bs
  let (nanosecond, bs) ← fraction bs
  let (offset, bs) ← offset bs
  if ¬ bs.isEmpty then throw .trailing
  return ⟨year, month, day, hour, minute, second, nanosecond, offset⟩

/-- The timestamp is the last nanosecond before a place where a leap second can be: midnight UTC
at the end of a month. -/
def precedesLeapSecond (ts : Timestamp) : Bool :=
  ts.unixSeconds % 86400 = 86399 &&
    (Date.ofDaysSinceEpoch? (ts.unixSeconds / 86400)).any Date.isMonthEnd

/-- Holds the numbers against the calendar. The sixtieth second, where there can be one, is told
as the last nanosecond of the fifty-ninth. -/
def Parts.toTimestamp (p : Parts) : Except ReadError Timestamp :=
  let leap := p.second = 60
  let second := if leap then 59 else p.second
  let nanosecond := if leap then 999999999 else p.nanosecond
  if 12 < p.month then .error (.range .month)
  else match Date.ofParts? p.year p.month p.day with
  | none => .error (.range .day)
  | some date =>
    if 24 ≤ p.hour then .error (.range .hour)
    else if 60 ≤ p.minute then .error (.range .minute)
    else match TimeOfDay.ofParts? p.hour p.minute second nanosecond,
        UtcOffset.ofSeconds? p.offset with
    | some time, some offset =>
      let ts : Timestamp := ⟨date, time, offset⟩
      if leap && !precedesLeapSecond ts then .error (.range .second) else .ok ts
    | _, _ => .error (.range .second)

/-- The timestamp that a text tells, or the first reason why it tells none. -/
def read (bs : Bytes) : Except ReadError Timestamp := do (← parts bs).toTimestamp

end Messaging.Timestamp.Rfc3339
