import Messaging.Calendar

/-!
Points in time, told as a local date and time of day with the offset of that local time from UTC.
Two timestamps may name the same instant in different offsets; `unixNanos` is the instant.
-/
namespace Messaging

/-- How far a local time is ahead of UTC, in seconds: less than 26 hours either way. -/
structure UtcOffset where
  seconds : Int
  inRange : -93599 ≤ seconds ∧ seconds ≤ 93599
  deriving DecidableEq

namespace UtcOffset

def utc : UtcOffset := ⟨0, by decide⟩

instance : Inhabited UtcOffset := ⟨utc⟩

def ofSeconds? (seconds : Int) : Option UtcOffset :=
  if h : -93599 ≤ seconds ∧ seconds ≤ 93599 then some ⟨seconds, h⟩ else none

end UtcOffset

structure Timestamp where
  date : Date
  time : TimeOfDay
  offset : UtcOffset
  deriving DecidableEq

namespace Timestamp

def localSeconds (ts : Timestamp) : Int :=
  ts.date.daysSinceEpoch * 86400 + ts.time.secondOfDay

def unixSeconds (ts : Timestamp) : Int := ts.localSeconds - ts.offset.seconds

def unixNanos (ts : Timestamp) : Int := ts.unixSeconds * 1000000000 + ts.time.nanosecond.val

/-- The milliseconds of the instant since 1970-01-01T00:00:00Z, rounded down. -/
def unixMillis (ts : Timestamp) : Int :=
  ts.unixSeconds * 1000 + (ts.time.nanosecond.val / 1000000 : Nat)

inductive RangeError
  /-- There is no such offset. -/
  | offset
  /-- The instant lies outside the years -9999 to 9999 in UTC. -/
  | instant
  /-- A second has no such nanosecond. -/
  | nanosecond
  /-- The local date lies outside the years -9999 to 9999. -/
  | localDate
  deriving DecidableEq, Repr

/-- The local time, in the given offset, of an instant given in seconds and nanoseconds. -/
def ofInstant? (seconds : Int) (nanosecond : Fin 1000000000) (offset : UtcOffset) :
    Option Timestamp :=
  let shown := seconds + offset.seconds
  (Date.ofDaysSinceEpoch? (shown / 86400)).map fun date =>
    ⟨date, TimeOfDay.ofSecondOfDay (shown % 86400).toNat nanosecond, offset⟩

/-- The timestamp of an instant, in seconds and nanoseconds since 1970, told in an offset. -/
def ofUnix (seconds : Int) (nanosecond : Nat) (offset : Int) : Except RangeError Timestamp :=
  match UtcOffset.ofSeconds? offset with
  | none => .error .offset
  | some offset =>
    if (Date.ofDaysSinceEpoch? (seconds / 86400)).isNone then .error .instant
    else if h : nanosecond < 1000000000 then
      match ofInstant? seconds ⟨nanosecond, h⟩ offset with
      | none => .error .localDate
      | some ts => .ok ts
    else .error .nanosecond

/-- The instant so many milliseconds after 1970-01-01T00:00:00Z, told in UTC. -/
def ofUnixMillis? (millis : Int) : Option Timestamp :=
  ofInstant? (millis / 1000)
    ⟨(millis % 1000).toNat * 1000000, by omega⟩ .utc

def millisecond (ts : Timestamp) : Nat := ts.time.nanosecond.val / 1000000

/-- The timestamp with the fraction of its second replaced by whole milliseconds, if a second
has so many. -/
def replaceMillisecond? (ts : Timestamp) (millis : Nat) : Option Timestamp :=
  if h : millis < 1000 then
    some { ts with time := { ts.time with nanosecond := ⟨millis * 1000000, by omega⟩ } }
  else none

/-- `truncate_to_millis`: the timestamp without what is finer than a millisecond, or as it is where
that fails. -/
def truncateToMillis (ts : Timestamp) : Timestamp :=
  (ts.replaceMillisecond? ts.millisecond).getD ts

end Timestamp

end Messaging
