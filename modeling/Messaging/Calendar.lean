/-!
The proleptic Gregorian calendar for the years -9999 to 9999. A date is a valid triple of year,
month and day; the count of days since 1970-01-01 is its view as a number.
-/
namespace Messaging
namespace Calendar

def isLeap (year : Int) : Bool :=
  year % 4 = 0 && (year % 100 ≠ 0 || year % 400 = 0)

def daysInMonth (year : Int) : Nat → Nat
  | 1 | 3 | 5 | 7 | 8 | 10 | 12 => 31
  | 4 | 6 | 9 | 11 => 30
  | 2 => if isLeap year then 29 else 28
  | _ => 0

def daysInYear (year : Int) : Nat := if isLeap year then 366 else 365

/-- The days from 0001-01-01 to the first day of the year, negative before it. -/
def daysBeforeYear (year : Int) : Int :=
  let past := year - 1
  365 * past + past / 4 - past / 100 + past / 400

def daysBeforeMonth (year : Int) : Nat → Nat
  | 0 => 0
  | month + 1 => daysBeforeMonth year month + daysInMonth year month

def epochDay : Int := 719162

/-- The year of a day counted from 0001-01-01, by whole cycles of 400, 100, 4 years and 1 year;
the last century of 400 years and the last year of four have a day more. -/
def yearOfDay (day : Int) : Int :=
  let inCycle := day % 146097
  let century := min (inCycle / 36524) 3
  let inCentury := inCycle - century * 36524
  let four := inCentury / 1461
  let inFour := inCentury - four * 1461
  let single := min (inFour / 365) 3
  400 * (day / 146097) + 100 * century + 4 * four + single + 1

/-- The month, from `month` on, and the day in it, of the day `ordinal` places after the first of
`month`; `left` is the number of months that may follow. -/
def monthAndDay (year : Int) : (left month ordinal : Nat) → Nat × Nat
  | 0, month, ordinal => (month, ordinal + 1)
  | left + 1, month, ordinal =>
    if ordinal < daysInMonth year month then (month, ordinal + 1)
    else monthAndDay year left (month + 1) (ordinal - daysInMonth year month)

end Calendar

structure Date where
  year : Int
  /-- From 1, January, to 12. -/
  month : Nat
  /-- From 1 to the length of the month. -/
  day : Nat
  year_inRange : -9999 ≤ year ∧ year ≤ 9999
  month_inRange : 1 ≤ month ∧ month ≤ 12
  day_inRange : 1 ≤ day ∧ day ≤ Calendar.daysInMonth year month
  deriving DecidableEq

namespace Date

def ofParts? (year : Int) (month day : Nat) : Option Date :=
  if hy : -9999 ≤ year ∧ year ≤ 9999 then
    if hm : 1 ≤ month ∧ month ≤ 12 then
      if hd : 1 ≤ day ∧ day ≤ Calendar.daysInMonth year month then
        some ⟨year, month, day, hy, hm, hd⟩
      else none
    else none
  else none

/-- The days from 1970-01-01 to the date, negative before it. -/
def daysSinceEpoch (d : Date) : Int :=
  Calendar.daysBeforeYear d.year + Calendar.daysBeforeMonth d.year d.month + (d.day - 1 : Nat)
    - Calendar.epochDay

/-- The date that many days after 1970-01-01, if it lies in the years -9999 to 9999. -/
def ofDaysSinceEpoch? (days : Int) : Option Date :=
  let day := days + Calendar.epochDay
  let year := Calendar.yearOfDay day
  let place := Calendar.monthAndDay year 11 1 (day - Calendar.daysBeforeYear year).toNat
  ofParts? year place.1 place.2

def isMonthEnd (d : Date) : Bool := d.day = Calendar.daysInMonth d.year d.month

end Date

structure TimeOfDay where
  hour : Fin 24
  minute : Fin 60
  second : Fin 60
  nanosecond : Fin 1000000000
  deriving DecidableEq

namespace TimeOfDay

def secondOfDay (t : TimeOfDay) : Nat :=
  t.hour.val * 3600 + t.minute.val * 60 + t.second.val

def ofParts? (hour minute second nanosecond : Nat) : Option TimeOfDay :=
  if hh : hour < 24 then
    if hm : minute < 60 then
      if hs : second < 60 then
        if hn : nanosecond < 1000000000 then
          some ⟨⟨hour, hh⟩, ⟨minute, hm⟩, ⟨second, hs⟩, ⟨nanosecond, hn⟩⟩
        else none
      else none
    else none
  else none

def ofSecondOfDay (second : Nat) (nanosecond : Fin 1000000000) : TimeOfDay :=
  ⟨⟨second / 3600 % 24, Nat.mod_lt _ (by decide)⟩, ⟨second / 60 % 60, Nat.mod_lt _ (by decide)⟩,
    ⟨second % 60, Nat.mod_lt _ (by decide)⟩, nanosecond⟩

end TimeOfDay

end Messaging
