import Mathlib
import Messaging.Calendar

/-!
Dates and counts of days determine each other: a count of days is that of a date exactly when the
calendar gives that date for it.
-/
namespace Messaging
namespace Calendar

theorem isLeap_iff (year : Int) :
    isLeap year = true ↔ year % 4 = 0 ∧ (year % 100 ≠ 0 ∨ year % 400 = 0) := by
  simp [isLeap]

theorem daysInYear_bounds (year : Int) : 365 ≤ daysInYear year ∧ daysInYear year ≤ 366 := by
  rw [daysInYear]
  split <;> omega

theorem daysBeforeYear_succ (year : Int) :
    daysBeforeYear (year + 1) = daysBeforeYear year + daysInYear year := by
  have hleap := isLeap_iff year
  rw [daysInYear]
  split_ifs with h
  · rw [hleap] at h
    simp only [daysBeforeYear]
    omega
  · rw [hleap] at h
    simp only [daysBeforeYear]
    omega

theorem daysBeforeYear_mono {year later : Int} (h : year ≤ later) :
    daysBeforeYear year ≤ daysBeforeYear later := by
  simp only [daysBeforeYear]
  omega

theorem daysBeforeYear_cycles {q c f s : Int} (hc : 0 ≤ c ∧ c ≤ 3) (hf : 0 ≤ f ∧ f ≤ 24)
    (hs : 0 ≤ s ∧ s ≤ 3) :
    daysBeforeYear (400 * q + 100 * c + 4 * f + s + 1)
      = 146097 * q + 36524 * c + 1461 * f + 365 * s := by
  have h4 : (400 * q + 100 * c + 4 * f + s) / 4 = 100 * q + 25 * c + f := by omega
  have h100 : (400 * q + 100 * c + 4 * f + s) / 100 = 4 * q + c := by omega
  have h400 : (400 * q + 100 * c + 4 * f + s) / 400 = q := by omega
  simp only [daysBeforeYear, add_sub_cancel_right, h4, h100, h400]
  omega

/-- A day is the sum of whole cycles and a rest, which is 365 at most, and that much only at the end
of a leap year. -/
theorem yearOfDay_cycles (day : Int) :
    ∃ q c f s rest : Int, yearOfDay day = 400 * q + 100 * c + 4 * f + s + 1
      ∧ day = 146097 * q + 36524 * c + 1461 * f + 365 * s + rest
      ∧ (0 ≤ c ∧ c ≤ 3) ∧ (0 ≤ f ∧ f ≤ 24) ∧ (0 ≤ s ∧ s ≤ 3) ∧ 0 ≤ rest
      ∧ (rest < 365 ∨ rest = 365 ∧ s = 3 ∧ (f < 24 ∨ c = 3)) := by
  have hsum := Int.emod_add_mul_ediv day 146097
  have hlow := Int.emod_nonneg day (show (146097 : Int) ≠ 0 by decide)
  have hhigh := Int.emod_lt_of_pos day (show (0 : Int) < 146097 by decide)
  obtain ⟨inCycle, hinCycle⟩ : ∃ n, day % 146097 = n := ⟨_, rfl⟩
  obtain ⟨century, hcentury⟩ : ∃ n, min (inCycle / 36524) 3 = n := ⟨_, rfl⟩
  obtain ⟨inCentury, hinCentury⟩ : ∃ n, inCycle - century * 36524 = n := ⟨_, rfl⟩
  obtain ⟨four, hfour⟩ : ∃ n, inCentury / 1461 = n := ⟨_, rfl⟩
  obtain ⟨inFour, hinFour⟩ : ∃ n, inCentury - four * 1461 = n := ⟨_, rfl⟩
  obtain ⟨single, hsingle⟩ : ∃ n, min (inFour / 365) 3 = n := ⟨_, rfl⟩
  have hc : 0 ≤ century ∧ century ≤ 3 := by omega
  have hrest : 0 ≤ inCentury ∧ (inCentury < 36524 ∨ inCentury = 36524 ∧ century = 3) := by omega
  refine ⟨day / 146097, century, four, single, inFour - 365 * single, ?_, ?_, hc, ?_, ?_, ?_, ?_⟩
  · simp only [yearOfDay, hinCycle, hcentury, hinCentury, hfour, hinFour, hsingle]
  all_goals omega

/-- A day lies in the year that is computed for it. -/
theorem yearOfDay_spec (day : Int) :
    daysBeforeYear (yearOfDay day) ≤ day ∧ day < daysBeforeYear (yearOfDay day + 1) := by
  obtain ⟨q, c, f, s, rest, hyear, hday, hc, hf, hs, hrest, hend⟩ := yearOfDay_cycles day
  have hbefore := daysBeforeYear_cycles (q := q) hc hf hs
  rw [daysBeforeYear_succ, hyear, hbefore]
  refine ⟨by omega, ?_⟩
  rcases hend with hshort | ⟨hlast, hsingle, hleap⟩
  · have := (daysInYear_bounds (400 * q + 100 * c + 4 * f + s + 1)).1
    omega
  · have hyearLeap : isLeap (400 * q + 100 * c + 4 * f + s + 1) = true := by
      rw [isLeap_iff]
      omega
    rw [daysInYear, if_pos hyearLeap]
    omega

/-- No other year has the day. -/
theorem yearOfDay_eq {day year : Int} (hfirst : daysBeforeYear year ≤ day)
    (hlast : day < daysBeforeYear (year + 1)) : yearOfDay day = year := by
  obtain ⟨hlow, hhigh⟩ := yearOfDay_spec day
  rcases lt_trichotomy (yearOfDay day) year with hlt | heq | hgt
  · have hmono : daysBeforeYear (yearOfDay day + 1) ≤ daysBeforeYear year :=
      daysBeforeYear_mono (by omega)
    omega
  · exact heq
  · have hmono : daysBeforeYear (year + 1) ≤ daysBeforeYear (yearOfDay day) :=
      daysBeforeYear_mono (by omega)
    omega

theorem daysBeforeMonth_mono (year : Int) {month later : Nat} (h : month ≤ later) :
    daysBeforeMonth year month ≤ daysBeforeMonth year later := by
  induction later, h using Nat.le_induction with
  | base => exact le_refl _
  | succ later _ ih => exact ih.trans (by simp [daysBeforeMonth])

theorem daysInMonth_le (year : Int) (month : Nat) : daysInMonth year month ≤ 31 := by
  unfold daysInMonth
  split <;> try split_ifs
  all_goals omega

theorem daysBeforeMonth_thirteen (year : Int) : daysBeforeMonth year 13 = daysInYear year := by
  by_cases hleap : isLeap year = true <;>
    simp [daysBeforeMonth, daysInMonth, daysInYear, hleap]

/-- The count of days before a place that is found, and of those before the place it is looked for
from, differ by the places between them. -/
theorem monthAndDay_sum (year : Int) (left month ordinal : Nat) :
    daysBeforeMonth year (monthAndDay year left month ordinal).1
        + (monthAndDay year left month ordinal).2
      = daysBeforeMonth year month + ordinal + 1 := by
  induction left generalizing month ordinal with
  | zero => simp only [monthAndDay]; omega
  | succ left ih =>
    rw [monthAndDay]
    split_ifs with hin
    · simp only; omega
    · rw [ih]
      simp only [daysBeforeMonth]
      omega

/-- The day of a month is found from the first of any month before it. -/
theorem monthAndDay_eq (year : Int) {left month ahead day : Nat} (hahead : ahead ≤ left)
    (hday : day < daysInMonth year (month + ahead)) :
    monthAndDay year left month
        (daysBeforeMonth year (month + ahead) - daysBeforeMonth year month + day)
      = (month + ahead, day + 1) := by
  induction ahead generalizing left month with
  | zero =>
    cases left with
    | zero => simp [monthAndDay]
    | succ left =>
      rw [Nat.add_zero] at hday
      simp [monthAndDay, hday]
  | succ ahead ih =>
    obtain ⟨left, rfl⟩ : ∃ n, left = n + 1 := ⟨left - 1, by omega⟩
    have hnext : month + (ahead + 1) = month + 1 + ahead := by omega
    have hmono : daysBeforeMonth year (month + 1) ≤ daysBeforeMonth year (month + 1 + ahead) :=
      daysBeforeMonth_mono year (by omega)
    rw [daysBeforeMonth] at hmono
    have hrest : daysBeforeMonth year (month + 1 + ahead) - daysBeforeMonth year month + day
        - daysInMonth year month
        = daysBeforeMonth year (month + 1 + ahead) - daysBeforeMonth year (month + 1) + day := by
      rw [daysBeforeMonth.eq_2 year month]
      omega
    rw [hnext] at hday ⊢
    rw [monthAndDay, if_neg (by omega), hrest, ih (by omega) hday]

end Calendar

namespace Date

open Calendar

theorem ofParts?_eq_some {year : Int} {month day : Nat} {d : Date}
    (h : ofParts? year month day = some d) :
    d.year = year ∧ d.month = month ∧ d.day = day := by
  rw [ofParts?] at h
  split_ifs at h
  cases Option.some.inj h
  exact ⟨rfl, rfl, rfl⟩

@[simp] theorem ofParts?_parts (d : Date) : ofParts? d.year d.month d.day = some d := by
  rw [ofParts?, dif_pos d.year_inRange, dif_pos d.month_inRange, dif_pos d.day_inRange]

theorem day_le (d : Date) : d.day ≤ 31 := d.day_inRange.2.trans (daysInMonth_le d.year d.month)

def dayOfYear (d : Date) : Nat := daysBeforeMonth d.year d.month + (d.day - 1)

theorem dayOfYear_lt (d : Date) : d.dayOfYear < daysInYear d.year := by
  have hmonth := d.month_inRange
  have hday := d.day_inRange
  have hmono : daysBeforeMonth d.year (d.month + 1) ≤ daysBeforeMonth d.year 13 :=
    daysBeforeMonth_mono d.year (by omega)
  rw [daysBeforeMonth_thirteen, daysBeforeMonth] at hmono
  rw [dayOfYear]
  omega

theorem daysSinceEpoch_eq (d : Date) :
    d.daysSinceEpoch = daysBeforeYear d.year + d.dayOfYear - epochDay := by
  rw [daysSinceEpoch, dayOfYear]
  push_cast
  ring

@[simp] theorem ofDaysSinceEpoch?_daysSinceEpoch (d : Date) :
    ofDaysSinceEpoch? d.daysSinceEpoch = some d := by
  have hday : d.daysSinceEpoch + epochDay = daysBeforeYear d.year + (d.dayOfYear : Int) := by
    rw [daysSinceEpoch_eq, sub_add_cancel]
  have hlt := d.dayOfYear_lt
  have hyear : yearOfDay (daysBeforeYear d.year + (d.dayOfYear : Int)) = d.year :=
    yearOfDay_eq (by omega) (by rw [daysBeforeYear_succ]; omega)
  have hmonth := d.month_inRange
  have hinMonth := d.day_inRange
  have hplace : monthAndDay d.year 11 1 d.dayOfYear = (d.month, d.day) := by
    have hahead : d.month - 1 ≤ 11 := by omega
    have hin : d.day - 1 < daysInMonth d.year (1 + (d.month - 1)) := by
      rw [Nat.add_sub_cancel' hmonth.1]
      omega
    have h := monthAndDay_eq d.year hahead hin
    have hfirst : daysBeforeMonth d.year 1 = 0 := by simp [daysBeforeMonth, daysInMonth]
    rw [Nat.add_sub_cancel' hmonth.1, hfirst, Nat.sub_zero, Nat.sub_add_cancel hinMonth.1] at h
    exact h
  simp only [ofDaysSinceEpoch?]
  rw [hday, hyear, add_sub_cancel_left, Int.toNat_natCast, hplace, ofParts?_parts]

theorem daysSinceEpoch_of_ofDaysSinceEpoch? {days : Int} {d : Date}
    (h : ofDaysSinceEpoch? days = some d) : d.daysSinceEpoch = days := by
  simp only [ofDaysSinceEpoch?] at h
  obtain ⟨hyear, hmonth, hday⟩ := ofParts?_eq_some h
  have hfirst := (yearOfDay_spec (days + epochDay)).1
  have hsum := monthAndDay_sum (yearOfDay (days + epochDay)) 11 1
    (days + epochDay - daysBeforeYear (yearOfDay (days + epochDay))).toNat
  have hone : daysBeforeMonth (yearOfDay (days + epochDay)) 1 = 0 := by
    simp [daysBeforeMonth, daysInMonth]
  have hpos := d.day_inRange.1
  rw [hone, ← hmonth, ← hday] at hsum
  rw [daysSinceEpoch, hyear]
  omega

theorem daysSinceEpoch_injective : Function.Injective daysSinceEpoch := by
  intro d e h
  have hd := ofDaysSinceEpoch?_daysSinceEpoch d
  rw [h, ofDaysSinceEpoch?_daysSinceEpoch] at hd
  exact (Option.some.inj hd).symm

theorem daysSinceEpoch_bounds (d : Date) :
    -4371587 ≤ d.daysSinceEpoch ∧ d.daysSinceEpoch ≤ 2932896 := by
  have hlt := d.dayOfYear_lt
  have hlow := daysBeforeYear_mono d.year_inRange.1
  have hhigh : daysBeforeYear (d.year + 1) ≤ daysBeforeYear 10000 :=
    daysBeforeYear_mono (by have := d.year_inRange.2; omega)
  have hday := d.daysSinceEpoch_eq
  rw [daysBeforeYear_succ] at hhigh
  simp only [daysBeforeYear, epochDay] at *
  omega

end Date
end Messaging
