import Mathlib
import Messaging.Proofs.Calendar
import Messaging.Timestamp

/-!
Timestamps as instants. Truncation takes an instant down to its millisecond, and counts of
milliseconds are read back in UTC; timestamps of one offset that name one instant are the same.
-/
namespace Messaging

namespace TimeOfDay

theorem secondOfDay_lt (t : TimeOfDay) : t.secondOfDay < 86400 := by
  have hh := t.hour.isLt
  have hm := t.minute.isLt
  have hs := t.second.isLt
  rw [secondOfDay]
  omega

theorem secondOfDay_ofSecondOfDay {second : Nat} (h : second < 86400)
    (nanosecond : Fin 1000000000) : (ofSecondOfDay second nanosecond).secondOfDay = second := by
  simp only [secondOfDay, ofSecondOfDay]
  omega

theorem eq_of_secondOfDay {t u : TimeOfDay} (hsecond : t.secondOfDay = u.secondOfDay)
    (hnano : t.nanosecond = u.nanosecond) : t = u := by
  have ht := t.minute.isLt
  have ht' := t.second.isLt
  have hu := u.minute.isLt
  have hu' := u.second.isLt
  cases t
  cases u
  simp only [secondOfDay, mk.injEq, Fin.ext_iff] at *
  omega

end TimeOfDay

namespace Timestamp

theorem unixSeconds_eq_unixNanos_div (ts : Timestamp) :
    ts.unixSeconds = ts.unixNanos / 1000000000 := by
  have hn := ts.time.nanosecond.isLt
  rw [unixNanos]
  omega

/-- Milliseconds are nanoseconds rounded down, also before 1970. -/
theorem unixMillis_eq_unixNanos_div (ts : Timestamp) : ts.unixMillis = ts.unixNanos / 1000000 := by
  have hn := ts.time.nanosecond.isLt
  rw [unixMillis, unixNanos]
  omega

theorem eq_of_unixNanos {ts us : Timestamp} (hoffset : ts.offset = us.offset)
    (hnanos : ts.unixNanos = us.unixNanos) : ts = us := by
  have ht := ts.time.nanosecond.isLt
  have hu := us.time.nanosecond.isLt
  have htd := ts.time.secondOfDay_lt
  have hud := us.time.secondOfDay_lt
  have hseconds : ts.unixSeconds = us.unixSeconds := by
    rw [unixSeconds_eq_unixNanos_div, unixSeconds_eq_unixNanos_div, hnanos]
  have hnano : ts.time.nanosecond = us.time.nanosecond := by
    rw [unixNanos, unixNanos, hseconds] at hnanos
    exact Fin.ext (by omega)
  simp only [unixSeconds, localSeconds, hoffset] at hseconds
  have hdate : ts.date = us.date := Date.daysSinceEpoch_injective (by omega)
  have htime : ts.time = us.time :=
    TimeOfDay.eq_of_secondOfDay (by rw [hdate] at hseconds; omega) hnano
  cases ts
  cases us
  simp_all

theorem unixNanos_of_ofInstant? {seconds : Int} {nanosecond : Fin 1000000000} {offset : UtcOffset}
    {ts : Timestamp} (h : ofInstant? seconds nanosecond offset = some ts) :
    ts.offset = offset ∧ ts.unixNanos = seconds * 1000000000 + nanosecond.val := by
  simp only [ofInstant?, Option.map_eq_some_iff] at h
  obtain ⟨d, hd, rfl⟩ := h
  have hdays := Date.daysSinceEpoch_of_ofDaysSinceEpoch? hd
  have hlocal : localSeconds ⟨d, TimeOfDay.ofSecondOfDay
      ((seconds + offset.seconds) % 86400).toNat nanosecond, offset⟩
        = seconds + offset.seconds := by
    rw [localSeconds, hdays, TimeOfDay.secondOfDay_ofSecondOfDay (by omega)]
    omega
  refine ⟨rfl, ?_⟩
  rw [unixNanos, unixSeconds, hlocal, add_sub_cancel_right]
  rfl

/-- The instant's date in UTC is one of the years -9999 to 9999. -/
def HasUtcDate (ts : Timestamp) : Prop := ∃ d : Date, d.daysSinceEpoch = ts.unixSeconds / 86400

theorem hasUtcDate_of_utc {ts : Timestamp} (h : ts.offset = .utc) : ts.HasUtcDate := by
  have hs := ts.time.secondOfDay_lt
  refine ⟨ts.date, ?_⟩
  rw [unixSeconds, localSeconds, h]
  simp only [UtcOffset.utc]
  omega

theorem utc_of_ofUnixMillis? {millis : Int} {ts : Timestamp} (h : ofUnixMillis? millis = some ts) :
    ts.offset = .utc ∧ ts.unixNanos = millis * 1000000 := by
  obtain ⟨hoffset, hnanos⟩ := unixNanos_of_ofInstant? h
  refine ⟨hoffset, hnanos.trans ?_⟩
  dsimp only
  omega

theorem exists_ofUnixMillis? {millis : Int} {d : Date}
    (h : d.daysSinceEpoch = millis / 1000 / 86400) : ∃ ts, ofUnixMillis? millis = some ts := by
  simp only [ofUnixMillis?, ofInstant?, UtcOffset.utc, add_zero, ← h,
    Date.ofDaysSinceEpoch?_daysSinceEpoch]
  exact ⟨_, rfl⟩

theorem ofUnixMillis?_eq_some_iff {millis : Int} {ts : Timestamp} :
    ofUnixMillis? millis = some ts ↔ ts.offset = .utc ∧ ts.unixNanos = millis * 1000000 := by
  constructor
  · exact utc_of_ofUnixMillis?
  · rintro ⟨hoffset, hnanos⟩
    obtain ⟨d, hd⟩ := hasUtcDate_of_utc hoffset
    have hdays : d.daysSinceEpoch = millis / 1000 / 86400 := by
      rw [hd, unixSeconds_eq_unixNanos_div, hnanos]
      omega
    -- some timestamp is told, and only one in UTC names the instant
    obtain ⟨us, hus⟩ := exists_ofUnixMillis? hdays
    obtain ⟨husOffset, husNanos⟩ := utc_of_ofUnixMillis? hus
    rw [hus, eq_of_unixNanos (husOffset.trans hoffset.symm) (husNanos.trans hnanos.symm)]

theorem ofUnixMillis?_unixMillis_of_utc {ts : Timestamp} (hoffset : ts.offset = .utc)
    (hmillis : ts.unixNanos % 1000000 = 0) : ofUnixMillis? ts.unixMillis = some ts := by
  rw [ofUnixMillis?_eq_some_iff, unixMillis_eq_unixNanos_div]
  exact ⟨hoffset, by omega⟩

/-- The milliseconds of an instant are told as the instant in UTC, without what is finer. -/
theorem HasUtcDate.ofUnixMillis?_unixMillis {ts : Timestamp} (h : ts.HasUtcDate) :
    ∃ us, ofUnixMillis? ts.unixMillis = some us := by
  obtain ⟨d, hd⟩ := h
  have hdays : d.daysSinceEpoch = ts.unixMillis / 1000 / 86400 := by
    rw [hd, unixMillis_eq_unixNanos_div, unixSeconds_eq_unixNanos_div]
    omega
  exact exists_ofUnixMillis? hdays

theorem millisecond_lt (ts : Timestamp) : ts.millisecond < 1000 := by
  have hn := ts.time.nanosecond.isLt
  rw [millisecond]
  omega

/-- The milliseconds of a second are never refused, so truncation always replaces the fraction. -/
theorem truncateToMillis_eq (ts : Timestamp) :
    ts.truncateToMillis = { ts with time := { ts.time with
      nanosecond := ⟨ts.millisecond * 1000000, by have := ts.millisecond_lt; omega⟩ } } := by
  rw [truncateToMillis, replaceMillisecond?, dif_pos ts.millisecond_lt, Option.getD_some]

@[simp] theorem offset_truncateToMillis (ts : Timestamp) :
    ts.truncateToMillis.offset = ts.offset := by
  rw [truncateToMillis_eq]

@[simp] theorem date_truncateToMillis (ts : Timestamp) : ts.truncateToMillis.date = ts.date := by
  rw [truncateToMillis_eq]

@[simp] theorem unixSeconds_truncateToMillis (ts : Timestamp) :
    ts.truncateToMillis.unixSeconds = ts.unixSeconds := by
  rw [truncateToMillis_eq]
  rfl

theorem unixNanos_truncateToMillis (ts : Timestamp) :
    ts.truncateToMillis.unixNanos = ts.unixNanos / 1000000 * 1000000 := by
  rw [unixNanos, unixSeconds_truncateToMillis, unixNanos, truncateToMillis_eq]
  simp only [millisecond]
  push_cast
  omega

@[simp] theorem unixMillis_truncateToMillis (ts : Timestamp) :
    ts.truncateToMillis.unixMillis = ts.unixMillis := by
  rw [unixMillis_eq_unixNanos_div, unixNanos_truncateToMillis, unixMillis_eq_unixNanos_div]
  omega

@[simp] theorem truncateToMillis_truncateToMillis (ts : Timestamp) :
    ts.truncateToMillis.truncateToMillis = ts.truncateToMillis := by
  apply eq_of_unixNanos
  · simp
  · rw [unixNanos_truncateToMillis, unixNanos_truncateToMillis]
    omega

/-- The time is told as a clock shows it: in UTC, in a year of four digits. -/
def OfClock (ts : Timestamp) : Prop :=
  ts.offset = .utc ∧ 0 ≤ ts.date.year ∧ ts.date.year ≤ 9999

instance (ts : Timestamp) : Decidable ts.OfClock := inferInstanceAs (Decidable (_ ∧ _))

theorem OfClock.truncateToMillis {ts : Timestamp} (h : ts.OfClock) :
    ts.truncateToMillis.OfClock := by
  rw [OfClock, offset_truncateToMillis, date_truncateToMillis]
  exact h

end Timestamp
end Messaging
