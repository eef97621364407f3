import Messaging.Proofs.Timestamp

/-!
Truncation as a floor. It replaces a field of the local time, and what comes of it is the greatest
whole millisecond of the instant that is not after it, before 1970 as after it and in every offset.
-/
namespace Messaging
namespace Timestamp

/-- The same instant told in another offset, if it has a local date there. -/
def toOffset? (ts : Timestamp) (offset : UtcOffset) : Option Timestamp :=
  ofInstant? ts.unixSeconds ts.time.nanosecond offset

theorem map_truncateToMillis_toOffset? (ts : Timestamp) (offset : UtcOffset) :
    (ts.toOffset? offset).map truncateToMillis = ts.truncateToMillis.toOffset? offset := by
  rw [toOffset?, toOffset?, unixSeconds_truncateToMillis, ofInstant?, ofInstant?, Option.map_map]
  congr 1
  funext d
  rw [Function.comp_apply, truncateToMillis_eq, truncateToMillis_eq]
  rfl

/-- The second timestamp is the first without what is finer than a millisecond: it names the last
whole millisecond that is not after the first, and shows the same offset, date, hour, minute and
second. -/
structure IsMillisFloor (ts us : Timestamp) : Prop where
  unixNanos : us.unixNanos = 1000000 * ⌊(ts.unixNanos : ℚ) / 1000000⌋
  offset : us.offset = ts.offset
  date : us.date = ts.date
  hour : us.time.hour = ts.time.hour
  minute : us.time.minute = ts.time.minute
  second : us.time.second = ts.time.second

theorem floor_unixNanos (ts : Timestamp) :
    ⌊(ts.unixNanos : ℚ) / 1000000⌋ = ts.unixNanos / 1000000 :=
  Rat.floor_intCast_div_natCast ts.unixNanos 1000000

theorem isMillisFloor_truncateToMillis (ts : Timestamp) :
    IsMillisFloor ts ts.truncateToMillis where
  unixNanos := by rw [unixNanos_truncateToMillis, floor_unixNanos, mul_comm]
  offset := offset_truncateToMillis ts
  date := date_truncateToMillis ts
  hour := by rw [truncateToMillis_eq]
  minute := by rw [truncateToMillis_eq]
  second := by rw [truncateToMillis_eq]

theorem IsMillisFloor.bounds {ts us : Timestamp} (h : IsMillisFloor ts us) :
    us.unixNanos ≤ ts.unixNanos ∧ ts.unixNanos - us.unixNanos < 1000000 := by
  have hfloor := h.unixNanos
  rw [floor_unixNanos] at hfloor
  omega

theorem IsMillisFloor.mono {ts us ts' us' : Timestamp} (h : IsMillisFloor ts us)
    (h' : IsMillisFloor ts' us') (hle : ts.unixNanos ≤ ts'.unixNanos) :
    us.unixNanos ≤ us'.unixNanos := by
  have hfloor := h.unixNanos
  have hfloor' := h'.unixNanos
  rw [floor_unixNanos] at hfloor hfloor'
  omega

/-- What truncation does to every timestamp, and what follows from it: it changes nothing more when
it is done again, keeps the order of instants, and does not depend on the offset in which an instant
is told; the milliseconds that it puts in are never refused. -/
theorem truncateToMillis_floors :
    (∀ ts : Timestamp, IsMillisFloor ts ts.truncateToMillis)
      ∧ (∀ ts : Timestamp, ts.truncateToMillis.truncateToMillis = ts.truncateToMillis)
      ∧ (∀ ts : Timestamp, ts.truncateToMillis.unixNanos ≤ ts.unixNanos
        ∧ ts.unixNanos - ts.truncateToMillis.unixNanos < 1000000)
      ∧ (∀ ts us : Timestamp, ts.unixNanos ≤ us.unixNanos →
        ts.truncateToMillis.unixNanos ≤ us.truncateToMillis.unixNanos)
      ∧ (∀ ts us : Timestamp, ts.unixNanos = us.unixNanos →
        ts.truncateToMillis.unixNanos = us.truncateToMillis.unixNanos)
      ∧ (∀ (ts : Timestamp) (offset : UtcOffset),
        (ts.toOffset? offset).map truncateToMillis = ts.truncateToMillis.toOffset? offset)
      ∧ ∀ ts : Timestamp, ts.replaceMillisecond? ts.millisecond = some ts.truncateToMillis := by
  refine ⟨isMillisFloor_truncateToMillis, truncateToMillis_truncateToMillis, fun ts => ?_,
    fun ts us h => ?_, fun ts us h => ?_, map_truncateToMillis_toOffset?, fun ts => ?_⟩
  · exact (isMillisFloor_truncateToMillis ts).bounds
  · exact (isMillisFloor_truncateToMillis ts).mono (isMillisFloor_truncateToMillis us) h
  · rw [unixNanos_truncateToMillis, unixNanos_truncateToMillis, h]
  · rw [truncateToMillis_eq, replaceMillisecond?, dif_pos ts.millisecond_lt]

def endOfMay : Timestamp :=
  ⟨⟨1960, 5, 31, by decide, by decide, by decide⟩,
    ⟨.last 23, .last 59, .last 59, .last 999999999⟩, .utc⟩

/-- The last nanosecond of that month three quarters of an hour west of it. -/
def endOfMayWest : Timestamp := { endOfMay with offset := ⟨-2700, by decide⟩ }

/-- Before 1970 truncation goes down, not towards 1970, and what is earlier stays not later. -/
theorem endOfMayWest_floored :
    endOfMayWest.unixNanos = -302483700000000001
      ∧ endOfMayWest.truncateToMillis.unixNanos = -302483700001000000
      ∧ endOfMay.truncateToMillis.unixNanos ≤ endOfMayWest.truncateToMillis.unixNanos
      ∧ (endOfMayWest.toOffset? .utc).map truncateToMillis
        = endOfMayWest.truncateToMillis.toOffset? .utc := by
  obtain ⟨hfloor, -, -, hmono, -, hoffset, -⟩ := truncateToMillis_floors
  have hnanos : endOfMayWest.unixNanos = -302483700000000001 := by decide
  refine ⟨hnanos, ?_, hmono endOfMay endOfMayWest (by decide), hoffset endOfMayWest .utc⟩
  rw [(hfloor endOfMayWest).unixNanos, floor_unixNanos, hnanos]
  decide

end Timestamp
end Messaging
