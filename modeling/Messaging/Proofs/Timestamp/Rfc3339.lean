import Messaging.Proofs.Calendar
import Messaging.Proofs.Text.Decimal
import Messaging.Proofs.Timestamp
import Messaging.Timestamp.Rfc3339

/-!
The text of a timestamp is read back as that timestamp, with its offset. Each part is read from the
front of the bytes that follow it, so every step leaves exactly what was written after it.
-/
namespace Messaging

namespace TimeOfDay

theorem ofParts?_parts (t : TimeOfDay) :
    ofParts? t.hour.val t.minute.val t.second.val t.nanosecond.val = some t := by
  simp [ofParts?]

end TimeOfDay

namespace Timestamp.Rfc3339

theorem digits_padded (part : Component) (width : Nat) {n : Nat} (h : n < 10 ^ width)
    (rest : Bytes) :
    digits part width (Utf8.encode (Decimal.padded width n) ++ rest) = .ok (n, rest) := by
  obtain ⟨hlength, hall, hvalue⟩ := Decimal.encode_padded width n
  have htake : (Utf8.encode (Decimal.padded width n) ++ rest).take width
      = Utf8.encode (Decimal.padded width n) := List.take_left' hlength
  have hdrop : (Utf8.encode (Decimal.padded width n) ++ rest).drop width = rest :=
    List.drop_left' hlength
  rw [digits]
  simp only [htake, hdrop, hlength, hall, hvalue, Nat.mod_eq_of_lt h, and_self, if_true]

theorem literal_cons (b : UInt8) (rest : Bytes) : literal b (b :: rest) = .ok rest := by
  simp [literal]

theorem exists_dropTrailingZeros (cs : List Char) :
    ∃ k, cs = dropTrailingZeros cs ++ List.replicate k '0' := by
  have hsplit := List.takeWhile_append_dropWhile (p := fun c => decide (c = '0')) (l := cs.reverse)
  have hzeros : cs.reverse.takeWhile (fun c => decide (c = '0'))
      = List.replicate (cs.reverse.takeWhile fun c => decide (c = '0')).length '0' := by
    rw [List.eq_replicate_iff]
    refine ⟨rfl, fun c hc => ?_⟩
    simpa using List.mem_takeWhile_imp hc
  refine ⟨(cs.reverse.takeWhile fun c => decide (c = '0')).length, ?_⟩
  rw [hzeros] at hsplit
  have hreverse := congrArg List.reverse hsplit
  rw [List.reverse_append, List.reverse_replicate, List.reverse_reverse] at hreverse
  rw [dropTrailingZeros]
  exact hreverse.symm

theorem encode_replicate_zero (k : Nat) :
    Utf8.encode (List.replicate k '0') = List.replicate k 0x30 := by
  induction k with
  | zero => rfl
  | succ k ih =>
    rw [List.replicate_succ, Utf8.encode_cons, ih]
    rfl

theorem value_append_zeros (bs : Bytes) (k : Nat) :
    Decimal.value (bs ++ List.replicate k 0x30) = Decimal.value bs * 10 ^ k := by
  induction k with
  | zero => simp
  | succ k ih =>
    rw [Decimal.value] at ih
    rw [List.replicate_succ', ← List.append_assoc, Decimal.value, Decimal.valueFrom_append, ih,
      Decimal.valueFrom_cons, Decimal.valueFrom_nil, pow_succ]
    simp only [Decimal.digitValue]
    ring_nf
    rfl

/-- The digits of a fraction give its nanoseconds, though their zeros at the end are dropped. -/
theorem fraction_fractionText {n : Nat} (h : n < 1000000000) {b : UInt8} (hpoint : b ≠ 0x2E)
    (hdigit : Decimal.isDigit b = false) (rest : Bytes) :
    fraction (Utf8.encode (fractionText n) ++ b :: rest) = .ok (n, b :: rest) := by
  by_cases hzero : n = 0
  · subst hzero
    rw [fractionText, if_pos rfl, Utf8.encode_nil, List.nil_append, fraction]
    intro tail htail
    exact hpoint (List.cons.inj htail).1
  · obtain ⟨k, hk⟩ := exists_dropTrailingZeros (Decimal.padded 9 n)
    obtain ⟨hlength, hall, hvalue⟩ := Decimal.encode_padded 9 n
    rw [hk, Utf8.encode_append, encode_replicate_zero] at hlength hall hvalue
    rw [value_append_zeros, Nat.mod_eq_of_lt (by simpa using h)] at hvalue
    rw [List.length_append, List.length_replicate] at hlength
    rw [List.all_append, Bool.and_eq_true] at hall
    rw [fractionText, if_neg hzero, Utf8.encode_cons]
    generalize Utf8.encode (dropTrailingZeros (Decimal.padded 9 n)) = kept at hlength hall hvalue ⊢
    have hkept : ∀ c ∈ kept, Decimal.isDigit c = true := List.all_eq_true.mp hall.1
    have htake : (kept ++ b :: rest).takeWhile Decimal.isDigit = kept := by
      rw [List.takeWhile_append_of_pos hkept, List.takeWhile_cons_of_neg (by simp [hdigit]),
        List.append_nil]
    have hdrop : (kept ++ b :: rest).dropWhile Decimal.isDigit = b :: rest := by
      rw [List.dropWhile_append_of_pos hkept, List.dropWhile_cons_of_neg (by simp [hdigit])]
    have hnanos : fractionNanos kept = n := by
      have hfit : kept.take 9 = kept := List.take_of_length_le (by omega)
      have hmissing : 9 - kept.length = k := by omega
      simp only [fractionNanos, hfit, hmissing]
      exact hvalue
    change fraction (0x2E :: (kept ++ b :: rest)) = _
    rw [fraction, htake]
    cases hcase : kept with
    | nil =>
      rw [hcase] at hvalue
      simp [Decimal.value] at hvalue
      exact absurd hvalue.symm hzero
    | cons first more => simp only [← hcase, hnanos, hdrop]

theorem offsetParts_padded {hour minute : Nat} (hhour : hour < 24) (hminute : minute < 60) :
    offsetParts (Utf8.encode (Decimal.padded 2 hour ++ [':'] ++ Decimal.padded 2 minute))
      = .ok (hour * 3600 + minute * 60, []) := by
  have hfirst := digits_padded .offsetHour 2 (n := hour) (by omega)
    (0x3A :: Utf8.encode (Decimal.padded 2 minute))
  have hsecond := digits_padded .offsetMinute 2 (n := minute) (by omega) []
  have hbytes : Utf8.encode (Decimal.padded 2 hour ++ [':'] ++ Decimal.padded 2 minute)
      = Utf8.encode (Decimal.padded 2 hour) ++ 0x3A :: Utf8.encode (Decimal.padded 2 minute) := by
    rw [Utf8.encode_append, Utf8.encode_append, List.append_assoc]
    rfl
  rw [List.append_nil] at hsecond
  rw [hbytes, offsetParts]
  simp only [hfirst, literal_cons, hsecond, bind, Except.bind, pure, Except.pure,
    if_neg (Nat.not_lt.mpr (Nat.le_of_lt_succ hhour)),
    if_neg (Nat.not_lt.mpr (Nat.le_of_lt_succ hminute))]

theorem offset_offsetText {seconds : Int} (hhour : seconds.natAbs / 3600 < 24)
    (hminutes : seconds.natAbs % 60 = 0) :
    offset (Utf8.encode (offsetText seconds)) = .ok (seconds, []) := by
  have hminute : seconds.natAbs / 60 % 60 < 60 := Nat.mod_lt _ (by decide)
  have hsum : seconds.natAbs / 3600 * 3600 + seconds.natAbs / 60 % 60 * 60 = seconds.natAbs := by
    omega
  have hparts := offsetParts_padded hhour hminute
  rw [hsum] at hparts
  rw [offsetText]
  by_cases hzero : seconds = 0
  · rw [if_pos hzero, hzero]
    rfl
  · rw [if_neg hzero, List.append_assoc, List.append_assoc, List.singleton_append, Utf8.encode_cons,
      ← List.append_assoc]
    by_cases hneg : seconds < 0
    · rw [if_pos hneg]
      change offset (0x2D :: Utf8.encode _) = _
      rw [offset, hparts]
      simp only [Except.map]
      congr 2
      omega
    · rw [if_neg hneg]
      change offset (0x2B :: Utf8.encode _) = _
      rw [offset, hparts]
      simp only [Except.map]
      congr 2
      omega

/-- The text of an offset starts with a byte that is neither digit nor point. -/
theorem exists_offsetText_eq_cons (seconds : Int) :
    ∃ b rest, Utf8.encode (offsetText seconds) = b :: rest ∧ b ≠ 0x2E
      ∧ Decimal.isDigit b = false := by
  rw [offsetText]
  by_cases hzero : seconds = 0
  · rw [if_pos hzero]
    exact ⟨0x5A, [], rfl, by decide, by decide⟩
  · rw [if_neg hzero, List.append_assoc, List.append_assoc, List.singleton_append, Utf8.encode_cons]
    by_cases hneg : seconds < 0
    · rw [if_pos hneg]
      exact ⟨0x2D, _, rfl, by decide, by decide⟩
    · rw [if_neg hneg]
      exact ⟨0x2B, _, rfl, by decide, by decide⟩

def partsOf (ts : Timestamp) : Parts :=
  ⟨ts.date.year.toNat, ts.date.month, ts.date.day, ts.time.hour.val, ts.time.minute.val,
    ts.time.second.val, ts.time.nanosecond.val, ts.offset.seconds⟩

theorem toTimestamp_partsOf {ts : Timestamp} (h : 0 ≤ ts.date.year) :
    (partsOf ts).toTimestamp = .ok ts := by
  have hmonth := ts.date.month_inRange
  have hhour := ts.time.hour.isLt
  have hminute := ts.time.minute.isLt
  have hsecond := ts.time.second.isLt
  have hdate : Date.ofParts? ts.date.year.toNat ts.date.month ts.date.day = some ts.date := by
    rw [Int.toNat_of_nonneg h, Date.ofParts?_parts]
  have htime := ts.time.ofParts?_parts
  have hoffset : UtcOffset.ofSeconds? ts.offset.seconds = some ts.offset := by
    rw [UtcOffset.ofSeconds?, dif_pos ts.offset.inRange]
  have hnoLeap : ¬ ts.time.second.val = 60 := by omega
  simp only [Parts.toTimestamp, partsOf, hnoLeap, decide_false, if_false, hdate, htime, hoffset,
    Bool.false_eq_true, Bool.false_and, if_neg (Nat.not_lt.mpr hmonth.2),
    if_neg (Nat.not_le.mpr hhour), if_neg (Nat.not_le.mpr hminute)]

theorem encode_chars (ts : Timestamp) :
    Utf8.encode (chars ts)
      = Utf8.encode (Decimal.padded 4 ts.date.year.toNat)
        ++ 0x2D :: (Utf8.encode (Decimal.padded 2 ts.date.month)
        ++ 0x2D :: (Utf8.encode (Decimal.padded 2 ts.date.day)
        ++ 0x54 :: (Utf8.encode (Decimal.padded 2 ts.time.hour.val)
        ++ 0x3A :: (Utf8.encode (Decimal.padded 2 ts.time.minute.val)
        ++ 0x3A :: (Utf8.encode (Decimal.padded 2 ts.time.second.val)
        ++ (Utf8.encode (fractionText ts.time.nanosecond.val)
        ++ Utf8.encode (offsetText ts.offset.seconds))))))) := by
  simp only [chars, localChars, Utf8.encode_append, List.append_assoc]
  rfl

theorem parts_chars {ts : Timestamp} (hyear : 0 ≤ ts.date.year ∧ ts.date.year ≤ 9999)
    (hhour : ts.offset.seconds.natAbs / 3600 < 24)
    (hminutes : ts.offset.seconds.natAbs % 60 = 0) :
    parts (Utf8.encode (chars ts)) = .ok (partsOf ts) := by
  have hmonth := ts.date.month_inRange
  have hday := ts.date.day_le
  have hmonth0 : ¬ ts.date.month = 0 := by omega
  have hoffset := offset_offsetText hhour hminutes
  obtain ⟨b, rest, hbytes, hpoint, hdigit⟩ := exists_offsetText_eq_cons ts.offset.seconds
  have hfraction := fraction_fractionText ts.time.nanosecond.isLt hpoint hdigit rest
  rw [← hbytes] at hfraction
  have hy := digits_padded .year 4 (n := ts.date.year.toNat) (by omega)
  have hm := digits_padded .month 2 (n := ts.date.month) (by omega)
  have hd := digits_padded .day 2 (n := ts.date.day) (by omega)
  have hh := digits_padded .hour 2 (n := ts.time.hour.val) (by omega)
  have hmin := digits_padded .minute 2 (n := ts.time.minute.val) (by omega)
  have hs := digits_padded .second 2 (n := ts.time.second.val) (by omega)
  rw [encode_chars, parts]
  simp only [bind, Except.bind, pure, Except.pure, hy, hm, hd, hh, hmin, hs, literal_cons,
    hfraction, hoffset, if_neg hmonth0, List.drop_one, List.tail_cons, List.isEmpty_cons,
    List.isEmpty_nil]
  rfl

/-- A timestamp is read back from its text. -/
theorem read_of_write {ts : Timestamp} {s : String} (h : write ts = .ok s) :
    read (Utf8.ofString s) = .ok ts := by
  rw [write] at h
  split_ifs at h with hyear hhour hminutes
  rw [← Except.ok.inj h, read, Utf8.ofString, String.toList_ofList,
    parts_chars hyear (Nat.lt_of_not_le hhour) (not_not.mp hminutes)]
  exact toTimestamp_partsOf hyear.1

theorem exists_write {ts : Timestamp} (h : ts.OfClock) : ∃ s, write ts = .ok s := by
  obtain ⟨hoffset, hyear⟩ := h
  exact ⟨_, by simp [write, hyear, hoffset, UtcOffset.utc]; rfl⟩

end Timestamp.Rfc3339

end Messaging
