import Mathlib
import Messaging.Text.Hex

/-!
Hexadecimal digits are read back as their values, and pairs of them as the byte that they write.
-/
namespace Messaging.Hex

theorem encodeChar_digit {n : Nat} (h : n < 16) :
    ∃ b, String.utf8EncodeChar (digit n) = [b] ∧ value? b = some n := by
  interval_cases n <;> exact ⟨_, rfl, by decide⟩

theorem toNat_high_lt (b : UInt8) : b.toNat / 16 < 16 := by
  have hb := b.toNat_lt
  omega

theorem toNat_low_lt (b : UInt8) : b.toNat % 16 < 16 := Nat.mod_lt _ (by decide)

theorem toUInt8_high_low (b : UInt8) : (b.toNat / 16 * 16 + b.toNat % 16).toUInt8 = b := by
  rw [Nat.div_add_mod']
  exact UInt8.ofNat_toNat

theorem exists_of_mem_ofByte {b : UInt8} {c : Char} (h : c ∈ ofByte b) :
    ∃ n < 16, c = digit n := by
  simp only [ofByte, List.mem_cons, List.not_mem_nil, or_false] at h
  rcases h with rfl | rfl
  · exact ⟨_, toNat_high_lt b, rfl⟩
  · exact ⟨_, toNat_low_lt b, rfl⟩

theorem toNat_digit_lt {n : Nat} (h : n < 16) : (digit n).toNat < 0x80 := by
  interval_cases n <;> decide

theorem toLower_digit {n : Nat} (h : n < 16) : (digit n).toLower = digit n := by
  interval_cases n <;> decide

theorem of_ascii {P : Char → Prop} (h : ∀ k < 0x80, P (Char.ofNat k)) {c : Char}
    (hc : c.toNat < 0x80) : P c := by
  have hchar := h c.toNat hc
  rwa [Char.ofNat_toNat] at hchar

theorem toLower_of_le {c : Char} (h : 0x80 ≤ c.toNat) : c.toLower = c := by
  have hupper : ¬ (c.val ≥ 'A'.val ∧ c.val ≤ 'Z'.val) := by
    rintro ⟨-, hle⟩
    rw [UInt32.le_iff_toNat_le] at hle
    change c.toNat ≤ 0x5A at hle
    omega
  rw [Char.toLower, dif_neg hupper]

theorem toNat_lt_of_toLower {c : Char} (h : c.toLower.toNat < 0x80) : c.toNat < 0x80 := by
  by_contra hc
  rw [toLower_of_le (Nat.le_of_not_lt hc)] at h
  exact hc h

/-- A character has a value exactly if it is, in lower case, the digit of that value. -/
theorem valueOfChar?_eq_some_iff {c : Char} {n : Nat} :
    valueOfChar? c = some n ↔ n < 16 ∧ c.toLower = digit n := by
  by_cases hc : c.toNat < 0x80
  · have hsmall : (valueOfChar? c).all (· < 16) = true :=
      @of_ascii (fun c => (valueOfChar? c).all (· < 16) = true) (by decide +kernel) c hc
    have heq : ∀ m < 16, valueOfChar? c = some m ↔ c.toLower = digit m :=
      @of_ascii (fun c => ∀ m < 16, valueOfChar? c = some m ↔ c.toLower = digit m)
        (by decide +kernel) c hc
    constructor
    · intro h
      have hn : n < 16 := by simpa [h] using hsmall
      exact ⟨hn, (heq n hn).mp h⟩
    · rintro ⟨hn, h⟩
      exact (heq n hn).mpr h
  · rw [valueOfChar?, if_neg hc]
    refine iff_of_false (by simp) ?_
    rintro ⟨hn, h⟩
    exact hc (toNat_lt_of_toLower (h ▸ toNat_digit_lt hn))

theorem toBytes?_eq_some_iff {cs : List Char} {bs : Bytes} :
    toBytes? cs = some bs ↔ cs.map Char.toLower = bs.flatMap ofByte := by
  constructor
  · intro h
    fun_induction toBytes? cs generalizing bs with
    | case1 => rw [← Option.some.inj h, List.map_nil, List.flatMap_nil]
    | case2 => simp at h
    | case3 c d rest ih =>
      simp only [Option.bind_eq_bind, Option.bind_eq_some_iff, Option.pure_def,
        Option.some.injEq] at h
      obtain ⟨high, hhigh, low, hlow, bytes, hbytes, rfl⟩ := h
      obtain ⟨hhighLt, hc⟩ := valueOfChar?_eq_some_iff.mp hhigh
      obtain ⟨hlowLt, hd⟩ := valueOfChar?_eq_some_iff.mp hlow
      have hpair : ((high * 16 + low).toUInt8).toNat = high * 16 + low := by
        rw [Nat.toUInt8, UInt8.toNat_ofNat']
        omega
      rw [List.flatMap_cons, ofByte, hpair, show (high * 16 + low) / 16 = high by omega,
        show (high * 16 + low) % 16 = low by omega, ← ih hbytes]
      simp [hc, hd]
  · intro h
    induction bs generalizing cs with
    | nil => rw [List.map_eq_nil_iff.mp h, toBytes?]
    | cons b bs ih =>
      rw [List.flatMap_cons, ofByte, List.cons_append, List.cons_append, List.nil_append,
        List.map_eq_cons_iff] at h
      obtain ⟨c, cs, rfl, hc, h⟩ := h
      obtain ⟨d, cs, rfl, hd, h⟩ := List.map_eq_cons_iff.mp h
      have hhigh := valueOfChar?_eq_some_iff.mpr ⟨toNat_high_lt b, hc⟩
      have hlow := valueOfChar?_eq_some_iff.mpr ⟨toNat_low_lt b, hd⟩
      simp only [toBytes?, hhigh, hlow, ih h, Option.bind_eq_bind, Option.bind_some,
        toUInt8_high_low, Option.pure_def]

end Messaging.Hex
