import Mathlib
import Messaging.Proofs.Text.Utf8
import Messaging.Text.Decimal

/-!
Decimal digits with leading zeros are read back as the number, as far as it fits in the places.
The digits of a text are its bytes, and the number that they spell is the one that they denote.
-/
namespace Messaging.Decimal

theorem encodeChar_digit {n : Nat} (h : n < 10) :
    ∃ b, String.utf8EncodeChar (Char.ofNat (0x30 + n)) = [b] ∧ isDigit b = true
      ∧ digitValue b = n := by
  interval_cases n <;> exact ⟨_, rfl, by decide, by decide⟩

theorem valueFrom_append (n : Nat) (bs cs : Bytes) :
    valueFrom n (bs ++ cs) = valueFrom (valueFrom n bs) cs := List.foldl_append

theorem encode_padded (width n : Nat) :
    (Utf8.encode (padded width n)).length = width
      ∧ (Utf8.encode (padded width n)).all isDigit = true
      ∧ value (Utf8.encode (padded width n)) = n % 10 ^ width := by
  induction width generalizing n with
  | zero => simp [padded, value, Nat.mod_one]
  | succ width ih =>
    obtain ⟨hlength, hall, hvalue⟩ := ih (n / 10)
    obtain ⟨b, hb, hdigit, hdigitValue⟩ := encodeChar_digit (Nat.mod_lt n (by decide : 0 < 10))
    have hencode : Utf8.encode (padded (width + 1) n)
        = Utf8.encode (padded width (n / 10)) ++ [b] := by
      rw [padded, Utf8.encode_append, Utf8.encode_cons, hb]
      rfl
    rw [hencode]
    refine ⟨by simp [hlength], by simp [hall, hdigit], ?_⟩
    have hvalueFrom : valueFrom 0 (Utf8.encode (padded width (n / 10))) = n / 10 % 10 ^ width :=
      hvalue
    rw [value, valueFrom_append, hvalueFrom, valueFrom_cons, valueFrom_nil, hdigitValue, pow_succ,
      mul_comm (10 ^ width) 10, Nat.mod_mul]
    ring

structure IsNumeral (cs : List Char) : Prop where
  ne_nil : cs ≠ []
  digits : ∀ c ∈ cs, c.isDigit = true

theorem exists_digit_of_isDigit {c : Char} (h : c.isDigit = true) :
    ∃ n < 10, c = Char.ofNat (0x30 + n) ∧ c.toNat - '0'.toNat = n := by
  simp only [Char.isDigit, Bool.and_eq_true, decide_eq_true_eq, ge_iff_le,
    UInt32.le_iff_toNat_le] at h
  have hlow : 0x30 ≤ c.toNat := h.1
  have hhigh : c.toNat ≤ 0x39 := h.2
  refine ⟨c.toNat - 0x30, by omega, ?_, rfl⟩
  rw [Nat.add_sub_cancel' hlow, Char.ofNat_toNat]

theorem forall_isDigit_encodeChar (c : Char) :
    (∀ b ∈ String.utf8EncodeChar c, isDigit b = true) ↔ c.isDigit = true := by
  constructor
  · intro h
    rcases Utf8.encodeChar_cases c with ⟨hlt, hone⟩ | hmany
    · have hdigit := h (UInt8.ofNat c.toNat) (by simp [hone])
      have hvalue : (UInt8.ofNat c.toNat).toNat = c.toNat := by
        rw [UInt8.toNat_ofNat']
        omega
      simp only [isDigit, decide_eq_true_eq, UInt8.le_iff_toNat_le, hvalue] at hdigit
      simp only [Char.isDigit, Bool.and_eq_true, decide_eq_true_eq, ge_iff_le,
        UInt32.le_iff_toNat_le]
      exact hdigit
    · obtain ⟨b, bs, hc⟩ := Utf8.exists_encodeChar_eq_cons c
      have hdigit := h b (by simp [hc])
      have hle := hmany b (by simp [hc])
      simp only [isDigit, decide_eq_true_eq, UInt8.le_iff_toNat_le, UInt8.reduceToNat]
        at hdigit hle
      omega
  · intro h
    obtain ⟨n, hn, rfl, -⟩ := exists_digit_of_isDigit h
    obtain ⟨b, hb, hdigit, -⟩ := encodeChar_digit hn
    simpa [hb] using hdigit

theorem forall_isDigit_encode (cs : List Char) :
    (∀ b ∈ Utf8.encode cs, isDigit b = true) ↔ ∀ c ∈ cs, c.isDigit = true := by
  induction cs with
  | nil => simp
  | cons c cs ih =>
    rw [Utf8.encode_cons, List.forall_mem_append, forall_isDigit_encodeChar, ih,
      List.forall_mem_cons]

theorem valueFrom_encode {cs : List Char} (h : ∀ c ∈ cs, c.isDigit = true) (n : Nat) :
    valueFrom n (Utf8.encode cs) = Nat.ofDigitChars 10 cs n := by
  induction cs generalizing n with
  | nil => simp
  | cons c cs ih =>
    rw [List.forall_mem_cons] at h
    obtain ⟨m, hm, hc, hvalue⟩ := exists_digit_of_isDigit h.1
    obtain ⟨b, hb, -, hdigitValue⟩ := encodeChar_digit hm
    rw [Utf8.encode_cons, hc, hb, List.singleton_append, valueFrom_cons, hdigitValue, ih h.2, ← hc,
      Nat.ofDigitChars_cons, hvalue, Nat.mul_comm]

/-- More digits never make a number smaller. -/
theorem le_valueFrom (n : Nat) (bs : Bytes) : n ≤ valueFrom n bs := by
  induction bs generalizing n with
  | nil => simp
  | cons b bs ih =>
    have hrest := ih (n * 10 + digitValue b)
    rw [valueFrom_cons]
    omega

end Messaging.Decimal
