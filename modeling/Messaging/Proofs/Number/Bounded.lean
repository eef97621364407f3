import Messaging.Number.Bounded
import Messaging.Proofs.Except
import Messaging.Proofs.Text.Decimal

/-!
Which texts are read as numbers within bounds: exactly those that denote one, with the signs that
the reader knows and with any leading zeros. A number out of bounds is never cut down to one within
them.
-/
namespace Messaging.Bounded

open Decimal

/-- A text denotes a whole number by its digits, which follow a sign if there is one. Only some
signs may stand there. -/
inductive Denotes (signs : List Char) : List Char → Int → Prop
  | unsigned {cs : List Char} (h : IsNumeral cs) : Denotes signs cs (Nat.ofDigitChars 10 cs 0)
  | plus {cs : List Char} (hsign : '+' ∈ signs) (h : IsNumeral cs) :
    Denotes signs ('+' :: cs) (Nat.ofDigitChars 10 cs 0)
  | minus {cs : List Char} (hsign : '-' ∈ signs) (h : IsNumeral cs) :
    Denotes signs ('-' :: cs) (-(Nat.ofDigitChars 10 cs 0 : Nat))

section Denotes

variable {signs : List Char} {c : Char} {cs : List Char} {n : Int}

theorem ne_of_isNumeral_cons {mark : Char} (h : IsNumeral (c :: cs))
    (hmark : mark.isDigit = false) : c ≠ mark := by
  rintro rfl
  have hdigit := h.digits c List.mem_cons_self
  simp [hmark] at hdigit

theorem not_denotes_nil : ¬ Denotes signs [] n := by
  intro h
  cases h with
  | unsigned h => exact h.ne_nil rfl

theorem denotes_plus_iff :
    Denotes signs ('+' :: cs) n
      ↔ '+' ∈ signs ∧ IsNumeral cs ∧ n = Nat.ofDigitChars 10 cs 0 := by
  constructor
  · intro h
    cases h with
    | unsigned h => exact absurd rfl (ne_of_isNumeral_cons h (by decide))
    | plus hsign h => exact ⟨hsign, h, rfl⟩
  · rintro ⟨hsign, h, rfl⟩
    exact .plus hsign h

theorem denotes_minus_iff :
    Denotes signs ('-' :: cs) n
      ↔ '-' ∈ signs ∧ IsNumeral cs ∧ n = -(Nat.ofDigitChars 10 cs 0 : Nat) := by
  constructor
  · intro h
    cases h with
    | unsigned h => exact absurd rfl (ne_of_isNumeral_cons h (by decide))
    | minus hsign h => exact ⟨hsign, h, rfl⟩
  · rintro ⟨hsign, h, rfl⟩
    exact .minus hsign h

theorem denotes_cons_iff (hplus : c ≠ '+') (hminus : c ≠ '-') :
    Denotes signs (c :: cs) n
      ↔ IsNumeral (c :: cs) ∧ n = Nat.ofDigitChars 10 (c :: cs) 0 := by
  constructor
  · intro h
    cases h with
    | unsigned h => exact ⟨h, rfl⟩
    | plus => exact absurd rfl hplus
    | minus => exact absurd rfl hminus
  · rintro ⟨h, rfl⟩
    exact .unsigned h

theorem Denotes.unique {m : Int} (h : Denotes signs cs n) (h' : Denotes signs cs m) : n = m := by
  cases h with
  | unsigned h =>
    cases h' with
    | unsigned => rfl
    | plus => exact absurd rfl (ne_of_isNumeral_cons h (by decide))
    | minus => exact absurd rfl (ne_of_isNumeral_cons h (by decide))
  | plus => exact (denotes_plus_iff.mp h').2.2.symm
  | minus => exact (denotes_minus_iff.mp h').2.2.symm

end Denotes

/-- Digits are read to their end exactly if what they spell is within the bound; where it is not, a
part of them is already beyond it. -/
theorem digits_eq_ok_iff {greatest n m : Nat} {bs : Bytes} (h : n ≤ greatest) :
    digits greatest n bs = some (.ok m)
      ↔ (∀ b ∈ bs, isDigit b = true) ∧ valueFrom n bs = m ∧ m ≤ greatest := by
  induction bs generalizing n with
  | nil =>
    simp only [digits, Option.some.injEq, Except.ok.injEq, List.not_mem_nil, false_implies,
      implies_true, valueFrom_nil, true_and]
    exact ⟨fun hn => ⟨hn, hn ▸ h⟩, fun hn => hn.1⟩
  | cons b bs ih =>
    rw [digits, List.forall_mem_cons, valueFrom_cons]
    by_cases hdigit : isDigit b = true
    · by_cases hfits : n * 10 + digitValue b ≤ greatest
      · simp only [hdigit, hfits, if_true, ih hfits, true_and]
      · have hgrows := le_valueFrom (n * 10 + digitValue b) bs
        simp only [hdigit, hfits, if_true, if_false, Option.some.injEq, reduceCtorEq, true_and,
          false_iff, not_and]
        omega
    · simp [hdigit]

theorem magnitude_eq_ok_iff {greatest n : Nat} {outside : Fault} {cs : List Char} :
    magnitude greatest outside (Utf8.encode cs) = .ok n
      ↔ IsNumeral cs ∧ n = Nat.ofDigitChars 10 cs 0 ∧ n ≤ greatest := by
  have hdigits := @digits_eq_ok_iff greatest 0 n (Utf8.encode cs) (Nat.zero_le _)
  rw [forall_isDigit_encode] at hdigits
  have hread : magnitude greatest outside (Utf8.encode cs) = .ok n
      ↔ cs ≠ [] ∧ digits greatest 0 (Utf8.encode cs) = some (.ok n) := by
    cases cs with
    | nil => simp [magnitude]
    | cons c cs =>
      obtain ⟨b, bs, hbytes⟩ := Utf8.exists_encode_eq_cons c cs
      rw [hbytes, magnitude]
      rcases digits greatest 0 (b :: bs) with _ | _ | m <;> simp
  rw [hread, hdigits]
  constructor
  · rintro ⟨hne, hall, hvalue, hle⟩
    exact ⟨⟨hne, hall⟩, by rw [← hvalue, valueFrom_encode hall], hle⟩
  · rintro ⟨h, hvalue, hle⟩
    exact ⟨h.ne_nil, h.digits, by rw [hvalue, valueFrom_encode h.digits], hle⟩

theorem map_magnitude_eq_ok_iff {greatest : Nat} {outside : Fault} {cs : List Char} {f : Nat → Int}
    {n : Int} :
    (magnitude greatest outside (Utf8.encode cs)).map f = .ok n
      ↔ IsNumeral cs ∧ n = f (Nat.ofDigitChars 10 cs 0) ∧ Nat.ofDigitChars 10 cs 0 ≤ greatest := by
  rw [map_eq_ok_iff]
  simp only [magnitude_eq_ok_iff]
  constructor
  · rintro ⟨m, ⟨h, rfl, hle⟩, rfl⟩
    exact ⟨h, rfl, hle⟩
  · rintro ⟨h, rfl, hle⟩
    exact ⟨_, ⟨h, rfl, hle⟩, rfl⟩

theorem readUnsigned_plus (greatest : Nat) (cs : List Char) :
    readUnsigned greatest (Utf8.encode ('+' :: cs))
      = magnitude greatest .tooLarge (Utf8.encode cs) := rfl

theorem readUnsigned_cons (greatest : Nat) {c : Char} (hplus : c ≠ '+') (cs : List Char) :
    readUnsigned greatest (Utf8.encode (c :: cs))
      = magnitude greatest .tooLarge (Utf8.encode (c :: cs)) := by
  obtain ⟨b, bs, hbytes⟩ := Utf8.exists_encode_eq_cons c cs
  rw [hbytes, readUnsigned, if_neg (Utf8.ne_of_encode_eq_cons hbytes 0x2B (by decide) hplus)]

theorem map_cast (x : Except Fault Nat) (f : Int → Int) :
    (x >>= fun n => pure (n : Int)).map f = x.map fun n : Nat => f n := by
  cases x <;> rfl

theorem readSigned_plus (lowest greatest : Nat) (cs : List Char) :
    readSigned lowest greatest (Utf8.encode ('+' :: cs))
      = (magnitude greatest .tooLarge (Utf8.encode cs)).map fun n : Nat => (n : Int) :=
  map_cast _ _

theorem readSigned_minus (lowest greatest : Nat) (cs : List Char) :
    readSigned lowest greatest (Utf8.encode ('-' :: cs))
      = (magnitude lowest .tooSmall (Utf8.encode cs)).map fun n : Nat => -(n : Int) :=
  map_cast _ _

theorem readSigned_cons (lowest greatest : Nat) {c : Char} (hplus : c ≠ '+') (hminus : c ≠ '-')
    (cs : List Char) :
    readSigned lowest greatest (Utf8.encode (c :: cs))
      = (magnitude greatest .tooLarge (Utf8.encode (c :: cs))).map fun n : Nat => (n : Int) := by
  obtain ⟨b, bs, hbytes⟩ := Utf8.exists_encode_eq_cons c cs
  rw [hbytes, readSigned, if_neg (Utf8.ne_of_encode_eq_cons hbytes 0x2D (by decide) hminus),
    if_neg (Utf8.ne_of_encode_eq_cons hbytes 0x2B (by decide) hplus)]
  exact map_cast _ _

/-- A reader without a minus reads the texts that denote a number up to its bound. -/
theorem readUnsigned_eq_ok_iff {greatest n : Nat} {cs : List Char} :
    readUnsigned greatest (Utf8.encode cs) = .ok n ↔ Denotes ['+'] cs n ∧ n ≤ greatest := by
  rcases cs with _ | ⟨c, cs⟩
  · simp [readUnsigned, not_denotes_nil]
  · by_cases hplus : c = '+'
    · subst hplus
      rw [readUnsigned_plus, magnitude_eq_ok_iff, denotes_plus_iff]
      simp [and_assoc]
    · rw [readUnsigned_cons greatest hplus, magnitude_eq_ok_iff]
      by_cases hminus : c = '-'
      · subst hminus
        rw [denotes_minus_iff]
        refine iff_of_false ?_ (by simp)
        rintro ⟨h, -⟩
        exact ne_of_isNumeral_cons h (by decide) rfl
      · rw [denotes_cons_iff hplus hminus]
        simp [and_assoc]

theorem readSigned_eq_ok_iff {lowest greatest : Nat} {n : Int} {cs : List Char} :
    readSigned lowest greatest (Utf8.encode cs) = .ok n
      ↔ Denotes ['+', '-'] cs n ∧ -(lowest : Int) ≤ n ∧ n ≤ greatest := by
  rcases cs with _ | ⟨c, cs⟩
  · simp [readSigned, not_denotes_nil]
  · by_cases hplus : c = '+'
    · subst hplus
      rw [readSigned_plus, map_magnitude_eq_ok_iff, denotes_plus_iff]
      constructor
      · rintro ⟨h, rfl, hle⟩
        exact ⟨⟨by simp, h, rfl⟩, by omega, by omega⟩
      · rintro ⟨⟨-, h, rfl⟩, -, hle⟩
        exact ⟨h, rfl, by omega⟩
    · by_cases hminus : c = '-'
      · subst hminus
        rw [readSigned_minus, map_magnitude_eq_ok_iff, denotes_minus_iff]
        constructor
        · rintro ⟨h, rfl, hle⟩
          exact ⟨⟨by simp, h, rfl⟩, by omega, by omega⟩
        · rintro ⟨⟨-, h, rfl⟩, hle, -⟩
          exact ⟨h, rfl, by omega⟩
      · rw [readSigned_cons lowest greatest hplus hminus, map_magnitude_eq_ok_iff,
          denotes_cons_iff hplus hminus]
        constructor
        · rintro ⟨h, rfl, hle⟩
          exact ⟨⟨h, rfl⟩, by omega, by omega⟩
        · rintro ⟨⟨h, rfl⟩, -, hle⟩
          exact ⟨h, rfl, by omega⟩

end Messaging.Bounded
