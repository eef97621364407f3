import Messaging.Json.Literal
import Messaging.Json.Writing
import Messaging.Proofs.Text.Hex
import Messaging.Proofs.Text.Utf8

/-!
Texts through the strings of a document. The reader takes up the escape of each byte as that byte,
so a text that has been written is read back whatever its bytes are.
-/
namespace Messaging.Json

theorem escapeByte_of_plain {b : UInt8} (hcontrol : ¬ b < 0x20) (hquote : b ≠ 0x22)
    (hbackslash : b ≠ 0x5C) : escapeByte b = [b] := by
  rw [escapeByte, if_neg hcontrol]
  all_goals
    rintro rfl
    first | exact hquote rfl | exact hbackslash rfl | exact hcontrol (by decide)

namespace StringLiteral

theorem scan_plain {b : UInt8} (hcontrol : ¬ b < 0x20) (hquote : b ≠ 0x22)
    (hbackslash : b ≠ 0x5C) (done rest : Bytes) :
    scan .plain done (b :: rest) = scan .plain (b :: done) rest := by
  rw [scan, if_neg (by simp [hquote])]
  simp only [step, if_neg hbackslash, if_neg hcontrol, List.reverse_singleton,
    List.singleton_append]

theorem scan_escapeByte (b : UInt8) (done rest : Bytes) :
    scan .plain done (escapeByte b ++ rest) = scan .plain (b :: done) rest := by
  by_cases hcontrol : b < 0x20
  · -- each control character has its own escape, short or with four digits
    obtain ⟨n, hn, rfl⟩ : ∃ n < 32, b = UInt8.ofNat n :=
      ⟨b.toNat, UInt8.lt_iff_toNat_lt.mp hcontrol, UInt8.ofNat_toNat.symm⟩
    interval_cases n <;> rfl
  · by_cases hquote : b = 0x22
    · subst hquote
      rfl
    · by_cases hbackslash : b = 0x5C
      · subst hbackslash
        rfl
      · rw [escapeByte_of_plain hcontrol hquote hbackslash, List.singleton_append,
          scan_plain hcontrol hquote hbackslash]

theorem scan_flatMap_escapeByte (bs done rest : Bytes) :
    scan .plain done (bs.flatMap escapeByte ++ 0x22 :: rest)
      = .ok (done.reverse ++ bs, rest) := by
  induction bs generalizing done with
  | nil => simp [scan]
  | cons b bs ih =>
    rw [List.flatMap_cons, List.append_assoc, scan_escapeByte, ih]
    simp

end StringLiteral

theorem read_string (s : String) (rest : Bytes) :
    ∃ tail, string s ++ rest = 0x22 :: tail ∧ StringLiteral.read tail = .ok (s, rest) := by
  refine ⟨(Utf8.ofString s).flatMap escapeByte ++ 0x22 :: rest, by simp [string], ?_⟩
  rw [StringLiteral.read, StringLiteral.scan_flatMap_escapeByte]
  simp

open Utf8

theorem isText_escapeByte {b : UInt8} (h : b < 0x80) : IsText (escapeByte b) := by
  unfold escapeByte
  split
  case h_8 =>
    split
    · exact .append (.of_ascii (by simp)) (.encode _)
    · exact .singleton h
  all_goals exact .of_ascii (by simp)

theorem flatMap_escapeByte_of_le {bs : Bytes} (h : ∀ b ∈ bs, 0x80 ≤ b) :
    bs.flatMap escapeByte = bs := by
  induction bs with
  | nil => rfl
  | cons b bs ih =>
    have hb := UInt8.le_iff_toNat_le.mp (h b List.mem_cons_self)
    have hne : ∀ n : UInt8, n.toNat < 128 → b ≠ n := by
      rintro n hn rfl
      exact absurd hb (Nat.not_le.mpr hn)
    have hcontrol : ¬ b < 0x20 := by
      rw [UInt8.lt_iff_toNat_lt]
      exact Nat.not_lt.mpr (Nat.le_trans (by decide) hb)
    rw [List.flatMap_cons, ih fun c hc => h c (List.mem_cons_of_mem b hc),
      escapeByte_of_plain hcontrol (hne 0x22 (by decide)) (hne 0x5C (by decide))]
    rfl

theorem isText_flatMap_escapeByte (cs : List Char) :
    IsText ((Utf8.encode cs).flatMap escapeByte) := by
  induction cs with
  | nil => exact .nil
  | cons c cs ih =>
    rw [encode_cons, List.flatMap_append]
    refine .append ?_ ih
    rcases encodeChar_cases c with ⟨hlt, hc⟩ | hc
    · rw [hc, List.flatMap_singleton]
      refine isText_escapeByte ?_
      rw [UInt8.lt_iff_toNat_lt, UInt8.toNat_ofNat']
      exact lt_of_le_of_lt (Nat.mod_le _ _) hlt
    · rw [flatMap_escapeByte_of_le hc, ← List.append_nil (String.utf8EncodeChar c), ← encode_nil,
        ← encode_cons]
      exact .encode [c]

theorem isText_string (s : String) : IsText (string s) :=
  .cons (by decide) ((isText_flatMap_escapeByte s.toList).append (.singleton (by decide)))

theorem isText_flag (value : Bool) : IsText (flag value) := ⟨_, rfl⟩

theorem isText_member {name : String} {value : Bytes} (h : IsText value) :
    IsText (member name value) :=
  (isText_string name).append (.cons (by decide) h)

theorem isText_commaSeparated {items : List Bytes} (h : ∀ item ∈ items, IsText item) :
    IsText (commaSeparated items) := by
  induction items with
  | nil => exact .nil
  | cons item items ih =>
    rw [List.forall_mem_cons] at h
    cases items with
    | nil => exact h.1
    | cons next items => exact h.1.append (.cons (by decide) (ih h.2))

theorem isText_object {members : List Bytes} (h : ∀ item ∈ members, IsText item) :
    IsText (object members) :=
  .cons (by decide) ((isText_commaSeparated h).append (.singleton (by decide)))

end Messaging.Json
