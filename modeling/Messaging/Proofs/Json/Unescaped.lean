import Messaging.Proofs.Json.Settled
import Messaging.Proofs.Json.Strings

/-!
What stands between the quotes of a string and spells a text: characters as they are, short
escapes, and code units in four digits, where surrogates come in pairs only. Such a string is read
as the text that it spells, so that it spells no other.
-/
namespace Messaging.Json.StringLiteral

/-- A character as it may stand in a string. -/
inductive SpellsChar : Bytes → Char → Prop
  /-- As it is, if it is no control character, quote or backslash. -/
  | plain {c : Char} : 0x20 ≤ c.toNat → c ≠ '"' → c ≠ '\\' →
    SpellsChar (String.utf8EncodeChar c) c
  | short {e b : UInt8} : shortEscape? e = some b → SpellsChar [0x5C, e] (Char.ofNat b.toNat)
  /-- By its code unit, if that is no surrogate. -/
  | unit {digits : Bytes} {n : Nat} : digits.length = 4 → unitValue? digits = some n →
    isHigh n = false → isLow n = false → SpellsChar (0x5C :: 0x75 :: digits) (Char.ofNat n)
  /-- By a high surrogate and a low one after it. -/
  | pair {digits low : Bytes} {m n : Nat} : digits.length = 4 → unitValue? digits = some m →
    isHigh m = true → low.length = 4 → unitValue? low = some n → isLow n = true →
    SpellsChar (0x5C :: 0x75 :: (digits ++ 0x5C :: 0x75 :: low)) (Char.ofNat (pairValue m n))

inductive SpellsChars : Bytes → List Char → Prop
  | nil : SpellsChars [] []
  | cons {bs more : Bytes} {c : Char} {cs : List Char} : SpellsChar bs c → SpellsChars more cs →
    SpellsChars (bs ++ more) (c :: cs)

/-- The bytes between the quotes of a string spell the text. -/
def Spells (bs : Bytes) (s : String) : Prop := SpellsChars bs s.toList

theorem scan_plains {bs : Bytes} (h : ∀ b ∈ bs, ¬ b < 0x20 ∧ b ≠ 0x22 ∧ b ≠ 0x5C)
    (done rest : Bytes) :
    scan .plain done (bs ++ rest) = scan .plain (bs.reverse ++ done) rest := by
  induction bs generalizing done with
  | nil => rfl
  | cons b bs ih =>
    rw [List.forall_mem_cons] at h
    obtain ⟨⟨hcontrol, hquote, hbackslash⟩, hmore⟩ := h
    rw [List.cons_append, scan_plain hcontrol hquote hbackslash, ih hmore, List.reverse_cons,
      List.append_assoc, List.singleton_append]

theorem plain_encodeChar {c : Char} (hcontrol : 0x20 ≤ c.toNat) (hquote : c ≠ '"')
    (hbackslash : c ≠ '\\') :
    ∀ b ∈ String.utf8EncodeChar c, ¬ b < 0x20 ∧ b ≠ 0x22 ∧ b ≠ 0x5C := by
  rcases Utf8.encodeChar_cases c with ⟨hlt, hone⟩ | hmany
  · have hbyte : (UInt8.ofNat c.toNat).toNat = c.toNat := by
      rw [UInt8.toNat_ofNat']
      omega
    have hne : ∀ d : Char, c ≠ d → c.toNat ≠ d.toNat := fun d hd heq => hd (Char.toNat_inj.mp heq)
    have hquote' := hne _ hquote
    have hbackslash' := hne _ hbackslash
    rw [hone, List.forall_mem_singleton]
    simp only [UInt8.lt_iff_toNat_lt, ne_eq, ← UInt8.toNat_inj, hbyte]
    exact ⟨Nat.not_lt.mpr hcontrol, hquote', hbackslash'⟩
  · intro b hb
    have hhigh := UInt8.le_iff_toNat_le.mp (hmany b hb)
    simp only [UInt8.lt_iff_toNat_lt, ne_eq, ← UInt8.toNat_inj, UInt8.reduceToNat] at hhigh ⊢
    omega

theorem encodeChar_of_shortEscape? {e b : UInt8} (h : shortEscape? e = some b) :
    e ≠ 0x75 ∧ String.utf8EncodeChar (Char.ofNat b.toNat) = [b] := by
  unfold shortEscape? at h
  split at h <;> cases h <;> decide

theorem isLow_of_isHigh {n : Nat} (h : isHigh n = true) : isLow n = false := by
  simp only [isHigh, isLow, Bool.and_eq_true, decide_eq_true_eq, Bool.and_eq_false_iff,
    decide_eq_false_iff_not] at h ⊢
  omega

/-- A character is taken up from whatever spells it. -/
theorem scan_spellsChar {bs : Bytes} {c : Char} (h : SpellsChar bs c) (done rest : Bytes) :
    scan .plain done (bs ++ rest)
      = scan .plain ((String.utf8EncodeChar c).reverse ++ done) rest := by
  cases h with
  | plain hcontrol hquote hbackslash =>
    exact scan_plains (plain_encodeChar hcontrol hquote hbackslash) done rest
  | short hshort =>
    obtain ⟨hunit, hbyte⟩ := encodeChar_of_shortEscape? hshort
    rw [hbyte]
    simp [scan, step, hunit, hshort]
  | unit hlength hvalue hhigh hlow =>
    obtain ⟨a, b, c, d, rfl⟩ := exists_of_length hlength
    simp [scan, step, finishUnit, hvalue, hhigh, hlow, spell]
  | pair hlength hvalue hhigh hlength' hvalue' hlow' =>
    obtain ⟨a, b, c, d, rfl⟩ := exists_of_length hlength
    obtain ⟨a', b', c', d', rfl⟩ := exists_of_length hlength'
    have hlow := isLow_of_isHigh hhigh
    simp [scan, step, finishUnit, hvalue, hhigh, hlow, hvalue', hlow', spell]

theorem scan_spellsChars {bs : Bytes} {cs : List Char} (h : SpellsChars bs cs)
    (done rest : Bytes) :
    scan .plain done (bs ++ rest) = scan .plain ((Utf8.encode cs).reverse ++ done) rest := by
  induction h generalizing done with
  | nil => rfl
  | cons hc _ ih =>
    rw [List.append_assoc, scan_spellsChar hc, ih, Utf8.encode_cons, List.reverse_append,
      List.append_assoc]

theorem Spells.read {bs : Bytes} {s : String} (h : Spells bs s) (rest : Bytes) :
    read (bs ++ 0x22 :: rest) = .ok (s, rest) := by
  have hscan : scan .plain [] (bs ++ 0x22 :: rest) = .ok (Utf8.ofString s, rest) := by
    rw [scan_spellsChars h, List.append_nil, scan, if_pos ⟨rfl, rfl⟩, List.reverse_reverse,
      Utf8.ofString]
  rw [StringLiteral.read, hscan]
  simp

/-- Bytes spell one text at most. -/
theorem Spells.unique {bs : Bytes} {s t : String} (hs : Spells bs s) (ht : Spells bs t) : s = t := by
  have hread := hs.read []
  rw [ht.read [], Except.ok.injEq, Prod.mk.injEq] at hread
  exact hread.1.symm

theorem escapeByte_of_control {b : UInt8} (h : b < 0x20) :
    (∃ e, escapeByte b = [0x5C, e] ∧ shortEscape? e = some b)
      ∨ ∃ digits, escapeByte b = 0x5C :: 0x75 :: digits ∧ digits.length = 4
        ∧ unitValue? digits = some b.toNat := by
  obtain ⟨n, hn, rfl⟩ : ∃ n < 32, b = UInt8.ofNat n :=
    ⟨b.toNat, UInt8.lt_iff_toNat_lt.mp h, UInt8.ofNat_toNat.symm⟩
  interval_cases n <;> first
    | exact .inl ⟨_, rfl, rfl⟩
    | exact .inr ⟨_, rfl, rfl, rfl⟩

theorem spellsChar_escapeByte {c : Char} (h : c.toNat < 128) :
    SpellsChar (escapeByte (UInt8.ofNat c.toNat)) c := by
  have hbyte : (UInt8.ofNat c.toNat).toNat = c.toNat := by
    rw [UInt8.toNat_ofNat']
    omega
  have hchar : Char.ofNat (UInt8.ofNat c.toNat).toNat = c := by rw [hbyte, Char.ofNat_toNat]
  by_cases hcontrol : UInt8.ofNat c.toNat < 0x20
  · rcases escapeByte_of_control hcontrol with ⟨e, hbytes, hshort⟩ |
      ⟨digits, hbytes, hlength, hvalue⟩
    · rw [hbytes, ← hchar]
      exact .short hshort
    · have hsurrogate : isHigh (UInt8.ofNat c.toNat).toNat = false
          ∧ isLow (UInt8.ofNat c.toNat).toNat = false := by
        simp only [hbyte, isHigh, isLow, Bool.and_eq_false_iff, decide_eq_false_iff_not]
        omega
      rw [hbytes, ← hchar]
      exact .unit hlength hvalue hsurrogate.1 hsurrogate.2
  by_cases hquote : UInt8.ofNat c.toNat = 0x22
  · rw [← hchar, hquote]
    exact .short rfl
  by_cases hbackslash : UInt8.ofNat c.toNat = 0x5C
  · rw [← hchar, hbackslash]
    exact .short rfl
  have hplain : SpellsChar (String.utf8EncodeChar c) c := by
    refine .plain ?_ ?_ ?_
    · rw [UInt8.lt_iff_toNat_lt, hbyte] at hcontrol
      exact Nat.not_lt.mp hcontrol
    · rintro rfl
      exact hquote rfl
    · rintro rfl
      exact hbackslash rfl
  rwa [Utf8.encodeChar_of_lt h, ← escapeByte_of_plain hcontrol hquote hbackslash] at hplain

theorem spellsChar_flatMap_escapeByte (c : Char) :
    SpellsChar ((String.utf8EncodeChar c).flatMap escapeByte) c := by
  by_cases hlt : c.toNat < 128
  · rw [Utf8.encodeChar_of_lt hlt, List.flatMap_singleton]
    exact spellsChar_escapeByte hlt
  · have hmany := (Utf8.encodeChar_cases c).resolve_left fun h => hlt h.1
    have hne : ∀ d : Char, d.toNat < 128 → c ≠ d := by
      rintro d hd rfl
      exact hlt hd
    rw [flatMap_escapeByte_of_le hmany]
    exact .plain (by omega) (hne _ (by decide)) (hne _ (by decide))

theorem spells_flatMap_escapeByte (s : String) :
    Spells ((Utf8.ofString s).flatMap escapeByte) s := by
  rw [Spells, Utf8.ofString]
  induction s.toList with
  | nil => exact .nil
  | cons c cs ih =>
    rw [Utf8.encode_cons, List.flatMap_append]
    exact .cons (spellsChar_flatMap_escapeByte c) ih

end Messaging.Json.StringLiteral
