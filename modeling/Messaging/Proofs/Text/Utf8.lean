import Mathlib
import Messaging.Text.Utf8

/-!
The bytes of a text spell that text and no other: the automaton that reads single bytes takes up
each character's bytes as that character, and no other bytes as any.
-/
namespace Messaging.Utf8

theorem push?_ofNat (missing value : Nat) (low high : UInt8) {n : Nat}
    (hlow : low.toNat ≤ n) (hhigh : n ≤ high.toNat) :
    Begun.push? ⟨missing, value, low, high⟩ (UInt8.ofNat n)
      = some ⟨missing - 1, value * 64 + n % 64, 0x80, 0xBF⟩ := by
  have hn : (UInt8.ofNat n).toNat = n := by
    have := high.toNat_lt
    simp; omega
  rw [Begun.push?, if_pos, hn]
  simpa only [UInt8.le_iff_toNat_le, hn] using ⟨hlow, hhigh⟩

theorem ofLead?_two {n : Nat} (hlow : 2 ≤ n) (hhigh : n < 32) :
    Begun.ofLead? (UInt8.ofNat (n + 0xC0)) = some ⟨1, n, 0x80, 0xBF⟩ := by
  interval_cases n <;> rfl

/-- The first byte of three bounds the second, so that neither a value below 0x800 nor a surrogate
is put together. -/
theorem ofLead?_three {v : Nat} (hlow : 0x800 ≤ v) (hhigh : v < 0x10000)
    (hsurrogate : v < 0xD800 ∨ 0xDFFF < v) :
    ∃ low high, Begun.ofLead? (UInt8.ofNat (v / 4096 + 0xE0)) = some ⟨2, v / 4096, low, high⟩
      ∧ low.toNat ≤ v / 64 % 64 + 0x80 ∧ v / 64 % 64 + 0x80 ≤ high.toNat := by
  have hlead : v / 4096 < 16 := by omega
  generalize hn : v / 4096 = n at hlead ⊢
  interval_cases n <;> exact ⟨_, _, rfl, by simp <;> omega, by simp; omega⟩

/-- The first byte of four bounds the second, so that no value below 0x10000 or past 0x10FFFF is
put together. -/
theorem ofLead?_four {v : Nat} (hlow : 0x10000 ≤ v) (hhigh : v < 0x110000) :
    ∃ low high, Begun.ofLead? (UInt8.ofNat (v / 262144 + 0xF0))
        = some ⟨3, v / 262144, low, high⟩
      ∧ low.toNat ≤ v / 4096 % 64 + 0x80 ∧ v / 4096 % 64 + 0x80 ≤ high.toNat := by
  have hlead : v / 262144 < 5 := by omega
  generalize hn : v / 262144 = n at hlead ⊢
  interval_cases n <;> exact ⟨_, _, rfl, by simp <;> omega, by simp; omega⟩

theorem decodeFrom_lead {b : UInt8} {p : Begun} (hlead : Begun.ofLead? b = some p)
    (hmissing : p.missing ≠ 0) (done : List Char) (rest : Bytes) :
    decodeFrom none done (b :: rest) = decodeFrom (some p) done rest := by
  simp [decodeFrom, hlead, hmissing]

theorem decodeFrom_push {b : UInt8} {p q : Begun} (hpush : p.push? b = some q)
    (hmissing : q.missing ≠ 0) (done : List Char) (rest : Bytes) :
    decodeFrom (some p) done (b :: rest) = decodeFrom (some q) done rest := by
  simp [decodeFrom, hpush, hmissing]

theorem decodeFrom_last {b : UInt8} {p q : Begun} (hpush : p.push? b = some q)
    (hmissing : q.missing = 0) (done : List Char) (rest : Bytes) :
    decodeFrom (some p) done (b :: rest) = decodeFrom none (Char.ofNat q.value :: done) rest := by
  simp [decodeFrom, hpush, hmissing]

/-- The reader takes up a character's bytes as that character. -/
theorem decodeFrom_encodeChar (c : Char) (done : List Char) (rest : Bytes) :
    decodeFrom none done (String.utf8EncodeChar c ++ rest) = decodeFrom none (c :: done) rest := by
  have hvalid : c.val.toNat < 0xD800 ∨ 0xDFFF < c.val.toNat ∧ c.val.toNat < 0x110000 := c.valid
  have hchar : Char.ofNat c.val.toNat = c := Char.ofNat_toNat c
  generalize hv : c.val.toNat = v at hvalid hchar
  simp only [String.utf8EncodeChar, hv]
  -- one case for each count of bytes, from one to four
  split_ifs with h1 h2 h3 <;> simp only [List.cons_append, List.nil_append]
  · have hb : (UInt8.ofNat v).toNat = v := by simp; omega
    have hlead : Begun.ofLead? (UInt8.ofNat v) = some ⟨0, v, 0x80, 0xBF⟩ := by
      have hlt : UInt8.ofNat v < 0x80 := by
        rw [UInt8.lt_iff_toNat_lt, hb]
        exact Nat.lt_succ_of_le h1
      rw [Begun.ofLead?, if_pos hlt, hb]
    simp [decodeFrom, hlead, hchar]
  · have hlead := ofLead?_two (n := v / 64 % 0x20) (by omega) (by omega)
    have hlast := push?_ofNat 1 (v / 64 % 0x20) 0x80 0xBF (n := v % 0x40 + 0x80)
      (by simp) (by simp; omega)
    have hvalue : v / 64 % 0x20 * 64 + (v % 0x40 + 0x80) % 64 = v := by omega
    rw [decodeFrom_lead hlead (by simp), decodeFrom_last hlast rfl, hvalue, hchar]
  · obtain ⟨low, high, hlead, hl, hh⟩ := ofLead?_three (v := v) (by omega) (by omega) (by omega)
    have htop : v / 4096 % 0x10 = v / 4096 := by omega
    have hnext := push?_ofNat 2 (v / 4096) low high hl hh
    have hlast := push?_ofNat 1 (v / 4096 * 64 + (v / 64 % 64 + 0x80) % 64) 0x80 0xBF
      (n := v % 0x40 + 0x80) (by simp) (by simp; omega)
    have hvalue : (v / 4096 * 64 + (v / 64 % 64 + 0x80) % 64) * 64
        + (v % 0x40 + 0x80) % 64 = v := by omega
    rw [htop, decodeFrom_lead hlead (by simp), decodeFrom_push hnext (by simp),
      decodeFrom_last hlast rfl, hvalue, hchar]
  · obtain ⟨low, high, hlead, hl, hh⟩ := ofLead?_four (v := v) (by omega) (by omega)
    have htop : v / 262144 % 0x08 = v / 262144 := by omega
    have hnext := push?_ofNat 3 (v / 262144) low high hl hh
    have hthird := push?_ofNat 2 (v / 262144 * 64 + (v / 4096 % 64 + 0x80) % 64) 0x80 0xBF
      (n := v / 64 % 0x40 + 0x80) (by simp) (by simp; omega)
    have hlast := push?_ofNat 1
      ((v / 262144 * 64 + (v / 4096 % 64 + 0x80) % 64) * 64 + (v / 64 % 0x40 + 0x80) % 64) 0x80 0xBF
      (n := v % 0x40 + 0x80) (by simp) (by simp; omega)
    have hvalue : ((v / 262144 * 64 + (v / 4096 % 64 + 0x80) % 64) * 64
        + (v / 64 % 0x40 + 0x80) % 64) * 64 + (v % 0x40 + 0x80) % 64 = v := by omega
    rw [htop, decodeFrom_lead hlead (by simp), decodeFrom_push hnext (by simp),
      decodeFrom_push hthird (by simp), decodeFrom_last hlast rfl, hvalue, hchar]

theorem decodeFrom_encode (cs done : List Char) (rest : Bytes) :
    decodeFrom none done (encode cs ++ rest) = decodeFrom none (cs.reverse ++ done) rest := by
  induction cs generalizing done with
  | nil => rfl
  | cons c cs ih =>
    rw [encode_cons, List.append_assoc, decodeFrom_encodeChar, ih]
    simp

@[simp] theorem toString?_ofString (s : String) : toString? (ofString s) = some s := by
  have h := decodeFrom_encode s.toList [] []
  rw [List.append_nil, List.append_nil, decodeFrom, List.reverse_reverse] at h
  rw [toString?, decode?, ofString, h]
  simp

theorem ofString_append (s t : String) : ofString (s ++ t) = ofString s ++ ofString t := by
  rw [ofString, String.toList_append, encode_append, ofString, ofString]

/-- What a lead byte begins: it tells how many bytes are to come, gives the first bits of the value,
and bounds the next byte. -/
theorem ofLead?_cases {b : UInt8} {p : Begun} (h : Begun.ofLead? b = some p) :
    (p.missing = 0 ∧ p.value = b.toNat ∧ b.toNat < 0x80)
      ∨ (p.missing = 1 ∧ p.value + 0xC0 = b.toNat ∧ 2 ≤ p.value ∧ p.value < 0x20
        ∧ p.low.toNat = 0x80 ∧ p.high.toNat = 0xBF)
      ∨ (p.missing = 2 ∧ p.value + 0xE0 = b.toNat ∧ p.value < 0x10 ∧ 0x80 ≤ p.low.toNat
        ∧ p.high.toNat ≤ 0xBF ∧ (0 < p.value ∨ 0xA0 ≤ p.low.toNat)
        ∧ (p.value ≠ 0xD ∨ p.high.toNat ≤ 0x9F))
      ∨ (p.missing = 3 ∧ p.value + 0xF0 = b.toNat ∧ p.value ≤ 4 ∧ 0x80 ≤ p.low.toNat
        ∧ p.high.toNat ≤ 0xBF ∧ (0 < p.value ∨ 0x90 ≤ p.low.toNat)
        ∧ (p.value ≠ 4 ∨ p.high.toNat ≤ 0x8F)) := by
  rw [Begun.ofLead?] at h
  simp only [UInt8.lt_iff_toNat_lt, ← UInt8.toNat_inj, UInt8.reduceToNat] at h
  split_ifs at h <;> first
    | contradiction
    | (obtain rfl := Option.some.inj h
       simp only [UInt8.reduceToNat, true_and, and_true]
       omega)

theorem exists_of_decodeFrom_some {p : Begun} {done cs : List Char} {bs : Bytes}
    (h : decodeFrom (some p) done bs = some cs) :
    ∃ b rest, bs = b :: rest ∧ p.low.toNat ≤ b.toNat ∧ b.toNat ≤ p.high.toNat
      ∧ (if p.missing ≤ 1 then
          decodeFrom none (Char.ofNat (p.value * 64 + b.toNat % 64) :: done) rest
        else
          decodeFrom (some ⟨p.missing - 1, p.value * 64 + b.toNat % 64, 0x80, 0xBF⟩) done rest)
        = some cs := by
  cases bs with
  | nil => simp [decodeFrom] at h
  | cons b rest =>
    rw [decodeFrom, Begun.push?] at h
    by_cases hrange : p.low ≤ b ∧ b ≤ p.high
    · rw [if_pos hrange] at h
      simp only [Nat.sub_eq_zero_iff_le] at h
      exact ⟨b, rest, rfl, UInt8.le_iff_toNat_le.mp hrange.1, UInt8.le_iff_toNat_le.mp hrange.2, h⟩
    · simp [if_neg hrange] at h

theorem encodeChar_ofNat {v : Nat} (h : v.isValidChar) :
    String.utf8EncodeChar (Char.ofNat v)
      = if v ≤ 0x7F then [UInt8.ofNat v]
        else if v ≤ 0x7FF then [UInt8.ofNat (v / 64 % 0x20 + 0xC0), UInt8.ofNat (v % 0x40 + 0x80)]
        else if v ≤ 0xFFFF then
          [UInt8.ofNat (v / 4096 % 0x10 + 0xE0), UInt8.ofNat (v / 64 % 0x40 + 0x80),
            UInt8.ofNat (v % 0x40 + 0x80)]
        else
          [UInt8.ofNat (v / 262144 % 8 + 0xF0), UInt8.ofNat (v / 4096 % 0x40 + 0x80),
            UInt8.ofNat (v / 64 % 0x40 + 0x80), UInt8.ofNat (v % 0x40 + 0x80)] := by
  have hv : (Char.ofNat v).val.toNat = v := by
    have := Char.toNat_ofNat v
    rwa [if_pos h] at this
  simp only [String.utf8EncodeChar, hv]

theorem eq_ofNat {b : UInt8} {n : Nat} (h : n = b.toNat) : UInt8.ofNat n = b := by
  rw [h, UInt8.ofNat_toNat]

theorem exists_char_of_decodeFrom {b : UInt8} {done cs : List Char} {rest : Bytes}
    (h : decodeFrom none done (b :: rest) = some cs) :
    ∃ c rest', b :: rest = String.utf8EncodeChar c ++ rest'
      ∧ decodeFrom none (c :: done) rest' = some cs := by
  rw [decodeFrom] at h
  cases hlead : Begun.ofLead? b with
  | none => simp [hlead] at h
  | some p =>
    simp only [hlead] at h
    -- one case for each count of bytes that a lead byte asks for
    rcases ofLead?_cases hlead with ⟨hmissing, hvalue, hlt⟩ | ⟨hmissing, hvalue, hlow, hhigh, hnext⟩
      | ⟨hmissing, hvalue, hlt, hnext⟩ | ⟨hmissing, hvalue, hle, hnext⟩
    · rw [if_pos hmissing] at h
      refine ⟨_, rest, ?_, h⟩
      rw [encodeChar_ofNat (.inl (by omega)), if_pos (by omega), eq_ofNat hvalue,
        List.singleton_append]
    · rw [if_neg (by omega)] at h
      obtain ⟨b₁, rest₁, rfl, hlow₁, hhigh₁, h₁⟩ := exists_of_decodeFrom_some h
      rw [if_pos (by omega)] at h₁
      refine ⟨_, rest₁, ?_, h₁⟩
      rw [encodeChar_ofNat (.inl (by omega)), if_neg (by omega), if_pos (by omega),
        eq_ofNat (b := b) (by omega), eq_ofNat (b := b₁) (by omega)]
      rfl
    · rw [if_neg (by omega)] at h
      obtain ⟨b₁, rest₁, rfl, hlow₁, hhigh₁, h₁⟩ := exists_of_decodeFrom_some h
      rw [if_neg (by omega)] at h₁
      obtain ⟨b₂, rest₂, rfl, hlow₂, hhigh₂, h₂⟩ := exists_of_decodeFrom_some h₁
      simp only [UInt8.reduceToNat] at hlow₂ hhigh₂
      rw [if_pos (by simp only; omega)] at h₂
      refine ⟨_, rest₂, ?_, h₂⟩
      have hvalid : ((p.value * 64 + b₁.toNat % 64) * 64 + b₂.toNat % 64).isValidChar := by
        rw [Nat.isValidChar]
        omega
      rw [encodeChar_ofNat hvalid, if_neg (by omega), if_neg (by omega), if_pos (by omega),
        eq_ofNat (b := b) (by omega), eq_ofNat (b := b₁) (by omega), eq_ofNat (b := b₂) (by omega)]
      rfl
    · rw [if_neg (by omega)] at h
      obtain ⟨b₁, rest₁, rfl, hlow₁, hhigh₁, h₁⟩ := exists_of_decodeFrom_some h
      rw [if_neg (by omega)] at h₁
      obtain ⟨b₂, rest₂, rfl, hlow₂, hhigh₂, h₂⟩ := exists_of_decodeFrom_some h₁
      simp only [UInt8.reduceToNat] at hlow₂ hhigh₂
      rw [if_neg (by simp only; omega)] at h₂
      obtain ⟨b₃, rest₃, rfl, hlow₃, hhigh₃, h₃⟩ := exists_of_decodeFrom_some h₂
      simp only [UInt8.reduceToNat] at hlow₃ hhigh₃
      rw [if_pos (by simp only; omega)] at h₃
      refine ⟨_, rest₃, ?_, h₃⟩
      have hvalid : (((p.value * 64 + b₁.toNat % 64) * 64 + b₂.toNat % 64) * 64
          + b₃.toNat % 64).isValidChar := by
        rw [Nat.isValidChar]
        omega
      rw [encodeChar_ofNat hvalid, if_neg (by omega), if_neg (by omega), if_neg (by omega),
        eq_ofNat (b := b) (by omega), eq_ofNat (b := b₁) (by omega), eq_ofNat (b := b₂) (by omega),
        eq_ofNat (b := b₃) (by omega)]
      rfl

theorem exists_encode_of_decodeFrom {bs : Bytes} {done cs : List Char}
    (h : decodeFrom none done bs = some cs) : ∃ ds, cs = done.reverse ++ ds ∧ bs = encode ds := by
  induction hlength : bs.length using Nat.strong_induction_on generalizing bs done with
  | _ n ih =>
    cases bs with
    | nil =>
      rw [decodeFrom, Option.some.injEq] at h
      exact ⟨[], by simp [h], rfl⟩
    | cons b rest =>
      obtain ⟨c, rest', hbytes, hrest⟩ := exists_char_of_decodeFrom h
      have hbytesOfChar := String.length_utf8EncodeChar c
      have hshorter : rest'.length < n := by
        have hcount := congrArg List.length hbytes
        have hsize := c.utf8Size_pos
        rw [List.length_append] at hcount
        omega
      obtain ⟨ds, rfl, rfl⟩ := ih _ hshorter hrest rfl
      exact ⟨c :: ds, by simp, by rw [hbytes, encode_cons]⟩

/-- Bytes are read as a text exactly if they are those of the text. -/
theorem toString?_eq_some_iff {bs : Bytes} {s : String} :
    toString? bs = some s ↔ ofString s = bs := by
  constructor
  · intro h
    obtain ⟨cs, hcs, rfl⟩ := Option.map_eq_some_iff.mp h
    obtain ⟨ds, rfl, rfl⟩ := exists_encode_of_decodeFrom hcs
    rw [ofString, String.toList_ofList]
  · rintro rfl
    exact toString?_ofString s

theorem utf8ByteSize_of_utf8Size {cs : List Char} (h : ∀ c ∈ cs, c.utf8Size = 1) :
    (String.ofList cs).utf8ByteSize = cs.length := by
  induction cs with
  | nil => rfl
  | cons c cs ih =>
    have hc := h c List.mem_cons_self
    have hcs := ih fun d hd => h d (List.mem_cons_of_mem c hd)
    rw [String.ofList_cons, String.utf8ByteSize_append, String.utf8ByteSize_singleton, hc, hcs,
      List.length_cons, Nat.add_comm]

theorem encodeChar_of_lt {c : Char} (h : c.toNat < 128) :
    String.utf8EncodeChar c = [UInt8.ofNat c.toNat] := by
  simp only [String.utf8EncodeChar]
  exact if_pos (Nat.le_of_lt_succ h)

theorem encodeChar_cases (c : Char) :
    (c.toNat < 128 ∧ String.utf8EncodeChar c = [UInt8.ofNat c.toNat])
      ∨ ∀ b ∈ String.utf8EncodeChar c, 0x80 ≤ b := by
  by_cases hlt : c.toNat < 128
  · exact .inl ⟨hlt, encodeChar_of_lt hlt⟩
  · right
    simp only [Char.toNat] at hlt
    simp only [String.utf8EncodeChar]
    generalize c.val.toNat = v at hlt
    rw [if_neg (by omega)]
    split_ifs
    all_goals
      simp only [List.mem_cons, List.not_mem_nil, or_false, forall_eq_or_imp, forall_eq,
        UInt8.le_iff_toNat_le, UInt8.toNat_ofNat', UInt8.reduceToNat]
      omega

theorem exists_encodeChar_eq_cons (c : Char) : ∃ b bs, String.utf8EncodeChar c = b :: bs := by
  apply List.exists_cons_of_length_pos
  rw [String.length_utf8EncodeChar]
  exact c.utf8Size_pos

theorem exists_encode_eq_cons (c : Char) (cs : List Char) : ∃ b bs, encode (c :: cs) = b :: bs := by
  obtain ⟨b, bs, hc⟩ := exists_encodeChar_eq_cons c
  exact ⟨b, bs ++ encode cs, by rw [encode_cons, hc, List.cons_append]⟩

theorem ne_of_encode_eq_cons {c : Char} {cs : List Char} {b : UInt8} {bs : Bytes}
    (h : encode (c :: cs) = b :: bs) (d : UInt8) (hd : d < 0x80) (hne : c ≠ Char.ofNat d.toNat) :
    b ≠ d := by
  rintro rfl
  obtain ⟨b', bs', hc⟩ := exists_encodeChar_eq_cons c
  rw [encode_cons, hc, List.cons_append] at h
  obtain rfl : b' = b := (List.cons.inj h).1
  rcases encodeChar_cases c with ⟨hlt, hone⟩ | hmany
  · have hvalue : b'.toNat = c.toNat := by
      rw [(List.cons.inj (hc.symm.trans hone)).1, UInt8.toNat_ofNat']
      omega
    exact hne (by rw [hvalue, Char.ofNat_toNat])
  · have hle := hmany b' (by rw [hc]; exact List.mem_cons_self)
    rw [UInt8.lt_iff_toNat_lt] at hd
    rw [UInt8.le_iff_toNat_le] at hle
    exact absurd hd (Nat.not_lt.mpr hle)

theorem mem_of_mem_ofString {b : UInt8} (hb : b < 0x80) {s : String} (h : b ∈ ofString s) :
    Char.ofNat b.toNat ∈ s.toList := by
  rw [ofString] at h
  generalize s.toList = cs at h ⊢
  induction cs with
  | nil => simp at h
  | cons c cs ih =>
    rw [encode_cons, List.mem_append] at h
    rcases h with hc | hcs
    · rcases encodeChar_cases c with ⟨hlt, hone⟩ | hmany
      · rw [hone, List.mem_singleton] at hc
        have hvalue : (UInt8.ofNat c.toNat).toNat = c.toNat := by
          rw [UInt8.toNat_ofNat']
          omega
        rw [hc, hvalue, Char.ofNat_toNat]
        exact List.mem_cons_self
      · have hle := hmany b hc
        rw [UInt8.lt_iff_toNat_lt] at hb
        rw [UInt8.le_iff_toNat_le] at hle
        exact absurd hb (Nat.not_lt.mpr hle)
    · exact List.mem_cons_of_mem c (ih hcs)

theorem ofString_injective : Function.Injective ofString := by
  intro s t h
  have hs := toString?_ofString s
  rw [h, toString?_ofString] at hs
  exact (Option.some.inj hs).symm

def IsText (bs : Bytes) : Prop := ∃ s, ofString s = bs

namespace IsText

variable {as bs : Bytes}

theorem nil : IsText [] := ⟨"", rfl⟩

theorem append (has : IsText as) (hbs : IsText bs) : IsText (as ++ bs) := by
  obtain ⟨s, rfl⟩ := has
  obtain ⟨t, rfl⟩ := hbs
  exact ⟨s ++ t, ofString_append s t⟩

theorem encode (cs : List Char) : IsText (encode cs) :=
  ⟨String.ofList cs, by rw [ofString, String.toList_ofList]⟩

theorem singleton {b : UInt8} (h : b < 0x80) : IsText [b] := by
  have hchar : ∀ n < 128, Utf8.encode [Char.ofNat n] = [UInt8.ofNat n] := by decide
  have hbyte := hchar b.toNat (UInt8.lt_iff_toNat_lt.mp h)
  rw [UInt8.ofNat_toNat] at hbyte
  exact hbyte ▸ encode [Char.ofNat b.toNat]

theorem cons {b : UInt8} (h : b < 0x80) (hbs : IsText bs) : IsText (b :: bs) :=
  (singleton h).append hbs

theorem of_ascii (h : ∀ b ∈ bs, b < 0x80) : IsText bs := by
  induction bs with
  | nil => exact nil
  | cons b bs ih =>
    exact cons (h b List.mem_cons_self) (ih fun c hc => h c (List.mem_cons_of_mem b hc))

end IsText

end Messaging.Utf8
