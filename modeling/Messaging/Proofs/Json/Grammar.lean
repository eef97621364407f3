import Mathlib
import Messaging.Json.Skip

/-!
The grammar of JSON texts, and the reader that passes over a value. Whatever the grammar calls a
value is passed over to its last byte, however deep it is nested, and wherever it stands before a
delimiter.
-/
namespace Messaging.Json

def IsBlanks (w : Bytes) : Prop := ∀ b ∈ w, isBlank b = true

theorem skipBlanks_cons {b : UInt8} (h : isBlank b = false) (rest : Bytes) :
    skipBlanks (b :: rest) = b :: rest := by
  rw [skipBlanks, List.dropWhile_cons_of_neg (by simp [h])]

theorem skipBlanks_append {w : Bytes} (h : IsBlanks w) (bs : Bytes) :
    skipBlanks (w ++ bs) = skipBlanks bs := by
  rw [skipBlanks, List.dropWhile_append_of_pos h, skipBlanks]

theorem colon_append {w : Bytes} (h : IsBlanks w) (rest : Bytes) :
    colon (w ++ 0x3A :: rest) = .ok rest := by
  rw [colon, skipBlanks_append h, skipBlanks_cons (by decide)]
  rfl

/-- A byte that ends a number: a blank, a comma, or the end of a list or object. -/
def IsDelimiter (b : UInt8) : Prop := isBlank b = true ∨ b = 0x2C ∨ b = 0x5D ∨ b = 0x7D

/-- The bytes, if there are any, begin with a delimiter. -/
def Delimited (rest : Bytes) : Prop := ∀ b ∈ rest.head?, IsDelimiter b

theorem delimited_nil : Delimited [] := by simp [Delimited]

theorem delimited_cons {b : UInt8} (h : IsDelimiter b) (rest : Bytes) : Delimited (b :: rest) := by
  simpa [Delimited] using h

theorem delimited_blanks {w : Bytes} (h : IsBlanks w) {b : UInt8} (hb : IsDelimiter b)
    (rest : Bytes) : Delimited (w ++ b :: rest) := by
  cases w with
  | nil => exact delimited_cons hb rest
  | cons c w => exact delimited_cons (.inl (h c List.mem_cons_self)) _

namespace StringLiteral

/-- What may follow a backslash: a quote, a backslash, a slash, or one of `b`, `f`, `n`, `r`
and `t`. -/
def shortEscapes : Bytes := [0x22, 0x5C, 0x2F, 0x62, 0x66, 0x6E, 0x72, 0x74]

/-- What stands between the quotes of a string: bytes that are neither quotes nor backslashes nor
control characters, and escapes. -/
inductive IsContents : Bytes → Prop
  | nil : IsContents []
  | plain {b : UInt8} {bs : Bytes} : ¬ b < 0x20 → b ≠ 0x22 → b ≠ 0x5C → IsContents bs →
    IsContents (b :: bs)
  | short {c : UInt8} {bs : Bytes} : c ∈ shortEscapes → IsContents bs →
    IsContents (0x5C :: c :: bs)
  | unit {digits bs : Bytes} : digits.length = 4 → (∀ d ∈ digits, (Hex.value? d).isSome = true) →
    IsContents bs → IsContents (0x5C :: 0x75 :: (digits ++ bs))

theorem isSome_shortEscape? {c : UInt8} (h : c ∈ shortEscapes) :
    (shortEscape? c).isSome = true ∧ c ≠ 0x75 := by
  simp only [shortEscapes, List.mem_cons, List.not_mem_nil, or_false] at h
  rcases h with rfl | rfl | rfl | rfl | rfl | rfl | rfl | rfl <;> decide

theorem isSome_unitValue? {digits : Bytes} (h : ∀ d ∈ digits, (Hex.value? d).isSome = true) :
    (unitValue? digits).isSome = true := by
  have hfold : ∀ n : Nat, (digits.foldlM (fun n b => (Hex.value? b).map (n * 16 + ·)) n).isSome
      = true := by
    induction digits with
    | nil => simp
    | cons d digits ih =>
      rw [List.forall_mem_cons, Option.isSome_iff_exists] at h
      obtain ⟨⟨v, hv⟩, hrest⟩ := h
      intro n
      simpa [List.foldlM_cons, hv] using ih hrest (n * 16 + v)
  exact hfold 0

theorem exists_of_length {digits : Bytes} (h : digits.length = 4) :
    ∃ a b c d, digits = [a, b, c, d] := by
  match digits, h with
  | [a, b, c, d], _ => exact ⟨a, b, c, d, rfl⟩

theorem skip_contents {bs : Bytes} (h : IsContents bs) (rest : Bytes) :
    skip .plain (bs ++ 0x22 :: rest) = .ok rest := by
  induction h with
  | nil => simp [skip]
  | plain hcontrol hquote hbackslash _ ih =>
    rw [List.cons_append, skip, if_neg hquote, if_neg hbackslash, if_neg hcontrol, ih]
  | short hc _ ih =>
    obtain ⟨hshort, hunit⟩ := isSome_shortEscape? hc
    rw [List.cons_append, List.cons_append, skip, if_neg (by decide), if_pos rfl, skip,
      if_neg hunit, if_pos hshort, ih]
  | unit hlength hdigits _ ih =>
    obtain ⟨a, b, c, d, rfl⟩ := exists_of_length hlength
    have hvalue := isSome_unitValue? hdigits
    simpa [skip, hvalue] using ih

end StringLiteral

namespace Numeral

def IsDigits (ds : Bytes) : Prop := ds ≠ [] ∧ ∀ d ∈ ds, Decimal.isDigit d = true

def IsWhole (bs : Bytes) : Prop := bs = [0x30] ∨ (IsDigits bs ∧ bs.head? ≠ some 0x30)

def IsFraction (bs : Bytes) : Prop := bs = [] ∨ ∃ ds, IsDigits ds ∧ bs = 0x2E :: ds

def IsExponent (bs : Bytes) : Prop :=
  bs = [] ∨ ∃ mark sign ds, isExponentMark mark = true
    ∧ (sign = [] ∨ sign = [0x2B] ∨ sign = [0x2D]) ∧ IsDigits ds ∧ bs = mark :: (sign ++ ds)

def IsUnsigned (bs : Bytes) : Prop :=
  ∃ whole fraction exponent, IsWhole whole ∧ IsFraction fraction ∧ IsExponent exponent
    ∧ bs = whole ++ (fraction ++ exponent)

variable {rest : Bytes}

theorem not_of_delimiter {b : UInt8} (h : IsDelimiter b) :
    Decimal.isDigit b = false ∧ b ≠ 0x2E ∧ isExponentMark b = false := by
  simp only [IsDelimiter, isBlank, Bool.or_eq_true, decide_eq_true_eq] at h
  rcases h with (((rfl | rfl) | rfl) | rfl) | rfl | rfl | rfl <;> decide

theorem dropWhile_of_head? (h : ∀ b ∈ rest.head?, Decimal.isDigit b = false) :
    rest.dropWhile Decimal.isDigit = rest := by
  cases rest with
  | nil => rfl
  | cons b rest => rw [List.dropWhile_cons_of_neg (by simp [h b rfl])]

theorem dropWhile_of_delimited (h : Delimited rest) : rest.dropWhile Decimal.isDigit = rest :=
  dropWhile_of_head? fun b hb => (not_of_delimiter (h b hb)).1

theorem dropWhile_digits {ds : Bytes} (h : ∀ d ∈ ds, Decimal.isDigit d = true)
    (rest : Bytes) : (ds ++ rest).dropWhile Decimal.isDigit = rest.dropWhile Decimal.isDigit :=
  List.dropWhile_append_of_pos h

theorem ne_of_isDigit {d b : UInt8} (hd : Decimal.isDigit d = true)
    (hb : Decimal.isDigit b = false) : d ≠ b := by
  rintro rfl
  simp [hd] at hb

theorem IsDigits.exists_cons {ds : Bytes} (h : IsDigits ds) :
    ∃ d more, ds = d :: more ∧ Decimal.isDigit d = true ∧ ∀ c ∈ more, Decimal.isDigit c = true := by
  cases ds with
  | nil => exact absurd rfl h.1
  | cons d more =>
    have hall := List.forall_mem_cons.mp h.2
    exact ⟨d, more, rfl, hall⟩

theorem isDigit_of_isExponentMark {b : UInt8} (h : isExponentMark b = true) :
    Decimal.isDigit b = false := by
  simp only [isExponentMark, Bool.or_eq_true, decide_eq_true_eq] at h
  rcases h with rfl | rfl <;> decide

theorem skipExponent_digits {sign ds : Bytes}
    (hsign : sign = [] ∨ sign = [0x2B] ∨ sign = [0x2D]) (hds : IsDigits ds)
    (hrest : Delimited rest) : skipExponent (sign ++ (ds ++ rest)) = .ok rest := by
  obtain ⟨d, more, rfl, hd, hmore⟩ := hds.exists_cons
  have hunsigned : d ≠ 0x2B ∧ d ≠ 0x2D :=
    ⟨ne_of_isDigit hd (by decide), ne_of_isDigit hd (by decide)⟩
  have hdrop := dropWhile_digits hmore rest
  rw [dropWhile_of_delimited hrest] at hdrop
  rcases hsign with rfl | rfl | rfl <;> simp [skipExponent, hunsigned, hd, hdrop]

theorem skipFraction_digits {ds exponent : Bytes} (hds : IsDigits ds)
    (hexponent : IsExponent exponent) (hrest : Delimited rest) :
    skipFraction (ds ++ (exponent ++ rest)) = .ok rest := by
  obtain ⟨d, more, rfl, hd, hmore⟩ := hds.exists_cons
  have hhead : ((d :: more ++ (exponent ++ rest)).head?.any Decimal.isDigit) = true := by
    simpa using hd
  rw [skipFraction, if_pos hhead, dropWhile_digits hds.2]
  rcases hexponent with rfl | ⟨mark, sign, es, hmark, hsign, hes, rfl⟩
  · rw [List.nil_append, dropWhile_of_delimited hrest]
    cases rest with
    | nil => rfl
    | cons b rest => simp [not_of_delimiter (hrest b rfl)]
  · have hdigit := isDigit_of_isExponentMark hmark
    have hskip := skipExponent_digits hsign hes hrest
    simp [hdigit, hmark, hskip]

theorem skipAfterWhole_append {fraction exponent : Bytes} (hfraction : IsFraction fraction)
    (hexponent : IsExponent exponent) (hrest : Delimited rest) :
    skipAfterWhole (fraction ++ (exponent ++ rest)) = .ok rest := by
  rcases hfraction with rfl | ⟨ds, hds, rfl⟩
  · rcases hexponent with rfl | ⟨mark, sign, es, hmark, hsign, hes, rfl⟩
    · cases rest with
      | nil => rfl
      | cons b rest =>
        have hb := not_of_delimiter (hrest b rfl)
        simp [skipAfterWhole, hb]
    · have hpoint : mark ≠ 0x2E := by
        rintro rfl
        exact absurd hmark (by decide)
      have hskip := skipExponent_digits hsign hes hrest
      simp [skipAfterWhole, hpoint, hmark, hskip]
  · have hskip := skipFraction_digits hds hexponent hrest
    simp [skipAfterWhole, hskip]

theorem isDigit_head?_afterWhole {fraction exponent : Bytes} (hfraction : IsFraction fraction)
    (hexponent : IsExponent exponent) (hrest : Delimited rest) :
    ∀ b ∈ (fraction ++ (exponent ++ rest)).head?, Decimal.isDigit b = false := by
  rcases hfraction with rfl | ⟨ds, -, rfl⟩
  · rcases hexponent with rfl | ⟨mark, sign, es, hmark, -, -, rfl⟩
    · exact fun b hb => (not_of_delimiter (hrest b hb)).1
    · simpa using isDigit_of_isExponentMark hmark
  · simp only [List.cons_append, List.head?_cons, Option.mem_some_iff, forall_eq']
    decide

theorem skip_unsigned {bs : Bytes} (h : IsUnsigned bs) (hrest : Delimited rest) :
    skip (bs ++ rest) = .ok rest := by
  obtain ⟨whole, fraction, exponent, hwhole, hfraction, hexponent, rfl⟩ := h
  have hafter := skipAfterWhole_append hfraction hexponent hrest
  have hhead := isDigit_head?_afterWhole hfraction hexponent hrest
  rw [List.append_assoc, List.append_assoc]
  rcases hwhole with rfl | ⟨hds, hzero⟩
  · have hend : ((fraction ++ (exponent ++ rest)).head?.any Decimal.isDigit) = false := by
      cases hfirst : (fraction ++ (exponent ++ rest)).head? with
      | none => rfl
      | some b => exact hhead b hfirst
    rw [List.singleton_append, skip, if_pos rfl, hend, hafter]
    rfl
  · obtain ⟨d, more, rfl, hd, hmore⟩ := hds.exists_cons
    have hne : d ≠ 0x30 := by simpa using hzero
    rw [List.cons_append, skip, if_neg hne, if_pos hd, dropWhile_digits hmore,
      dropWhile_of_head? hhead, hafter]

end Numeral

/-- A value that is neither list nor object. -/
inductive IsScalar : Bytes → Prop
  | null : IsScalar (0x6E :: nullTail)
  | yes : IsScalar (0x74 :: trueTail)
  | no : IsScalar (0x66 :: falseTail)
  | unsigned {bs : Bytes} : Numeral.IsUnsigned bs → IsScalar bs
  | negative {bs : Bytes} : Numeral.IsUnsigned bs → IsScalar (0x2D :: bs)
  | string {contents : Bytes} : StringLiteral.IsContents contents →
    IsScalar (0x22 :: (contents ++ [0x22]))

theorem word_append (expected rest : Bytes) : word expected (expected ++ rest) = .ok rest := by
  induction expected with
  | nil => rw [List.nil_append, word]
  | cons b expected ih => rw [List.cons_append, word, if_pos rfl, ih]

theorem Numeral.IsUnsigned.exists_cons {bs : Bytes} (h : IsUnsigned bs) :
    ∃ d more, bs = d :: more ∧ Decimal.isDigit d = true := by
  obtain ⟨whole, fraction, exponent, hwhole, -, -, rfl⟩ := h
  rcases hwhole with rfl | ⟨hds, -⟩
  · exact ⟨0x30, _, rfl, by decide⟩
  · obtain ⟨d, more, rfl, hd, -⟩ := hds.exists_cons
    exact ⟨d, _, rfl, hd⟩

theorem skipScalar_digit {d : UInt8} (h : Decimal.isDigit d = true) (rest : Bytes) :
    isBlank d = false ∧ d ≠ 0x5B ∧ d ≠ 0x7B ∧ skipScalar d rest = Numeral.skip (d :: rest) := by
  have hne : ∀ b : UInt8, Decimal.isDigit b = false → d ≠ b := fun b => Numeral.ne_of_isDigit h
  refine ⟨?_, hne _ (by decide), hne _ (by decide), ?_⟩
  · simp [isBlank, hne 0x20 (by decide), hne 0x0A (by decide), hne 0x09 (by decide),
      hne 0x0D (by decide)]
  · rw [skipScalar, if_neg (hne _ (by decide)), if_neg (hne _ (by decide)),
      if_neg (hne _ (by decide)), if_neg (hne _ (by decide)), if_pos h]

theorem IsScalar.skip {v rest : Bytes} (h : IsScalar v) (hrest : Delimited rest) :
    ∃ b tail, v = b :: tail ∧ isBlank b = false ∧ b ≠ 0x5B ∧ b ≠ 0x7B
      ∧ skipScalar b (tail ++ rest) = .ok rest := by
  cases h with
  | null => exact ⟨0x6E, nullTail, rfl, by decide, by decide, by decide, word_append _ _⟩
  | yes => exact ⟨0x74, trueTail, rfl, by decide, by decide, by decide, word_append _ _⟩
  | no => exact ⟨0x66, falseTail, rfl, by decide, by decide, by decide, word_append _ _⟩
  | unsigned h =>
    have hskip := Numeral.skip_unsigned h hrest
    obtain ⟨d, more, rfl, hd⟩ := h.exists_cons
    obtain ⟨hblank, hlist, hobject, hscalar⟩ := skipScalar_digit hd (more ++ rest)
    exact ⟨d, more, rfl, hblank, hlist, hobject, hscalar.trans hskip⟩
  | negative h =>
    exact ⟨0x2D, _, rfl, by decide, by decide, by decide, Numeral.skip_unsigned h hrest⟩
  | @string contents h =>
    refine ⟨0x22, contents ++ [0x22], rfl, by decide, by decide, by decide, ?_⟩
    rw [List.append_assoc, List.singleton_append]
    exact StringLiteral.skip_contents h rest

def Frame.opening : Frame → UInt8
  | .list => 0x5B
  | .object => 0x7B

/-- What comes before a value in a frame: in an object a name and a colon, in a list nothing. -/
def Frame.IsLead : Frame → Bytes → Prop
  | .list, lead => lead = []
  | .object, lead => ∃ name w, StringLiteral.IsContents name ∧ IsBlanks w
    ∧ lead = 0x22 :: (name ++ 0x22 :: (w ++ [0x3A]))

inductive Part
  /-- A value. -/
  | value
  /-- What follows the opening of a frame, up to its close. -/
  | opened (frame : Frame)
  /-- What follows a value in a frame, up to the close of the frame. -/
  | between (frame : Frame)

inductive IsPart : Part → Bytes → Prop
  | scalar {v : Bytes} : IsScalar v → IsPart .value v
  | frame (frame : Frame) {bs : Bytes} : IsPart (.opened frame) bs →
    IsPart .value (frame.opening :: bs)
  | empty (frame : Frame) {w : Bytes} : IsBlanks w → IsPart (.opened frame) (w ++ [frame.close])
  | first (frame : Frame) {w lead w' v bs : Bytes} : IsBlanks w → frame.IsLead lead →
    IsBlanks w' → IsPart .value v → IsPart (.between frame) bs →
    IsPart (.opened frame) (w ++ (lead ++ (w' ++ (v ++ bs))))
  | last (frame : Frame) {w : Bytes} : IsBlanks w → IsPart (.between frame) (w ++ [frame.close])
  | next (frame : Frame) {w w' lead w'' v bs : Bytes} : IsBlanks w → IsBlanks w' →
    frame.IsLead lead → IsBlanks w'' → IsPart .value v → IsPart (.between frame) bs →
    IsPart (.between frame) (w ++ 0x2C :: (w' ++ (lead ++ (w'' ++ (v ++ bs)))))

/-- The bytes are the text of a value, with no blanks around it. -/
abbrev IsValue (bs : Bytes) : Prop := IsPart .value bs

/-- Where a reader stands before a part. -/
def Part.place : Part → SkipPlace
  | .value => .value
  | .opened _ => .opened
  | .between _ => .between

/-- The frame that a part closes. -/
def Part.frames : Part → List Frame
  | .value => []
  | .opened frame | .between frame => [frame]

theorem Frame.isDelimiter_close (frame : Frame) : IsDelimiter frame.close := by
  cases frame <;> simp [IsDelimiter, Frame.close]

theorem Frame.isBlank_close (frame : Frame) : isBlank frame.close = false := by
  cases frame <;> decide

theorem delimited_between {frame : Frame} {bs : Bytes} (h : IsPart (.between frame) bs)
    (rest : Bytes) : Delimited (bs ++ rest) := by
  cases h with
  | last _ hw =>
    rw [List.append_assoc, List.singleton_append]
    exact delimited_blanks hw frame.isDelimiter_close rest
  | next _ hw =>
    rw [List.append_assoc, List.cons_append]
    exact delimited_blanks hw (.inr (.inl rfl)) _

/-- A value begins neither with a blank nor with a comma nor with the close of a frame. -/
theorem IsValue.exists_cons {v : Bytes} (h : IsValue v) :
    ∃ b tail, v = b :: tail ∧ isBlank b = false ∧ b ≠ 0x2C ∧ ∀ frame : Frame, b ≠ frame.close := by
  cases h with
  | scalar h =>
    obtain ⟨b, tail, rfl, hblank, -, -, hskip⟩ := h.skip delimited_nil
    refine ⟨b, tail, rfl, hblank, ?_, ?_⟩
    · rintro rfl
      simp [skipScalar, Decimal.isDigit] at hskip
    · rintro frame rfl
      cases frame <;> simp [skipScalar, Frame.close, Decimal.isDigit] at hskip
  | frame frame _ =>
    refine ⟨frame.opening, _, rfl, ?_, ?_, fun closed => ?_⟩
    · cases frame <;> decide
    · cases frame <;> decide
    · cases frame <;> cases closed <;> decide

theorem skipKey_lead {lead : Bytes} (h : Frame.object.IsLead lead) {w : Bytes} (hw : IsBlanks w)
    (rest : Bytes) : skipKey (w ++ (lead ++ rest)) = .ok rest := by
  obtain ⟨name, w', hname, hw', rfl⟩ := h
  have hskip := StringLiteral.skip_contents hname (w' ++ 0x3A :: rest)
  simp only [skipKey, skipBlanks_append hw, List.cons_append, List.append_assoc, List.nil_append]
  rw [skipBlanks_cons (by decide)]
  simp only [if_true, hskip, bind, Except.bind, colon_append hw']

theorem skipLead_append {frame : Frame} {lead w w' : Bytes} (h : frame.IsLead lead)
    (hw : IsBlanks w) (hw' : IsBlanks w') (rest : Bytes) :
    ∃ left, IsBlanks left
      ∧ frame.skipLead (w ++ (lead ++ (w' ++ rest))) = .ok (left ++ rest) := by
  cases frame with
  | list =>
    obtain rfl := h
    refine ⟨w ++ w', List.forall_mem_append.mpr ⟨hw, hw'⟩, ?_⟩
    rw [Frame.skipLead, List.nil_append, List.append_assoc]
  | object => exact ⟨w', hw', skipKey_lead h hw _⟩

theorem skipBlanks_lead {frame : Frame} {lead w w' v : Bytes} (h : frame.IsLead lead)
    (hw : IsBlanks w) (hw' : IsBlanks w') (hv : IsValue v) (rest : Bytes) :
    ∃ b tail, skipBlanks (w ++ (lead ++ (w' ++ (v ++ rest)))) = b :: tail ∧ b ≠ frame.close
      ∧ ∃ left, IsBlanks left ∧ frame.skipLead (b :: tail) = .ok (left ++ (v ++ rest)) := by
  have hnone : IsBlanks [] := by simp [IsBlanks]
  cases frame with
  | list =>
    obtain rfl := h
    obtain ⟨b, tail, rfl, hb, -, hclose⟩ := hv.exists_cons
    refine ⟨b, tail ++ rest, ?_, hclose .list, [], hnone, rfl⟩
    rw [List.nil_append, skipBlanks_append hw, skipBlanks_append hw', List.cons_append,
      skipBlanks_cons hb]
  | object =>
    have hskip := skipKey_lead h hnone (w' ++ (v ++ rest))
    obtain ⟨name, w'', -, -, rfl⟩ := h
    rw [List.nil_append, List.cons_append] at hskip
    refine ⟨0x22, _, ?_, by decide, w', hw', hskip⟩
    rw [skipBlanks_append hw, List.cons_append, skipBlanks_cons (by decide)]

theorem skipFrom_blanks {w : Bytes} (hw : IsBlanks w) (steps : Nat) (frames : List Frame)
    (bs : Bytes) :
    skipFrom steps .value frames (w ++ bs) = skipFrom steps .value frames bs := by
  cases steps with
  | zero => simp only [skipFrom]
  | succ steps => simp only [skipFrom, skipBlanks_append hw]

section Steps

variable {steps : Nat} {frame : Frame} {frames : List Frame} {w rest : Bytes}

theorem skipFrom_scalar {v : Bytes} (h : IsScalar v) (hrest : Delimited rest) :
    skipFrom (steps + 1) .value frames (v ++ rest) = skipFrom steps .between frames rest := by
  obtain ⟨b, tail, rfl, hblank, hlist, hobject, hscalar⟩ := h.skip hrest
  simp only [skipFrom, List.cons_append, skipBlanks_cons hblank, if_neg hlist, if_neg hobject,
    hscalar]

theorem skipFrom_frame :
    skipFrom (steps + 1) .value frames (frame.opening :: rest)
      = skipFrom steps .opened (frame :: frames) rest := by
  cases frame <;> simp only [skipFrom, Frame.opening] <;> rw [skipBlanks_cons (by decide)] <;> rfl

theorem skipFrom_empty (hw : IsBlanks w) :
    skipFrom (steps + 1) .opened (frame :: frames) (w ++ frame.close :: rest)
      = skipFrom steps .between frames rest := by
  simp only [skipFrom, skipBlanks_append hw, skipBlanks_cons frame.isBlank_close, if_true]

theorem skipFrom_last (hw : IsBlanks w) :
    skipFrom (steps + 1) .between (frame :: frames) (w ++ frame.close :: rest)
      = skipFrom steps .between frames rest := by
  simp only [skipFrom, skipBlanks_append hw, skipBlanks_cons frame.isBlank_close, if_true]

theorem skipFrom_first {lead w' v : Bytes} (hw : IsBlanks w) (hlead : frame.IsLead lead)
    (hw' : IsBlanks w') (hv : IsValue v) :
    skipFrom (steps + 1) .opened (frame :: frames) (w ++ (lead ++ (w' ++ (v ++ rest))))
      = skipFrom steps .value (frame :: frames) (v ++ rest) := by
  obtain ⟨b, tail, hblanks, hclose, left, hleft, hskip⟩ := skipBlanks_lead hlead hw hw' hv rest
  simp only [skipFrom, hblanks, if_neg hclose, hskip, skipFrom_blanks hleft]

theorem skipFrom_next {lead w' w'' : Bytes} (hw : IsBlanks w) (hw' : IsBlanks w')
    (hlead : frame.IsLead lead) (hw'' : IsBlanks w'') :
    skipFrom (steps + 1) .between (frame :: frames) (w ++ 0x2C :: (w' ++ (lead ++ (w'' ++ rest))))
      = skipFrom steps .value (frame :: frames) rest := by
  obtain ⟨left, hleft, hskip⟩ := skipLead_append hlead hw' hw'' rest
  have hclose : 0x2C ≠ frame.close := by cases frame <;> decide
  simp only [skipFrom, skipBlanks_append hw, skipBlanks_cons (show isBlank 0x2C = false by decide),
    if_neg hclose, if_true, hskip, skipFrom_blanks hleft]

end Steps

/-- In so many steps the part is passed over, wherever it stands. -/
def PassedIn (cost : Nat) (part : Part) (bs : Bytes) : Prop :=
  ∀ steps frames rest, Delimited rest →
    skipFrom (steps + cost) part.place (part.frames ++ frames) (bs ++ rest)
      = skipFrom steps .between frames rest

theorem PassedIn.append {costV costBs : Nat} {frame : Frame} {v bs rest : Bytes} {steps : Nat}
    {frames : List Frame} (hv : PassedIn costV .value v)
    (hbs : PassedIn costBs (.between frame) bs) (hbetween : Delimited (bs ++ rest))
    (hrest : Delimited rest) :
    skipFrom (steps + (costBs + costV)) .value (frame :: frames) (v ++ (bs ++ rest))
      = skipFrom steps .between frames rest := by
  rw [← Nat.add_assoc]
  exact (hv _ _ _ hbetween).trans (hbs steps frames rest hrest)

/-- The steps that a part leaves to the byte before it. -/
def Part.slack : Part → Nat
  | .value | .opened _ => 0
  | .between _ => 1

/-- Each part is passed over in two steps for each of its bytes. -/
theorem exists_passedIn {part : Part} {bs : Bytes} (h : IsPart part bs) :
    ∃ cost, PassedIn cost part bs ∧ cost + part.slack ≤ 2 * bs.length := by
  -- the steps are counted along the grammar, and are at most two for each byte
  induction h with
  | scalar h =>
    obtain ⟨b, tail, rfl, -⟩ := h.skip delimited_nil
    refine ⟨1, fun steps frames rest hrest => skipFrom_scalar h hrest, ?_⟩
    simp only [Part.slack, List.length_cons]
    omega
  | @frame frame bs h ih =>
    obtain ⟨cost, hpassed, hcost⟩ := ih
    refine ⟨cost + 1, fun steps frames rest hrest => ?_, ?_⟩
    · exact skipFrom_frame.trans (hpassed steps frames rest hrest)
    · simp only [Part.slack, List.length_cons] at hcost ⊢
      omega
  | @empty frame w hw =>
    refine ⟨1, fun steps frames rest hrest => ?_, ?_⟩
    · rw [List.append_assoc]
      exact skipFrom_empty hw
    · simp only [Part.slack, List.length_append, List.length_singleton]
      omega
  | @first frame w lead w' v bs hw hlead hw' hv hbs ihv ihbs =>
    obtain ⟨costV, hpassedV, hcostV⟩ := ihv
    obtain ⟨costBs, hpassedBs, hcostBs⟩ := ihbs
    refine ⟨costBs + costV + 1, fun steps frames rest hrest => ?_, ?_⟩
    · simp only [List.append_assoc]
      exact (skipFrom_first hw hlead hw' hv).trans
        (hpassedV.append hpassedBs (delimited_between hbs rest) hrest)
    · simp only [Part.slack, List.length_append] at hcostV hcostBs ⊢
      omega
  | @last frame w hw =>
    refine ⟨1, fun steps frames rest hrest => ?_, ?_⟩
    · rw [List.append_assoc]
      exact skipFrom_last hw
    · simp only [Part.slack, List.length_append, List.length_singleton]
      omega
  | @next frame w w' lead w'' v bs hw hw' hlead hw'' hv hbs ihv ihbs =>
    obtain ⟨costV, hpassedV, hcostV⟩ := ihv
    obtain ⟨costBs, hpassedBs, hcostBs⟩ := ihbs
    refine ⟨costBs + costV + 1, fun steps frames rest hrest => ?_, ?_⟩
    · simp only [List.append_assoc, List.cons_append]
      exact (skipFrom_next hw hw' hlead hw'').trans
        (hpassedV.append hpassedBs (delimited_between hbs rest) hrest)
    · simp only [Part.slack, List.length_append, List.length_cons] at hcostV hcostBs ⊢
      omega

theorem skipValue_of_isValue {w v rest : Bytes} (hw : IsBlanks w) (hv : IsValue v)
    (hrest : Delimited rest) {room : Nat} (hroom : v.length ≤ room) :
    skipValue room (w ++ (v ++ rest)) = .ok rest := by
  obtain ⟨cost, hpassed, hcost⟩ := exists_passedIn hv
  obtain ⟨steps, hsteps⟩ : ∃ steps, 2 * room + 2 = steps + 1 + cost :=
    ⟨2 * room + 1 - cost, by simp only [Part.slack] at hcost; omega⟩
  rw [skipValue, skipFrom_blanks hw, hsteps]
  exact (hpassed (steps + 1) [] rest hrest).trans (skipFrom_between_nil steps rest)

end Messaging.Json
