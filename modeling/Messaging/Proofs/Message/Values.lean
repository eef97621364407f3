import Messaging.Message.Reading
import Messaging.Proofs.Json.Settled

/-!
Values of members on their own. What the grammar calls a value settles what is read from it for a
member, before any delimiter.
-/
namespace Messaging.Json

/-- A value is a string, or begins with a byte that is neither a quote nor blank. -/
theorem IsValue.string_or {v : Bytes} (h : IsValue v) :
    (∃ contents, StringLiteral.IsContents contents ∧ v = 0x22 :: (contents ++ [0x22]))
      ∨ ∃ b tail, v = b :: tail ∧ isBlank b = false ∧ b ≠ 0x22 := by
  cases h with
  | scalar h =>
    cases h with
    | @string contents h => exact .inl ⟨contents, h, rfl⟩
    | unsigned h =>
      obtain ⟨d, more, rfl, hd⟩ := h.exists_cons
      exact .inr ⟨d, more, rfl, (skipScalar_digit hd []).1, Numeral.ne_of_isDigit hd (by decide)⟩
    | null => exact .inr ⟨_, _, rfl, by decide, by decide⟩
    | yes => exact .inr ⟨_, _, rfl, by decide, by decide⟩
    | no => exact .inr ⟨_, _, rfl, by decide, by decide⟩
    | negative => exact .inr ⟨_, _, rfl, by decide, by decide⟩
  | frame frame _ => exact .inr ⟨_, _, rfl, by cases frame <;> decide, by cases frame <;> decide⟩

theorem IsValue.eq_word {b : UInt8} {tail : Bytes} (h : IsValue (b :: tail)) :
    (b = 0x6E → tail = nullTail) ∧ (b = 0x74 → tail = trueTail) ∧ (b = 0x66 → tail = falseTail) := by
  generalize hv : b :: tail = v at h
  cases h with
  | scalar h =>
    cases h with
    | unsigned h =>
      obtain ⟨d, more, rfl, hd⟩ := h.exists_cons
      obtain ⟨rfl, -⟩ := List.cons.inj hv
      have hne : ∀ c : UInt8, Decimal.isDigit c = false → b ≠ c :=
        fun c => Numeral.ne_of_isDigit hd
      exact ⟨fun h => absurd h (hne _ (by decide)), fun h => absurd h (hne _ (by decide)),
        fun h => absurd h (hne _ (by decide))⟩
    | null | yes | no | negative | string =>
      obtain ⟨rfl, rfl⟩ := List.cons.inj hv
      simp
  | frame frame _ =>
    obtain ⟨rfl, -⟩ := List.cons.inj hv
    cases frame <;> simp [Frame.opening]

theorem IsValue.opened {tail : Bytes} (h : IsValue (0x7B :: tail)) :
    IsPart (.opened .object) tail := by
  generalize hv : 0x7B :: tail = v at h
  cases h with
  | scalar h =>
    obtain ⟨b, more, rfl, -, -, hobject, -⟩ := h.skip delimited_nil
    exact absurd (List.cons.inj hv).1.symm hobject
  | frame frame h =>
    cases frame with
    | list => exact absurd (List.cons.inj hv).1 (by decide)
    | object =>
      obtain ⟨-, rfl⟩ := List.cons.inj hv
      exact h

section Texts

variable {v : Bytes}

theorem settles_readText_string {contents : Bytes} (h : StringLiteral.IsContents contents)
    (wanted : String) : Settles Anywhere (readText wanted) (0x22 :: (contents ++ [0x22])) := by
  obtain ⟨x, hx⟩ := StringLiteral.settles_read h
  refine ⟨x, fun rest hrest => ?_⟩
  rw [List.cons_append, readText, skipBlanks_cons (by decide)]
  exact hx rest hrest

theorem settles_readText (h : IsValue v) (wanted : String) :
    Settles Delimited (readText wanted) v := by
  obtain ⟨fault, hfault⟩ := exists_notA h wanted
  rcases h.string_or with ⟨contents, hcontents, rfl⟩ | ⟨b, tail, rfl, hblank, hquote⟩
  · exact (settles_readText_string hcontents wanted).delimited
  · refine ⟨.error fault, fun rest hrest => ?_⟩
    rw [← hfault rest hrest, List.cons_append, readText, skipBlanks_cons hblank]
    split
    · rename_i heq
      exact absurd (List.cons.inj heq).1 hquote
    · rfl

theorem Settles.readSpelled {α : Type} {Before : Bytes → Prop} {wanted : String}
    (h : Settles Before (readText wanted) v) (spell : String → Except Misfit α) :
    Settles Before (readSpelled wanted spell) v := by
  obtain ⟨x, hx⟩ := h
  refine ⟨x >>= fun s => (spell s).mapError fun kind => .misfit kind [], fun rest hrest => ?_⟩
  rw [Json.readSpelled, unplaced_bind, hx rest hrest]
  cases x with
  | error fault => rfl
  | ok s => cases hspell : spell s <;> simp only [hspell, bind, Except.bind, Except.map] <;> rfl

theorem alone_readText (wanted : String) (tail : Bytes) :
    alone (readText wanted) (0x22 :: tail) = alone StringLiteral.read tail := by
  rw [alone, alone, readText, skipBlanks_cons (by decide)]
  rfl

theorem alone_readSpelled {α : Type} {wanted s : String} {spell : String → Except Misfit α} {x : α}
    (htext : alone (readText wanted) v = .ok s) (hspell : spell s = .ok x) :
    alone (readSpelled wanted spell) v = .ok x := by
  obtain ⟨rest, hread⟩ := alone_eq_ok_iff.mp htext
  refine alone_eq_ok_iff.mpr ⟨rest, ?_⟩
  rw [readSpelled, hread, ok_bind]
  simp only [hspell]
  rfl

end Texts

theorem settles_readFlag {v : Bytes} (h : IsValue v) : Settles Delimited readFlag v := by
  obtain ⟨fault, hfault⟩ := exists_notA h Member.hasRead.wanted
  obtain ⟨b, tail, rfl, hblank, -⟩ := h.exists_cons
  obtain ⟨-, hyes, hno⟩ := h.eq_word
  by_cases htrue : b = 0x74
  · obtain rfl := htrue
    obtain rfl := hyes rfl
    refine ⟨.ok true, fun rest _ => ?_⟩
    rw [List.cons_append, readFlag, skipBlanks_cons hblank]
    simp only [word_append]
    rfl
  by_cases hfalse : b = 0x66
  · obtain rfl := hfalse
    obtain rfl := hno rfl
    refine ⟨.ok false, fun rest _ => ?_⟩
    rw [List.cons_append, readFlag, skipBlanks_cons hblank]
    simp only [word_append]
    rfl
  · refine ⟨.error fault, fun rest hrest => ?_⟩
    rw [← hfault rest hrest, List.cons_append, readFlag, skipBlanks_cons hblank]
    split
    · rename_i heq
      exact absurd (List.cons.inj heq).1 htrue
    · rename_i heq
      exact absurd (List.cons.inj heq).1 hfalse
    · rfl

theorem exists_readUnit {v : Bytes} (h : IsValue v) :
    ∃ x : Except Fault Unit, ∀ w rest, IsBlanks w → Delimited rest →
      unplaced (readUnit (w ++ (v ++ rest))) = x.map fun _ => rest := by
  obtain ⟨fault, hfault⟩ := exists_notA h "unit"
  obtain ⟨b, tail, rfl, hblank, -⟩ := h.exists_cons
  by_cases hnull : b = 0x6E
  · obtain rfl := hnull
    obtain rfl := h.eq_word.1 rfl
    refine ⟨.ok (), fun w rest hw _ => ?_⟩
    rw [readUnit, skipBlanks_append hw, List.cons_append, skipBlanks_cons hblank]
    simp only [word_append]
    rfl
  · refine ⟨.error fault, fun w rest hw hrest => ?_⟩
    rw [← hfault rest hrest, readUnit, skipBlanks_append hw, List.cons_append,
      skipBlanks_cons hblank]
    split
    · rename_i heq
      exact absurd (List.cons.inj heq).1 hnull
    · rfl

/-- The long form of a message type is read up to the first byte after its one member, which must
be a brace. -/
theorem exists_readLongType {w name w'' w' v bs : Bytes} (hw : IsBlanks w)
    (hname : StringLiteral.IsContents name) (hw'' : IsBlanks w'') (hw' : IsBlanks w')
    (hv : IsValue v) (hbs : IsPart (.between .object) bs) :
    ∃ type : Except Fault MessageType, ∀ rest b tail, skipBlanks (bs ++ rest) = b :: tail →
      unplaced (readLongType
          ((w ++ (0x22 :: (name ++ 0x22 :: (w'' ++ [0x3A])) ++ (w' ++ (v ++ bs)))) ++ rest))
        = type >>= fun type =>
            if b = 0x7D then .ok (type, tail) else .error (.breach .expectedValue []) := by
  obtain ⟨type, htype⟩ := (settles_readText_string hname "").readSpelled MessageType.ofDocumentName
  obtain ⟨unit, hunit⟩ := exists_readUnit hv
  refine ⟨type >>= fun type => (under (.member type.name) unit).map fun _ => type,
    fun rest b tail hskip => ?_⟩
  have hbytes : (w ++ (0x22 :: (name ++ 0x22 :: (w'' ++ [0x3A])) ++ (w' ++ (v ++ bs)))) ++ rest
      = w ++ 0x22 :: (name ++ 0x22 :: (w'' ++ 0x3A :: (w' ++ (v ++ (bs ++ rest))))) := by
    simp
  have hspelled := htype (w'' ++ 0x3A :: (w' ++ (v ++ (bs ++ rest)))) trivial
  rw [List.cons_append, List.append_assoc, List.singleton_append] at hspelled
  rw [hbytes, readLongType, skipBlanks_append hw, skipBlanks_cons (by decide)]
  simp only [show (0x22 : UInt8) ≠ 0x7D by decide, if_false, ne_eq, not_true_eq_false,
    unplaced_bind, hspelled]
  cases type with
  | error fault => rfl
  | ok type =>
    have hnull := hunit w' (bs ++ rest) hw' (delimited_between hbs rest)
    simp only [Except.map, bind, Except.bind, colon_append hw'', unplaced_ok, unplaced_under, hnull]
    cases unit with
    | error fault => rfl
    | ok =>
      simp only [under, Except.mapError, hskip]
      by_cases hb : b = 0x7D <;> simp only [hb, if_true, if_false] <;> rfl

theorem settles_readLongType {bs : Bytes} (h : IsPart (.opened .object) bs) :
    Settles Anywhere readLongType bs := by
  cases h with
  | @empty _ w hw =>
    refine ⟨.error (.breach .expectedValue []), fun rest _ => ?_⟩
    rw [List.append_assoc, readLongType, skipBlanks_append hw, List.singleton_append,
      skipBlanks_cons (by decide)]
    rfl
  | @first _ w lead w' v bs hw hlead hw' hv hbs =>
    obtain ⟨name, w'', hname, hw'', rfl⟩ := hlead
    obtain ⟨type, htype⟩ := exists_readLongType hw hname hw'' hw' hv hbs
    cases hbs with
    | @last _ w₂ hw₂ =>
      refine ⟨type, fun rest _ => ?_⟩
      have hclose : skipBlanks ((w₂ ++ [0x7D]) ++ rest) = 0x7D :: rest := by
        rw [List.append_assoc, skipBlanks_append hw₂, List.singleton_append,
          skipBlanks_cons (by decide)]
      refine (htype rest 0x7D rest hclose).trans ?_
      cases type <;> rfl
    | @next _ w₂ w₃ lead w₄ v₂ bs hw₂ =>
      refine ⟨type >>= fun _ => .error (.breach .expectedValue []), fun rest _ => ?_⟩
      have hcomma : ∃ tail, skipBlanks ((w₂ ++ 0x2C :: (w₃ ++ (lead ++ (w₄ ++ (v₂ ++ bs))))) ++ rest)
          = 0x2C :: tail := by
        rw [List.append_assoc, skipBlanks_append hw₂, List.cons_append, skipBlanks_cons (by decide)]
        exact ⟨_, rfl⟩
      obtain ⟨tail, htail⟩ := hcomma
      rw [htype rest 0x2C tail htail]
      cases type <;> rfl

theorem settles_readType {v : Bytes} (h : IsValue v) : Settles Delimited readType v := by
  obtain ⟨x, hx⟩ := (settles_readText h "").readSpelled MessageType.ofDocumentName
  obtain ⟨b, tail, rfl, hblank, -⟩ := h.exists_cons
  by_cases hstring : b = 0x22
  · subst hstring
    refine ⟨x, fun rest hrest => ?_⟩
    rw [List.cons_append, readType, skipBlanks_cons hblank]
    exact hx rest hrest
  by_cases hobject : b = 0x7B
  · subst hobject
    obtain ⟨type, htype⟩ := settles_readLongType h.opened
    refine ⟨type, fun rest _ => ?_⟩
    rw [List.cons_append, readType, skipBlanks_cons hblank]
    exact htype rest trivial
  · refine ⟨.error (.breach .expectedValue []), fun rest _ => ?_⟩
    rw [List.cons_append, readType, skipBlanks_cons hblank]
    simp only [if_neg hstring, if_neg hobject]
    rfl

/-- Whichever member a value stands for, it settles what is read. -/
theorem settles_readMember (m : Member) {v : Bytes} (h : IsValue v) :
    Settles Delimited (readMember m) v := by
  cases m with
  | messageId | senderId | receiverId =>
    exact (settles_readText h _).readSpelled Uuid.ofDocumentText
  | body => exact settles_readText h _
  | createdAt => exact (settles_readText h _).readSpelled Timestamp.ofDocumentText
  | type => exact settles_readType h
  | hasRead => exact settles_readFlag h

theorem readMember_blanks (m : Member) {w : Bytes} (hw : IsBlanks w) (bs : Bytes) :
    readMember m (w ++ bs) = readMember m bs := by
  cases m <;>
    simp only [readMember, readSpelled, readText, readType, readFlag, skipBlanks_append hw]

end Messaging.Json
