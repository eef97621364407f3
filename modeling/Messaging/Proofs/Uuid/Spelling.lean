import Messaging.Proofs.Uuid.Text

/-!
The ways to write an identifier. It may stand as five groups, alone, in braces or after `urn:uuid:`,
or as its digits alone, in either case; just these are read as it. Of all of them its text is the
one in lower case that is wrapped in nothing and has hyphens.
-/
namespace Messaging.Uuid

/-- What stands before the five groups of an identifier that is written as a name. -/
def namespaceChars : List Char := ['u', 'r', 'n', ':', 'u', 'u', 'i', 'd', ':']

def lowerForms (u : Uuid) : List (List Char) :=
  [u.chars, u.digits, '\x7b' :: (u.chars ++ ['\x7d']), namespaceChars ++ u.chars]

/-- The text writes the identifier, in one of its forms and in either case. -/
def Spells (s : String) (u : Uuid) : Prop := s.toList.map Char.toLower ∈ u.lowerForms

instance (s : String) (u : Uuid) : Decidable (Spells s u) :=
  inferInstanceAs (Decidable (_ ∈ _))

theorem toLower_eq_mark_iff {c mark : Char} (h : mark = '-' ∨ mark = '\x7b' ∨ mark = '\x7d') :
    c.toLower = mark ↔ c = mark := by
  have hmark : mark.toNat < 0x80 ∧ mark.toLower = mark := by
    rcases h with rfl | rfl | rfl <;> decide
  constructor
  · intro hc
    have hlt : c.toNat < 0x80 := Hex.toNat_lt_of_toLower (hc ▸ hmark.1)
    revert hc
    rcases h with rfl | rfl | rfl
    · exact Hex.of_ascii (P := fun c => c.toLower = '-' → c = '-') (by decide +kernel) hlt
    · exact Hex.of_ascii (P := fun c => c.toLower = '\x7b' → c = '\x7b') (by decide +kernel) hlt
    · exact Hex.of_ascii (P := fun c => c.toLower = '\x7d' → c = '\x7d') (by decide +kernel) hlt
  · rintro rfl
    exact hmark.2

theorem toLower_eq_hyphen_iff {c : Char} : c.toLower = '-' ↔ c = '-' :=
  toLower_eq_mark_iff (.inl rfl)

theorem groups_of_notMem {g : List Char} (h : '-' ∉ g) (rest : List Char) :
    groups (g ++ '-' :: rest) = g :: groups rest := by
  induction g with
  | nil => simp [groups]
  | cons c g ih =>
    rw [List.mem_cons, not_or] at h
    rw [List.cons_append, groups, if_neg (Ne.symm h.1), ih h.2]

theorem groups_last {g : List Char} (h : '-' ∉ g) : groups g = [g] := by
  induction g with
  | nil => rfl
  | cons c g ih =>
    rw [List.mem_cons, not_or] at h
    rw [groups, if_neg (Ne.symm h.1), ih h.2]

theorem groups_intercalate {gs : List (List Char)} (hne : gs ≠ []) (h : ∀ g ∈ gs, '-' ∉ g) :
    groups (['-'].intercalate gs) = gs := by
  induction gs with
  | nil => exact absurd rfl hne
  | cons g gs ih =>
    have hg := h g List.mem_cons_self
    cases gs with
    | nil => simpa [List.intercalate] using groups_last hg
    | cons next gs =>
      have hrest := ih (by simp) fun g hg => h g (List.mem_cons_of_mem _ hg)
      have hjoin : ['-'].intercalate (g :: next :: gs)
          = g ++ '-' :: ['-'].intercalate (next :: gs) := by
        simp [List.intercalate]
      rw [hjoin, groups_of_notMem hg, hrest]

theorem groups_ne_nil (cs : List Char) : groups cs ≠ [] := by
  fun_cases groups cs <;> simp_all

theorem intercalate_groups (cs : List Char) : ['-'].intercalate (groups cs) = cs := by
  fun_induction groups cs with
  | case1 => rfl
  | case2 cs ih =>
    cases hgroups : groups cs with
    | nil => exact absurd hgroups (groups_ne_nil cs)
    | cons g gs =>
      rw [hgroups] at ih
      rw [List.intercalate_cons_cons, ih]
      rfl
  | case3 c cs hc hgroups ih => exact absurd hgroups (groups_ne_nil cs)
  | case4 c cs hc g gs hgroups ih =>
    rw [hgroups] at ih
    cases gs <;> simp_all [List.intercalate]

theorem groups_map_toLower (cs : List Char) :
    groups (cs.map Char.toLower) = (groups cs).map (List.map Char.toLower) := by
  induction cs with
  | nil => rfl
  | cons c cs ih =>
    rw [List.map_cons, groups, groups, ih]
    by_cases hc : c = '-'
    · simp [hc]
    · rw [if_neg (mt toLower_eq_hyphen_iff.mp hc), if_neg hc]
      cases groups cs <;> rfl

theorem length_textGroups (u : Uuid) : u.textGroups.map List.length = groupLengths := by
  simp [textGroups, groupLengths]

/-- Characters are the text of an identifier, in either case, exactly if the hyphens among them
make groups of the right lengths, of its digits. -/
theorem map_toLower_eq_chars_iff {cs : List Char} {u : Uuid} :
    cs.map Char.toLower = u.chars
      ↔ (groups cs).map List.length = groupLengths
        ∧ (groups cs).flatten.map Char.toLower = u.digits := by
  have hgroups : cs.map Char.toLower = u.chars
      ↔ (groups cs).map (List.map Char.toLower) = u.textGroups := by
    rw [← groups_map_toLower]
    constructor
    · intro h
      rw [h, chars_eq]
      exact groups_intercalate (by simp [textGroups]) fun g => hyphen_notMem_of_mem_textGroups
    · intro h
      rw [chars_eq, ← h, intercalate_groups]
  rw [hgroups, List.eq_iff_flatten_eq, flatten_textGroups, length_textGroups, List.map_flatten,
    List.map_map, and_comm]
  have hlengths : (List.length ∘ List.map Char.toLower : List Char → Nat) = List.length := by
    funext g
    simp
  rw [hlengths]

theorem firstMisfit?_eq_none_iff {total : Nat} {group : Nat} {expected : List Nat}
    {gs : List (List Char)} (h : gs.length = expected.length) :
    firstMisfit? total group expected gs = none ↔ gs.map List.length = expected := by
  induction expected generalizing group gs with
  | nil =>
    rw [List.length_nil, List.length_eq_zero_iff] at h
    simp [h, firstMisfit?]
  | cons n ns ih =>
    cases gs with
    | nil => simp at h
    | cons g gs =>
      rw [List.length_cons, List.length_cons, Nat.add_right_cancel_iff] at h
      by_cases hg : g.length = n
      · simp [firstMisfit?, hg, ih h]
      · simp [firstMisfit?, hg]

theorem firstStranger?_eq_none_iff {cs : List Char} {index : Nat} :
    firstStranger? index cs = none ↔ ∀ c ∈ cs, c = '-' ∨ (Hex.valueOfChar? c).isSome = true := by
  induction cs generalizing index with
  | nil => simp [firstStranger?]
  | cons c cs ih =>
    by_cases hc : c = '-' ∨ (Hex.valueOfChar? c).isSome = true
    · rw [firstStranger?, if_pos hc, ih, List.forall_mem_cons]
      exact ⟨fun h => ⟨hc, h⟩, And.right⟩
    · rw [firstStranger?, if_neg hc, List.forall_mem_cons]
      exact iff_of_false (by simp) fun h => hc h.1

theorem firstStranger?_of_toLower {cs : List Char}
    (h : ∀ c ∈ cs.map Char.toLower, c = '-' ∨ ∃ n < 16, c = Hex.digit n) (index : Nat) :
    firstStranger? index cs = none := by
  rw [firstStranger?_eq_none_iff]
  intro c hc
  refine (h c.toLower (List.mem_map_of_mem hc)).imp toLower_eq_hyphen_iff.mp ?_
  rintro ⟨n, hn, hdigit⟩
  rw [Hex.valueOfChar?_eq_some_iff.mpr ⟨hn, hdigit⟩, Option.isSome_some]

theorem ofDigits_eq_ok_iff {total : Nat} {ds : List Char} {u : Uuid} :
    ofDigits total ds = .ok u ↔ ds.map Char.toLower = u.digits := by
  have hbytes : ∀ bs, ofBytes? bs = some u ↔ bs = u.bytes := by
    intro bs
    constructor
    · intro h
      rw [ofBytes?] at h
      split_ifs at h
      rw [← Option.some.inj h]
    · rintro rfl
      exact ofBytes?_bytes u
  rw [digits, ← Hex.toBytes?_eq_some_iff, ofDigits]
  cases hds : Hex.toBytes? ds with
  | none => simp
  | some bs =>
    cases hu : ofBytes? bs with
    | none => simp only [Option.bind_some, hu, Option.some.injEq, reduceCtorEq, ← hbytes]
    | some v => simp [hu, ← hbytes]

theorem unwrap?_braces (inner : List Char) :
    unwrap? ('\x7b' :: (inner ++ ['\x7d'])) = some (inner, 1) := by
  have hlast : ('\x7b' :: (inner ++ ['\x7d'])).getLast? = some '\x7d' := by
    rw [← List.cons_append, List.getLast?_concat]
  rw [unwrap?, if_pos ⟨rfl, by simp, hlast⟩, List.drop_one, List.tail_cons, List.dropLast_concat]

theorem unwrap?_namespace {lead : List Char} (h : lead.map Char.toLower = namespaceChars)
    (inner : List Char) : unwrap? (lead ++ inner) = some (inner, 9) := by
  have hlength : lead.length = 9 := by
    have := congrArg List.length h
    simpa [namespaceChars] using this
  have hhead : (lead ++ inner).head? ≠ some '\x7b' := by
    cases lead with
    | nil => simp at hlength
    | cons c lead =>
      rw [List.map_cons, namespaceChars, List.cons.injEq] at h
      rw [List.cons_append, List.head?_cons, Ne, Option.some.injEq]
      rintro rfl
      exact absurd h.1 (by decide)
  rw [unwrap?, if_neg fun hbrace => hhead hbrace.1]
  have htake : (lead ++ inner).take 9 = lead := List.take_left' hlength
  have hdrop : (lead ++ inner).drop 9 = inner := List.drop_left' hlength
  change (if ((lead ++ inner).take 9).map Char.toLower = namespaceChars
    then some ((lead ++ inner).drop 9, 9) else none) = _
  rw [htake, hdrop, if_pos h]

theorem unwrap?_of_digit {cs rest : List Char} {n : Nat} (hn : n < 16)
    (h : cs.map Char.toLower = Hex.digit n :: rest) : unwrap? cs = none := by
  obtain ⟨c, cs, rfl, hc, -⟩ := List.map_eq_cons_iff.mp h
  have hbrace : c ≠ '\x7b' := by
    rintro rfl
    revert hc
    interval_cases n <;> decide
  have hname : c.toLower ≠ 'u' := by
    rw [hc]
    interval_cases n <;> decide
  simp [unwrap?, hbrace, hname]

theorem of_unwrap?_eq_some {cs inner : List Char} {index : Nat}
    (h : unwrap? cs = some (inner, index)) :
    cs = '\x7b' :: (inner ++ ['\x7d'])
      ∨ ∃ lead, cs = lead ++ inner ∧ lead.map Char.toLower = namespaceChars := by
  rw [unwrap?] at h
  split_ifs at h with hbraces hname
  · left
    obtain ⟨hhead, -, hlast⟩ := hbraces
    obtain ⟨rfl, -⟩ := Prod.mk.injEq .. ▸ Option.some.inj h
    cases cs with
    | nil => simp at hhead
    | cons c cs =>
      rw [List.head?_cons, Option.some.injEq] at hhead
      subst hhead
      rw [List.drop_one, List.tail_cons]
      cases cs with
      | nil => simp at hlast
      | cons d cs =>
        rw [List.getLast?_cons_cons] at hlast
        rw [List.dropLast_append_getLast? _ hlast]
  · right
    obtain ⟨rfl, -⟩ := Prod.mk.injEq .. ▸ Option.some.inj h
    exact ⟨_, (List.take_append_drop _ cs).symm, hname⟩

section Reading

variable {s : String} {u : Uuid}

theorem length_le_of_read (h : read s = .ok u) : ¬ (s.utf8ByteSize = 0 ∨ 45 < s.utf8ByteSize) := by
  intro hlength
  rw [read, if_pos hlength] at h
  simp at h

theorem groups_of_digits {cs : List Char} (h : cs.map Char.toLower = u.digits) :
    groups cs = [cs] := by
  refine groups_last fun hmem => ?_
  have hhyphen : '-' ∈ u.digits := h ▸ List.mem_map_of_mem (f := Char.toLower) hmem
  obtain ⟨n, hn, hdigit⟩ := exists_of_mem_digits hhyphen
  exact digit_ne_hyphen hn hdigit.symm

theorem length_groups_of_chars {cs : List Char} (h : cs.map Char.toLower = u.chars) :
    (groups cs).length = 5 := by
  have hlengths := congrArg List.length (map_toLower_eq_chars_iff.mp h).1
  simpa [groupLengths] using hlengths

/-- What is left of a text without its wrapping is read if it is the five groups, and else only if
it is the digits and had no wrapping. -/
theorem read_eq_ok_iff_inner (hlength : ¬ (s.utf8ByteSize = 0 ∨ 45 < s.utf8ByteSize))
    {inner : List Char × Nat} (hinner : (unwrap? s.toList).getD (s.toList, 0) = inner) :
    read s = .ok u
      ↔ inner.1.map Char.toLower = u.chars
        ∨ (inner.1.map Char.toLower = u.digits
          ∧ (unwrap? s.toList).isNone = true ∧ s.utf8ByteSize ≠ 36) := by
  simp only [read, if_neg hlength, hinner]
  cases hstranger : firstStranger? inner.2 inner.1 with
  | some e =>
    refine iff_of_false (by simp) ?_
    rintro (hchars | ⟨hdigits, -⟩)
    · rw [firstStranger?_of_toLower (hchars ▸ fun c => mem_chars)] at hstranger
      simp at hstranger
    · rw [firstStranger?_of_toLower (hdigits ▸ fun c hc => .inr (exists_of_mem_digits hc))]
        at hstranger
      simp at hstranger
  | none =>
    by_cases hplain : (groups inner.1).length = 1 ∧ (unwrap? s.toList).isNone = true
        ∧ s.utf8ByteSize ≠ 36
    · have hchars : inner.1.map Char.toLower ≠ u.chars := by
        intro h
        rw [length_groups_of_chars h] at hplain
        exact absurd hplain.1 (by decide)
      simp [hplain, hchars, ofDigits_eq_ok_iff]
    · have hdigits : ¬ (inner.1.map Char.toLower = u.digits
          ∧ (unwrap? s.toList).isNone = true ∧ s.utf8ByteSize ≠ 36) := by
        rintro ⟨h, hrest⟩
        exact hplain ⟨by rw [groups_of_digits h, List.length_singleton], hrest⟩
      simp only [if_neg hplain, hdigits, or_false]
      by_cases hfive : (groups inner.1).length = 5
      · rw [if_neg (by simpa using hfive), map_toLower_eq_chars_iff]
        cases hmisfit : firstMisfit? s.utf8ByteSize 0 groupLengths (groups inner.1) with
        | none => simp [ofDigits_eq_ok_iff, (firstMisfit?_eq_none_iff hfive).mp hmisfit]
        | some e =>
          refine iff_of_false (by simp) fun h => ?_
          rw [(firstMisfit?_eq_none_iff hfive).mpr h.1] at hmisfit
          simp at hmisfit
      · rw [if_pos hfive]
        exact iff_of_false (by simp) fun h => hfive (length_groups_of_chars h)

def alphabet : List Char :=
  (List.range 16).map Hex.digit ++ ['-', '\x7b', '\x7d'] ++ namespaceChars

theorem mem_alphabet_of_mem_lowerForms {form : List Char} (hform : form ∈ u.lowerForms) {c : Char}
    (hc : c ∈ form) : c ∈ alphabet := by
  have hdigit : ∀ d ∈ u.digits, d ∈ alphabet := by
    intro d hd
    obtain ⟨n, hn, rfl⟩ := exists_of_mem_digits hd
    simp only [alphabet, List.mem_append, List.mem_map, List.mem_range]
    exact .inl (.inl ⟨n, hn, rfl⟩)
  have hmark : ∀ mark ∈ ['-', '\x7b', '\x7d'], mark ∈ alphabet := fun mark hmem =>
    List.mem_append_left _ (List.mem_append_right _ hmem)
  have hchar : ∀ d ∈ u.chars, d ∈ alphabet := by
    intro d hd
    rcases mem_chars hd with rfl | ⟨n, hn, rfl⟩
    · exact hmark '-' (by simp)
    · exact List.mem_append_left _ (List.mem_append_left _
        (List.mem_map_of_mem (List.mem_range.mpr hn)))
  simp only [lowerForms, List.mem_cons, List.not_mem_nil, or_false] at hform
  rcases hform with rfl | rfl | rfl | rfl
  · exact hchar c hc
  · exact hdigit c hc
  · rw [List.mem_cons, List.mem_append, List.mem_singleton] at hc
    rcases hc with rfl | hc | rfl
    · exact hmark '\x7b' (by simp)
    · exact hchar c hc
    · exact hmark '\x7d' (by simp)
  · rcases List.mem_append.mp hc with hc | hc
    · exact List.mem_append_right _ hc
    · exact hchar c hc

theorem Spells.toLower_mem_alphabet (h : Spells s u) {c : Char} (hc : c ∈ s.toList) :
    c.toLower ∈ alphabet :=
  mem_alphabet_of_mem_lowerForms h (List.mem_map_of_mem hc)

theorem Spells.toNat_lt (h : Spells s u) {c : Char} (hc : c ∈ s.toList) : c.toNat < 0x80 := by
  have hascii : (alphabet.all fun d => decide (d.toNat < 0x80)) = true := by decide
  have hlower := List.all_eq_true.mp hascii c.toLower (h.toLower_mem_alphabet hc)
  exact Hex.toNat_lt_of_toLower (of_decide_eq_true hlower)

theorem Spells.utf8ByteSize (h : Spells s u) : s.utf8ByteSize = s.toList.length := by
  have hsize : ∀ c ∈ s.toList, c.utf8Size = 1 := by
    intro c hc
    rw [Char.utf8Size_eq_one_iff, UInt32.le_iff_toNat_le]
    exact Nat.le_of_lt_succ (h.toNat_lt hc)
  have hlength := Utf8.utf8ByteSize_of_utf8Size hsize
  rwa [String.ofList_toList] at hlength

theorem Spells.notMem_ofString (h : Spells s u) {b : UInt8} (hb : b = 0x25 ∨ b = 0x2F) :
    b ∉ Utf8.ofString s := by
  intro hmem
  have hlt : b < 0x80 := by rcases hb with rfl | rfl <;> decide
  have hlower := h.toLower_mem_alphabet (Utf8.mem_of_mem_ofString hlt hmem)
  revert hlower
  rcases hb with rfl | rfl <;> decide

/-- A text is read as an identifier exactly if it spells it. -/
theorem read_eq_ok_iff : read s = .ok u ↔ Spells s u := by
  constructor
  · intro h
    have hread := (read_eq_ok_iff_inner (length_le_of_read h) rfl).mp h
    simp only [Spells, lowerForms, List.mem_cons, List.not_mem_nil, or_false]
    cases hunwrap : unwrap? s.toList with
    | none =>
      rw [hunwrap, Option.getD_none] at hread
      exact hread.imp_right fun hdigits => .inl hdigits.1
    | some wrapped =>
      obtain ⟨inner, index⟩ := wrapped
      have hchars : inner.map Char.toLower = u.chars := by simpa [hunwrap] using hread
      rcases of_unwrap?_eq_some hunwrap with hbraces | ⟨lead, hlead, hname⟩
      · simp [hbraces, hchars]
      · simp [hlead, hchars, hname]
  · intro h
    have hsize := h.utf8ByteSize
    have hform : s.toList.map Char.toLower ∈ u.lowerForms := h
    simp only [lowerForms, List.mem_cons, List.not_mem_nil, or_false] at hform
    have hlengths := hform.imp (congrArg List.length) (Or.imp (congrArg List.length)
      (Or.imp (congrArg List.length) (congrArg List.length)))
    simp only [List.length_map, List.length_cons, List.length_append, length_chars, length_digits,
      List.length_nil, namespaceChars] at hlengths
    have hlength : ¬ (s.utf8ByteSize = 0 ∨ 45 < s.utf8ByteSize) := by omega
    refine (read_eq_ok_iff_inner hlength rfl).mpr ?_
    -- the four forms: with hyphens, without, in braces, and after `urn:uuid:`
    rcases hform with hchars | hdigits | hbraces | hname
    · left
      obtain ⟨n, hn, rest, hrest⟩ := u.exists_chars_eq_cons
      rw [unwrap?_of_digit hn (hchars.trans hrest), Option.getD_none, hchars]
    · right
      have hlength : s.toList.length = 32 := by
        simpa using congrArg List.length hdigits
      obtain ⟨n, hn, rest, hrest⟩ := u.exists_digits_eq_cons
      rw [unwrap?_of_digit hn (hdigits.trans hrest), Option.getD_none]
      exact ⟨hdigits, rfl, by omega⟩
    · left
      obtain ⟨c, cs, hs, hc, hcs⟩ := List.map_eq_cons_iff.mp hbraces
      obtain ⟨inner, last, rfl, hinner, hlast⟩ := List.map_eq_append_iff.mp hcs
      obtain ⟨d, last, rfl, hd, hnil⟩ := List.map_eq_cons_iff.mp hlast
      rw [toLower_eq_mark_iff (by simp)] at hc hd
      rw [List.map_eq_nil_iff] at hnil
      rw [hs, hc, hd, hnil, unwrap?_braces, Option.getD_some, hinner]
    · left
      obtain ⟨lead, inner, hs, hlead, hinner⟩ := List.map_eq_append_iff.mp hname
      rw [hs, unwrap?_namespace hlead, Option.getD_some, hinner]

end Reading

theorem map_toLower_of_forall {cs : List Char} (h : ∀ c ∈ cs, c = '-' ∨ ∃ n < 16, c = Hex.digit n) :
    cs.map Char.toLower = cs := by
  refine (List.map_congr_left fun c hc => ?_).trans (List.map_id cs)
  rcases h c hc with rfl | ⟨n, hn, rfl⟩
  · rfl
  · exact Hex.toLower_digit hn

theorem spells_toText (u : Uuid) : Spells u.toText u := by
  rw [Spells, toText, String.toList_ofList, map_toLower_of_forall fun c hc => mem_chars hc,
    lowerForms]
  exact List.mem_cons_self

theorem spells_toPlainText (u : Uuid) : Spells u.toPlainText u := by
  rw [Spells, toPlainText, Hex.ofBytes, String.toList_ofList, ← digits,
    map_toLower_of_forall fun c hc => .inr (exists_of_mem_digits hc), lowerForms]
  exact List.mem_cons_of_mem _ List.mem_cons_self

@[simp] theorem read_toText (u : Uuid) : read u.toText = .ok u :=
  read_eq_ok_iff.mpr (spells_toText u)

@[simp] theorem read_toPlainText (u : Uuid) : read u.toPlainText = .ok u :=
  read_eq_ok_iff.mpr (spells_toPlainText u)

/-- The text is five groups of lower-case hexadecimal digits with hyphens between them. -/
def Canonical (s : String) : Prop :=
  ∃ gs : List (List Char), s.toList = ['-'].intercalate gs ∧ gs.map List.length = groupLengths
    ∧ ∀ g ∈ gs, ∀ c ∈ g, ('0' ≤ c ∧ c ≤ '9') ∨ ('a' ≤ c ∧ c ≤ 'f')

theorem canonical_toText (u : Uuid) : Canonical u.toText := by
  refine ⟨u.textGroups, by rw [toText, String.toList_ofList, chars_eq], u.length_textGroups, ?_⟩
  intro g hg c hc
  have hmem : c ∈ u.digits := by
    rw [← flatten_textGroups]
    exact List.mem_flatten.mpr ⟨g, hg, hc⟩
  obtain ⟨n, hn, rfl⟩ := exists_of_mem_digits hmem
  interval_cases n <;> decide

end Messaging.Uuid
