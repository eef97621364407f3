import Messaging.Proofs.Json.Grammar

/-!
Parts of a text that settle what is read from them. A string does, and before a delimiter a number
does as any value: whatever follows, the same is read and the part is taken to its end, or the same
fault is met, but for the bytes that are left then.
-/
namespace Messaging.Json

variable {α β : Type}

def Fault.unplaced (f : Fault) : Fault := { f with rest := [] }

theorem Fault.unplaced_eq_iff {f f' : Fault} :
    f.unplaced = f'.unplaced ↔ f.problem = f'.problem ∧ f.path = f'.path := by
  simp [unplaced]

def unplaced (r : Except Fault α) : Except Fault α := r.mapError Fault.unplaced

@[simp] theorem unplaced_ok (a : α) : unplaced (.ok a) = .ok a := rfl

@[simp] theorem unplaced_error (f : Fault) :
    unplaced (.error f : Except Fault α) = .error f.unplaced := rfl

theorem unplaced_eq_ok_iff {r : Except Fault α} {a : α} : unplaced r = .ok a ↔ r = .ok a := by
  cases r <;> simp

theorem ok_bind (a : α) (f : α → Except Fault β) : (Except.ok a >>= f) = f a := rfl

theorem unplaced_bind (r : Except Fault α) (f : α → Except Fault β) :
    unplaced (r >>= f) = unplaced r >>= fun a => unplaced (f a) := by
  cases r <;> rfl

theorem unplaced_map (r : Except Fault α) (f : α → β) :
    unplaced (r.map f) = (unplaced r).map f := by
  cases r <;> rfl

theorem unplaced_under (step : Step) (r : Except Fault α) :
    unplaced (under step r) = under step (unplaced r) := by
  cases r <;> rfl

theorem ok_or_error_of_unplaced_eq {r r' : Except Fault α} (h : unplaced r = unplaced r') :
    (∃ a, r = .ok a ∧ r' = .ok a)
      ∨ ∃ f f', r = .error f ∧ r' = .error f' ∧ f.unplaced = f'.unplaced := by
  cases r with
  | error f =>
    cases r' with
    | error f' => exact .inr ⟨f, f', rfl, rfl, Except.error.inj h⟩
    | ok a => simp at h
  | ok a =>
    cases r' with
    | error f => simp at h
    | ok b => exact .inl ⟨a, rfl, h.symm⟩

def alone (f : Bytes → Except Fault (α × Bytes)) (v : Bytes) : Except Fault α :=
  (unplaced (f v)).map Prod.fst

theorem alone_eq_ok_iff {f : Bytes → Except Fault (α × Bytes)} {v : Bytes} {x : α} :
    alone f v = .ok x ↔ ∃ rest, f v = .ok (x, rest) := by
  rw [alone]
  cases hf : f v with
  | error fault => simp [Except.map]
  | ok read => simp [Except.map, Prod.ext_iff]

/-- Before such bytes, the text tells what is read, and is read to its end. -/
def Settles (Before : Bytes → Prop) (f : Bytes → Except Fault (α × Bytes)) (v : Bytes) : Prop :=
  ∃ x : Except Fault α, ∀ rest, Before rest →
    unplaced (f (v ++ rest)) = x.map fun x => (x, rest)

def Anywhere (_ : Bytes) : Prop := True

section

variable {Before : Bytes → Prop} {f : Bytes → Except Fault (α × Bytes)} {v : Bytes}

theorem Settles.delimited (h : Settles Anywhere f v) : Settles Delimited f v := by
  obtain ⟨x, hx⟩ := h
  exact ⟨x, fun rest _ => hx rest trivial⟩

theorem Settles.ok_or_error (h : Settles Before f v) :
    (∃ x, ∀ rest, Before rest → f (v ++ rest) = .ok (x, rest))
      ∨ ∃ fault : Fault, ∀ rest, Before rest →
        ∃ met, f (v ++ rest) = .error met ∧ met.unplaced = fault := by
  obtain ⟨fault | x, hx⟩ := h
  · refine .inr ⟨fault, fun rest hrest => ?_⟩
    have hmet := hx rest hrest
    cases hf : f (v ++ rest) with
    | error met =>
      rw [hf] at hmet
      exact ⟨met, rfl, Except.error.inj hmet⟩
    | ok read => simp [hf, Except.map] at hmet
  · refine .inl ⟨x, fun rest hrest => ?_⟩
    have hread := hx rest hrest
    cases hf : f (v ++ rest) with
    | error met => simp [hf, Except.map] at hread
    | ok read =>
      rw [hf] at hread
      exact congrArg Except.ok (Except.ok.inj hread)

theorem Settles.eq_alone (h : Settles Before f v) (hnil : Before []) (rest : Bytes)
    (hrest : Before rest) : unplaced (f (v ++ rest)) = (alone f v).map fun x => (x, rest) := by
  obtain ⟨x, hx⟩ := h
  have halone := hx [] hnil
  rw [List.append_nil] at halone
  rw [hx rest hrest, alone, halone]
  cases x <;> rfl

end

namespace StringLiteral

theorem state_finishUnit {digits : Bytes} {high : Option Nat} {s : State} {out : Bytes}
    (h : finishUnit digits high = .ok (s, out)) : s = .plain ∨ ∃ high, s = .partner high := by
  rw [finishUnit] at h
  split at h
  · simp at h
  · split at h <;> split_ifs at h <;> cases h
    · exact .inl rfl
    · exact .inr ⟨_, rfl⟩
    · exact .inl rfl

/-- The contents of a string are read to the quote after them, or are refused. Reading may begin
after a high surrogate, which contents that go on otherwise leave without its partner. -/
theorem exists_scan {bs : Bytes} (h : IsContents bs) :
    ∀ s, s = .plain ∨ (∃ high, s = .partner high) → ∃ text : Except Fault Bytes, ∀ done rest,
      unplaced (scan s done (bs ++ 0x22 :: rest))
        = text.map fun text => (done.reverse ++ text, rest) := by
  induction h with
  | nil =>
    rintro s (rfl | ⟨high, rfl⟩)
    · exact ⟨.ok [], fun done rest => by simp [scan, Except.map]⟩
    · exact ⟨.error (.breach .unexpectedEndOfEscape []), fun done rest => rfl⟩
  | @plain b bs hcontrol hquote hbackslash _ ih =>
    rintro s (rfl | ⟨high, rfl⟩)
    · obtain ⟨text, htext⟩ := ih .plain (.inl rfl)
      refine ⟨text.map (b :: ·), fun done rest => ?_⟩
      simp only [List.cons_append, scan, hquote, and_false, if_false, step, hbackslash, hcontrol,
        htext]
      cases text <;> simp [Except.map]
    · refine ⟨.error (.breach .unexpectedEndOfEscape []), fun done rest => ?_⟩
      simp only [List.cons_append, scan, reduceCtorEq, false_and, if_false, step, hbackslash]
      rfl
  | @short c bs hc _ ih =>
    obtain ⟨hshort, hunit⟩ := isSome_shortEscape? hc
    obtain ⟨d, hd⟩ := Option.isSome_iff_exists.mp hshort
    rintro s (rfl | ⟨high, rfl⟩)
    · obtain ⟨text, htext⟩ := ih .plain (.inl rfl)
      refine ⟨text.map (d :: ·), fun done rest => ?_⟩
      have hscan : scan .plain done (0x5C :: c :: bs ++ 0x22 :: rest)
          = scan .plain (d :: done) (bs ++ 0x22 :: rest) := by
        simp [scan, step, hunit, hd]
      rw [hscan, htext]
      cases text <;> simp [Except.map]
    · refine ⟨.error (.breach .unexpectedEndOfEscape []), fun done rest => ?_⟩
      simp [scan, step, hunit, Except.map, Fault.unplaced, Fault.breach]
  | @unit digits bs hlength _ _ ih =>
    obtain ⟨a, b, c, d, rfl⟩ := exists_of_length hlength
    -- the digits give a character, or a high surrogate that waits, or are refused
    have hunit : ∀ high : Option Nat, ∃ text : Except Fault Bytes, ∀ done rest,
        unplaced (scan (.unit [] high) done ([a, b, c, d] ++ bs ++ 0x22 :: rest))
          = text.map fun text => (done.reverse ++ text, rest) := by
      intro high
      cases hfinish : finishUnit [a, b, c, d] high with
      | error kind =>
        refine ⟨.error (.breach kind []), fun done rest => ?_⟩
        simp [scan, step, hfinish, Except.map, Fault.unplaced, Fault.breach]
      | ok next =>
        obtain ⟨s, out⟩ := next
        obtain ⟨text, htext⟩ := ih s (state_finishUnit hfinish)
        refine ⟨text.map (out ++ ·), fun done rest => ?_⟩
        have hscan : scan (.unit [] high) done ([a, b, c, d] ++ bs ++ 0x22 :: rest)
            = scan s (out.reverse ++ done) (bs ++ 0x22 :: rest) := by
          simp [scan, step, hfinish]
        rw [hscan, htext]
        cases text <;> simp [Except.map]
    rintro s (rfl | ⟨high, rfl⟩)
    · obtain ⟨text, htext⟩ := hunit none
      exact ⟨text, fun done rest => by simpa [scan, step] using htext done rest⟩
    · obtain ⟨text, htext⟩ := hunit (some high)
      exact ⟨text, fun done rest => by simpa [scan, step] using htext done rest⟩

/-- A string is read to its quote, whatever follows. -/
theorem settles_read {bs : Bytes} (h : IsContents bs) : Settles Anywhere read (bs ++ [0x22]) := by
  obtain ⟨text, htext⟩ := exists_scan h .plain (.inl rfl)
  -- bytes that spell no characters are refused after the quote
  refine ⟨text >>= fun text => (Utf8.toString? text).elim (.error (.breach .invalidCodePoint []))
    .ok, fun rest _ => ?_⟩
  have hscan := htext [] rest
  rw [List.append_assoc, List.singleton_append, read]
  cases hbytes : scan .plain [] (bs ++ 0x22 :: rest) with
  | error f =>
    rw [hbytes] at hscan
    cases text with
    | error f' => exact congrArg Except.error (Except.error.inj hscan)
    | ok text => simp [Except.map] at hscan
  | ok read =>
    obtain ⟨text', rest'⟩ := read
    rw [hbytes] at hscan
    cases text with
    | error f => simp [Except.map] at hscan
    | ok text =>
      obtain ⟨rfl, rfl⟩ : text' = text ∧ rest' = rest := by simpa [Except.map] using hscan
      cases hstring : Utf8.toString? text' <;>
        simp [hstring, bind, Except.bind, Except.map, Fault.unplaced, Fault.breach]

end StringLiteral

namespace Numeral

variable {negative : Bool} {significand : Nat}

def EndsDigits (rest : Bytes) : Prop := ∀ b ∈ rest.head?, Decimal.isDigit b = false

theorem endsDigits_of_delimited {rest : Bytes} (h : Delimited rest) : EndsDigits rest :=
  fun b hb => (not_of_delimiter (h b hb)).1

theorem exists_absorb {ds : Bytes} (h : ∀ d ∈ ds, Decimal.isDigit d = true)
    (significand count : Nat) :
    ∃ significand' count' left, (∀ d ∈ left, Decimal.isDigit d = true) ∧ ∀ rest,
      EndsDigits rest →
        absorb significand count (ds ++ rest) = (significand', count', left ++ rest) := by
  induction ds generalizing significand count with
  | nil =>
    refine ⟨significand, count, [], by simp, fun rest hrest => ?_⟩
    cases rest with
    | nil => rfl
    | cons b rest => simp [absorb, hrest b rfl]
  | cons d ds ih =>
    have hds := List.forall_mem_cons.mp h
    by_cases hfits : significand * 10 + Decimal.digitValue d ≤ greatest
    · obtain ⟨significand', count', left, hleft, habsorb⟩ :=
        ih hds.2 (significand * 10 + Decimal.digitValue d) (count + 1)
      refine ⟨significand', count', left, hleft, fun rest hrest => ?_⟩
      simp [absorb, hds.1, hfits, habsorb rest hrest]
    · exact ⟨significand, count, d :: ds, h, fun rest _ => by simp [absorb, hfits]⟩

theorem exists_exponentDigits {ds : Bytes} (h : ∀ d ∈ ds, Decimal.isDigit d = true) (value : Nat) :
    (∃ value', ∀ rest, EndsDigits rest → exponentDigits value (ds ++ rest) = (some value', rest))
      ∨ ∃ left, (∀ d ∈ left, Decimal.isDigit d = true)
        ∧ ∀ rest, exponentDigits value (ds ++ rest) = (none, left ++ rest) := by
  induction ds generalizing value with
  | nil =>
    refine .inl ⟨value, fun rest hrest => ?_⟩
    cases rest with
    | nil => rfl
    | cons b rest => simp [exponentDigits, hrest b rfl]
  | cons d ds ih =>
    have hds := List.forall_mem_cons.mp h
    by_cases hfits : value * 10 + Decimal.digitValue d ≤ 2147483647
    · simpa [exponentDigits, hds.1, hfits] using ih hds.2 (value * 10 + Decimal.digitValue d)
    · exact .inr ⟨ds, hds.2, fun rest => by simp [exponentDigits, hds.1, hfits]⟩

theorem settles_scaled (Before : Bytes → Prop) (power : Int) :
    Settles Before (scaled negative significand power) [] := by
  cases hsize : Binary64.ofDecimal? significand power with
  | none =>
    refine ⟨.error (.breach .numberOutOfRange []), fun rest _ => ?_⟩
    simp [scaled, hsize, Except.map, Fault.unplaced, Fault.breach]
  | some size =>
    exact ⟨.ok (.float negative size), fun rest _ => by simp [scaled, hsize, Except.map]⟩

theorem settles_exponent {sign ds : Bytes} (hsign : sign = [] ∨ sign = [0x2B] ∨ sign = [0x2D])
    (hds : IsDigits ds) (power : Int) :
    Settles Delimited (exponent negative significand power) (sign ++ ds) := by
  obtain ⟨d, more, rfl, hd, hmore⟩ := hds.exists_cons
  have hplus : d ≠ 0x2B := ne_of_isDigit hd (by decide)
  have hminus : d ≠ 0x2D := ne_of_isDigit hd (by decide)
  rcases exists_exponentDigits hmore (Decimal.digitValue d) with
    ⟨value, hvalue⟩ | ⟨left, hleft, hnone⟩
  · obtain ⟨x, hx⟩ := @settles_scaled negative significand Delimited
      (if sign = [0x2D] then power - value else power + value)
    refine ⟨x, fun rest hrest => ?_⟩
    have hscaled := hx rest hrest
    rw [List.nil_append] at hscaled
    have hdigits := hvalue rest (endsDigits_of_delimited hrest)
    rcases hsign with rfl | rfl | rfl <;>
      simpa [exponent, hd, hplus, hminus, hdigits] using hscaled
  · have hdrop : ∀ rest, Delimited rest → (left ++ rest).dropWhile Decimal.isDigit = rest :=
      fun rest hrest => (dropWhile_digits hleft rest).trans (dropWhile_of_delimited hrest)
    by_cases hrange : significand ≠ 0 ∧ sign ≠ [0x2D]
    · refine ⟨.error (.breach .numberOutOfRange []), fun rest hrest => ?_⟩
      rcases hsign with rfl | rfl | rfl <;> simp at hrange <;>
        simp [exponent, hd, hplus, hminus, hnone, hrange, Except.map, Fault.unplaced, Fault.breach]
    · refine ⟨.ok (.float negative .zero), fun rest hrest => ?_⟩
      have hend := hdrop rest hrest
      rcases hsign with rfl | rfl | rfl <;> simp at hrange <;>
        simp [exponent, hd, hplus, hminus, hnone, hrange, hend, Except.map]

theorem settles_fraction {ds bs : Bytes} (hds : IsDigits ds) (hbs : IsExponent bs) (power : Int) :
    Settles Delimited (fraction negative significand power) (ds ++ bs) := by
  obtain ⟨significand', count, left, hleft, habsorb⟩ := exists_absorb hds.2 significand 0
  obtain ⟨d, more, rfl, hd, -⟩ := hds.exists_cons
  rcases hbs with rfl | ⟨mark, sign, es, hmark, hsign, hes, rfl⟩
  · obtain ⟨x, hx⟩ := @settles_scaled negative significand' Delimited (power - count)
    refine ⟨x, fun rest hrest => ?_⟩
    have hscaled := hx rest hrest
    have hdigits := habsorb rest (endsDigits_of_delimited hrest)
    have hend := (dropWhile_digits hleft rest).trans (dropWhile_of_delimited hrest)
    rw [List.append_nil, fraction, hdigits]
    simp only [hend]
    cases rest with
    | nil => simpa [hd] using hscaled
    | cons b rest => simpa [hd, not_of_delimiter (hrest b rfl)] using hscaled
  · obtain ⟨x, hx⟩ := @settles_exponent negative significand' _ _ hsign hes (power - count)
    refine ⟨x, fun rest hrest => ?_⟩
    have hnotDigit := isDigit_of_isExponentMark hmark
    have hexponent := hx rest hrest
    have hdigits := habsorb (mark :: (sign ++ es) ++ rest) (by simpa [EndsDigits] using hnotDigit)
    have hend := (dropWhile_digits hleft (mark :: (sign ++ es) ++ rest)).trans
      (dropWhile_of_head? (by simpa using hnotDigit))
    rw [List.append_assoc, fraction, hdigits]
    simp only [hend]
    simpa [hd, hmark] using hexponent

theorem settles_afterWhole {bs cs : Bytes} (hbs : IsFraction bs) (hcs : IsExponent cs)
    (power : Nat) : Settles Delimited (afterWhole negative significand power) (bs ++ cs) := by
  rcases hbs with rfl | ⟨ds, hds, rfl⟩
  · rcases hcs with rfl | ⟨mark, sign, es, hmark, hsign, hes, rfl⟩
    · -- the digits are all
      have hplain : ∃ x : Except Fault Found, ∀ rest,
          unplaced (if power ≠ 0 then scaled negative significand power rest
            else if !negative then .ok (.integer significand, rest)
            else if 1 ≤ significand ∧ significand ≤ 9223372036854775808 then
              .ok (.integer (-(significand : Int)), rest)
            else scaled negative significand 0 rest) = x.map fun x => (x, rest) := by
        obtain ⟨x, hx⟩ := @settles_scaled negative significand Anywhere power
        obtain ⟨y, hy⟩ := @settles_scaled negative significand Anywhere 0
        split_ifs
        · exact ⟨x, fun rest => hx rest trivial⟩
        · exact ⟨.ok (.integer significand), fun rest => rfl⟩
        · exact ⟨.ok (.integer (-(significand : Int))), fun rest => rfl⟩
        · exact ⟨y, fun rest => hy rest trivial⟩
      obtain ⟨x, hx⟩ := hplain
      refine ⟨x, fun rest hrest => ?_⟩
      cases rest with
      | nil => exact hx []
      | cons b rest =>
        have hb := not_of_delimiter (hrest b rfl)
        simpa [afterWhole, hb] using hx (b :: rest)
    · have hpoint : mark ≠ 0x2E := by
        rintro rfl
        exact absurd hmark (by decide)
      obtain ⟨x, hx⟩ := @settles_exponent negative significand _ _ hsign hes power
      refine ⟨x, fun rest hrest => ?_⟩
      simpa [afterWhole, hpoint, hmark] using hx rest hrest
  · obtain ⟨x, hx⟩ := @settles_fraction negative significand _ _ hds hcs power
    refine ⟨x, fun rest hrest => ?_⟩
    simpa [afterWhole] using hx rest hrest

/-- A number is read to the delimiter after it. -/
theorem settles_read {bs : Bytes} (h : IsUnsigned bs) : Settles Delimited (read negative) bs := by
  obtain ⟨whole, bs, cs, hwhole, hbs, hcs, rfl⟩ := h
  rcases hwhole with rfl | ⟨hds, hzero⟩
  · obtain ⟨x, hx⟩ := @settles_afterWhole negative 0 _ _ hbs hcs 0
    refine ⟨x, fun rest hrest => ?_⟩
    have hafter := hx rest hrest
    have hhead := isDigit_head?_afterWhole hbs hcs hrest
    rw [List.append_assoc] at hafter
    rw [List.append_assoc, List.append_assoc, List.singleton_append, read.eq_def]
    cases hrestBytes : bs ++ (cs ++ rest) with
    | nil =>
      rw [hrestBytes] at hafter
      simpa using hafter
    | cons b tail =>
      rw [hrestBytes] at hafter hhead
      simpa [hhead b rfl] using hafter
  · obtain ⟨significand, count, left, hleft, habsorb⟩ := exists_absorb hds.2 0 0
    obtain ⟨d, more, rfl, hd, hmore⟩ := hds.exists_cons
    have hne : d ≠ 0x30 := by simpa using hzero
    obtain ⟨x, hx⟩ := @settles_afterWhole negative significand _ _ hbs hcs left.length
    refine ⟨x, fun rest hrest => ?_⟩
    have hafter := hx rest hrest
    have hhead := isDigit_head?_afterWhole hbs hcs hrest
    have hdigits := habsorb _ hhead
    have htake : (left ++ (bs ++ (cs ++ rest))).takeWhile Decimal.isDigit = left := by
      rw [List.takeWhile_append_of_pos hleft]
      cases hrestBytes : bs ++ (cs ++ rest) with
      | nil => simp
      | cons b tail =>
        rw [hrestBytes] at hhead
        rw [List.takeWhile_cons_of_neg (by simp [hhead b rfl]), List.append_nil]
    have hdrop := (dropWhile_digits hleft _).trans (dropWhile_of_head? hhead)
    rw [List.append_assoc] at hafter
    rw [List.append_assoc, List.append_assoc]
    rw [List.cons_append] at hdigits ⊢
    rw [read.eq_def]
    simp only [if_neg hne, if_pos hd, hdigits, htake, hdrop]
    exact hafter

end Numeral

theorem exists_notA {v : Bytes} (h : IsValue v) (wanted : String) :
    ∃ fault : Fault, ∀ rest, Delimited rest → (notA wanted (v ++ rest)).unplaced = fault := by
  cases h with
  | scalar h =>
    cases h with
    | null =>
      refine ⟨.misfit (.kind .null wanted) [], fun rest _ => ?_⟩
      simp [notA, word_append, Fault.unplaced, Fault.misfit]
    | yes =>
      refine ⟨.misfit (.kind (.flag true) wanted) [], fun rest _ => ?_⟩
      simp [notA, word_append, Fault.unplaced, Fault.misfit]
    | no =>
      refine ⟨.misfit (.kind (.flag false) wanted) [], fun rest _ => ?_⟩
      simp [notA, word_append, Fault.unplaced, Fault.misfit]
    | unsigned h =>
      have hread := @Numeral.settles_read false _ h
      obtain ⟨d, more, rfl, hd⟩ := h.exists_cons
      have hne : ∀ b : UInt8, Decimal.isDigit b = false → d ≠ b :=
        fun b => Numeral.ne_of_isDigit hd
      have hword : d ≠ 0x6E ∧ d ≠ 0x74 ∧ d ≠ 0x66 ∧ d ≠ 0x2D :=
        ⟨hne _ (by decide), hne _ (by decide), hne _ (by decide), hne _ (by decide)⟩
      rcases hread.ok_or_error with ⟨found, hfound⟩ | ⟨fault, hfault⟩
      · refine ⟨.misfit (.kind found wanted) [], fun rest hrest => ?_⟩
        have hnumber := hfound rest hrest
        rw [List.cons_append] at hnumber
        simp [notA, hword, hd, hnumber, Fault.unplaced, Fault.misfit]
      · refine ⟨fault, fun rest hrest => ?_⟩
        obtain ⟨met, hnumber, hmet⟩ := hfault rest hrest
        rw [List.cons_append] at hnumber
        simp [notA, hword, hd, hnumber, hmet]
    | negative h =>
      rcases (@Numeral.settles_read true _ h).ok_or_error with ⟨found, hfound⟩ | ⟨fault, hfault⟩
      · refine ⟨.misfit (.kind found wanted) [], fun rest hrest => ?_⟩
        simp [notA, hfound rest hrest, Fault.unplaced, Fault.misfit]
      · refine ⟨fault, fun rest hrest => ?_⟩
        obtain ⟨met, hnumber, hmet⟩ := hfault rest hrest
        simp [notA, hnumber, hmet]
    | string h =>
      rcases (StringLiteral.settles_read h).ok_or_error with ⟨s, hs⟩ | ⟨fault, hfault⟩
      · refine ⟨.misfit (.kind (.text s) wanted) [], fun rest _ => ?_⟩
        have hstring := hs rest trivial
        simp only [List.append_assoc, List.singleton_append] at hstring
        simp [notA, Decimal.isDigit, hstring, Fault.unplaced, Fault.misfit]
      · refine ⟨fault, fun rest _ => ?_⟩
        obtain ⟨met, hstring, hmet⟩ := hfault rest trivial
        simp only [List.append_assoc, List.singleton_append] at hstring
        simp [notA, Decimal.isDigit, hstring, hmet]
  | frame frame _ =>
    cases frame with
    | list => exact ⟨.misfit (.kind .sequence wanted) [], fun rest _ => rfl⟩
    | object => exact ⟨.misfit (.kind .map wanted) [], fun rest _ => rfl⟩

end Messaging.Json
