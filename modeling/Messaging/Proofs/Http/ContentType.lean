import Mathlib
import Messaging.Http.ContentType

/-!
Which bodies count as JSON, told by how the value of the header is spelled: a type, a slash, a
subtype, and parameters. What a subtype is called is what stands before its last plus sign, and
either that or what follows the sign has to be `json`.
-/
namespace Messaging.Http.ContentType

def plus : UInt8 := 0x2B

def json : Bytes := Utf8.ofString "json"

def EndsType (bs : Bytes) : Prop := bs = [] ∨ ∃ ps, bs = 0x3B :: ps ∧ areParameters ps = true

/-- The value of a header spells a type, with this name and this subtype in lower case. -/
structure Spells (value type subtype : Bytes) : Prop where
  text : value.all isTextByte = true
  parts : ∃ as bs rest, value = as ++ 0x2F :: (bs ++ rest)
    ∧ as.all isToken = true ∧ as.map lower = type
    ∧ bs.all isToken = true ∧ bs.map lower = subtype ∧ EndsType rest

/-- The subtype is `json`, or a name and `+json`. -/
inductive IsJsonSubtype : Bytes → Prop
  | plain : IsJsonSubtype json
  | suffixed {name : Bytes} (h : name ≠ []) : IsJsonSubtype (name ++ plus :: json)

/-- The subtype is `json`, with another suffix. -/
def IsSuffixedJson (subtype : Bytes) : Prop :=
  ∃ suffix, subtype = json ++ plus :: suffix ∧ plus ∉ suffix

theorem splitSuffix_eq {subtype suffix : Bytes}
    (h : (subtype.reverse.takeWhile (· ≠ plus)).reverse = suffix) :
    splitSuffix subtype = if 2 ≤ subtype.length - suffix.length then
        (subtype.take (subtype.length - suffix.length - 1), some suffix)
      else (subtype, none) := by
  rw [← h]
  rfl

theorem splitSuffix_append {name suffix : Bytes} (hname : name ≠ []) (hsuffix : plus ∉ suffix) :
    splitSuffix (name ++ plus :: suffix) = (name, some suffix) := by
  have hlast : ((name ++ plus :: suffix).reverse.takeWhile (· ≠ plus)).reverse = suffix := by
    rw [List.reverse_append, List.reverse_cons, List.append_assoc, List.takeWhile_append_of_pos]
    · simp
    · exact fun b hb => decide_eq_true fun h => hsuffix (h ▸ List.mem_reverse.mp hb)
  have hbefore : (name ++ plus :: suffix).length - suffix.length = name.length + 1 := by
    simp only [List.length_append, List.length_cons]
    omega
  have hlength : 0 < name.length := List.length_pos_iff.mpr hname
  rw [splitSuffix_eq hlast, hbefore, if_pos (by omega), Nat.add_sub_cancel, List.take_left]

theorem splitSuffix_of_notMem {b : UInt8} {rest : Bytes} (h : plus ∉ rest) :
    splitSuffix (b :: rest) = (b :: rest, none) := by
  have hall : ∀ c ∈ rest.reverse, decide (c ≠ plus) = true :=
    fun c hc => decide_eq_true fun heq => h (heq ▸ List.mem_reverse.mp hc)
  have hlast : ((b :: rest).reverse.takeWhile (· ≠ plus)).reverse
      = (([b].takeWhile (· ≠ plus)).reverse ++ rest) := by
    rw [List.reverse_cons, List.takeWhile_append_of_pos hall, List.reverse_append,
      List.reverse_reverse]
  have hbefore :
      ¬ 2 ≤ (b :: rest).length - (([b].takeWhile (· ≠ plus)).reverse ++ rest).length := by
    simp only [List.length_append, List.length_cons]
    omega
  rw [splitSuffix_eq hlast, if_neg hbefore]

theorem exists_last_plus {bs : Bytes} (h : plus ∈ bs) :
    ∃ before after, bs = before ++ plus :: after ∧ plus ∉ after := by
  induction bs with
  | nil => simp at h
  | cons b bs ih =>
    by_cases hrest : plus ∈ bs
    · obtain ⟨before, after, rfl, hafter⟩ := ih hrest
      exact ⟨b :: before, after, rfl, hafter⟩
    · have hb : b = plus := by simpa [hrest, eq_comm] using h
      exact ⟨[], bs, by rw [hb]; rfl, hrest⟩

theorem splitSuffix_isJson_iff {subtype : Bytes} :
    ((splitSuffix subtype).1 = json ∨ (splitSuffix subtype).2 = some json)
      ↔ IsJsonSubtype subtype ∨ IsSuffixedJson subtype := by
  constructor
  · intro h
    cases subtype with
    | nil => exact absurd h (by decide)
    | cons b rest =>
      by_cases hplus : plus ∈ rest
      · obtain ⟨before, after, rfl, hafter⟩ := exists_last_plus hplus
        rw [← List.cons_append, splitSuffix_append (List.cons_ne_nil b before) hafter] at h
        rcases h with hname | hsuffix
        · exact .inr ⟨after, by rw [← hname]; rfl, hafter⟩
        · rw [Option.some.inj hsuffix]
          exact .inl (.suffixed (List.cons_ne_nil b before))
      · rw [splitSuffix_of_notMem hplus] at h
        rcases h with hname | hsuffix
        · change b :: rest = json at hname
          rw [hname]
          exact .inl .plain
        · simp at hsuffix
  · rintro (hjson | ⟨suffix, rfl, hsuffix⟩)
    · cases hjson with
      | plain => decide
      | suffixed hname =>
        rw [splitSuffix_append hname (by decide)]
        exact .inr rfl
    · rw [splitSuffix_append (by decide) hsuffix]
      exact .inl rfl

theorem takeWhile_isToken {bs : Bytes} (h : bs.all isToken = true) {b : UInt8}
    (hb : isToken b = false) (rest : Bytes) :
    (bs ++ b :: rest).takeWhile isToken = bs ∧ (bs ++ b :: rest).dropWhile isToken = b :: rest := by
  have hall : ∀ c ∈ bs, isToken c = true := List.all_eq_true.mp h
  rw [List.takeWhile_append_of_pos hall, List.dropWhile_append_of_pos hall]
  simp [hb]

theorem takeWhile_isToken_of_endsType {bs rest : Bytes} (h : bs.all isToken = true)
    (hrest : EndsType rest) :
    (bs ++ rest).takeWhile isToken = bs ∧ (bs ++ rest).dropWhile isToken = rest := by
  rcases hrest with rfl | ⟨ps, rfl, -⟩
  · have hall : ∀ c ∈ bs, isToken c = true := List.all_eq_true.mp h
    rw [List.append_nil]
    exact ⟨List.takeWhile_eq_self_iff.mpr hall, List.dropWhile_eq_nil_iff.mpr hall⟩
  · exact takeWhile_isToken h (by decide) ps

theorem isJson_append {as bs rest : Bytes} (has : as.all isToken = true)
    (hbs : bs.all isToken = true) (hrest : EndsType rest) (hne : bs ≠ []) :
    isJson (as ++ 0x2F :: (bs ++ rest)) = true
      ↔ (as ++ 0x2F :: (bs ++ rest)).all isTextByte = true
        ∧ as.map lower = Utf8.ofString "application"
        ∧ (IsJsonSubtype (bs.map lower) ∨ IsSuffixedJson (bs.map lower)) := by
  obtain ⟨htake, hdrop⟩ := takeWhile_isToken has (by decide : isToken 0x2F = false) (bs ++ rest)
  obtain ⟨htakeSub, hdropSub⟩ := takeWhile_isToken_of_endsType hbs hrest
  rw [← splitSuffix_isJson_iff, isJson, hdrop, htake]
  rcases hrest with rfl | ⟨ps, rfl, hparameters⟩
  · simp only [htakeSub, hdropSub]
    simp [and_assoc, json]
  · simp only [htakeSub, hdropSub]
    simp [and_assoc, json, hparameters, hne]

theorem ne_nil_of_isJsonSubtype {bs : Bytes}
    (h : IsJsonSubtype (bs.map lower) ∨ IsSuffixedJson (bs.map lower)) : bs ≠ [] := by
  rintro rfl
  rw [← splitSuffix_isJson_iff] at h
  exact absurd h (by decide)

theorem exists_parts_of_isJson {value : Bytes} (h : isJson value = true) :
    ∃ as bs rest, value = as ++ 0x2F :: (bs ++ rest) ∧ as.all isToken = true
      ∧ bs.all isToken = true ∧ EndsType rest ∧ bs ≠ [] := by
  rw [isJson] at h
  split at h
  · rename_i after hdrop
    simp only [Bool.and_eq_true] at h
    obtain ⟨⟨⟨-, hends⟩, -⟩, hjson⟩ := h
    refine ⟨value.takeWhile isToken, after.takeWhile isToken, after.dropWhile isToken, ?_,
      ?_, ?_, ?_, ?_⟩
    · rw [List.takeWhile_append_dropWhile, ← hdrop, List.takeWhile_append_dropWhile]
    · exact List.all_takeWhile
    · exact List.all_takeWhile
    · split at hends
      · rename_i hend
        exact .inl hend
      · rename_i ps hend
        rw [Bool.and_eq_true] at hends
        exact .inr ⟨ps, hend, hends.2⟩
      · simp at hends
    · refine ne_nil_of_isJsonSubtype (splitSuffix_isJson_iff.mp ?_)
      simpa [json] using hjson
  · simp at h

/-- Exactly the types `application/json`, with or without a suffix, and `application/…+json` are
taken for JSON, whatever their case and their parameters. -/
theorem isJson_iff (value : Bytes) :
    isJson value = true ↔ ∃ subtype, Spells value (Utf8.ofString "application") subtype
      ∧ (IsJsonSubtype subtype ∨ IsSuffixedJson subtype) := by
  constructor
  · intro h
    obtain ⟨as, bs, rest, rfl, has, hbs, hrest, hne⟩ := exists_parts_of_isJson h
    obtain ⟨htext, htype, hjson⟩ := (isJson_append has hbs hrest hne).mp h
    exact ⟨bs.map lower, ⟨htext, as, bs, rest, rfl, has, htype, hbs, rfl, hrest⟩, hjson⟩
  · rintro ⟨_, ⟨htext, as, bs, rest, rfl, has, htype, hbs, rfl, hrest⟩, hjson⟩
    exact (isJson_append has hbs hrest (ne_nil_of_isJsonSubtype hjson)).mpr ⟨htext, htype, hjson⟩

theorem Spells.subtype_eq {value type subtype : Bytes} (h : Spells value type subtype) :
    subtype = (((value.dropWhile isToken).drop 1).takeWhile isToken).map lower := by
  obtain ⟨-, as, bs, rest, rfl, has, -, hbs, rfl, hrest⟩ := h
  have hdrop := (takeWhile_isToken has (by decide : isToken 0x2F = false) (bs ++ rest)).2
  rw [hdrop, List.drop_one, List.tail_cons, (takeWhile_isToken_of_endsType hbs hrest).1]

theorem IsJsonSubtype.splitSuffix_eq {subtype : Bytes} (h : IsJsonSubtype subtype) :
    subtype = json ∨ (splitSuffix subtype).2 = some json := by
  cases h with
  | plain => exact .inl rfl
  | suffixed hname => exact .inr (by rw [splitSuffix_append hname (by decide)])

end Messaging.Http.ContentType
