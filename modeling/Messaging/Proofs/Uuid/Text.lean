import Messaging.Proofs.Text.Hex
import Messaging.Proofs.Text.Utf8
import Messaging.Uuid.Text

/-!
The text of an identifier: its characters are digits and hyphens, and its hyphens part it into five
groups of the right lengths.
-/
namespace Messaging.Uuid

def digits (u : Uuid) : List Char := u.bytes.flatMap Hex.ofByte

@[simp] theorem length_digits (u : Uuid) : u.digits.length = 32 := by
  have hlength : ∀ bs : Bytes, (bs.flatMap Hex.ofByte).length = 2 * bs.length := by
    intro bs
    induction bs with
    | nil => rfl
    | cons b bs ih =>
      rw [List.flatMap_cons, List.length_append, ih, List.length_cons, Hex.ofByte]
      simp only [List.length_cons, List.length_nil]
      omega
  rw [digits, hlength, u.length_bytes]

theorem exists_of_mem_digits {u : Uuid} {c : Char} (h : c ∈ u.digits) :
    ∃ n < 16, c = Hex.digit n := by
  obtain ⟨b, -, hb⟩ := List.mem_flatMap.mp h
  exact Hex.exists_of_mem_ofByte hb

def textGroups (u : Uuid) : List (List Char) :=
  [u.digits.take 8, (u.digits.drop 8).take 4, (u.digits.drop 12).take 4, (u.digits.drop 16).take 4,
    u.digits.drop 20]

theorem flatten_textGroups (u : Uuid) : u.textGroups.flatten = u.digits := by
  have h16 := List.take_append_drop 4 (u.digits.drop 16)
  have h12 := List.take_append_drop 4 (u.digits.drop 12)
  have h8 := List.take_append_drop 4 (u.digits.drop 8)
  simp only [List.drop_drop] at h16 h12 h8
  simp only [textGroups, List.flatten_cons, List.flatten_nil, List.append_nil]
  rw [h16, h12, h8, List.take_append_drop]

theorem chars_eq (u : Uuid) : u.chars = ['-'].intercalate u.textGroups := by
  simp [chars, textGroups, digits, List.intercalate]

theorem digit_ne_hyphen {n : Nat} (h : n < 16) : Hex.digit n ≠ '-' := by
  interval_cases n <;> decide

theorem hyphen_notMem_of_mem_textGroups {u : Uuid} {g : List Char} (hg : g ∈ u.textGroups) :
    '-' ∉ g := by
  intro hc
  have hmem : '-' ∈ u.digits := by
    rw [← flatten_textGroups]
    exact List.mem_flatten.mpr ⟨g, hg, hc⟩
  obtain ⟨n, hn, hdigit⟩ := exists_of_mem_digits hmem
  exact digit_ne_hyphen hn hdigit.symm

theorem mem_chars {u : Uuid} {c : Char} (h : c ∈ u.chars) :
    c = '-' ∨ ∃ n < 16, c = Hex.digit n := by
  have htake : ∀ {k : Nat} {ds : List Char}, c ∈ ds.take k → c ∈ ds := List.mem_of_mem_take
  have hdrop : ∀ {k : Nat} {ds : List Char}, c ∈ ds.drop k → c ∈ ds := List.mem_of_mem_drop
  simp only [chars, List.mem_append, List.mem_cons] at h
  have hdigits : c = '-' ∨ c ∈ u.digits := by
    rw [digits]
    tauto
  exact hdigits.imp_right exists_of_mem_digits

@[simp] theorem length_chars (u : Uuid) : u.chars.length = 36 := by
  rw [chars_eq]
  simp [textGroups, List.intercalate]

theorem exists_digits_eq_cons (u : Uuid) :
    ∃ n < 16, ∃ rest, u.digits = Hex.digit n :: rest := by
  cases hdigits : u.digits with
  | nil =>
    have hlength := u.length_digits
    simp [hdigits] at hlength
  | cons d ds =>
    obtain ⟨n, hn, rfl⟩ := exists_of_mem_digits (u := u) (c := d) (by simp [hdigits])
    exact ⟨n, hn, ds, rfl⟩

theorem exists_chars_eq_cons (u : Uuid) : ∃ n < 16, ∃ rest, u.chars = Hex.digit n :: rest := by
  obtain ⟨n, hn, rest, hdigits⟩ := u.exists_digits_eq_cons
  rw [digits] at hdigits
  exact ⟨n, hn, _, by rw [chars, hdigits]; rfl⟩

end Messaging.Uuid
