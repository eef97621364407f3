import Messaging.Proofs.Number.BigEndian
import Messaging.Store.Rows

/-!
Rows in the order of their keys. Keys are ordered strictly and any two different ones are ordered
one way, writing keeps the order, and the first row of a message in a partition is therefore the
one with the least moment.
-/
namespace Messaging

theorem Uuid.toNat_injective : Function.Injective Uuid.toNat := by
  intro u v h
  have hbytes : u.bytes = v.bytes :=
    BigEndian.value_injective (u.length_bytes.trans v.length_bytes.symm) h
  cases u
  cases v
  simp_all

namespace RowKey

theorem before_iff {k l : RowKey} :
    k.before l = true ↔ k.receiverId.toNat < l.receiverId.toNat
      ∨ k.receiverId.toNat = l.receiverId.toNat
        ∧ (k.messageId.toNat < l.messageId.toNat
          ∨ k.messageId.toNat = l.messageId.toNat ∧ k.moment < l.moment) := by
  simp [before]

theorem before_trans {k l m : RowKey} (hkl : k.before l = true) (hlm : l.before m = true) :
    k.before m = true := by
  rw [before_iff] at *
  omega

theorem before_of_ne {k l : RowKey} (hne : k ≠ l) (h : ¬ k.before l = true) :
    l.before k = true := by
  rw [before_iff] at *
  by_contra hcontra
  have hreceiver : k.receiverId = l.receiverId := Uuid.toNat_injective (by omega)
  have hmessage : k.messageId = l.messageId := Uuid.toNat_injective (by omega)
  have hmoment : k.moment = l.moment := by omega
  apply hne
  cases k
  cases l
  simp_all

@[simp] theorem isOf_iff {k : RowKey} {messageId receiverId : Uuid} :
    k.isOf messageId receiverId = true ↔ k.receiverId = receiverId ∧ k.messageId = messageId := by
  simp [isOf]

theorem before_iff_of_isOf {k l : RowKey} {messageId receiverId : Uuid}
    (hk : k.isOf messageId receiverId = true) (hl : l.isOf messageId receiverId = true) :
    k.before l = true ↔ k.moment < l.moment := by
  rw [isOf_iff] at hk hl
  rw [before_iff, hk.1, hk.2, hl.1, hl.2]
  omega

end RowKey

namespace Rows

variable {α : Type}

/-- Each row's key comes before those of the rows after it. -/
def Sorted (rows : Rows α) : Prop := rows.Pairwise fun a b => a.1.before b.1 = true

theorem sorted_nil : Sorted ([] : Rows α) := List.Pairwise.nil

theorem mem_upsert {key : RowKey} {row : α} {rows : Rows α} {entry : RowKey × α}
    (h : entry ∈ rows.upsert key row) : entry = (key, row) ∨ entry ∈ rows := by
  induction rows with
  | nil => simpa [upsert] using h
  | cons first rows ih =>
    obtain ⟨k, r⟩ := first
    rw [upsert] at h
    split_ifs at h with hkey hbefore
    · simp only [List.mem_cons] at h ⊢
      tauto
    · simpa using h
    · rcases List.mem_cons.mp h with hfirst | hrest
      · exact .inr (by simp [hfirst])
      · rcases ih hrest with hnew | hold
        · exact .inl hnew
        · exact .inr (List.mem_cons_of_mem _ hold)

/-- Writing keeps the rows in order. -/
theorem sorted_upsert {rows : Rows α} (h : Sorted rows) (key : RowKey) (row : α) :
    Sorted (rows.upsert key row) := by
  induction rows with
  | nil => exact List.pairwise_singleton _ _
  | cons first rows ih =>
    obtain ⟨k, r⟩ := first
    rw [Sorted, List.pairwise_cons] at h
    obtain ⟨hfirst, hrest⟩ := h
    rw [upsert, Sorted]
    split_ifs with hkey hbefore
    · rw [List.pairwise_cons]
      exact ⟨fun entry hentry => hkey ▸ hfirst entry hentry, hrest⟩
    · rw [List.pairwise_cons]
      refine ⟨fun entry hentry => ?_, List.pairwise_cons.mpr ⟨hfirst, hrest⟩⟩
      rcases List.mem_cons.mp hentry with rfl | hlater
      · exact hbefore
      · exact RowKey.before_trans hbefore (hfirst entry hlater)
    · rw [List.pairwise_cons]
      refine ⟨fun entry hentry => ?_, ih hrest⟩
      rcases mem_upsert hentry with rfl | hlater
      · exact RowKey.before_of_ne hkey hbefore
      · exact hfirst entry hlater

theorem mem_upsert_self (key : RowKey) (row : α) (rows : Rows α) :
    (key, row) ∈ rows.upsert key row := by
  induction rows with
  | nil => simp [upsert]
  | cons first rows ih =>
    rw [upsert]
    split_ifs
    · exact List.mem_cons_self
    · exact List.mem_cons_self
    · exact List.mem_cons_of_mem _ ih

theorem mem_upsert_of_mem {key : RowKey} {row : α} {rows : Rows α} {entry : RowKey × α}
    (h : entry ∈ rows) (hkey : entry.1 ≠ key) : entry ∈ rows.upsert key row := by
  induction rows with
  | nil => simp at h
  | cons first rows ih =>
    rw [upsert]
    split_ifs with hsame hbefore
    · rcases List.mem_cons.mp h with rfl | hrest
      · exact absurd hsame.symm hkey
      · exact List.mem_cons_of_mem _ hrest
    · exact List.mem_cons_of_mem _ h
    · rcases List.mem_cons.mp h with rfl | hrest
      · exact List.mem_cons_self
      · exact List.mem_cons_of_mem _ (ih hrest)

theorem upsert_perm {key : RowKey} {rows : Rows α} (h : ∀ entry ∈ rows, entry.1 ≠ key) (row : α) :
    (rows.upsert key row).Perm ((key, row) :: rows) := by
  induction rows with
  | nil => exact List.Perm.refl _
  | cons first rows ih =>
    obtain ⟨k, r⟩ := first
    rw [List.forall_mem_cons] at h
    rw [upsert]
    split_ifs with hkey hbefore
    · exact absurd hkey.symm h.1
    · exact List.Perm.refl _
    · exact ((ih h.2).cons _).trans (List.Perm.swap _ _ _)

theorem nodup_keys {rows : Rows α} (h : Sorted rows) : (rows.map Prod.fst).Nodup := by
  rw [List.Nodup, List.pairwise_map]
  refine h.imp fun {a b} hbefore heq => ?_
  rw [heq, RowKey.before_iff] at hbefore
  omega

/-- The later rows are the earlier ones with exactly one written, in the place of that of its key if
there was one. -/
structure Written (before after : Rows α) (key : RowKey) (row : α) : Prop where
  sorted : Sorted after
  mem_iff : ∀ entry, entry ∈ after ↔ entry = (key, row) ∨ entry ∈ before ∧ entry.1 ≠ key

theorem written_upsert {rows : Rows α} (h : Sorted rows) (key : RowKey) (row : α) :
    Written rows (rows.upsert key row) key row := by
  have hsorted := sorted_upsert h key row
  refine ⟨hsorted, fun entry => ⟨fun hentry => ?_, ?_⟩⟩
  · rcases mem_upsert hentry with hnew | hold
    · exact .inl hnew
    · by_cases hkey : entry.1 = key
      · exact .inl (List.inj_on_of_nodup_map (nodup_keys hsorted) hentry
          (mem_upsert_self key row rows) hkey)
      · exact .inr ⟨hold, hkey⟩
  · rintro (rfl | ⟨hold, hkey⟩)
    · exact mem_upsert_self key row rows
    · exact mem_upsert_of_mem hold hkey

def firstKeyed? (messageId receiverId : Uuid) (rows : Rows α) : Option (RowKey × α) :=
  rows.find? fun entry => entry.1.isOf messageId receiverId

theorem first?_eq_map (messageId receiverId : Uuid) (rows : Rows α) :
    rows.first? messageId receiverId = (rows.firstKeyed? messageId receiverId).map Prod.snd := rfl

theorem first?_of_notMem {messageId receiverId : Uuid} {rows : Rows α}
    (h : ∀ entry ∈ rows, entry.1.messageId ≠ messageId) :
    rows.first? messageId receiverId = none := by
  rw [first?, Option.map_eq_none_iff, List.find?_eq_none]
  intro entry hentry hof
  exact h entry hentry (RowKey.isOf_iff.mp hof).2

variable {key : RowKey} {messageId receiverId : Uuid}

theorem firstKeyed?_upsert_of_not (h : ¬ key.isOf messageId receiverId = true) (row : α)
    (rows : Rows α) :
    (rows.upsert key row).firstKeyed? messageId receiverId
      = rows.firstKeyed? messageId receiverId := by
  induction rows with
  | nil => simp only [upsert, firstKeyed?, List.find?_cons, h, List.find?_nil]
  | cons first rows ih =>
    obtain ⟨k, r⟩ := first
    simp only [firstKeyed?] at ih
    rw [upsert]
    split_ifs with hkey hbefore
    · subst hkey
      simp only [firstKeyed?, List.find?_cons, h]
    · simp only [firstKeyed?, List.find?_cons, h]
    · simp only [firstKeyed?, List.find?_cons, ih]

theorem firstKeyed?_upsert_of_none {rows : Rows α}
    (h : rows.firstKeyed? messageId receiverId = none)
    (hkey : key.isOf messageId receiverId = true) (row : α) :
    (rows.upsert key row).firstKeyed? messageId receiverId = some (key, row) := by
  induction rows with
  | nil => simp [upsert, firstKeyed?, hkey]
  | cons first rows ih =>
    obtain ⟨k, r⟩ := first
    rw [firstKeyed?, List.find?_cons] at h
    by_cases hk : k.isOf messageId receiverId = true
    · simp [hk] at h
    · simp only [hk] at h
      have hrest := ih h
      simp only [firstKeyed?] at hrest
      rw [upsert]
      split_ifs with hsame hbefore
      · simp [firstKeyed?, hkey]
      · simp [firstKeyed?, hkey]
      · simp only [firstKeyed?, List.find?_cons, hk, hrest]

/-- A row of the message comes first unless the one that was first has an earlier moment. -/
theorem firstKeyed?_upsert {rows : Rows α} (h : Sorted rows)
    (hkey : key.isOf messageId receiverId = true) (row : α) :
    (rows.upsert key row).firstKeyed? messageId receiverId
      = match rows.firstKeyed? messageId receiverId with
        | some entry => if entry.1.moment < key.moment then some entry else some (key, row)
        | none => some (key, row) := by
  induction rows with
  | nil => simp [upsert, firstKeyed?, hkey]
  | cons first rows ih =>
    obtain ⟨k, r⟩ := first
    rw [Sorted, List.pairwise_cons] at h
    obtain ⟨hfirst, hrest⟩ := h
    rw [upsert]
    split_ifs with hsame hbefore
    · subst hsame
      simp [firstKeyed?, hkey]
    · -- every row of the message stands after the new one
      have hnew : ((key, row) :: (k, r) :: rows).find?
          (fun entry => entry.1.isOf messageId receiverId) = some (key, row) := by
        simp [hkey]
      simp only [firstKeyed?, hnew]
      split
      · rename_i entry hentry
        have hof := List.find?_some hentry
        have hafter : key.before entry.1 = true := by
          rcases List.mem_cons.mp (List.mem_of_find?_eq_some hentry) with rfl | hlater
          · exact hbefore
          · exact RowKey.before_trans hbefore (hfirst entry hlater)
        rw [RowKey.before_iff_of_isOf hkey hof] at hafter
        rw [if_neg (by omega)]
      · rfl
    · by_cases hk : k.isOf messageId receiverId = true
      · have hearlier := RowKey.before_of_ne hsame hbefore
        rw [RowKey.before_iff_of_isOf hk hkey] at hearlier
        simp [firstKeyed?, hk, hearlier]
      · have hih := ih hrest
        simp only [firstKeyed?] at hih
        simp only [firstKeyed?, List.find?_cons, hk, hih]

/-- Rows that are turned into others one by one, in a way that keeps the order of the new key among
those that are there, may be written to before or afterwards. -/
theorem map_upsert {β : Type} {f : RowKey × α → RowKey × β} {row : α} {rows : Rows α}
    (h : ∀ entry ∈ rows, (key = entry.1 ↔ (f (key, row)).1 = (f entry).1)
      ∧ (key.before entry.1 = (f (key, row)).1.before (f entry).1)) :
    (rows.upsert key row).map f = upsert (f (key, row)).1 (f (key, row)).2 (rows.map f) := by
  induction rows with
  | nil => rfl
  | cons first rows ih =>
    obtain ⟨k, r⟩ := first
    rw [List.forall_mem_cons] at h
    obtain ⟨⟨hsame, hbefore⟩, hrest⟩ := h
    rcases hf : f (k, r) with ⟨k', r'⟩
    rw [hf] at hsame hbefore
    simp only [List.map_cons, hf, upsert, ← hsame, ← hbefore]
    split_ifs with hkey hearlier
    · rfl
    · simp only [List.map_cons, hf]
    · simp only [List.map_cons, hf, ih hrest]

theorem first?_map {β : Type} {f : RowKey × α → RowKey × β} {g : α → β} {rows : Rows α}
    (h : ∀ entry ∈ rows, (f entry).1.isOf messageId receiverId = entry.1.isOf messageId receiverId
      ∧ (f entry).2 = g entry.2) :
    first? messageId receiverId (rows.map f) = (rows.first? messageId receiverId).map g := by
  induction rows with
  | nil => rfl
  | cons first rows ih =>
    rw [List.forall_mem_cons] at h
    have hrest := ih h.2
    simp only [first?, List.map_cons, List.find?_cons, h.1.1] at hrest ⊢
    cases first.1.isOf messageId receiverId with
    | true => simp only [Option.map_some, h.1.2]
    | false => exact hrest

/-- The rows stand under the same keys, and each is related to the one under its key. -/
def Matched (R : α → α → Prop) : Rows α → Rows α → Prop :=
  List.Forall₂ fun entry entry' => entry.1 = entry'.1 ∧ R entry.2 entry'.2

theorem matched_refl {R : α → α → Prop} (h : ∀ row, R row row) (rows : Rows α) :
    Matched R rows rows :=
  List.forall₂_same.mpr fun entry _ => ⟨rfl, h entry.2⟩

theorem Matched.upsert {R : α → α → Prop} {rows rows' : Rows α} {row row' : α}
    (h : Matched R rows rows') (key : RowKey) (hrow : R row row') :
    Matched R (rows.upsert key row) (rows'.upsert key row') := by
  induction h with
  | nil => exact .cons ⟨rfl, hrow⟩ .nil
  | @cons entry entry' rows rows' hentry hrest ih =>
    obtain ⟨k, r⟩ := entry
    obtain ⟨k', r'⟩ := entry'
    obtain ⟨rfl, hr⟩ : k = k' ∧ R r r' := hentry
    rw [Rows.upsert, Rows.upsert]
    split_ifs
    · exact .cons ⟨rfl, hrow⟩ hrest
    · exact .cons ⟨rfl, hrow⟩ (.cons ⟨rfl, hr⟩ hrest)
    · exact .cons ⟨rfl, hr⟩ ih

theorem Matched.first? {R : α → α → Prop} {rows rows' : Rows α} (h : Matched R rows rows')
    (messageId receiverId : Uuid) :
    Option.Rel R (rows.first? messageId receiverId) (rows'.first? messageId receiverId) := by
  induction h with
  | nil => exact .none
  | @cons entry entry' rows rows' hentry _ ih =>
    simp only [Rows.first?, List.find?_cons, ← hentry.1] at ih ⊢
    cases entry.1.isOf messageId receiverId with
    | true => exact .some hentry.2
    | false => exact ih

end Rows

end Messaging
