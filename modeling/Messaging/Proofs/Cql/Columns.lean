import Mathlib
import Messaging.Cql.Record

/-!
The columns of a reply. They are accepted exactly if they are those of a record, each once and of a
type that it can be read from, in whatever order; the rows have no say in this.
-/
namespace Messaging.Cql.Record

/-- The types that a column of this name may have. -/
def Name.Requires : Name → ColumnType → Prop
  | .messageId, t | .senderId, t | .receiverId, t => t = .uuid
  | .body, t | .typeName, t => t = .text ∨ t = .ascii
  | .createdAt, t => t = .timestamp
  | .hasRead, t => t = .boolean

def columnOf (p : Name × ColumnType) : Column := ⟨p.1.text, p.2⟩

/-- The columns are those of a record with their types, and are the fields of a record in some
order, each once. -/
structure Matches (columns : List Column) (matched : List (Name × ColumnType)) : Prop where
  columns_eq : columns = matched.map columnOf
  names : (matched.map Prod.fst).Perm Name.all
  types : ∀ p ∈ matched, p.1.Requires p.2

/-- The columns are exactly those of a record, in some order. -/
def Fits (columns : List Column) : Prop := ∃ matched, Matches columns matched

theorem Name.admits_iff {n : Name} {t : ColumnType} : n.admits t = true ↔ n.Requires t := by
  rw [Name.admits, Bool.or_eq_true, Bool.and_eq_true, decide_eq_true_eq, decide_eq_true_eq,
    decide_eq_true_eq]
  cases n <;> simp [Name.Requires, Name.type]

theorem Name.ofText?_text (n : Name) : Name.ofText? n.text = some n := by
  cases n <;> rfl

theorem Name.ofText?_eq_some_iff {s : String} {n : Name} :
    Name.ofText? s = some n ↔ n.text = s := by
  constructor
  · intro h
    simpa using List.find?_some h
  · rintro rfl
    exact ofText?_text n

theorem Name.mem_all (n : Name) : n ∈ Name.all := by
  cases n <;> decide

theorem Name.nodup_all : Name.all.Nodup := by decide

theorem columnOf_injective : Function.Injective columnOf := by
  rintro ⟨n, t⟩ ⟨n', t'⟩ h
  obtain ⟨hname, htype⟩ := Column.mk.inj h
  have hsome := Name.ofText?_text n
  rw [hname, Name.ofText?_text] at hsome
  exact Prod.ext (Option.some.inj hsome).symm htype

theorem any_fst_iff {matched : List (Name × ColumnType)} {n : Name} :
    (matched.any fun m => decide (m.1 = n)) = true ↔ n ∈ matched.map Prod.fst := by
  rw [List.any_eq_true, List.mem_map]
  simp only [decide_eq_true_eq]

/-- Names that stand once each are all the names exactly if none is missing. -/
theorem perm_all_iff {names : List Name} :
    names.Perm Name.all ↔ names.Nodup ∧ ∀ n, n ∈ names := by
  constructor
  · intro h
    exact ⟨h.nodup_iff.mpr Name.nodup_all, fun n => h.mem_iff.mpr n.mem_all⟩
  · rintro ⟨hnodup, hall⟩
    exact (List.perm_ext_iff_of_nodup hnodup Name.nodup_all).mpr fun n =>
      ⟨fun _ => n.mem_all, fun _ => hall n⟩

/-- A column is matched if its name is one of a record, its type fits, and those after it are
matched to other names. -/
theorem matchColumns_cons_eq_ok_iff {c : Column} {cs : List Column}
    {matched : List (Name × ColumnType)} :
    matchColumns (c :: cs) = .ok matched
      ↔ ∃ n more, c = columnOf (n, c.type) ∧ n.admits c.type = true ∧ matchColumns cs = .ok more
        ∧ n ∉ more.map Prod.fst ∧ matched = (n, c.type) :: more := by
  have hname : ∀ n, c = columnOf (n, c.type) ↔ Name.ofText? c.name = some n := by
    intro n
    rw [Name.ofText?_eq_some_iff, columnOf]
    cases c
    simp [eq_comm]
  simp only [hname]
  rw [matchColumns]
  cases hn : Name.ofText? c.name with
  | none => simp [throw, throwThe, MonadExceptOf.throw]
  | some n =>
    by_cases hadmits : n.admits c.type = true
    · cases hmore : matchColumns cs with
      | error fault => simp [hadmits, bind, Except.bind]
      | ok more =>
        simp only [hadmits, Bool.not_true, Bool.false_eq_true, if_false, any_fst_iff, bind,
          Except.bind]
        by_cases hmem : n ∈ more.map Prod.fst
        · simp [-List.mem_map, hmem, hadmits, throw, throwThe, MonadExceptOf.throw]
        · simp only [if_neg hmem, pure, Except.pure, Except.ok.injEq, Option.some.injEq]
          constructor
          · rintro rfl
            exact ⟨n, more, rfl, hadmits, rfl, hmem, rfl⟩
          · rintro ⟨n', more', rfl, -, rfl, -, rfl⟩
            rfl
    · simp [hadmits, bind, Except.bind, throw, throwThe, MonadExceptOf.throw]

theorem matchColumns_eq_ok_iff {columns : List Column} {matched : List (Name × ColumnType)} :
    matchColumns columns = .ok matched
      ↔ columns = matched.map columnOf ∧ (∀ p ∈ matched, p.1.admits p.2 = true)
        ∧ (matched.map Prod.fst).Nodup := by
  induction columns generalizing matched with
  | nil =>
    rw [matchColumns, Except.ok.injEq, eq_comm, eq_comm (a := []), List.map_eq_nil_iff]
    constructor
    · rintro rfl
      simp
    · exact fun h => h.1
  | cons c cs ih =>
    rw [matchColumns_cons_eq_ok_iff]
    constructor
    · rintro ⟨n, more, hc, hadmits, hmore, hnew, rfl⟩
      obtain ⟨rfl, hmoreAdmits, hnodup⟩ := ih.mp hmore
      rw [List.map_cons, List.map_cons, List.nodup_cons, List.forall_mem_cons]
      exact ⟨by rw [← hc], ⟨hadmits, hmoreAdmits⟩, hnew, hnodup⟩
    · rintro ⟨hcolumns, hadmits, hnodup⟩
      cases matched with
      | nil => simp at hcolumns
      | cons p more =>
        rw [List.map_cons, List.cons.injEq] at hcolumns
        obtain ⟨rfl, rfl⟩ := hcolumns
        rw [List.forall_mem_cons] at hadmits
        rw [List.map_cons, List.nodup_cons] at hnodup
        exact ⟨p.1, more, rfl, hadmits.1, ih.mpr ⟨rfl, hadmits.2, hnodup.2⟩, hnodup.1, rfl⟩

/-- Columns are accepted exactly if they are those of a record. -/
theorem checkColumns_eq_ok_iff {columns : List Column} {matched : List (Name × ColumnType)} :
    checkColumns columns = .ok matched ↔ Matches columns matched := by
  have hmatches : Matches columns matched
      ↔ matchColumns columns = .ok matched ∧ ∀ n, n ∈ matched.map Prod.fst := by
    rw [matchColumns_eq_ok_iff]
    constructor
    · rintro ⟨hcolumns, hnames, htypes⟩
      obtain ⟨hnodup, hall⟩ := perm_all_iff.mp hnames
      exact ⟨⟨hcolumns, fun p hp => Name.admits_iff.mpr (htypes p hp), hnodup⟩, hall⟩
    · rintro ⟨⟨hcolumns, hadmits, hnodup⟩, hall⟩
      exact ⟨hcolumns, perm_all_iff.mpr ⟨hnodup, hall⟩,
        fun p hp => Name.admits_iff.mp (hadmits p hp)⟩
  rw [hmatches, checkColumns]
  cases hmatch : matchColumns columns with
  | error fault => simp [bind, Except.bind]
  | ok found =>
    cases hmissing : Name.all.find? fun n => !found.any fun m => decide (m.1 = n) with
    | none =>
      have hall : ∀ n, n ∈ found.map Prod.fst := by
        intro n
        simpa using List.find?_eq_none.mp hmissing n n.mem_all
      simp only [bind, Except.bind, pure, Except.pure, hmissing, Except.ok.injEq]
      constructor
      · rintro rfl
        exact ⟨rfl, hall⟩
      · exact fun h => h.1
    | some n =>
      have hnot : n ∉ found.map Prod.fst := by
        have hfound := List.find?_some hmissing
        rw [Bool.not_eq_true'] at hfound
        rw [← any_fst_iff, hfound]
        exact Bool.false_ne_true
      simp only [bind, Except.bind, hmissing, throw, throwThe, MonadExceptOf.throw, reduceCtorEq,
        false_iff]
      rintro ⟨hfound, hall⟩
      obtain rfl := Except.ok.inj hfound
      exact hnot (hall n)

theorem fits_iff {columns : List Column} :
    Fits columns ↔ ∃ matched, checkColumns columns = .ok matched := by
  simp only [checkColumns_eq_ok_iff, Fits]

theorem Matches.perm {columns columns' : List Column} {matched : List (Name × ColumnType)}
    (h : Matches columns matched) (hperm : columns.Perm columns') :
    ∃ matched', Matches columns' matched' ∧ matched.Perm matched' := by
  obtain ⟨rfl, hnames, htypes⟩ := h
  have hrange : columns' ∈ Set.range (List.map columnOf) := by
    rw [Set.range_list_map]
    intro c hc
    obtain ⟨p, -, hp⟩ := List.mem_map.mp (hperm.mem_iff.mpr hc)
    exact ⟨p, hp⟩
  obtain ⟨matched', rfl⟩ := hrange
  have hmatched : matched.Perm matched' := (List.map_perm_map_iff columnOf_injective).mp hperm
  exact ⟨matched', ⟨rfl, (hmatched.map Prod.fst).symm.trans hnames,
    fun p hp => htypes p (hmatched.mem_iff.mpr hp)⟩, hmatched⟩

end Messaging.Cql.Record
