import Messaging.Proofs.Cql.Columns
import Messaging.Proofs.Cql.RoundTrip
import Messaging.Proofs.Except

/-!
Rows as messages. A row under the columns of a record is read as a message exactly if each of its
cells holds what its column asks for, and the cells are found by their columns, wherever these
stand.
-/
namespace Messaging

namespace Uuid

theorem ofBytes?_eq_some_iff {bs : Bytes} {u : Uuid} : ofBytes? bs = some u ↔ u.bytes = bs := by
  constructor
  · intro h
    rw [ofBytes?] at h
    split_ifs at h
    rw [← Option.some.inj h]
  · rintro rfl
    exact ofBytes?_bytes u

end Uuid

namespace Cql

namespace Cell

/-- The bytes are those of the text, and in a column of ASCII each of them is below 128. -/
def HoldsText (t : ColumnType) (bs : Bytes) (s : String) : Prop :=
  (t = .ascii → ∀ b ∈ bs, b < 0x80) ∧ Utf8.ofString s = bs

/-- The bytes are a count of milliseconds since 1970, of which the time in UTC is told. -/
def HoldsTime (bs : Bytes) (ts : Timestamp) : Prop :=
  bs.length = 8 ∧ ts.offset = .utc ∧ ts.unixNanos = BigEndian.int64Value bs * 1000000

theorem toUuid_eq_ok_iff {bs : Bytes} {u : Uuid} : toUuid bs = .ok u ↔ u.bytes = bs := by
  rw [toUuid, ← Uuid.ofBytes?_eq_some_iff]
  cases Uuid.ofBytes? bs <;> simp

theorem toText_eq_ok_iff {t : ColumnType} {bs : Bytes} {s : String} :
    toText t bs = .ok s ↔ HoldsText t bs s := by
  have hascii : (decide (t = .ascii) && !bs.all (· < 0x80)) = false
      ↔ (t = .ascii → ∀ b ∈ bs, b < 0x80) := by
    by_cases ht : t = .ascii <;> simp [ht]
  rw [HoldsText, ← hascii, ← Utf8.toString?_eq_some_iff, toText]
  cases hbytes : decide (t = .ascii) && !bs.all (· < 0x80) with
  | true => simp
  | false => cases Utf8.toString? bs <;> simp

theorem toTimestamp_eq_ok_iff {bs : Bytes} {ts : Timestamp} :
    toTimestamp bs = .ok ts ↔ HoldsTime bs ts := by
  rw [HoldsTime, ← Timestamp.ofUnixMillis?_eq_some_iff, toTimestamp]
  by_cases hlength : bs.length = 8
  · cases Timestamp.ofUnixMillis? (BigEndian.int64Value bs) <;> simp [hlength]
  · simp [hlength]

theorem exists_holdsTime_iff {bs : Bytes} :
    (∃ ts, HoldsTime bs ts)
      ↔ bs.length = 8 ∧ ∃ d : Date, d.daysSinceEpoch = BigEndian.int64Value bs / 86400000 := by
  constructor
  · rintro ⟨ts, hlength, hoffset, hnanos⟩
    obtain ⟨d, hd⟩ := Timestamp.hasUtcDate_of_utc hoffset
    refine ⟨hlength, d, ?_⟩
    rw [hd, Timestamp.unixSeconds_eq_unixNanos_div, hnanos]
    omega
  · rintro ⟨hlength, d, hd⟩
    obtain ⟨ts, hts⟩ := @Timestamp.exists_ofUnixMillis? (BigEndian.int64Value bs) d (by omega)
    exact ⟨ts, hlength, Timestamp.ofUnixMillis?_eq_some_iff.mp hts⟩

theorem toFlag_eq_ok_iff {bs : Bytes} {flag : Bool} :
    toFlag bs = .ok flag ↔ ∃ b, bs = [b] ∧ (flag = true ↔ b ≠ 0) := by
  match bs with
  | [] => simp [toFlag]
  | [b] => cases flag <;> simp [toFlag]
  | _ :: _ :: _ => simp [toFlag]

end Cell

namespace Record

/-- In the row, the column of this name has this type, and its cell is not null and has these
bytes. -/
def InRow (columns : List Column) (row : List Cell) (n : Name) (t : ColumnType) (bs : Bytes) :
    Prop :=
  (columnOf (n, t), some bs) ∈ columns.zip row

/-- Each column of a record has a cell in the row, which is not null and is as told. -/
def EachCell (columns : List Column) (row : List Cell) (P : Name → ColumnType → Bytes → Prop) :
    Prop :=
  ∀ n, ∃ t bs, InRow columns row n t bs ∧ P n t bs

/-- The cell in a column of this name and type has the right length and holds a text, a time or the
name of a type where it should. -/
def Name.WellFormed : Name → ColumnType → Bytes → Prop
  | .messageId, _, bs | .senderId, _, bs | .receiverId, _, bs => bs.length = 16
  | .body, t, bs => ∃ s, Cell.HoldsText t bs s
  | .createdAt, _, bs =>
    bs.length = 8 ∧ ∃ d : Date, d.daysSinceEpoch = BigEndian.int64Value bs / 86400000
  | .typeName, t, bs => ∃ s ∈ ["Video", "Text", "Link"], Cell.HoldsText t bs s
  | .hasRead, _, bs => bs.length = 1

/-- The cell in a column of this name and type holds what the message has. -/
def Name.Tells (m : Message) : Name → ColumnType → Bytes → Prop
  | .messageId, _, bs => m.messageId.bytes = bs
  | .senderId, _, bs => m.senderId.bytes = bs
  | .receiverId, _, bs => m.receiverId.bytes = bs
  | .body, t, bs => Cell.HoldsText t bs m.body
  | .createdAt, _, bs => Cell.HoldsTime bs m.createdAt
  | .typeName, t, bs => Cell.HoldsText t bs m.type.name
  | .hasRead, _, bs => ∃ b, bs = [b] ∧ (m.hasRead = true ↔ b ≠ 0)

theorem name_mem_names (t : MessageType) : t.name ∈ ["Video", "Text", "Link"] := by
  cases t <;> decide

theorem exists_type_of_mem_names {s : String} (h : s ∈ ["Video", "Text", "Link"]) :
    ∃ t : MessageType, t.name = s := by
  obtain ⟨m, hm⟩ := (exists_typeName_ofMessage_iff s).mpr h
  exact ⟨m.type, hm⟩

theorem Name.Tells.wellFormed {m : Message} {n : Name} {t : ColumnType} {bs : Bytes}
    (h : n.Tells m t bs) : n.WellFormed t bs := by
  cases n with
  | messageId =>
    obtain rfl := h
    exact m.messageId.length_bytes
  | senderId =>
    obtain rfl := h
    exact m.senderId.length_bytes
  | receiverId =>
    obtain rfl := h
    exact m.receiverId.length_bytes
  | body => exact ⟨m.body, h⟩
  | createdAt => exact Cell.exists_holdsTime_iff.mp ⟨m.createdAt, h⟩
  | typeName => exact ⟨m.type.name, name_mem_names m.type, h⟩
  | hasRead =>
    obtain ⟨b, rfl, -⟩ := h
    rfl

/-- A row tells some message exactly if each of its cells is well formed. -/
theorem exists_tells_iff {columns : List Column} {row : List Cell} :
    (∃ m, EachCell columns row (Name.Tells m)) ↔ EachCell columns row Name.WellFormed := by
  constructor
  · rintro ⟨m, h⟩ n
    obtain ⟨t, bs, hin, htells⟩ := h n
    exact ⟨t, bs, hin, htells.wellFormed⟩
  · intro h
    obtain ⟨t₁, messageId, hmessageId, hmessageLength⟩ := h .messageId
    obtain ⟨t₂, senderId, hsenderId, hsenderLength⟩ := h .senderId
    obtain ⟨t₃, receiverId, hreceiverId, hreceiverLength⟩ := h .receiverId
    obtain ⟨t₄, body, hbody, s, hs⟩ := h .body
    obtain ⟨t₅, createdAt, hcreatedAt, hdate⟩ := h .createdAt
    obtain ⟨t₆, typeName, htypeName, name, hname, hholds⟩ := h .typeName
    obtain ⟨t₇, hasRead, hhasRead, hflagLength⟩ := h .hasRead
    obtain ⟨ts, hts⟩ := Cell.exists_holdsTime_iff.mpr hdate
    obtain ⟨type, rfl⟩ := exists_type_of_mem_names hname
    obtain ⟨b, rfl⟩ := List.length_eq_one_iff.mp hflagLength
    refine ⟨⟨⟨messageId, hmessageLength⟩, ⟨senderId, hsenderLength⟩,
      ⟨receiverId, hreceiverLength⟩, s, ts, type, decide (b ≠ 0)⟩, fun n => ?_⟩
    cases n with
    | messageId => exact ⟨t₁, messageId, hmessageId, rfl⟩
    | senderId => exact ⟨t₂, senderId, hsenderId, rfl⟩
    | receiverId => exact ⟨t₃, receiverId, hreceiverId, rfl⟩
    | body => exact ⟨t₄, body, hbody, hs⟩
    | createdAt => exact ⟨t₅, createdAt, hcreatedAt, hts⟩
    | typeName => exact ⟨t₆, typeName, htypeName, hholds⟩
    | hasRead => exact ⟨t₇, [b], hhasRead, b, rfl, decide_eq_true_iff⟩

section Reading

variable {columns : List Column} {matched matched' : List (Name × ColumnType)}
  {row row' : List Cell} {n : Name}

theorem cellOf_cons (m : Name) (u : ColumnType) (cell : Cell) :
    cellOf n ((m, u) :: matched) (cell :: row)
      = if m = n then (cell.elim (.error (.cell n.text .null)) fun bs => .ok (u, bs))
        else cellOf n matched row := by
  cases cell <;> simp only [cellOf, Option.elim]

theorem cellOf_eq_ok_iff (hnodup : (matched.map Prod.fst).Nodup) {t : ColumnType} {bs : Bytes} :
    cellOf n matched row = .ok (t, bs) ↔ ((n, t), some bs) ∈ matched.zip row := by
  induction matched generalizing row with
  | nil => simp [cellOf]
  | cons p more ih =>
    obtain ⟨m, u⟩ := p
    rw [List.map_cons, List.nodup_cons] at hnodup
    cases row with
    | nil => simp [cellOf]
    | cons cell cells =>
      rw [cellOf_cons, List.zip_cons_cons, List.mem_cons]
      by_cases hm : m = n
      · -- the name does not stand again
        have hlater : ((n, t), some bs) ∉ more.zip cells := by
          intro hmem
          exact hnodup.1 (List.mem_map.mpr ⟨(n, t), (List.of_mem_zip hmem).1, hm.symm⟩)
        rw [if_pos hm]
        cases cell <;> simp [hlater, hm, eq_comm]
      · rw [if_neg hm, ih hnodup.2]
        simp [Ne.symm hm]

theorem cellOf_eq_error (h : ∀ p, cellOf n matched row ≠ .ok p) :
    cellOf n matched row = .error (.cell n.text .null) := by
  induction matched generalizing row with
  | nil => simp [cellOf]
  | cons p more ih =>
    obtain ⟨m, u⟩ := p
    cases row with
    | nil => simp [cellOf]
    | cons cell cells =>
      rw [cellOf_cons] at h ⊢
      by_cases hm : m = n
      · rw [if_pos hm] at h ⊢
        cases cell with
        | none => rfl
        | some bs => exact absurd rfl (h (u, bs))
      · rw [if_neg hm] at h ⊢
        exact ih h

theorem cellOf_eq_of_perm (hnodup : (matched.map Prod.fst).Nodup)
    (hnodup' : (matched'.map Prod.fst).Nodup)
    (h : (matched.zip row).Perm (matched'.zip row')) :
    cellOf n matched row = cellOf n matched' row' := by
  have hok : ∀ p, cellOf n matched row = .ok p ↔ cellOf n matched' row' = .ok p := by
    rintro ⟨t, bs⟩
    rw [cellOf_eq_ok_iff hnodup, cellOf_eq_ok_iff hnodup', h.mem_iff]
  by_cases hfound : ∃ p, cellOf n matched row = .ok p
  · obtain ⟨p, hp⟩ := hfound
    rw [hp, (hok p).mp hp]
  · rw [not_exists] at hfound
    rw [cellOf_eq_error hfound, cellOf_eq_error fun p hp => hfound p ((hok p).mpr hp)]

theorem zip_map_columnOf (matched : List (Name × ColumnType)) (row : List Cell) :
    (matched.map columnOf).zip row = (matched.zip row).map (Prod.map columnOf id) :=
  List.zip_map_left

theorem injective_map_columnOf :
    Function.Injective (Prod.map columnOf (id : Cell → Cell)) :=
  columnOf_injective.prodMap Function.injective_id

theorem Matches.cellOf_eq_ok_iff (h : Matches columns matched) {t : ColumnType} {bs : Bytes} :
    cellOf n matched row = .ok (t, bs) ↔ InRow columns row n t bs := by
  have hpair : (columnOf (n, t), some bs) = Prod.map columnOf id ((n, t), some bs) := rfl
  rw [Record.cellOf_eq_ok_iff (perm_all_iff.mp h.names).1, InRow, h.columns_eq, zip_map_columnOf,
    hpair, List.mem_map_of_injective injective_map_columnOf]

theorem readCell_eq_ok_iff {α : Type} {reader : ColumnType → Bytes → Except Cell.Fault α} {x : α} :
    readCell matched row n reader = .ok x
      ↔ ∃ t bs, cellOf n matched row = .ok (t, bs) ∧ reader t bs = .ok x := by
  simp only [readCell, except_bind_eq_ok, mapError_eq_ok_iff, Prod.exists]

theorem ofRow_eq_ok_iff {r : Record} :
    ofRow matched row = .ok r
      ↔ readCell matched row .messageId (fun _ => Cell.toUuid) = .ok r.messageId
        ∧ readCell matched row .senderId (fun _ => Cell.toUuid) = .ok r.senderId
        ∧ readCell matched row .receiverId (fun _ => Cell.toUuid) = .ok r.receiverId
        ∧ readCell matched row .body Cell.toText = .ok r.body
        ∧ readCell matched row .createdAt (fun _ => Cell.toTimestamp) = .ok r.createdAt
        ∧ readCell matched row .typeName Cell.toText = .ok r.typeName
        ∧ readCell matched row .hasRead (fun _ => Cell.toFlag) = .ok r.hasRead := by
  constructor
  · intro h
    simp only [ofRow, except_bind_eq_ok] at h
    obtain ⟨_, h₁, _, h₂, _, h₃, _, h₄, _, h₅, _, h₆, _, h₇, h⟩ := h
    obtain rfl := Except.ok.inj h
    exact ⟨h₁, h₂, h₃, h₄, h₅, h₆, h₇⟩
  · rintro ⟨h₁, h₂, h₃, h₄, h₅, h₆, h₇⟩
    simp only [ofRow, h₁, h₂, h₃, h₄, h₅, h₆, h₇, bind, Except.bind, pure, Except.pure]

theorem toMessage_eq_ok_iff {r : Record} {m : Message} :
    r.toMessage = .ok m ↔ r = { ofMessage m with createdAt := m.createdAt } := by
  constructor
  · intro h
    rw [toMessage] at h
    cases htype : MessageType.ofName? r.typeName with
    | none => simp [htype] at h
    | some type =>
      rw [htype] at h
      obtain rfl := Except.ok.inj h
      simp [ofMessage, MessageType.ofName?_eq_some_iff.mp htype]
  · rintro rfl
    exact toMessage_ofMessage m m.createdAt

theorem Matches.exists_record_iff (h : Matches columns matched) {m : Message} :
    (∃ r, ofRow matched row = .ok r ∧ r.toMessage = .ok m)
      ↔ EachCell columns row (Name.Tells m) := by
  have hrecord : (∃ r, ofRow matched row = .ok r ∧ r.toMessage = .ok m)
      ↔ ofRow matched row = .ok { ofMessage m with createdAt := m.createdAt } := by
    simp only [toMessage_eq_ok_iff, exists_eq_right]
  rw [hrecord, ofRow_eq_ok_iff]
  simp only [readCell_eq_ok_iff, h.cellOf_eq_ok_iff, Cell.toUuid_eq_ok_iff, Cell.toText_eq_ok_iff,
    Cell.toTimestamp_eq_ok_iff, Cell.toFlag_eq_ok_iff, ofMessage]
  constructor
  · rintro ⟨h₁, h₂, h₃, h₄, h₅, h₆, h₇⟩ n
    cases n with
    | messageId => exact h₁
    | senderId => exact h₂
    | receiverId => exact h₃
    | body => exact h₄
    | createdAt => exact h₅
    | typeName => exact h₆
    | hasRead => exact h₇
  · intro hall
    exact ⟨hall .messageId, hall .senderId, hall .receiverId, hall .body, hall .createdAt,
      hall .typeName, hall .hasRead⟩

theorem ofRow_eq_of_perm (hnodup : (matched.map Prod.fst).Nodup)
    (hnodup' : (matched'.map Prod.fst).Nodup)
    (h : (matched.zip row).Perm (matched'.zip row')) : ofRow matched row = ofRow matched' row' := by
  have hcell : ∀ n, cellOf n matched row = cellOf n matched' row' :=
    fun n => cellOf_eq_of_perm hnodup hnodup' h
  simp only [ofRow, readCell, hcell]

end Reading

end Record

end Cql

end Messaging
