import Messaging.Proofs.Cql.Record
import Messaging.Proofs.Message.Document
import Messaging.Proofs.Timestamp.Truncation

/-!
Messages there and back through a row. Whatever its time and offset, a message comes back as it was,
but for its time, which is taken down to the millisecond and told in UTC; going there again gives
the same cells. A record is no message exactly if its type has a name that no message's row has,
and that name is also the one in the message's document.
-/
namespace Messaging

namespace MessageType

theorem ofName?_eq_some_iff {s : String} {t : MessageType} : ofName? s = some t ↔ t.name = s := by
  constructor
  · intro h
    simpa using List.find?_some h
  · rintro rfl
    exact ofName?_name t

theorem ofName?_eq_none_iff {s : String} : ofName? s = none ↔ ∀ t : MessageType, t.name ≠ s := by
  rw [Option.eq_none_iff_forall_ne_some]
  simp only [ne_eq, ofName?_eq_some_iff]

end MessageType

namespace Cql

namespace Record

/-- A record is no message exactly if its type's name is none that a message's row has. -/
theorem exists_toMessage_eq_error_iff (r : Record) :
    (∃ fault, r.toMessage = .error fault)
      ↔ ∀ m : Message, (ofMessage m).typeName ≠ r.typeName := by
  have hnames : (∀ m : Message, (ofMessage m).typeName ≠ r.typeName)
      ↔ MessageType.ofName? r.typeName = none := by
    rw [MessageType.ofName?_eq_none_iff]
    constructor
    · exact fun h t => h ⟨.nil, .nil, .nil, "", Timestamp.endOfMay, t, false⟩
    · exact fun h m => h m.type
  rw [hnames, toMessage]
  cases MessageType.ofName? r.typeName <;> simp

theorem exists_typeName_ofMessage_iff (s : String) :
    (∃ m : Message, (ofMessage m).typeName = s) ↔ s ∈ ["Video", "Text", "Link"] := by
  constructor
  · rintro ⟨m, rfl⟩
    cases htype : m.type <;> simp [ofMessage, htype, MessageType.name]
  · intro h
    simp only [List.mem_cons, List.not_mem_nil, or_false] at h
    rcases h with rfl | rfl | rfl
    · exact ⟨⟨.nil, .nil, .nil, "", Timestamp.endOfMay, .video, false⟩, rfl⟩
    · exact ⟨⟨.nil, .nil, .nil, "", Timestamp.endOfMay, .text, false⟩, rfl⟩
    · exact ⟨⟨.nil, .nil, .nil, "", Timestamp.endOfMay, .link, false⟩, rfl⟩

end Record

/-- Just one member of the document's object has the name, and its value is the text. -/
def TellsText (document : Bytes) (name text : String) : Prop :=
  ∃ before e after, WritesObject (before ++ e :: after) document
    ∧ e.nameText = .ok name ∧ (∀ e' ∈ before ++ after, e'.nameText ≠ .ok name)
    ∧ Json.alone (Json.readText "") e.value = .ok text

def entryOf (m : Message) (createdAt : String) (k : Member) : Entry :=
  .written k.name (m.isValue_memberBytes createdAt k)

theorem writesObject_jsonObject (m : Message) (createdAt : String) :
    WritesObject (Message.shape.members.map (entryOf m createdAt)) (m.jsonObject createdAt) :=
  @writesObject_object Member Member.name (m.memberBytes createdAt)
    (m.isValue_memberBytes createdAt) [] (by simp [Json.IsBlanks]) Message.shape.members

theorem tellsText_typeName {m : Message} {document : Bytes} (h : m.toJson = .ok document) :
    TellsText document "msgType" (Record.ofMessage m).typeName := by
  rw [Message.toJson] at h
  cases hwrite : Timestamp.Rfc3339.write m.createdAt with
  | error e => simp [hwrite, Except.map] at h
  | ok createdAt =>
    rw [hwrite, Except.map] at h
    obtain rfl := Except.ok.inj h
    refine ⟨(Message.shape.members.take 5).map (entryOf m createdAt), entryOf m createdAt .type,
      (Message.shape.members.drop 6).map (entryOf m createdAt),
      writesObject_jsonObject m createdAt, Entry.nameText_written _ _, ?_,
      Json.alone_readText_string "" m.type.name⟩
    rw [← List.map_append, List.forall_mem_map]
    intro k hk
    rw [entryOf, Entry.nameText_written, ne_eq, Except.ok.injEq]
    revert k
    decide

/-- The second message is what comes back of the first through the cells of a row. -/
structure ComesBack (m back : Message) : Prop where
  /-- The cells are read by the columns of the table. -/
  read : ∃ matched record, Record.checkColumns Record.columns = .ok matched
    ∧ Record.ofRow matched ((Record.ofMessage m).cells.map some) = .ok record
    ∧ record.toMessage = .ok back
  /-- The time is written as milliseconds since 1970, in 64 bits with a sign. -/
  moment : ∃ cell, (Record.ofMessage m).cells[4]? = some cell ∧ cell.length = 8
    ∧ BigEndian.int64Value cell = ⌊(m.createdAt.unixNanos : ℚ) / 1000000⌋
  /-- Nothing is another but the time. -/
  others : back = { m with createdAt := back.createdAt }
  offset : back.createdAt.offset = .utc
  /-- The time is the last whole millisecond that is not after that of the message. -/
  greatest : back.createdAt.unixNanos % 1000000 = 0
    ∧ back.createdAt.unixNanos ≤ m.createdAt.unixNanos
    ∧ ∀ millis : Int, millis * 1000000 ≤ m.createdAt.unixNanos →
      millis * 1000000 ≤ back.createdAt.unixNanos
  /-- Written again, it has the same cells. -/
  again : (Record.ofMessage back).cells = (Record.ofMessage m).cells

/-- Messages that differ in their times only, and not in their milliseconds, have the same cells. -/
theorem cells_congr (m : Message) {us : Timestamp} (h : us.unixMillis = m.createdAt.unixMillis) :
    (Record.ofMessage { m with createdAt := us }).cells = (Record.ofMessage m).cells := by
  simp [Record.cells, Record.ofMessage, Cell.ofTimestamp, h]

theorem exists_comesBack {m : Message} (h : m.createdAt.HasUtcDate) : ∃ back, ComesBack m back := by
  obtain ⟨us, hus⟩ := h.ofUnixMillis?_unixMillis
  obtain ⟨hoffset, hnanos⟩ := Timestamp.ofUnixMillis?_eq_some_iff.mp hus
  rw [Timestamp.unixMillis_eq_unixNanos_div] at hnanos
  have htime : Timestamp.ofUnixMillis? (Record.ofMessage m).createdAt.unixMillis = some us := by
    simpa [Record.ofMessage] using hus
  have hmillis : us.unixMillis = m.createdAt.unixMillis := by
    rw [Timestamp.unixMillis_eq_unixNanos_div, Timestamp.unixMillis_eq_unixNanos_div]
    omega
  exact ⟨{ m with createdAt := us }, {
    read := ⟨_, _, Record.checkColumns_columns, Record.ofRow_cells htime,
      Record.toMessage_ofMessage m us⟩
    moment := by
      refine ⟨Cell.ofTimestamp m.createdAt.truncateToMillis, rfl, by simp [Cell.ofTimestamp], ?_⟩
      rw [Cell.int64Value_ofTimestamp, Timestamp.unixMillis_truncateToMillis,
        Timestamp.unixMillis_eq_unixNanos_div, Timestamp.floor_unixNanos]
    others := rfl
    offset := hoffset
    greatest := by
      dsimp only
      exact ⟨by omega, by omega, fun millis hle => by omega⟩
    again := cells_congr m hmillis }⟩

/-- Every message comes back through its row, if its time has a date in UTC, and every record that
has the type of some message's row is a message. -/
theorem rows_round_trip :
    (∀ m : Message, m.createdAt.HasUtcDate → ∃ back, ComesBack m back)
      ∧ (∀ r : Record, (∃ fault, r.toMessage = .error fault)
        ↔ ∀ m : Message, (Record.ofMessage m).typeName ≠ r.typeName)
      ∧ (∀ s : String, (∃ m : Message, (Record.ofMessage m).typeName = s)
        ↔ s ∈ ["Video", "Text", "Link"])
      ∧ ∀ (m : Message) (document : Bytes), m.toJson = .ok document →
        TellsText document "msgType" (Record.ofMessage m).typeName :=
  ⟨fun _ => exists_comesBack, Record.exists_toMessage_eq_error_iff,
    Record.exists_typeName_ofMessage_iff, fun _ _ => tellsText_typeName⟩

/-- A message of the last nanosecond of a month before 1970, told behind UTC. -/
def lateMessage : Message := ⟨.nil, .nil, .nil, "", Timestamp.endOfMayWest, .link, true⟩

/-- Before 1970 the time comes back as the millisecond that began before it. -/
theorem lateMessage_comes_back : ∃ back, ComesBack lateMessage back
    ∧ back.createdAt.unixNanos = -302483700001000000
    ∧ ∃ document, lateMessage.toJson = .ok document ∧ TellsText document "msgType" "Link" := by
  have hdate : lateMessage.createdAt.HasUtcDate :=
    ⟨⟨1960, 6, 1, by decide, by decide, by decide⟩, by decide⟩
  obtain ⟨back, hback⟩ := rows_round_trip.1 lateMessage hdate
  have hnanos : lateMessage.createdAt.unixNanos = -302483700000000001 := by decide
  obtain ⟨hwhole, hle, hgreatest⟩ := hback.greatest
  have hlast := hgreatest (-302483700001) (by omega)
  obtain ⟨document, hdocument⟩ : ∃ document, lateMessage.toJson = .ok document := by
    cases hdocument : lateMessage.toJson with
    | ok document => exact ⟨document, rfl⟩
    | error e =>
      have hsome : lateMessage.toJson.toOption.isSome = true := by decide +kernel
      simp [hdocument, Except.toOption] at hsome
  exact ⟨back, hback, by omega, document, hdocument, rows_round_trip.2.2.2 _ _ hdocument⟩

end Cql

end Messaging
