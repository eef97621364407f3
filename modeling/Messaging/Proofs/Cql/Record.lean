import Messaging.Cql.Server
import Messaging.Proofs.Number.BigEndian
import Messaging.Proofs.Text.Utf8
import Messaging.Proofs.Timestamp

/-!
Messages through the cells of a row. The cells of a message are read back as that message with its
time in UTC and without what is finer than a millisecond; the key that the row stands under is made
of the receiver, the identifier and that millisecond.
-/
namespace Messaging

namespace Timestamp

theorem unixMillis_bounds (ts : Timestamp) :
    -9223372036854775808 ≤ ts.unixMillis ∧ ts.unixMillis < 9223372036854775808 := by
  have hdate := ts.date.daysSinceEpoch_bounds
  have hoffset := ts.offset.inRange
  have hs := ts.time.secondOfDay_lt
  have hn := ts.time.nanosecond.isLt
  rw [unixMillis, unixSeconds, localSeconds]
  omega

end Timestamp

namespace Cql

namespace Cell

@[simp] theorem toUuid_ofUuid (u : Uuid) : toUuid (ofUuid u) = .ok u := by
  simp [toUuid, ofUuid]

@[simp] theorem toText_ofText (s : String) : toText .text (ofText s) = .ok s := by
  simp [toText, ofText]

@[simp] theorem toFlag_ofFlag (b : Bool) : toFlag (ofFlag b) = .ok b := by
  cases b <;> rfl

@[simp] theorem int64Value_ofTimestamp (ts : Timestamp) :
    BigEndian.int64Value (ofTimestamp ts) = ts.unixMillis :=
  BigEndian.int64Value_ofInt64 ts.unixMillis_bounds.1 ts.unixMillis_bounds.2

theorem toTimestamp_ofTimestamp {ts us : Timestamp}
    (h : Timestamp.ofUnixMillis? ts.unixMillis = some us) :
    toTimestamp (ofTimestamp ts) = .ok us := by
  rw [toTimestamp, if_neg (by simp [ofTimestamp]), int64Value_ofTimestamp, h]

end Cell

namespace Record

def tableColumns : List (Name × ColumnType) := Name.all.map fun n => (n, n.type)

theorem checkColumns_columns : checkColumns columns = .ok tableColumns := rfl

theorem ofRow_cells {r : Record} {us : Timestamp}
    (h : Timestamp.ofUnixMillis? r.createdAt.unixMillis = some us) :
    ofRow tableColumns (r.cells.map some) = .ok { r with createdAt := us } := by
  simp [ofRow, tableColumns, Name.all, Name.type, cells, readCell, cellOf, bind, Except.bind,
    Except.mapError, pure, Except.pure, Cell.toTimestamp_ofTimestamp h]

theorem toMessage_ofMessage (m : Message) (us : Timestamp) :
    toMessage { ofMessage m with createdAt := us } = .ok { m with createdAt := us } := by
  simp [toMessage, ofMessage]

end Record

theorem ResultSet.firstRecord_cells {r : Record} {us : Timestamp}
    (h : Timestamp.ofUnixMillis? r.createdAt.unixMillis = some us) :
    ResultSet.firstRecord ⟨Record.columns, [r.cells.map some]⟩
      = .ok (some { r with createdAt := us }) := by
  simp [firstRecord, Record.checkColumns_columns, Record.ofRow_cells h, bind, Except.bind, pure,
    Except.pure]

/-- A message's row is read back as that message, with its time told in UTC to the millisecond. -/
theorem ResultSet.firstMessage_cells {m : Message} {us : Timestamp}
    (h : Timestamp.ofUnixMillis? m.createdAt.unixMillis = some us) :
    ResultSet.firstMessage ⟨Record.columns, [(Record.ofMessage m).cells.map some]⟩
      = .ok (some { m with createdAt := us }) := by
  have htime : Timestamp.ofUnixMillis? (Record.ofMessage m).createdAt.unixMillis = some us := by
    simpa [Record.ofMessage] using h
  rw [firstMessage, firstRecord_cells htime]
  simp only [Record.toMessage_ofMessage, Except.map]

theorem ResultSet.firstMessage_cells_of_none {m : Message}
    (h : Timestamp.ofUnixMillis? m.createdAt.unixMillis = none) :
    ResultSet.firstMessage ⟨Record.columns, [(Record.ofMessage m).cells.map some]⟩
      = .error (.undecodable
          (Record.Fault.cell Record.Name.createdAt.text .range).message) := by
  have htime : Cell.toTimestamp (Cell.ofTimestamp (Record.ofMessage m).createdAt)
      = .error .range := by
    rw [Cell.toTimestamp, if_neg (by simp [Cell.ofTimestamp]), Cell.int64Value_ofTimestamp,
      show (Record.ofMessage m).createdAt.unixMillis = m.createdAt.unixMillis by
        simp [Record.ofMessage], h]
  have hrow : Record.ofRow Record.tableColumns ((Record.ofMessage m).cells.map some)
      = .error (.cell Record.Name.createdAt.text .range) := by
    simp [Record.ofRow, Record.tableColumns, Record.Name.all, Record.Name.type, Record.cells,
      Record.readCell, Record.cellOf, bind, Except.bind, Except.mapError, htime]
  simp [firstMessage, firstRecord, Record.checkColumns_columns, hrow, bind, Except.bind]

end Cql

end Messaging
