import Messaging.Proofs.Cql.Record
import Messaging.Proofs.Store.Rows

/-!
Rows and the statements on them. The cells that are bound in the order of the columns are the row,
and are asked for in that order; a message's row is kept under its receiver, its identifier and its
millisecond; and the lookup by receiver and message is answered with the first row of theirs.
-/
namespace Messaging.Cql

theorem map_lookup_zip {names : List String} {values : List Bytes} (hnodup : names.Nodup)
    (hlength : names.length = values.length) :
    (names.map fun name => List.lookup name (names.zip values)) = values.map some := by
  induction names generalizing values with
  | nil =>
    obtain rfl := List.eq_nil_of_length_eq_zero hlength.symm
    rfl
  | cons name names ih =>
    cases values with
    | nil => simp at hlength
    | cons value values =>
      rw [List.nodup_cons] at hnodup
      have hrest : (names.map fun other => List.lookup other ((name :: names).zip (value :: values)))
          = names.map fun other => List.lookup other (names.zip values) := by
        refine List.map_congr_left fun other hother => ?_
        have hne : (other == name) = false := by
          rw [beq_eq_false_iff_ne]
          rintro rfl
          exact hnodup.1 hother
        rw [List.zip_cons_cons, List.lookup_cons, hne]
      rw [List.map_cons, hrest, ih hnodup.2 (by simpa using hlength)]
      simp

namespace Row

theorem nodup_columnNames : columnNames.Nodup := by decide

theorem length_columnNames (row : Row) : columnNames.length = row.cells.length := by
  rw [row.complete]
  rfl

theorem map_cell? (row : Row) : columnNames.map row.cell? = row.cells.map some :=
  map_lookup_zip nodup_columnNames row.length_columnNames

theorem ofValues?_cells (row : Row) : ofValues? columnNames row.cells = some row := by
  have hcells : (columnNames.filterMap fun name => List.lookup name (columnNames.zip row.cells))
      = row.cells :=
    calc columnNames.filterMap row.cell?
      _ = (columnNames.map row.cell?).filterMap id := by rw [List.filterMap_map]; rfl
      _ = (row.cells.map some).filterMap id := by rw [row.map_cell?]
      _ = row.cells := by simp
  simp only [ofValues?, hcells, row.complete, dif_pos]

end Row

/-- The cells of a record are those of a row. -/
def Record.row (r : Record) : Row := ⟨r.cells, rfl⟩

@[simp] theorem Record.cells_row (r : Record) : r.row.cells = r.cells := rfl

def storedKey (m : Message) : RowKey := ⟨m.receiverId, m.messageId, m.createdAt.unixMillis⟩

@[simp] theorem key?_row (m : Message) : (Record.ofMessage m).row.key? = some (storedKey m) := by
  have hcolumns : Definition.messages.key.columns.map (Record.ofMessage m).row.cell?
      = [some (Cell.ofUuid m.receiverId), some (Cell.ofUuid m.messageId),
        some (Cell.ofTimestamp (Record.ofMessage m).createdAt)] := rfl
  have hmoment : BigEndian.int64Value (Cell.ofTimestamp (Record.ofMessage m).createdAt)
      = m.createdAt.unixMillis := by
    rw [Cell.int64Value_ofTimestamp]
    exact m.createdAt.unixMillis_truncateToMillis
  have hlength : (Cell.ofTimestamp (Record.ofMessage m).createdAt).length = 8 := by
    simp [Cell.ofTimestamp]
  simp only [Row.key?, hcolumns, hmoment, hlength, Cell.ofUuid, Uuid.ofBytes?_bytes, storedKey,
    Option.bind_eq_bind, Option.bind_some, if_true]

namespace Table

theorem lookup_keyCells (key : RowKey) (messageId receiverId : Uuid) :
    (["receiver_id", "message_id"].zip [Cell.ofUuid receiverId, Cell.ofUuid messageId]).all
        (fun (column, value) => List.lookup column (keyCells key) = some value)
      = key.isOf messageId receiverId := by
  have hinj : ∀ u v : Uuid, u.bytes = v.bytes ↔ u = v := fun u v => by rw [Uuid.mk.injEq]
  have hreceiver : List.lookup "receiver_id" (keyCells key) = some key.receiverId.bytes := rfl
  have hmessage : List.lookup "message_id" (keyCells key) = some key.messageId.bytes := rfl
  simp [hreceiver, hmessage, Cell.ofUuid, RowKey.isOf, hinj]

/-- The lookup of a message is answered with the first row of its identifiers, if there is one. -/
theorem answer_eq (table : Table) (messageId receiverId : Uuid) :
    table.answer Row.columnNames ["receiver_id", "message_id"] (some 1)
        [Cell.ofUuid receiverId, Cell.ofUuid messageId]
      = ⟨Record.columns,
          ((table.first? messageId receiverId).map fun row => row.cells.map some).toList⟩ := by
  have hcolumns : (Row.columnNames.filterMap fun name =>
      Definition.messages.columns.find? fun c => c.name = name) = Record.columns := rfl
  have hrows : (table.matching ["receiver_id", "message_id"]
      [Cell.ofUuid receiverId, Cell.ofUuid messageId]).take 1
      = (table.first? messageId receiverId).toList := by
    simp only [matching, lookup_keyCells]
    rw [← List.map_take, List.take_one, List.head?_filter, Rows.first?, Option.toList_map]
  simp only [answer, hcolumns, Option.elim_some, hrows, Row.map_cell?, Option.toList_map]

end Table

end Messaging.Cql
