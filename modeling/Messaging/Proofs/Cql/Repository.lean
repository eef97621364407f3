import Messaging.Cql.Repository
import Messaging.Proofs.Cql.Server
import Messaging.Proofs.Message.History

/-!
What the store in the database does, told by its table: a save that is accepted writes one row and
one that is refused writes none, and a lookup that is answered from the table gives the message of
the first row that fits.
-/
namespace Messaging.Cql

namespace Server

theorem receive_eq (s : Server) (current : Option String) (q : Request) :
    (s.receive current q).2
      = { s with keyspaces := (s.receive current q).2.keyspaces, received := s.received ++ [q] } := by
  cases hfails : s.fails q with
  | some cause => rw [receive_of_fails hfails, noting]
  | none => rw [receive_of_carried hfails, perform_eq, noting]

theorem receive_settings (s : Server) (current : Option String) (q : Request) :
    (s.receive current q).2.fails = s.fails ∧ (s.receive current q).2.canned = s.canned := by
  rw [receive_eq]
  exact ⟨rfl, rfl⟩

theorem receive_select (s : Server) (current : Option String) (messageId receiverId : Uuid) :
    (s.receive current (.select (Cell.ofUuid receiverId) (Cell.ofUuid messageId))).2
      = s.noting (.select (Cell.ofUuid receiverId) (Cell.ofUuid messageId)) := by
  cases hfails : s.fails (.select (Cell.ofUuid receiverId) (Cell.ofUuid messageId)) with
  | some cause => rw [receive_of_fails hfails]
  | none => rw [receive_of_carried hfails, perform_select]

end Server

@[simp] theorem isOf_storedKey {m : Message} {messageId receiverId : Uuid} :
    (storedKey m).isOf messageId receiverId = true ↔ m.IsOf messageId receiverId := by
  rw [RowKey.isOf_iff, storedKey, Message.IsOf]

theorem moment_storedKey (m : Message) : (storedKey m).moment = m.millis :=
  m.createdAt.unixMillis_eq_unixNanos_div

namespace Repository

def table? (r : Repository) : Option Table := r.server.table? (some r.keyspace)

/-- Lookups of a message are answered, and from the stored rows. -/
def AnswersLookup (r : Repository) (messageId receiverId : Uuid) : Prop :=
  r.server.canned = none
    ∧ r.server.fails (.select (Cell.ofUuid receiverId) (Cell.ofUuid messageId)) = none

theorem save_of_carried {r : Repository} {m : Message} {table : Table}
    (hfails : r.server.fails (.insert (Record.ofMessage m).cells) = none)
    (htable : r.table? = some table) :
    (r.save m).result = .ok m
      ∧ (r.save m).state.table?
          = some (table.upsert (storedKey m) (Record.ofMessage m).row) := by
  have hperform := Server.perform_insert
    (s := r.server.noting (.insert (Record.ofMessage m).cells)) htable (key?_row m)
  rw [Record.cells_row] at hperform
  rw [save, Server.receive_of_carried hfails, hperform]
  exact ⟨rfl, Server.table?_setTable htable _⟩

theorem save_of_fails {r : Repository} {m : Message} {cause : Failure}
    (hfails : r.server.fails (.insert (Record.ofMessage m).cells) = some cause) :
    (r.save m).result = .error (.database cause) ∧ (r.save m).state.table? = r.table? := by
  rw [save, Server.receive_of_fails hfails]
  exact ⟨rfl, rfl⟩

theorem save_of_noTable {r : Repository} {m : Message}
    (hfails : r.server.fails (.insert (Record.ofMessage m).cells) = none)
    (htable : r.table? = none) :
    (r.save m).result = .error (.database Server.noTable)
      ∧ (r.save m).state.table? = r.table? := by
  have hperform := Server.perform_insert_noTable
    (s := r.server.noting (.insert (Record.ofMessage m).cells)) htable (Record.ofMessage m).cells
  rw [save, Server.receive_of_carried hfails, hperform]
  exact ⟨rfl, rfl⟩

theorem save_cases (r : Repository) (m : Message) :
    (∃ table, r.table? = some table ∧ (r.save m).result = .ok m
        ∧ (r.save m).state.table?
            = some (table.upsert (storedKey m) (Record.ofMessage m).row))
      ∨ ∃ cause, (r.save m).result = .error (.database cause)
        ∧ (r.save m).state.table? = r.table? := by
  cases hfails : r.server.fails (.insert (Record.ofMessage m).cells) with
  | some cause => exact .inr ⟨cause, save_of_fails hfails⟩
  | none =>
    cases htable : r.table? with
    | none => exact .inr ⟨Server.noTable, htable ▸ save_of_noTable hfails htable⟩
    | some table => exact .inl ⟨table, rfl, save_of_carried hfails htable⟩

theorem table?_save_isSome {r : Repository} (h : r.table?.isSome = true) (m : Message) :
    (r.save m).state.table?.isSome = true := by
  rcases r.save_cases m with ⟨table, -, -, hafter⟩ | ⟨cause, -, hsame⟩
  · rw [hafter]
    rfl
  · rwa [hsame]

@[simp] theorem fails_save (r : Repository) (m : Message) :
    (r.save m).state.server.fails = r.server.fails :=
  (Server.receive_settings r.server (some r.keyspace) (.insert (Record.ofMessage m).cells)).1

@[simp] theorem canned_save (r : Repository) (m : Message) :
    (r.save m).state.server.canned = r.server.canned :=
  (Server.receive_settings r.server (some r.keyspace) (.insert (Record.ofMessage m).cells)).2

theorem server_lookup (r : Repository) (messageId receiverId : Uuid) :
    (r.lookup messageId receiverId).state.server
      = r.server.noting (.select (Cell.ofUuid receiverId) (Cell.ofUuid messageId)) :=
  r.server.receive_select (some r.keyspace) messageId receiverId

@[simp] theorem keyspace_lookup (r : Repository) (messageId receiverId : Uuid) :
    (r.lookup messageId receiverId).state.keyspace = r.keyspace := rfl

@[simp] theorem table?_lookup (r : Repository) (messageId receiverId : Uuid) :
    (r.lookup messageId receiverId).state.table? = r.table? := by
  rw [table?, server_lookup, keyspace_lookup, Server.table?_noting, table?]

/-- A lookup fails if it is made to, and else reads what it is answered with: a reply in place of
the stored rows, or the first row that fits, where there is a table. -/
theorem result_lookup_eq (r : Repository) (messageId receiverId : Uuid) :
    (r.lookup messageId receiverId).result
      = match r.server.fails (.select (Cell.ofUuid receiverId) (Cell.ofUuid messageId)),
          r.server.canned, r.table? with
        | some cause, _, _ => .error (.database cause)
        | none, some reply, _ => readAnswer (.ok (.rows reply))
        | none, none, some table =>
          readAnswer (.ok (.rows ⟨Record.columns,
            ((table.first? messageId receiverId).map fun row => row.cells.map some).toList⟩))
        | none, none, none => .error (.database Server.noTable) := by
  cases hfails : r.server.fails (.select (Cell.ofUuid receiverId) (Cell.ofUuid messageId)) with
  | some cause => rw [lookup, Server.receive_of_fails hfails]; rfl
  | none =>
    rw [lookup, Server.receive_of_carried hfails]
    simp only [Server.perform_select, Server.table?_noting, Server.canned_noting]
    rw [← table?]
    cases r.server.canned <;> cases r.table? <;> rfl

theorem result_lookup {r : Repository} {messageId receiverId : Uuid} {table : Table}
    (hanswers : r.AnswersLookup messageId receiverId) (htable : r.table? = some table) :
    (r.lookup messageId receiverId).result
      = (ResultSet.firstMessage ⟨Record.columns,
          ((table.first? messageId receiverId).map fun row => row.cells.map some).toList⟩).mapError
            .malformedRow := by
  simp only [result_lookup_eq, hanswers.1, hanswers.2, htable, readAnswer]

theorem result_lookup_none {r : Repository} {messageId receiverId : Uuid} {table : Table}
    (hanswers : r.AnswersLookup messageId receiverId) (htable : r.table? = some table)
    (hfirst : table.firstKeyed? messageId receiverId = none) :
    (r.lookup messageId receiverId).result = .ok none := by
  rw [result_lookup hanswers htable, Rows.first?_eq_map, hfirst]
  rfl

theorem result_lookup_some {r : Repository} {messageId receiverId : Uuid} {table : Table}
    {m : Message} {time : Timestamp} (hanswers : r.AnswersLookup messageId receiverId)
    (htable : r.table? = some table)
    (hfirst : table.first? messageId receiverId = some (Record.ofMessage m).row)
    (htime : Timestamp.ofUnixMillis? m.createdAt.unixMillis = some time) :
    (r.lookup messageId receiverId).result = .ok (some { m with createdAt := time }) := by
  rw [result_lookup hanswers htable, hfirst]
  simp only [Option.map_some, Option.toList_some, Record.cells_row,
    ResultSet.firstMessage_cells htime, Except.mapError]

end Repository

end Messaging.Cql
