import Messaging.Proofs.Cql.Repository
import Messaging.Proofs.Cql.RowReading

/-!
Lookups that are answered with any rows at all. Columns that are not those of a record are refused,
even with no rows; else only the first row counts, and it gives a message exactly if each of its
cells holds what its column asks for. In which order the columns come makes no difference.
-/
namespace Messaging.Cql

open Record

/-- The result refuses a reply as one that is not made of records, in some wording. -/
def Undecodable (result : Except ServiceError (Option Message)) : Prop :=
  ∃ reason, result = .error (.malformedRow (.undecodable reason))

/-- The results are the same, but for the wording in which a reply is refused. -/
def Alike (result result' : Except ServiceError (Option Message)) : Prop :=
  result = result' ∨ Undecodable result ∧ Undecodable result'

/-- The replies differ only in the order of the columns, along with the cells of each row. -/
structure Rearranged (reply reply' : ResultSet) : Prop where
  columns : reply.columns.Perm reply'.columns
  rows : List.Forall₂
    (fun row row' => (reply.columns.zip row).Perm (reply'.columns.zip row')) reply.rows reply'.rows

/-- A reply of which each row has one cell for each column. -/
def ResultSet.grid {n : ℕ} (columns : Fin n → Column) (rows : List (Fin n → Cell)) : ResultSet :=
  ⟨List.ofFn columns, rows.map List.ofFn⟩

theorem zip_ofFn {α β : Type} {n : ℕ} (f : Fin n → α) (g : Fin n → β) :
    (List.ofFn f).zip (List.ofFn g) = List.ofFn fun i => (f i, g i) := by
  apply List.ext_getElem <;> simp

theorem rearranged_grid {n : ℕ} (columns : Fin n → Column) (rows : List (Fin n → Cell))
    (σ : Equiv.Perm (Fin n)) :
    Rearranged (.grid (columns ∘ σ) (rows.map (· ∘ σ))) (.grid columns rows) where
  columns := σ.ofFn_comp_perm columns
  rows := by
    rw [ResultSet.grid, ResultSet.grid, List.map_map, List.forall₂_map_left_iff,
      List.forall₂_map_right_iff, List.forall₂_same]
    intro row _
    rw [Function.comp_apply, zip_ofFn, zip_ofFn]
    exact σ.ofFn_comp_perm fun i => (columns i, row i)

namespace ResultSet

variable {columns : List Column} {row : List Cell} {rows : List (List Cell)}

theorem firstMessage_of_not_fits {reply : ResultSet} (h : ¬ Fits reply.columns) :
    ∃ reason, reply.firstMessage = .error (.undecodable reason) := by
  rw [firstMessage, firstRecord]
  cases hcheck : checkColumns reply.columns with
  | ok matched => exact absurd (fits_iff.mpr ⟨matched, hcheck⟩) h
  | error fault => exact ⟨fault.message, rfl⟩

theorem firstMessage_nil (h : Fits columns) : firstMessage ⟨columns, []⟩ = .ok none := by
  obtain ⟨matched, hmatched⟩ := h
  rw [firstMessage, firstRecord, checkColumns_eq_ok_iff.mpr hmatched]
  rfl

theorem firstMessage_cons {matched : List (Name × ColumnType)} (h : Matches columns matched) :
    firstMessage ⟨columns, row :: rows⟩
      = match ofRow matched row with
        | .error fault => .error (.undecodable fault.message)
        | .ok record => record.toMessage.map some := by
  rw [firstMessage, firstRecord, checkColumns_eq_ok_iff.mpr h]
  cases hrow : ofRow matched row <;> simp [hrow, bind, Except.bind, pure, Except.pure]

theorem firstMessage_later (rows' : List (List Cell)) :
    firstMessage ⟨columns, row :: rows⟩ = firstMessage ⟨columns, row :: rows'⟩ := rfl

theorem firstMessage_cons_eq_ok_iff (h : Fits columns) {m : Message} :
    firstMessage ⟨columns, row :: rows⟩ = .ok (some m) ↔ EachCell columns row (Name.Tells m) := by
  obtain ⟨matched, hmatched⟩ := h
  rw [← hmatched.exists_record_iff, firstMessage_cons hmatched]
  cases hrow : ofRow matched row with
  | error fault => simp
  | ok record => cases hmessage : record.toMessage <;> simp [hmessage, Except.map]

theorem firstMessage_cons_ne_none (h : Fits columns) :
    firstMessage ⟨columns, row :: rows⟩ ≠ .ok none := by
  obtain ⟨matched, hmatched⟩ := h
  rw [firstMessage_cons hmatched]
  cases ofRow matched row with
  | error fault => simp
  | ok record => cases hmessage : record.toMessage <;> simp [hmessage, Except.map]

end ResultSet

/-- The server answers the lookup of a message with this reply. -/
def AnsweredWith (r : Repository) (messageId receiverId : Uuid) (reply : ResultSet) : Prop :=
  (r.server.receive (some r.keyspace)
    (.select (Cell.ofUuid receiverId) (Cell.ofUuid messageId))).1 = .ok (.rows reply)

structure ReplyCases (reply : ResultSet) (result : Except ServiceError (Option Message)) :
    Prop where
  /-- Columns that are not those of a record are refused, whatever rows there are. -/
  misfit : ¬ Fits reply.columns → Undecodable result
  /-- There is no message exactly if there is no row. -/
  none_iff : Fits reply.columns → (result = .ok none ↔ reply.rows = [])
  /-- The first row gives the message that its cells tell, and no other. -/
  some_iff : ∀ row rows m, Fits reply.columns → reply.rows = row :: rows →
    (result = .ok (some m) ↔ EachCell reply.columns row (Name.Tells m))
  /-- It gives one if its cells are well formed. -/
  found : ∀ row rows, Fits reply.columns → reply.rows = row :: rows →
    EachCell reply.columns row Name.WellFormed → ∃ m, result = .ok (some m)
  /-- Else it is refused. -/
  malformed : ∀ row rows, Fits reply.columns → reply.rows = row :: rows →
    ¬ EachCell reply.columns row Name.WellFormed → ∃ fault, result = .error (.malformedRow fault)
  notDatabase : ∀ cause, result ≠ .error (.database cause)

theorem mapError_malformedRow_cases (x : Except RowFault (Option Message)) :
    (∃ fault, x.mapError ServiceError.malformedRow = .error (.malformedRow fault))
      ∨ ∃ found, x.mapError ServiceError.malformedRow = .ok found ∧ x = .ok found := by
  cases x with
  | error fault => exact .inl ⟨fault, rfl⟩
  | ok found => exact .inr ⟨found, rfl, rfl⟩

theorem replyCases_readAnswer (reply : ResultSet) :
    ReplyCases reply (Repository.readAnswer (.ok (.rows reply))) where
  misfit h := by
    obtain ⟨reason, hreason⟩ := ResultSet.firstMessage_of_not_fits h
    exact ⟨reason, by rw [Repository.readAnswer, hreason]; rfl⟩
  none_iff h := by
    obtain ⟨columns, rows⟩ := reply
    rw [Repository.readAnswer, mapError_eq_ok_iff]
    cases rows with
    | nil => simp [ResultSet.firstMessage_nil h]
    | cons row rows => simp [ResultSet.firstMessage_cons_ne_none h]
  some_iff row rows m h hrows := by
    obtain ⟨columns, _⟩ := reply
    obtain rfl := hrows
    rw [Repository.readAnswer, mapError_eq_ok_iff, ResultSet.firstMessage_cons_eq_ok_iff h]
  found row rows h hrows hcells := by
    obtain ⟨columns, _⟩ := reply
    obtain rfl := hrows
    obtain ⟨m, hm⟩ := exists_tells_iff.mpr hcells
    exact ⟨m, by rw [Repository.readAnswer, mapError_eq_ok_iff,
      ResultSet.firstMessage_cons_eq_ok_iff h]; exact hm⟩
  malformed row rows h hrows hcells := by
    obtain ⟨columns, _⟩ := reply
    obtain rfl := hrows
    rw [Repository.readAnswer]
    obtain hfault | ⟨found, -, hfound⟩ :=
      mapError_malformedRow_cases (ResultSet.firstMessage ⟨columns, row :: rows⟩)
    · exact hfault
    · cases found with
      | none => exact absurd hfound (ResultSet.firstMessage_cons_ne_none h)
      | some m =>
        have htells := (ResultSet.firstMessage_cons_eq_ok_iff h).mp hfound
        exact absurd (exists_tells_iff.mp ⟨m, htells⟩) hcells
  notDatabase cause := by
    rw [Repository.readAnswer]
    obtain ⟨fault, hfault⟩ | ⟨found, hfound, -⟩ := mapError_malformedRow_cases reply.firstMessage
    · simp [hfault]
    · simp [hfound]

theorem Rearranged.alike {reply reply' : ResultSet} (h : Rearranged reply reply') :
    Alike (Repository.readAnswer (.ok (.rows reply)))
      (Repository.readAnswer (.ok (.rows reply'))) := by
  obtain ⟨columns, rows⟩ := reply
  obtain ⟨columns', rows'⟩ := reply'
  obtain ⟨hcolumns, hrows⟩ := h
  dsimp only at hcolumns hrows
  by_cases hfits : Fits columns
  · obtain ⟨matched, hmatched⟩ := hfits
    obtain ⟨matched', hmatched', -⟩ := hmatched.perm hcolumns
    refine .inl ?_
    cases hrows with
    | nil =>
      rw [Repository.readAnswer, Repository.readAnswer, ResultSet.firstMessage_nil ⟨_, hmatched⟩,
        ResultSet.firstMessage_nil ⟨_, hmatched'⟩]
    | @cons row row' more more' hrow _ =>
      rw [hmatched.columns_eq, hmatched'.columns_eq, zip_map_columnOf, zip_map_columnOf,
        List.map_perm_map_iff injective_map_columnOf] at hrow
      have hread : ofRow matched row = ofRow matched' row' :=
        ofRow_eq_of_perm (perm_all_iff.mp hmatched.names).1 (perm_all_iff.mp hmatched'.names).1 hrow
      rw [Repository.readAnswer, Repository.readAnswer, ResultSet.firstMessage_cons hmatched,
        ResultSet.firstMessage_cons hmatched', hread]
  · have hfits' : ¬ Fits columns' := by
      rintro ⟨matched', hmatched'⟩
      obtain ⟨matched, hmatched, -⟩ := hmatched'.perm hcolumns.symm
      exact hfits ⟨matched, hmatched⟩
    exact .inr ⟨(replyCases_readAnswer ⟨columns, rows⟩).misfit hfits,
      (replyCases_readAnswer ⟨columns', rows'⟩).misfit hfits'⟩

theorem AnsweredWith.result_lookup {r : Repository} {messageId receiverId : Uuid}
    {reply : ResultSet} (h : AnsweredWith r messageId receiverId reply) :
    (r.lookup messageId receiverId).result = Repository.readAnswer (.ok (.rows reply)) := by
  rw [← h, Repository.lookup]

/-- Whatever rows a lookup is answered with, it is told what becomes of them, which depends neither
on the order of the columns nor on the rows after the first. -/
theorem replies_classified :
    (∀ (r : Repository) (messageId receiverId : Uuid) (reply : ResultSet),
      AnsweredWith r messageId receiverId reply →
        ReplyCases reply (r.lookup messageId receiverId).result)
      ∧ (∀ (r r' : Repository) (messageId receiverId : Uuid) (reply reply' : ResultSet),
        AnsweredWith r messageId receiverId reply → AnsweredWith r' messageId receiverId reply' →
          Rearranged reply reply' →
            Alike (r.lookup messageId receiverId).result (r'.lookup messageId receiverId).result)
      ∧ ∀ (r r' : Repository) (messageId receiverId : Uuid) (columns : List Column)
        (row : List Cell) (rows rows' : List (List Cell)),
        AnsweredWith r messageId receiverId ⟨columns, row :: rows⟩ →
          AnsweredWith r' messageId receiverId ⟨columns, row :: rows'⟩ →
            (r.lookup messageId receiverId).result = (r'.lookup messageId receiverId).result := by
  refine ⟨fun r messageId receiverId reply h => ?_,
    fun r r' messageId receiverId reply reply' h h' hrearranged => ?_,
    fun r r' messageId receiverId columns row rows rows' h h' => ?_⟩
  · rw [h.result_lookup]
    exact replyCases_readAnswer reply
  · rw [h.result_lookup, h'.result_lookup]
    exact hrearranged.alike
  · rw [h.result_lookup, h'.result_lookup, Repository.readAnswer, Repository.readAnswer,
      ResultSet.firstMessage_later]

def answering (reply : ResultSet) : Repository := ⟨⟨[], none, fun _ => none, some reply, []⟩, "chat"⟩

theorem answeredWith_answering (reply : ResultSet) (messageId receiverId : Uuid) :
    AnsweredWith (answering reply) messageId receiverId reply := by
  rw [AnsweredWith, Server.receive_of_carried rfl, Server.perform_select]
  rfl

def mayMessage : Message :=
  ⟨.nil, .nil, .nil, "", Timestamp.endOfMay.truncateToMillis, .text, false⟩

def tableColumn (i : Fin 7) : Column := Record.columns.get i

def mayCell (i : Fin 7) : Cell := some ((Record.ofMessage mayMessage).cells.get i)

/-- The row of the message with its columns the other way round, and a row of nulls. -/
def reversedReply : ResultSet :=
  .grid (tableColumn ∘ Fin.revPerm) ([mayCell, fun _ => none].map (· ∘ Fin.revPerm))

/-- A message is found in columns that come the other way round, before a row of nulls; with a
column missing the reply is refused even without rows. -/
theorem reversedReply_found :
    ((answering reversedReply).lookup .nil .nil).result = .ok (some mayMessage)
      ∧ Undecodable ((answering ⟨Record.columns.tail, []⟩).lookup .nil .nil).result := by
  have hfits : Fits Record.columns := ⟨_, checkColumns_eq_ok_iff.mp checkColumns_columns⟩
  have hmisfit : ¬ Fits Record.columns.tail := by
    rw [fits_iff]
    rintro ⟨matched, hmatched⟩
    have hmissing : checkColumns Record.columns.tail = .error (.missingColumn "message_id") := rfl
    rw [hmissing] at hmatched
    cases hmatched
  have htells : EachCell Record.columns ((Record.ofMessage mayMessage).cells.map some)
      (Name.Tells mayMessage) :=
    (ResultSet.firstMessage_cons_eq_ok_iff hfits).mp (ResultSet.firstMessage_cells rfl)
  have hsingle : ((answering (.grid tableColumn [mayCell])).lookup .nil .nil).result
      = .ok (some mayMessage) :=
    ((replies_classified.1 _ .nil .nil _ (answeredWith_answering _ _ _)).some_iff
      _ _ _ hfits rfl).mpr htells
  have hlater := replies_classified.2.2 (answering (.grid tableColumn [mayCell]))
    (answering (.grid tableColumn [mayCell, fun _ => none])) .nil .nil _ _ _ _
    (answeredWith_answering _ _ _) (answeredWith_answering _ _ _)
  have halike := replies_classified.2.1 (answering reversedReply)
    (answering (.grid tableColumn [mayCell, fun _ => none])) .nil .nil _ _
    (answeredWith_answering _ _ _) (answeredWith_answering _ _ _)
    (rearranged_grid tableColumn [mayCell, fun _ => none] Fin.revPerm)
  rw [← hlater, hsingle] at halike
  obtain hsame | ⟨-, reason, hreason⟩ := halike
  · exact ⟨hsame,
      (replies_classified.1 _ .nil .nil _ (answeredWith_answering _ _ _)).misfit hmisfit⟩
  · cases hreason

end Messaging.Cql
