import Messaging.Proofs.Cql.Script
import Messaging.Proofs.Session.Simulation

/-!
Stores by all their rows. A save that succeeds writes one row; every other call leaves the store as
it was, but for what no later call looks at.
-/
namespace Messaging

/-- The message's time is told in UTC, in whole milliseconds. -/
def Message.InMillis (m : Message) : Prop :=
  m.createdAt.offset = .utc ∧ m.createdAt.unixNanos % 1000000 = 0

/-- What is sent is in milliseconds, whatever finer time the clock shows. -/
theorem NewMessage.inMillis_toMessage (new : NewMessage) (messageId : Uuid) {now : Timestamp}
    (h : now.offset = .utc) : (new.toMessage messageId now).InMillis := by
  refine ⟨by rw [toMessage, Timestamp.offset_truncateToMillis, h], ?_⟩
  rw [toMessage, Timestamp.unixNanos_truncateToMillis]
  omega

/-- The key of a message's row, where moments are counted in units of so many nanoseconds. -/
def Message.rowKey (m : Message) (unit : Int) : RowKey :=
  ⟨m.receiverId, m.messageId, m.createdAt.unixNanos / unit⟩

/-- A store that keeps its rows in the order of their keys. -/
class TableStore (σ : Type) (κ : outParam Type) [MessageStore σ] [Controlled σ κ] extends
    RowStore σ κ where
  rows : σ → Rows Row
  /-- The unit of the moments in the keys, in nanoseconds. -/
  unit : Int
  /-- The stores differ at most in what no call looks at. -/
  Same : σ → σ → Prop
  /-- A lookup that is answered is answered from the rows. -/
  Honest : σ → Prop
  first?_eq : ∀ (s : σ) (messageId receiverId : Uuid),
    first? s messageId receiverId = (rows s).first? messageId receiverId
  rowCount_eq : ∀ s : σ, MessageStore.rowCount s = (rows s).length
  rows_save : ∀ {s : σ} {m saved : Message}, (MessageStore.save s m).result = .ok saved →
    rows (MessageStore.save s m).state = (rows s).upsert (m.rowKey unit) (row m)
  rows_control : ∀ (k : κ) (s : σ), rows (Controlled.control k s) = rows s
  rows_same : ∀ {s t : σ}, Same s t → rows s = rows t
  same_save : ∀ {s : σ} {m : Message} {e : ServiceError},
    (MessageStore.save s m).result = .error e → Same (MessageStore.save s m).state s
  same_lookup : ∀ (s : σ) (messageId receiverId : Uuid),
    Same (MessageStore.lookup s messageId receiverId).state s
  same_refl : ∀ s : σ, Same s s
  simulates : Session.Simulates Same (fun _ => True) (id : κ → κ) id
  honest_save : ∀ {s : σ} (m : Message), Honest s → Honest (MessageStore.save s m).state
  honest_lookup : ∀ {s : σ} (messageId receiverId : Uuid), Honest s →
    Honest (MessageStore.lookup s messageId receiverId).state
  answers_of_ok : ∀ {s : σ} {messageId receiverId : Uuid} {found : Option Message}, Honest s →
    (MessageStore.lookup s messageId receiverId).result = .ok found → Answers s messageId receiverId
  missing_of_ok : ∀ {s : σ} {messageId receiverId : Uuid} {found : Option Message}, Honest s →
    (MessageStore.lookup s messageId receiverId).result = .ok found →
    first? s messageId receiverId = none → found = none

namespace MemoryStore

theorem key_eq_rowKey (m : Message) : key m = m.rowKey 1 := by
  rw [key, Message.rowKey, Int.ediv_one]

theorem state_save_of_error {s : MemoryStore} {m : Message} {e : ServiceError}
    (h : (s.save m).result = .error e) : (s.save m).state = s := by
  cases hfailing : s.failing with
  | some e => rw [save, hfailing]
  | none => simp [save, hfailing] at h

theorem lookup_of_ok {s : MemoryStore} {messageId receiverId : Uuid} {found : Option Message}
    (h : (s.lookup messageId receiverId).result = .ok found) :
    s.failing = none ∧ found = s.rows.first? messageId receiverId := by
  cases hfailing : s.failing with
  | some e => simp [lookup, hfailing] at h
  | none =>
    simp only [lookup, hfailing, Except.ok.injEq] at h
    exact ⟨rfl, h.symm⟩

end MemoryStore

instance : TableStore MemoryStore (Option ServiceError) where
  rows := MemoryStore.rows
  unit := 1
  Same s t := s = t
  Honest _ := True
  first?_eq _ _ _ := rfl
  rowCount_eq _ := rfl
  rows_save h := by
    rw [← MemoryStore.key_eq_rowKey]
    exact (MemoryStore.save_of_ok h).2
  rows_control _ _ := rfl
  rows_same := by
    rintro s t rfl
    rfl
  same_save := MemoryStore.state_save_of_error
  same_lookup := MemoryStore.rows_lookup
  same_refl _ := rfl
  simulates :=
    { save := by
        rintro s t m rfl -
        exact ⟨rfl, rfl⟩
      lookup := by
        rintro s t messageId receiverId rfl
        exact ⟨rfl, rfl⟩
      rowCount := by
        rintro s t rfl
        rfl
      control := by
        rintro s t i rfl
        rfl }
  honest_save _ _ := trivial
  honest_lookup _ _ _ := trivial
  answers_of_ok _ h := (MemoryStore.lookup_of_ok h).1
  missing_of_ok _ h hfirst := (MemoryStore.lookup_of_ok h).2.trans hfirst

namespace Cql

namespace Server

theorem receive_recalling (s : Server) (received : List Request) (current : Option String)
    (q : Request) :
    (s.recalling received).receive current q
      = ((s.receive current q).1, (s.receive current q).2.recalling (received ++ [q])) := by
  cases hfails : s.fails q with
  | some cause =>
    rw [receive_of_fails hfails, receive_of_fails (s := s.recalling received) hfails]
    rfl
  | none =>
    rw [receive_of_carried hfails, receive_of_carried (s := s.recalling received) hfails]
    exact (s.noting q).perform_recalling (received ++ [q]) current q

theorem receive_of_error {s : Server} {current : Option String} {q : Request} {cause : Failure}
    (h : (s.receive current q).1 = .error cause) : (s.receive current q).2 = s.noting q := by
  cases hfails : s.fails q with
  | some cause => rw [receive_of_fails hfails]
  | none =>
    rw [receive_of_carried hfails] at h ⊢
    exact perform_snd_of_error h

end Server

theorem storedKey_eq_rowKey (m : Message) : storedKey m = m.rowKey 1000000 := by
  rw [storedKey, Message.rowKey, m.createdAt.unixMillis_eq_unixNanos_div]

namespace Repository

/-- The stores differ at most in the requests that their servers have received. -/
def Same (r r' : Repository) : Prop :=
  r'.keyspace = r.keyspace ∧ ∃ received, r'.server = r.server.recalling received

/-- No lookup is answered in place of the stored rows. -/
def Honest (r : Repository) : Prop := r.server.canned = none

theorem Same.refl (r : Repository) : Same r r := ⟨rfl, r.server.received, rfl⟩

theorem save_recalling (r : Repository) (received : List Request) (m : Message) :
    (save { r with server := r.server.recalling received } m).result = (r.save m).result
      ∧ Same (r.save m).state (save { r with server := r.server.recalling received } m).state := by
  simp only [save, Server.receive_recalling]
  exact ⟨trivial, rfl, _, rfl⟩

theorem lookup_recalling (r : Repository) (received : List Request) (messageId receiverId : Uuid) :
    (lookup { r with server := r.server.recalling received } messageId receiverId).result
        = (r.lookup messageId receiverId).result
      ∧ Same (r.lookup messageId receiverId).state
          (lookup { r with server := r.server.recalling received } messageId receiverId).state := by
  simp only [lookup, Server.receive_recalling]
  exact ⟨trivial, rfl, _, rfl⟩

theorem Same.exists_recalling {r r' : Repository} (h : Same r r') :
    ∃ received, r' = { r with server := r.server.recalling received } := by
  obtain ⟨hkeyspace, received, hserver⟩ := h
  refine ⟨received, ?_⟩
  cases r'
  simp_all

theorem same_noting {r r' : Repository} {q : Request} (hkeyspace : r'.keyspace = r.keyspace)
    (hserver : r'.server = r.server.noting q) : Same r' r :=
  ⟨hkeyspace.symm, r.server.received, by rw [hserver]; rfl⟩

theorem same_save_of_error {r : Repository} {m : Message} {e : ServiceError}
    (h : (r.save m).result = .error e) : Same (r.save m).state r := by
  refine same_noting (q := .insert (Record.ofMessage m).cells) rfl ?_
  rw [save] at h ⊢
  rcases hreceive : r.server.receive (some r.keyspace) (.insert (Record.ofMessage m).cells) with
    ⟨cause | answer, server⟩
  · have hserver := Server.receive_of_error (congrArg Prod.fst hreceive)
    rw [hreceive] at hserver
    exact hserver
  · simp [hreceive] at h

theorem same_lookup (r : Repository) (messageId receiverId : Uuid) :
    Same (r.lookup messageId receiverId).state r :=
  same_noting rfl (r.server_lookup messageId receiverId)

/-- An honest server answers a lookup from its table only, and not without one. -/
theorem lookup_of_ok {r : Repository} {messageId receiverId : Uuid} {found : Option Message}
    (hhonest : r.Honest) (h : (r.lookup messageId receiverId).result = .ok found) :
    r.AnswersLookup messageId receiverId ∧ ∃ table, r.table? = some table := by
  rw [Honest] at hhonest
  rw [result_lookup_eq, hhonest] at h
  cases hfails : r.server.fails (.select (Cell.ofUuid receiverId) (Cell.ofUuid messageId)) with
  | some cause => simp [hfails] at h
  | none =>
    cases htable : r.table? with
    | some table => exact ⟨⟨hhonest, hfails⟩, table, rfl⟩
    | none => simp [hfails, htable] at h

theorem missing_of_ok {r : Repository} {messageId receiverId : Uuid} {found : Option Message}
    (hhonest : r.Honest) (h : (r.lookup messageId receiverId).result = .ok found)
    (hfirst : r.firstRow? messageId receiverId = none) : found = none := by
  obtain ⟨hanswers, table, htable⟩ := lookup_of_ok hhonest h
  rw [firstRow?_eq htable, Rows.first?_eq_map, Option.map_eq_none_iff] at hfirst
  rw [result_lookup_none hanswers htable hfirst] at h
  exact (Except.ok.inj h).symm

end Repository

end Cql

open Cql Cql.Repository in
instance : TableStore Repository Control where
  rows r := r.server.rows r.keyspace
  unit := 1000000
  Same := Repository.Same
  Honest := Repository.Honest
  first?_eq r messageId receiverId := by
    change r.firstRow? messageId receiverId = (r.table?.getD []).first? messageId receiverId
    rw [firstRow?]
    cases r.table? <;> rfl
  rowCount_eq _ := rfl
  rows_save := by
    intro r m saved h
    change (r.save m).result = _ at h
    rcases r.save_cases m with ⟨table, htable, -, hafter⟩ | ⟨cause, hresult, -⟩
    · change (r.save m).state.table?.getD [] = (r.table?.getD []).upsert _ _
      rw [htable, hafter, storedKey_eq_rowKey]
      rfl
    · simp [hresult] at h
  rows_control k r := by cases k <;> rfl
  rows_same := by
    rintro r r' h
    obtain ⟨received, rfl⟩ := h.exists_recalling
    rfl
  same_save := same_save_of_error
  same_lookup := Repository.same_lookup
  same_refl := Same.refl
  simulates :=
    { save := by
        rintro r r' m h -
        obtain ⟨received, rfl⟩ := h.exists_recalling
        obtain ⟨hresult, hsame⟩ := r.save_recalling received m
        exact ⟨hresult.symm, hsame⟩
      lookup := by
        rintro r r' messageId receiverId h
        obtain ⟨received, rfl⟩ := h.exists_recalling
        obtain ⟨hresult, hsame⟩ := r.lookup_recalling received messageId receiverId
        exact ⟨hresult.symm, hsame⟩
      rowCount := by
        rintro r r' h
        obtain ⟨received, rfl⟩ := h.exists_recalling
        rfl
      control := by
        rintro r r' k h
        obtain ⟨received, rfl⟩ := h.exists_recalling
        cases k <;> exact ⟨rfl, received, rfl⟩ }
  honest_save m h := (canned_save _ m).trans h
  honest_lookup messageId receiverId h := by
    change (Repository.lookup _ messageId receiverId).state.server.canned = none
    rw [server_lookup]
    exact h
  answers_of_ok hhonest h := (lookup_of_ok hhonest h).1
  missing_of_ok := missing_of_ok

end Messaging
