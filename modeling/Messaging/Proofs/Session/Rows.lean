import Messaging.Proofs.Cql.Repository
import Messaging.Proofs.Session.Calls
import Messaging.Store.Memory

/-!
Stores by the first row of each message, which is what a lookup reads. Only a save of the same
message in the same partition changes it, so along a run it stays as it is until a step saves under
the same identifiers.
-/
namespace Messaging

/-- A store that keeps a row for each message that it saves, until it is saved again. -/
class RowStore (σ : Type) (κ : outParam Type) [MessageStore σ] [Controlled σ κ] where
  Row : Type
  /-- The row of a message. -/
  row : Message → Row
  /-- The first row of a message in its receiver's partition. -/
  first? : σ → (messageId receiverId : Uuid) → Option Row
  /-- Lookups of a message are answered, and from the stored rows. -/
  Answers : σ → (messageId receiverId : Uuid) → Prop
  result_save : ∀ {s : σ} {m saved : Message},
    (MessageStore.save s m).result = .ok saved → saved = m
  first?_save : ∀ {s : σ} {m saved : Message}, first? s m.messageId m.receiverId = none →
    (MessageStore.save s m).result = .ok saved →
      first? (MessageStore.save s m).state m.messageId m.receiverId = some (row m)
  first?_save_of_not : ∀ (s : σ) {m : Message} {messageId receiverId : Uuid},
    ¬ m.IsOf messageId receiverId →
      first? (MessageStore.save s m).state messageId receiverId = first? s messageId receiverId
  first?_lookup : ∀ (s : σ) (askedId askedReceiver messageId receiverId : Uuid),
    first? (MessageStore.lookup s askedId askedReceiver).state messageId receiverId
      = first? s messageId receiverId
  first?_control : ∀ (k : κ) (s : σ) (messageId receiverId : Uuid),
    first? (Controlled.control k s) messageId receiverId = first? s messageId receiverId
  /-- A row tells its message, if that has a time in UTC and in whole milliseconds. -/
  result_lookup : ∀ {s : σ} {m : Message}, Answers s m.messageId m.receiverId →
    first? s m.messageId m.receiverId = some (row m) → m.createdAt.offset = .utc →
    m.createdAt.unixNanos % 1000000 = 0 →
      (MessageStore.lookup s m.messageId m.receiverId).result = .ok (some m)

namespace MemoryStore

@[simp] theorem isOf_key {m : Message} {messageId receiverId : Uuid} :
    (key m).isOf messageId receiverId = true ↔ m.IsOf messageId receiverId := by
  rw [RowKey.isOf_iff, key, Message.IsOf]

theorem save_of_ok {s : MemoryStore} {m saved : Message} (h : (s.save m).result = .ok saved) :
    saved = m ∧ (s.save m).state.rows = s.rows.upsert (key m) m := by
  cases hfailing : s.failing with
  | some e => simp [save, hfailing] at h
  | none =>
    simp only [save, hfailing, Except.ok.injEq] at h ⊢
    exact ⟨h.symm, trivial⟩

theorem rows_save (s : MemoryStore) (m : Message) :
    (s.save m).state.rows = s.rows.upsert (key m) m ∨ (s.save m).state.rows = s.rows := by
  cases hfailing : s.failing with
  | some e => exact .inr (by rw [save, hfailing])
  | none => exact .inl (by rw [save, hfailing])

theorem rows_lookup (s : MemoryStore) (messageId receiverId : Uuid) :
    (s.lookup messageId receiverId).state = s := by
  cases hfailing : s.failing <;> rw [lookup, hfailing]

end MemoryStore

instance : RowStore MemoryStore (Option ServiceError) where
  Row := Message
  row m := m
  first? s messageId receiverId := s.rows.first? messageId receiverId
  Answers s _ _ := s.failing = none
  result_save h := (MemoryStore.save_of_ok h).1
  first?_save := by
    intro s m saved hnone hsave
    rw [Rows.first?_eq_map, Option.map_eq_none_iff] at hnone
    change (s.save m).state.rows.first? _ _ = _
    rw [(MemoryStore.save_of_ok hsave).2, Rows.first?_eq_map,
      Rows.firstKeyed?_upsert_of_none hnone (MemoryStore.isOf_key.mpr ⟨rfl, rfl⟩), Option.map_some]
  first?_save_of_not := by
    intro s m messageId receiverId hof
    change (s.save m).state.rows.first? _ _ = _
    rcases s.rows_save m with hrows | hrows
    · rw [hrows, Rows.first?_eq_map, Rows.first?_eq_map,
        Rows.firstKeyed?_upsert_of_not (mt MemoryStore.isOf_key.mp hof)]
    · rw [hrows]
  first?_lookup := by
    intro s askedId askedReceiver messageId receiverId
    change (s.lookup askedId askedReceiver).state.rows.first? _ _ = _
    rw [MemoryStore.rows_lookup]
  first?_control _ _ _ _ := rfl
  result_lookup := by
    intro s m hanswers hfirst _ _
    change (s.lookup m.messageId m.receiverId).result = _
    rw [MemoryStore.lookup, hanswers]
    exact congrArg Except.ok hfirst

namespace Cql.Repository

def firstRow? (r : Repository) (messageId receiverId : Uuid) : Option Row :=
  r.table?.bind fun table => table.first? messageId receiverId

theorem firstRow?_eq {r : Repository} {table : Table} (h : r.table? = some table)
    (messageId receiverId : Uuid) :
    r.firstRow? messageId receiverId = table.first? messageId receiverId := by
  rw [firstRow?, h, Option.bind_some]

theorem firstRow?_congr {r r' : Repository} (h : r'.table? = r.table?)
    (messageId receiverId : Uuid) :
    r'.firstRow? messageId receiverId = r.firstRow? messageId receiverId := by
  rw [firstRow?, h, firstRow?]

end Cql.Repository

open Cql Cql.Repository in
instance : RowStore Repository Control where
  Row := Cql.Row
  row m := (Record.ofMessage m).row
  first? := firstRow?
  Answers := AnswersLookup
  result_save := by
    intro r m saved h
    change (r.save m).result = _ at h
    rcases r.save_cases m with ⟨table, -, hresult, -⟩ | ⟨cause, hresult, -⟩
    · rw [hresult] at h
      exact (Except.ok.inj h).symm
    · simp [hresult] at h
  first?_save := by
    intro r m saved hnone h
    change (r.save m).result = _ at h
    change (r.save m).state.firstRow? _ _ = _
    rcases r.save_cases m with ⟨table, htable, -, hafter⟩ | ⟨cause, hresult, -⟩
    · rw [firstRow?_eq htable, Rows.first?_eq_map, Option.map_eq_none_iff] at hnone
      rw [firstRow?_eq hafter, Rows.first?_eq_map,
        Rows.firstKeyed?_upsert_of_none hnone (isOf_storedKey.mpr ⟨rfl, rfl⟩), Option.map_some]
    · simp [hresult] at h
  first?_save_of_not := by
    intro r m messageId receiverId hof
    change (r.save m).state.firstRow? _ _ = _
    rcases r.save_cases m with ⟨table, htable, -, hafter⟩ | ⟨cause, -, hsame⟩
    · rw [firstRow?_eq hafter, firstRow?_eq htable, Rows.first?_eq_map, Rows.first?_eq_map,
        Rows.firstKeyed?_upsert_of_not (mt isOf_storedKey.mp hof)]
    · rw [firstRow?_congr hsame]
  first?_lookup r askedId askedReceiver messageId receiverId :=
    firstRow?_congr (r.table?_lookup askedId askedReceiver) messageId receiverId
  first?_control k r messageId receiverId := by cases k <;> rfl
  result_lookup := by
    intro r m hanswers hfirst hoffset hmillis
    obtain ⟨table, htable, hrow⟩ := Option.bind_eq_some_iff.mp hfirst
    exact result_lookup_some hanswers htable hrow
      (Timestamp.ofUnixMillis?_unixMillis_of_utc hoffset hmillis)

namespace Session

variable {σ κ : Type}

def saveAsked? (s : Service σ) : Step κ → Option Message
  | .save m => some m
  | st => (sent? st).map fun (moment, new) => new.toMessage (s.nextId moment) moment.now

theorem saveAsked?_of_sent {st : Step κ} {moment : Moment} {new : NewMessage}
    (h : sent? st = some (moment, new)) (s : Service σ) :
    saveAsked? s st = some (new.toMessage (s.nextId moment) moment.now) := by
  cases st <;> simp_all [sent?, saveAsked?]

variable [MessageStore σ] [Controlled σ κ]

def savesAsked (s : Service σ) : List (Step κ) → List Message
  | [] => []
  | st :: steps => (saveAsked? s st).toList ++ savesAsked (step s st).service steps

variable [RowStore σ κ] {messageId receiverId : Uuid}

/-- A step that does not save under these identifiers leaves their first row as it is. -/
theorem first?_step {s : Service σ} {st : Step κ}
    (h : ∀ m ∈ saveAsked? s st, ¬ m.IsOf messageId receiverId) :
    RowStore.first? (step s st).service.store messageId receiverId
      = RowStore.first? s.store messageId receiverId := by
  cases st with
  | request reading r =>
    cases hsent : sent? (.request reading r : Step κ) with
    | some call =>
      obtain ⟨moment, new⟩ := call
      rw [service_step_of_sent hsent]
      exact RowStore.first?_save_of_not s.store (h _ (by simp [saveAsked?, hsent]))
    | none =>
      cases hgot : got? (.request reading r : Step κ) with
      | some call =>
        obtain ⟨askedId, askedReceiver⟩ := call
        rw [service_step_of_got hgot]
        exact RowStore.first?_lookup s.store askedId askedReceiver messageId receiverId
      | none => rw [service_request_of_none hsent hgot]
  | send moment new => exact RowStore.first?_save_of_not s.store (h _ rfl)
  | get askedId askedReceiver =>
    exact RowStore.first?_lookup s.store askedId askedReceiver messageId receiverId
  | save m => exact RowStore.first?_save_of_not s.store (h _ rfl)
  | lookup askedId askedReceiver =>
    exact RowStore.first?_lookup s.store askedId askedReceiver messageId receiverId
  | rowCount => rfl
  | control k => exact RowStore.first?_control k s.store messageId receiverId

theorem first?_after {s : Service σ} {steps : List (Step κ)}
    (h : ∀ m ∈ savesAsked s steps, ¬ m.IsOf messageId receiverId) :
    RowStore.first? (after s steps).store messageId receiverId
      = RowStore.first? s.store messageId receiverId := by
  induction steps generalizing s with
  | nil => rfl
  | cons st steps ih =>
    simp only [savesAsked, List.mem_append, Option.mem_toList] at h
    rw [after_cons, ih fun m hm => h m (.inr hm), first?_step fun m hm => h m (.inl hm)]

end Session

end Messaging
