import Messaging.Proofs.Session.Simulation

/-!
Sessions that someone cannot tell apart. An observer takes certain messages for the same, and
certain errors of a store. Stores that have been asked to save such messages, and that fail with
such errors, hold what is the same to the observer, and every call of a service gives what is the
same again.
-/
theorem Option.rel_refl {α : Type} {R : α → α → Prop} (h : ∀ a, R a a) (x : Option α) :
    Option.Rel R x x := by
  cases x with
  | none => exact .none
  | some a => exact .some (h a)

theorem Option.rel_cases {α β : Type} {R : α → β → Prop} {x : Option α} {y : Option β}
    (h : Option.Rel R x y) :
    (x = none ∧ y = none) ∨ ∃ a b, x = some a ∧ y = some b ∧ R a b := by
  cases h with
  | none => exact .inl ⟨rfl, rfl⟩
  | some hab => exact .inr ⟨_, _, rfl, rfl, hab⟩

namespace Messaging

/-- The messages differ in their senders and their bodies at most. -/
structure Message.SameEnvelope (m n : Message) : Prop where
  messageId : m.messageId = n.messageId
  receiverId : m.receiverId = n.receiverId
  createdAt : m.createdAt = n.createdAt
  type : m.type = n.type
  hasRead : m.hasRead = n.hasRead

/-- Who does not tell all messages apart, nor all errors of a store. What a message is kept under,
and when and how it is sent, is always told apart. -/
structure Observer where
  SameMessage : Message → Message → Prop
  SameError : ServiceError → ServiceError → Prop
  message_refl : ∀ m, SameMessage m m
  error_refl : ∀ e, SameError e e
  envelope : ∀ {m n}, SameMessage m n → m.SameEnvelope n
  at_time : ∀ {m n} (time : Timestamp), SameMessage m n →
    SameMessage { m with createdAt := time } { n with createdAt := time }

/-- How a call went: the error that it met, if it met one. -/
def fate {α : Type} : Except ServiceError α → Option ServiceError
  | .ok _ => none
  | .error e => some e

namespace Observer

section Results

variable (o : Observer) {α β : Type}

/-- Both calls gave related values, or both met an error that is the same to the observer. -/
inductive SameResult (R : α → α → Prop) : Except ServiceError α → Except ServiceError α → Prop
  | ok {a b : α} : R a b → SameResult R (.ok a) (.ok b)
  | error {e f : ServiceError} : o.SameError e f → SameResult R (.error e) (.error f)

/-- Both calls went well, or both met an error that is the same to the observer. -/
def SameFate (x y : Except ServiceError α) : Prop := Option.Rel o.SameError (fate x) (fate y)

def SameFound (x y : Except ServiceError (Option Message)) : Prop :=
  o.SameResult (Option.Rel o.SameMessage) x y

variable {o}

theorem SameResult.fate {R : α → α → Prop} {x y : Except ServiceError α}
    (h : o.SameResult R x y) : o.SameFate x y := by
  cases h with
  | ok _ => exact .none
  | error herror => exact .some herror

theorem sameFound_refl (x : Except ServiceError (Option Message)) : o.SameFound x x := by
  rcases x with e | _ | m
  · exact .error (o.error_refl e)
  · exact .ok .none
  · exact .ok (.some (o.message_refl m))

theorem SameFound.foundOrError {x y : Except ServiceError (Option Message)}
    (h : o.SameFound x y) :
    o.SameResult o.SameMessage (Service.foundOrError x) (Service.foundOrError y) := by
  rcases h with hfound | herror
  · cases hfound with
    | none => exact .error (o.error_refl .notFound)
    | some hmessage => exact .ok hmessage
  · exact .error herror

theorem SameFate.countSave_eq {x y : Except ServiceError Message} (h : o.SameFate x y)
    (c : Counters) : c.countSave x = c.countSave y := by
  cases x <;> cases y <;> first | rfl | cases h

theorem SameFound.countFetch_eq {x y : Except ServiceError (Option Message)}
    (h : o.SameFound x y) (c : Counters) : c.countFetch x = c.countFetch y := by
  rcases h with hfound | herror
  · cases hfound <;> rfl
  · rfl

end Results

section Rows

variable (o : Observer)

open Cql

def SameReply (reply reply' : ResultSet) : Prop :=
  o.SameFound (Repository.readAnswer (.ok (.rows reply)))
    (Repository.readAnswer (.ok (.rows reply')))

def SameRow (row row' : Row) : Prop :=
  o.SameReply ⟨Record.columns, [row.cells.map some]⟩ ⟨Record.columns, [row'.cells.map some]⟩

variable {o}

theorem sameReply_refl (reply : ResultSet) : o.SameReply reply reply := sameFound_refl _

theorem sameRow_refl (row : Row) : o.SameRow row row := sameReply_refl _

/-- The rows of messages are read alike if the messages are the same, also where their time is past
what can be read. -/
theorem sameRow_row {m n : Message} (h : o.SameMessage m n) :
    o.SameRow (Record.ofMessage m).row (Record.ofMessage n).row := by
  have htime := (o.envelope h).createdAt
  rw [SameRow, SameReply, Repository.readAnswer, Repository.readAnswer, Record.cells_row,
    Record.cells_row]
  cases hread : Timestamp.ofUnixMillis? m.createdAt.unixMillis with
  | some time =>
    rw [ResultSet.firstMessage_cells hread, ResultSet.firstMessage_cells (htime ▸ hread)]
    exact .ok (.some (o.at_time time h))
  | none =>
    rw [ResultSet.firstMessage_cells_of_none hread,
      ResultSet.firstMessage_cells_of_none (htime ▸ hread)]
    exact .error (o.error_refl _)

end Rows

end Observer

/-- Interferences with a store, some of which do the same as far as an observer can tell. -/
class ObservedControl (κ : Type) where
  Same : Observer → κ → κ → Prop
  same_refl : ∀ (o : Observer) (k : κ), Same o k k

/-- A store that an observer may look at: two such stores that are indistinct to the observer give
what is the same, and stay indistinct. -/
class ObservedStore (σ : Type) (κ : outParam Type) [MessageStore σ] [Controlled σ κ]
    [ObservedControl κ] extends RowStore σ κ where
  Indistinct : Observer → σ → σ → Prop
  indistinct_refl : ∀ (o : Observer) (s : σ), Indistinct o s s
  save : ∀ {o : Observer} {s t : σ} {m n : Message}, Indistinct o s t → o.SameMessage m n →
    o.SameFate (MessageStore.save s m).result (MessageStore.save t n).result →
    Indistinct o (MessageStore.save s m).state (MessageStore.save t n).state
  /-- One and the same message is saved by both, or by neither. -/
  fate_save : ∀ {o : Observer} {s t : σ} (m : Message), Indistinct o s t →
    o.SameFate (MessageStore.save s m).result (MessageStore.save t m).result
  lookup : ∀ {o : Observer} {s t : σ} (messageId receiverId : Uuid), Indistinct o s t →
    o.SameFound (MessageStore.lookup s messageId receiverId).result
        (MessageStore.lookup t messageId receiverId).result
      ∧ Indistinct o (MessageStore.lookup s messageId receiverId).state
          (MessageStore.lookup t messageId receiverId).state
  control : ∀ {o : Observer} {s t : σ} {k l : κ}, Indistinct o s t → ObservedControl.Same o k l →
    Indistinct o (Controlled.control k s) (Controlled.control l t)

namespace MemoryStore

/-- The stores hold the same messages under the same keys, and fail with the same error. -/
structure Indistinct (o : Observer) (s t : MemoryStore) : Prop where
  rows : Rows.Matched o.SameMessage s.rows t.rows
  failing : Option.Rel o.SameError s.failing t.failing

theorem fate_save (s : MemoryStore) (m : Message) : fate (s.save m).result = s.failing := by
  cases hfailing : s.failing <;> simp [save, hfailing, fate]

variable {o : Observer} {s t : MemoryStore} {m n : Message}

theorem Indistinct.save (h : Indistinct o s t) (hm : o.SameMessage m n) :
    Indistinct o (s.save m).state (t.save n).state := by
  have hkey : key m = key n := by
    rw [key, key, (o.envelope hm).receiverId, (o.envelope hm).messageId, (o.envelope hm).createdAt]
  obtain ⟨rows, failing⟩ := s
  obtain ⟨rows', failing'⟩ := t
  obtain ⟨hrows, hfailing⟩ := h
  cases hfailing with
  | none =>
    refine ⟨?_, .none⟩
    rw [MemoryStore.save, MemoryStore.save, hkey]
    exact hrows.upsert (key n) hm
  | some herror => exact ⟨hrows, .some herror⟩

theorem Indistinct.lookup (h : Indistinct o s t) (messageId receiverId : Uuid) :
    o.SameFound (s.lookup messageId receiverId).result (t.lookup messageId receiverId).result := by
  obtain ⟨rows, failing⟩ := s
  obtain ⟨rows', failing'⟩ := t
  obtain ⟨hrows, hfailing⟩ := h
  cases hfailing with
  | none => exact .ok (hrows.first? messageId receiverId)
  | some herror => exact .error herror

end MemoryStore

instance : ObservedControl (Option ServiceError) where
  Same o := Option.Rel o.SameError
  same_refl o := Option.rel_refl o.error_refl

instance : ObservedStore MemoryStore (Option ServiceError) where
  Indistinct := MemoryStore.Indistinct
  indistinct_refl o s := ⟨Rows.matched_refl o.message_refl s.rows, Option.rel_refl o.error_refl _⟩
  save h hm _ := h.save hm
  fate_save {o s t} m h := by
    change Option.Rel o.SameError (fate (s.save m).result) (fate (t.save m).result)
    rw [MemoryStore.fate_save, MemoryStore.fate_save]
    exact h.failing
  lookup {o s t} messageId receiverId h := by
    refine ⟨h.lookup messageId receiverId, ?_⟩
    change MemoryStore.Indistinct o (s.lookup messageId receiverId).state
      (t.lookup messageId receiverId).state
    rw [MemoryStore.rows_lookup, MemoryStore.rows_lookup]
    exact h
  control h hk := ⟨h.rows, hk⟩

namespace Cql.Repository

def SameCause (o : Observer) (cause cause' : Failure) : Prop :=
  o.SameError (.database cause) (.database cause')

theorem sameCause_refl (o : Observer) (cause : Failure) : SameCause o cause cause :=
  o.error_refl _

/-- The stores answer with the same rows or replies, and refuse the same requests for the same
causes. -/
structure Indistinct (o : Observer) (r r' : Repository) : Prop where
  keyspace : r.keyspace = r'.keyspace
  table : Option.Rel (Rows.Matched o.SameRow) r.table? r'.table?
  fails : ∀ q, Option.Rel (SameCause o) (r.server.fails q) (r'.server.fails q)
  canned : Option.Rel o.SameReply r.server.canned r'.server.canned

inductive SameControl (o : Observer) : Control → Control → Prop
  | fail {fails fails' : Request → Option Failure} :
    (∀ q, Option.Rel (SameCause o) (fails q) (fails' q)) →
    SameControl o (.fail fails) (.fail fails')
  | reply {canned canned' : Option ResultSet} :
    Option.Rel o.SameReply canned canned' → SameControl o (.reply canned) (.reply canned')

variable {o : Observer} {r r' : Repository} {m n : Message}

theorem fate_save (r : Repository) (m : Message) :
    fate (r.save m).result
      = match r.server.fails (.insert (Record.ofMessage m).cells), r.table? with
        | some cause, _ => some (.database cause)
        | none, some _ => none
        | none, none => some (.database Server.noTable) := by
  cases hfails : r.server.fails (.insert (Record.ofMessage m).cells) with
  | some cause => simp only [(save_of_fails hfails).1, fate]
  | none =>
    cases htable : r.table? with
    | none => simp only [(save_of_noTable hfails htable).1, fate]
    | some table => simp only [(save_of_carried hfails htable).1, fate]

theorem Indistinct.fate_save (h : Indistinct o r r') (m : Message) :
    o.SameFate (r.save m).result (r'.save m).result := by
  rw [Observer.SameFate, Repository.fate_save, Repository.fate_save]
  rcases Option.rel_cases (h.fails (.insert (Record.ofMessage m).cells)) with
    ⟨hs, ht⟩ | ⟨cause, cause', hs, ht, hsame⟩
  · rcases Option.rel_cases h.table with ⟨hu, hv⟩ | ⟨table, table', hu, hv, -⟩
    · simp only [hs, ht, hu, hv]
      exact .some (o.error_refl _)
    · simp only [hs, ht, hu, hv]
      exact .none
  · simp only [hs, ht]
    exact .some hsame

theorem Indistinct.table_save (h : Indistinct o r r') (hm : o.SameMessage m n)
    (hfate : o.SameFate (r.save m).result (r'.save n).result) :
    Option.Rel (Rows.Matched o.SameRow) (r.save m).state.table? (r'.save n).state.table? := by
  have henvelope := o.envelope hm
  have hkey : storedKey m = storedKey n := by
    rw [storedKey, storedKey, henvelope.receiverId, henvelope.messageId, henvelope.createdAt]
  have htables := h.table
  rcases r.save_cases m with ⟨table, htable, hresult, hafter⟩ | ⟨cause, hresult, hsame⟩ <;>
    rcases r'.save_cases n with
      ⟨table', htable', hresult', hafter'⟩ | ⟨cause', hresult', hsame'⟩ <;>
    rw [hresult, hresult'] at hfate
  · rw [htable, htable'] at htables
    cases htables with
    | some hrows =>
      rw [hafter, hafter', hkey]
      exact .some (hrows.upsert _ (Observer.sameRow_row hm))
  · cases hfate
  · cases hfate
  · rwa [hsame, hsame']

theorem Indistinct.save (h : Indistinct o r r') (hm : o.SameMessage m n)
    (hfate : o.SameFate (r.save m).result (r'.save n).result) :
    Indistinct o (r.save m).state (r'.save n).state where
  keyspace := h.keyspace
  table := h.table_save hm hfate
  fails := by simpa only [fails_save] using h.fails
  canned := by simpa only [canned_save] using h.canned

theorem sameReply_first? {table table' : Table} (h : Rows.Matched o.SameRow table table')
    (messageId receiverId : Uuid) :
    o.SameReply
      ⟨Record.columns,
        ((table.first? messageId receiverId).map fun row => row.cells.map some).toList⟩
      ⟨Record.columns,
        ((table'.first? messageId receiverId).map fun row => row.cells.map some).toList⟩ := by
  rcases Option.rel_cases (h.first? messageId receiverId) with
    ⟨hs, ht⟩ | ⟨row, row', hs, ht, hrow⟩
  · rw [hs, ht]
    exact Observer.sameFound_refl _
  · rw [hs, ht]
    exact hrow

theorem Indistinct.result_lookup (h : Indistinct o r r') (messageId receiverId : Uuid) :
    o.SameFound (r.lookup messageId receiverId).result (r'.lookup messageId receiverId).result := by
  rw [result_lookup_eq, result_lookup_eq]
  rcases Option.rel_cases (h.fails (.select (Cell.ofUuid receiverId) (Cell.ofUuid messageId))) with
    ⟨hs, ht⟩ | ⟨cause, cause', hs, ht, hsame⟩
  · rcases Option.rel_cases h.canned with ⟨hu, hv⟩ | ⟨reply, reply', hu, hv, hreply⟩
    · rcases Option.rel_cases h.table with ⟨hx, hy⟩ | ⟨table, table', hx, hy, hrows⟩
      · simp only [hs, ht, hu, hv, hx, hy]
        exact .error (o.error_refl _)
      · simp only [hs, ht, hu, hv, hx, hy]
        exact sameReply_first? hrows messageId receiverId
    · simp only [hs, ht, hu, hv]
      exact hreply
  · simp only [hs, ht]
    exact .error hsame

theorem Indistinct.lookup (h : Indistinct o r r') (messageId receiverId : Uuid) :
    Indistinct o (r.lookup messageId receiverId).state (r'.lookup messageId receiverId).state where
  keyspace := h.keyspace
  table := by simpa only [table?_lookup] using h.table
  fails := by
    rw [server_lookup, server_lookup]
    exact h.fails
  canned := by
    rw [server_lookup, server_lookup]
    exact h.canned

end Cql.Repository

open Cql Cql.Repository in
instance : ObservedControl Control where
  Same := SameControl
  same_refl o k := by
    cases k with
    | fail fails => exact .fail fun q => Option.rel_refl (sameCause_refl o) _
    | reply canned => exact .reply (Option.rel_refl Observer.sameReply_refl _)

open Cql Cql.Repository in
instance : ObservedStore Repository Control where
  Indistinct := Repository.Indistinct
  indistinct_refl o r :=
    { keyspace := rfl
      table := Option.rel_refl (Rows.matched_refl Observer.sameRow_refl) _
      fails := fun _ => Option.rel_refl (sameCause_refl o) _
      canned := Option.rel_refl Observer.sameReply_refl _ }
  save := Indistinct.save
  fate_save m h := h.fate_save m
  lookup messageId receiverId h :=
    ⟨h.result_lookup messageId receiverId, h.lookup messageId receiverId⟩
  control h hk := by
    cases hk with
    | fail hfails => exact ⟨h.keyspace, h.table, hfails, h.canned⟩
    | reply hcanned => exact ⟨h.keyspace, h.table, h.fails, hcanned⟩

end Messaging
