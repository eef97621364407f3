import Messaging.Proofs.Session.Fetching
import Messaging.Proofs.Session.Tables

/-!
Only what is acknowledged is written. An answer with status 201 stands for exactly one row, that of
the message in the answer; whatever is answered otherwise has left no trace in the store.
-/
namespace Messaging.Session

variable {σ κ : Type} [MessageStore σ] [Controlled σ κ] [TableStore σ κ]

/-- A step touches the rows only by the one message that it asks the store to save. -/
theorem rows_step (s : Service σ) (st : Step κ) :
    TableStore.rows (step s st).service.store = TableStore.rows s.store
      ∨ ∃ m, saveAsked? s st = some m ∧ TableStore.rows (step s st).service.store
        = (TableStore.rows s.store).upsert (m.rowKey (TableStore.unit σ)) (RowStore.row m) := by
  have hsave : ∀ m, TableStore.rows (MessageStore.save s.store m).state = TableStore.rows s.store
      ∨ ∃ m', some m = some m' ∧ TableStore.rows (MessageStore.save s.store m).state
        = (TableStore.rows s.store).upsert (m'.rowKey (TableStore.unit σ)) (RowStore.row m') := by
    intro m
    cases hresult : (MessageStore.save s.store m).result with
    | ok saved => exact .inr ⟨m, rfl, TableStore.rows_save hresult⟩
    | error e => exact .inl (TableStore.rows_same (TableStore.same_save hresult))
  have hlookup : ∀ messageId receiverId,
      TableStore.rows (MessageStore.lookup s.store messageId receiverId).state
        = TableStore.rows s.store :=
    fun messageId receiverId => TableStore.rows_same (TableStore.same_lookup _ _ _)
  cases hsent : sent? st with
  | some call =>
    rw [service_step_of_sent hsent, saveAsked?_of_sent hsent]
    exact hsave _
  | none =>
    cases hgot : got? st with
    | some call =>
      rw [service_step_of_got hgot]
      exact .inl (hlookup _ _)
    | none =>
      cases st with
      | request reading r => exact .inl (by rw [service_request_of_none hsent hgot])
      | send moment new => simp [sent?] at hsent
      | get messageId receiverId => simp [got?] at hgot
      | save m => exact hsave m
      | lookup messageId receiverId => exact .inl (hlookup messageId receiverId)
      | rowCount => exact .inl rfl
      | control k => exact .inl (TableStore.rows_control k s.store)

theorem sorted_after {s : Service σ} (h : Rows.Sorted (TableStore.rows s.store))
    (steps : List (Step κ)) : Rows.Sorted (TableStore.rows (after s steps).store) := by
  induction steps generalizing s with
  | nil => exact h
  | cons st steps ih =>
    apply ih
    rcases rows_step s st with hsame | ⟨m, -, hwritten⟩
    · rwa [hsame]
    · rw [hwritten]
      exact Rows.sorted_upsert h _ _

/-- The rows are those of before, and whatever is done next is answered as it would have been
before, had the next identifier been the same. -/
structure Traceless (s t : Service σ) : Prop where
  rows : TableStore.rows t.store = TableStore.rows s.store
  answers : ∀ later : List (Step κ),
    (run t later).map Outcome.answer
      = (run { s with sequence := t.sequence } later).map Outcome.answer

theorem traceless_of_same {s t : Service σ} (hstore : TableStore.Same t.store s.store)
    (hnode : t.node = s.node) : Traceless s t := by
  refine ⟨TableStore.rows_same hstore, fun later => ?_⟩
  have halike : Alike TableStore.Same t { s with sequence := t.sequence } := ⟨hstore, hnode, rfl⟩
  have hagree := (TableStore.simulates.agree halike later fun _ _ => trivial).answers
  simpa only [Step.map_id, List.map_id] using hagree

theorem traceless_send {s : Service σ} {moment : Moment} {new : NewMessage} {e : ServiceError}
    (h : (s.send moment new).result = .error e) : Traceless s (s.send moment new).state :=
  traceless_of_same (TableStore.same_save h) rfl

theorem traceless_get (s : Service σ) (messageId receiverId : Uuid) :
    Traceless s (s.get messageId receiverId).state :=
  traceless_of_same (TableStore.same_lookup _ _ _) rfl

/-- A request that is not answered with status 201 leaves no trace: it has saved nothing, for what
is saved can be written into the answer. -/
theorem traceless_handle {s : Service σ} {reading : Api.Reading} {r : Http.Request}
    (hclock : reading.moment.now.OfClock)
    (h : (Api.handle s reading r).response.status ≠ .created) :
    Traceless s (Api.handle s reading r).service := by
  cases hsubmitted : Api.submitted? r with
  | some new =>
    obtain ⟨hservice, hresponse⟩ := Api.handle_of_submitted hsubmitted s reading
    rw [hservice]
    cases hresult : (s.send reading.moment new).result with
    | error e => exact traceless_send hresult
    | ok m =>
      have hsaved : m = new.toMessage (s.nextId reading.moment) reading.moment.now :=
        @RowStore.result_save σ κ _ _ _ _ _ _ hresult
      obtain ⟨body, hbody⟩ := Message.exists_toJson (m := m) (by
        rw [hsaved]
        exact hclock.truncateToMillis)
      have hmethod := (Api.submitted?_eq_some_iff.mp hsubmitted).1
      have hstatus := (Api.answerTo_of_ok (r := r) (by simp [hmethod]) hbody reading.chance).1
      rw [if_pos hmethod] at hstatus
      exact absurd (by rw [hresponse, hresult, hstatus]) h
  | none =>
    cases hrequested : Api.requested? r with
    | some asked =>
      rw [(Api.handle_of_requested hrequested s reading).1]
      exact traceless_get s _ _
    | none =>
      obtain ⟨response, hhandle⟩ := Api.handle_of_none hsubmitted hrequested reading
      rw [(hhandle s).1]
      exact traceless_of_same (TableStore.same_refl s.store) rfl

/-- A request that is answered with status 201 has written one row, of the message that it tells. -/
theorem written_of_created {s : Service σ} {reading : Api.Reading} {r : Http.Request}
    (hsorted : Rows.Sorted (TableStore.rows s.store))
    (h : (Api.handle s reading r).response.status = .created) :
    r.method = "POST" ∧ r.path = "/messages"
      ∧ ∃ m, Message.ofJson (Api.handle s reading r).response.body = .ok m
        ∧ Rows.Written (TableStore.rows s.store)
            (TableStore.rows (Api.handle s reading r).service.store)
            (m.rowKey (TableStore.unit σ)) (RowStore.row m) := by
  obtain ⟨new, m, hsubmitted, hsave, hbody, hstore⟩ := created_spec h
  obtain ⟨hmethod, hpath, -⟩ := Api.submitted?_eq_some_iff.mp hsubmitted
  refine ⟨hmethod, hpath, m, Message.ofJson_of_toJson hbody, ?_⟩
  rw [hstore, TableStore.rows_save hsave, ← @RowStore.result_save σ κ _ _ _ _ _ _ hsave]
  exact Rows.written_upsert hsorted _ _

/-- Over this store, wherever a run has led to, a request that is not answered with status 201
leaves no trace, nor does a call that sends and fails, nor one that gets; and a request that is
answered with status 201 has written the row of its message. -/
def WritesWhatIsAcknowledged (σ : Type) {κ : Type} [MessageStore σ] [Controlled σ κ]
    [TableStore σ κ] : Prop :=
  ∀ (start : Service σ) (earlier : List (Step κ)), Rows.Sorted (TableStore.rows start.store) →
    let s := after start earlier
    (∀ (reading : Api.Reading) (r : Http.Request), reading.moment.now.OfClock →
      let o := Api.handle s reading r
      (o.response.status ≠ .created → Traceless s o.service)
        ∧ (o.response.status = .created → r.method = "POST" ∧ r.path = "/messages"
          ∧ ∃ m, Message.ofJson o.response.body = .ok m
            ∧ Rows.Written (TableStore.rows s.store) (TableStore.rows o.service.store)
                (m.rowKey (TableStore.unit σ)) (RowStore.row m)))
      ∧ (∀ (moment : Moment) (new : NewMessage) (e : ServiceError),
        (s.send moment new).result = .error e → Traceless s (s.send moment new).state)
      ∧ ∀ messageId receiverId : Uuid, Traceless s (s.get messageId receiverId).state

theorem writesWhatIsAcknowledged_of_tableStore (σ : Type) {κ : Type} [MessageStore σ]
    [Controlled σ κ] [TableStore σ κ] : WritesWhatIsAcknowledged σ := by
  intro start earlier hsorted s
  refine ⟨fun reading r hclock => ⟨traceless_handle hclock, ?_⟩, fun _ _ _ => traceless_send,
    traceless_get s⟩
  exact written_of_created (sorted_after hsorted earlier)

/-- It is so in memory and in the database. -/
theorem only_acknowledged_is_written :
    WritesWhatIsAcknowledged MemoryStore ∧ WritesWhatIsAcknowledged Cql.Repository :=
  ⟨writesWhatIsAcknowledged_of_tableStore MemoryStore,
    writesWhatIsAcknowledged_of_tableStore Cql.Repository⟩

def outage : List (Step Cql.Repository.Control) := [.control (.fail fun _ => some .emptyPlan)]

/-- A message that is submitted while the database does not answer is refused, and leaves no trace;
submitted to the same database while it does, it is the one row. -/
theorem sample_refused_or_written :
    (Api.handle (after sampleService outage) sampleReading samplePost).response.status
        = .serviceUnavailable
      ∧ Traceless (after sampleService outage)
          (Api.handle (after sampleService outage) sampleReading samplePost).service
      ∧ ∃ m,
        Message.ofJson (Api.handle sampleService sampleReading samplePost).response.body = .ok m
        ∧ Rows.Written []
            (TableStore.rows (Api.handle sampleService sampleReading samplePost).service.store)
            (m.rowKey 1000000) (Cql.Record.ofMessage m).row := by
  have hsorted : Rows.Sorted (TableStore.rows sampleService.store) := Rows.sorted_nil
  have hclock : sampleReading.moment.now.OfClock := by decide
  have hrefused : (Api.handle (after sampleService outage) sampleReading samplePost).response.status
      = .serviceUnavailable := by decide +kernel
  have hcreated : (Api.handle sampleService sampleReading samplePost).response.status
      = .created := by decide +kernel
  obtain ⟨hrequest, -, -⟩ := only_acknowledged_is_written.2 sampleService outage hsorted
  have htraceless := (hrequest sampleReading samplePost hclock).1 (by rw [hrefused]; decide)
  obtain ⟨hrequest', -, -⟩ := only_acknowledged_is_written.2 sampleService [] hsorted
  obtain ⟨-, -, m, hm, hwritten⟩ := (hrequest' sampleReading samplePost hclock).2 hcreated
  exact ⟨hrefused, htraceless, m, hm, hwritten⟩

end Messaging.Session
