import Messaging.Proofs.Cql.History
import Messaging.Proofs.Message.Document
import Messaging.Proofs.Session.Rows

/-!
What is sent is what is fetched. The answer to a submission tells the message as it is in memory,
the answer to a later request tells it as it was read from its row, and both are the same bytes.
-/
namespace Messaging.Session

open Http

variable {σ : Type} [MessageStore σ]

/-- A submission that is answered with status 201 was saved, and the answer tells what the store
says it saved. -/
theorem created_spec {s : Service σ} {reading : Api.Reading} {post : Request}
    (h : (Api.handle s reading post).response.status = .created) :
    ∃ new m, Api.submitted? post = some new
      ∧ (MessageStore.save s.store
          (new.toMessage (s.nextId reading.moment) reading.moment.now)).result = .ok m
      ∧ m.toJson = .ok (Api.handle s reading post).response.body
      ∧ (Api.handle s reading post).service.store = (MessageStore.save s.store
          (new.toMessage (s.nextId reading.moment) reading.moment.now)).state := by
  rw [Api.status_handle] at h
  obtain ⟨new, m, body, hsubmitted, hsend, hbody⟩ := Api.submitted?_of_created h
  have hserve := Api.serve_of_submitted hsubmitted s reading.moment
  have hresponse := Api.ofReply_of_ok hsend hbody .created
  refine ⟨new, m, hsubmitted, hsend, ?_, ?_⟩
  · have hhandle : (Api.handle s reading post).response.body = body := by
      rw [Api.body_handle, hserve, hresponse]
      rfl
    rw [hhandle, hbody]
  · rw [Api.handle_service, hserve, Api.service_ofReply]
    rfl

/-- A message whose row comes first, and whose row tells all of it, is answered as it is written. -/
theorem fetched_spec {s : Service σ} {reading : Api.Reading} {get : Request} {m : Message}
    {body : Bytes} (hmethod : get.method = "GET")
    (hpath : get.path = Api.messagePath m.receiverId m.messageId)
    (hlookup : (MessageStore.lookup s.store m.messageId m.receiverId).result = .ok (some m))
    (hbody : m.toJson = .ok body) :
    (Api.handle s reading get).response.status = .ok
      ∧ (Api.handle s reading get).response.body = body := by
  have hget : (s.get m.messageId m.receiverId).result = .ok m := by
    change Service.foundOrError _ = _
    rw [hlookup]
    rfl
  have hserve := Api.serve_of_requested (Api.requested?_messagePath (.inl hmethod) hpath) s
    reading.moment
  rw [if_neg (by simp [hmethod])] at hserve
  rw [Api.status_handle, Api.body_handle, hserve, Api.ofReply_of_ok hget hbody]
  exact ⟨rfl, rfl⟩

/-- Over this store, what is sent is what is fetched: a submission that is answered with status 201
gives a message with what was submitted, and as long as nothing else is saved under its receiver and
identifier, a request for it is answered with the same bytes. -/
def FetchesWhatWasSent (σ : Type) {κ : Type} [MessageStore σ] [Controlled σ κ] [RowStore σ κ] :
    Prop :=
  ∀ (s : Service σ) (earlier : List (Step κ)) (reading : Api.Reading) (post : Request),
    reading.moment.now.offset = .utc →
    (Api.handle (after s earlier) reading post).response.status = .created →
    ∃ (new : NewMessage) (m : Message),
      post.method = "POST" ∧ post.path = "/messages" ∧ NewMessage.ofJson post.body = .ok new
      ∧ Message.ofJson (Api.handle (after s earlier) reading post).response.body = .ok m
      ∧ m.senderId = new.senderId ∧ m.receiverId = new.receiverId ∧ m.body = new.body
      ∧ m.type = new.type ∧ m.hasRead = false
      ∧ m.createdAt.offset = .utc ∧ m.createdAt.unixNanos % 1000000 = 0
      ∧ ∀ (later : List (Step κ)) (reading' : Api.Reading) (get : Request),
        let created := Api.handle (after s earlier) reading post
        let asked := after created.service later
        RowStore.first? s.store m.messageId m.receiverId = none →
        (∀ n ∈ savesAsked s earlier ++ savesAsked created.service later,
          ¬ n.IsOf m.messageId m.receiverId) →
        RowStore.Answers asked.store m.messageId m.receiverId →
        get.method = "GET" → get.path = Api.messagePath m.receiverId m.messageId →
        (Api.handle asked reading' get).response.status = .ok
          ∧ (Api.handle asked reading' get).response.body = created.response.body

theorem fetchesWhatWasSent_of_rowStore (σ : Type) {κ : Type} [MessageStore σ] [Controlled σ κ]
    [RowStore σ κ] : FetchesWhatWasSent σ := by
  intro s earlier reading post hutc hcreated
  obtain ⟨new, m, hsubmitted, hsave, hbody, hstore⟩ := created_spec hcreated
  obtain rfl := @RowStore.result_save σ κ _ _ _ _ _ _ hsave
  obtain ⟨hmethod, hpath, hsubmission⟩ := Api.submitted?_eq_some_iff.mp hsubmitted
  obtain ⟨-, -, hjson⟩ := Api.submission_eq_ok_iff.mp hsubmission
  set m := new.toMessage ((after s earlier).nextId reading.moment) reading.moment.now with hm
  have hoffset : m.createdAt.offset = .utc := by
    rw [hm, NewMessage.toMessage, Timestamp.offset_truncateToMillis, hutc]
  have hmillis : m.createdAt.unixNanos % 1000000 = 0 := by
    rw [hm, NewMessage.toMessage, Timestamp.unixNanos_truncateToMillis]
    omega
  refine ⟨new, m, hmethod, hpath, hjson, Message.ofJson_of_toJson hbody, rfl, rfl, rfl, rfl, rfl,
    hoffset, hmillis, ?_⟩
  intro later reading' get created asked hvacant hothers hanswers hget hgetPath
  rw [List.forall_mem_append] at hothers
  have hbefore : RowStore.first? (after s earlier).store m.messageId m.receiverId = none := by
    rw [first?_after hothers.1, hvacant]
  have hrow : RowStore.first? created.service.store m.messageId m.receiverId
      = some (RowStore.row m) := by
    rw [hstore]
    exact RowStore.first?_save hbefore hsave
  have hkept : RowStore.first? asked.store m.messageId m.receiverId = some (RowStore.row m) := by
    rw [first?_after hothers.2, hrow]
  exact fetched_spec hget hgetPath (RowStore.result_lookup hanswers hkept hoffset hmillis) hbody

/-- It is so in memory and in the database. -/
theorem fetches_what_was_sent :
    FetchesWhatWasSent MemoryStore ∧ FetchesWhatWasSent Cql.Repository :=
  ⟨fetchesWhatWasSent_of_rowStore MemoryStore, fetchesWhatWasSent_of_rowStore Cql.Repository⟩

def samplePost : Request where
  method := "POST"
  path := "/messages"
  headers := [⟨"content-type", Utf8.ofString "application/json"⟩]
  body := Utf8.ofString
    ("[\"00000000-0000-0000-0000-000000000001\", \"00000000-0000-0000-0000-000000000002\","
      ++ " \"a\\u0041\\nb\", \"Text\"]")

def sampleReading : Api.Reading where
  moment := ⟨0, Cql.Repository.inUtc.createdAt⟩
  chance := .nil
  latencyMillis := 0

def sampleService : Service Cql.Repository := Service.new .fresh ⟨List.replicate 6 0, by decide⟩ 0

/-- The database fails for a while, and then another message is saved. -/
def meanwhile : List (Step Cql.Repository.Control) :=
  [.control (.fail fun _ => some .emptyPlan), .rowCount, .control (.fail fun _ => none),
    .save Cql.Repository.afterwards]

theorem answersLookup_meanwhile {s : Service Cql.Repository} (h : s.store.server.canned = none)
    (messageId receiverId : Uuid) : (after s meanwhile).store.AnswersLookup messageId receiverId := by
  simp only [meanwhile, after_cons, after_nil, step]
  exact ⟨(Cql.Repository.canned_save _ _).trans h, congrFun (Cql.Repository.fails_save _ _) _⟩

theorem sample_fetched_after_failure : ∃ (m : Message) (get : Request),
    Message.ofJson (Api.handle sampleService sampleReading samplePost).response.body = .ok m
      ∧ m.body = "aA\nb" ∧ get.path = Api.messagePath m.receiverId m.messageId
      ∧ (Api.handle (after (Api.handle sampleService sampleReading samplePost).service meanwhile)
          sampleReading get).response.body
        = (Api.handle sampleService sampleReading samplePost).response.body := by
  have hcreated : (Api.handle sampleService sampleReading samplePost).response.status
      = .created := by decide +kernel
  have hread : ∀ new ∈ (NewMessage.ofJson samplePost.body).toOption,
      new.receiverId ≠ .nil ∧ new.body = "aA\nb" := by decide +kernel
  obtain ⟨new, m, -, -, hnew, hm, -, hreceiver, hbody, -, -, -, -, hfetch⟩ :=
    fetches_what_was_sent.2 sampleService [] sampleReading samplePost rfl hcreated
  obtain ⟨hother, htext⟩ := hread new (by simp [hnew, Except.toOption])
  have hsaves : ∀ n ∈ savesAsked sampleService ([] : List (Step Cql.Repository.Control))
      ++ savesAsked (Api.handle sampleService sampleReading samplePost).service meanwhile,
      ¬ n.IsOf m.messageId m.receiverId := by
    intro n hn hof
    have hn' : n = Cql.Repository.afterwards := by
      simpa [savesAsked, saveAsked?, sent?, meanwhile] using hn
    subst hn'
    apply hother
    rw [← hreceiver, ← hof.1]
    rfl
  have hcanned : (Api.handle sampleService sampleReading samplePost).service.store.server.canned
      = none := Option.isNone_iff_eq_none.mp (by decide +kernel)
  simp only [after_nil] at hfetch
  have hanswers := answersLookup_meanwhile hcanned m.messageId m.receiverId
  obtain ⟨-, hbytes⟩ := hfetch meanwhile sampleReading
    ⟨"GET", Api.messagePath m.receiverId m.messageId, [], []⟩ rfl hsaves hanswers rfl rfl
  exact ⟨m, _, hm, hbody.trans htext, rfl, hbytes⟩

end Messaging.Session
