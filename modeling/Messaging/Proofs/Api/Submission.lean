import Messaging.Proofs.Api.Recorded
import Messaging.Proofs.Http.ContentType

/-!
What becomes of a submission. The type of its body is checked first, then the length of the body,
then what the body says; whatever fails is answered without a call, and what passes is saved by one
call, whose result is the answer.
-/
namespace Messaging.Api

open Http

/-- The first header that tells the type of the body tells `application/json` or
`application/…+json`. -/
def HasJsonType (r : Request) : Prop :=
  ∃ value subtype, r.header? "content-type" = some value
    ∧ ContentType.Spells value (Utf8.ofString "application") subtype
    ∧ ContentType.IsJsonSubtype subtype

/-- It tells one of these, or `application/json` with another suffix. -/
def IsTakenForJson (r : Request) : Prop :=
  ∃ value subtype, r.header? "content-type" = some value
    ∧ ContentType.Spells value (Utf8.ofString "application") subtype
    ∧ (ContentType.IsJsonSubtype subtype ∨ ContentType.IsSuffixedJson subtype)

theorem isTakenForJson_iff {r : Request} :
    IsTakenForJson r ↔ (r.header? "content-type").any ContentType.isJson = true := by
  cases hheader : r.header? "content-type" with
  | none => simp [IsTakenForJson, hheader]
  | some value => simp [IsTakenForJson, hheader, ContentType.isJson_iff]

/-- The answer to a body that is no submission: it is told apart whether the body is malformed, or
well-formed and something else. -/
def faultResponse (r : Request) (f : Json.Fault) : Response :=
  match f.problem with
  | .breach _ | .unfinished _ =>
    .text .badRequest ("Failed to parse the request body as JSON: " ++ f.messageWithPath r.body)
  | .misfit _ =>
    .text .unprocessableEntity
      ("Failed to deserialize the JSON body into the target type: " ++ f.messageWithPath r.body)

/-- The message is what was submitted, unread, and its time is in whole milliseconds. -/
structure Carries (m : Message) (new : NewMessage) : Prop where
  senderId : m.senderId = new.senderId
  receiverId : m.receiverId = new.receiverId
  body : m.body = new.body
  type : m.type = new.type
  hasRead : m.hasRead = false
  createdAt : m.createdAt.unixNanos % 1000000 = 0

variable {σ : Type} [MessageStore σ]

/-- A request leads to one call, which saves a message and tells the answer. -/
structure Saves (s : Service σ) (reading : Reading) (r : Request) (m : Message) : Prop where
  calls : storeCalls s reading r = [.save m]
  store : (handle s reading r).service.store = (MessageStore.save s.store m).state
  saved : ∀ saved, (MessageStore.save s.store m).result = .ok saved →
    ∃ body, saved.toJson = .ok body ∧ (handle s reading r).response
      = (Response.json .created body).addHeader requestIdHeader (requestId r reading.chance)
  failed : TellsError reading r (MessageStore.save s.store m).result (handle s reading r).response

/-- The ways in which a submission can go, each where none before it applies. -/
structure SubmissionCases (s : Service σ) (reading : Reading) (r : Request) : Prop where
  /-- The calls that are told are the calls that are made. -/
  recordable : Recordable s reading r
  unsupported : ¬ IsTakenForJson r →
    Refused s reading r (.text .unsupportedMediaType
      "Expected request with `Content-Type: application/json`")
  tooLarge : IsTakenForJson r → 2097152 < r.body.length →
    Refused s reading r
      (.text .payloadTooLarge "Failed to buffer the request body: length limit exceeded")
  fault : IsTakenForJson r → r.body.length ≤ 2097152 →
    ∀ f, NewMessage.ofJson r.body = .error f → Refused s reading r (faultResponse r f)
  saved : IsTakenForJson r → r.body.length ≤ 2097152 →
    ∀ new, NewMessage.ofJson r.body = .ok new →
      ∃ m, Carries m new ∧ Saves s reading r m

section Checks

variable {r : Request}

theorem submission_of_not_isTakenForJson (h : ¬ IsTakenForJson r) :
    submission r = .error (.text .unsupportedMediaType
      "Expected request with `Content-Type: application/json`") := by
  rw [isTakenForJson_iff, Bool.not_eq_true] at h
  simp [submission, h]

theorem submission_of_tooLarge (htype : IsTakenForJson r) (hlength : 2097152 < r.body.length) :
    submission r = .error
      (.text .payloadTooLarge "Failed to buffer the request body: length limit exceeded") := by
  rw [isTakenForJson_iff] at htype
  simp [submission, htype, maxBodyLength, hlength]

theorem submission_of_fault (htype : IsTakenForJson r) (hlength : r.body.length ≤ 2097152)
    {f : Json.Fault} (hjson : NewMessage.ofJson r.body = .error f) :
    submission r = .error (faultResponse r f) := by
  rw [isTakenForJson_iff] at htype
  have hnot : ¬ maxBodyLength < r.body.length := Nat.not_lt.mpr hlength
  cases hproblem : f.problem <;>
    simp [submission, htype, hnot, hjson, faultResponse, hproblem, Json.Problem.isMisfit]

theorem refused_of_submission (hmethod : r.method = "POST") (hpath : r.path = "/messages")
    {response : Response} (h : submission r = .error response) (s : Service σ)
    (reading : Reading) : Refused s reading r response := by
  have hplace : Endpoint.ofPath? r.path = some .messages :=
    Endpoint.ofPath?_eq_messages_iff.mpr hpath
  refine refused_of_serve [] (fun t => ?_) s
  simp [serve, hplace, hmethod, Endpoint.accepts, submit, h]

end Checks

theorem carries_toMessage (new : NewMessage) (messageId : Uuid) (now : Timestamp) :
    Carries (new.toMessage messageId now) new where
  senderId := rfl
  receiverId := rfl
  body := rfl
  type := rfl
  hasRead := rfl
  createdAt := by
    rw [NewMessage.toMessage, Timestamp.unixNanos_truncateToMillis]
    omega

/-- Over a store that gives back what it saves, a submission is saved, and the answer tells so. -/
theorem saves_of_submitted {κ : Type} [Controlled σ κ] [RowStore σ κ] {r : Request}
    {new : NewMessage} (h : submitted? r = some new) (s : Service σ) {reading : Reading}
    (hclock : reading.moment.now.OfClock) :
    Saves s reading r (new.toMessage (s.nextId reading.moment) reading.moment.now) := by
  have hmethod := (submitted?_eq_some_iff.mp h).1
  have hhead : r.method ≠ "HEAD" := by simp [hmethod]
  obtain ⟨hservice, hresponse⟩ := handle_of_submitted h s reading
  set m := new.toMessage (s.nextId reading.moment) reading.moment.now with hm
  have hsend : (s.send reading.moment new).result = (MessageStore.save s.store m).result := rfl
  rw [hsend] at hresponse
  exact {
    calls := storeCalls_of_submitted h s reading
    store := by rw [hservice]; rfl
    saved := by
      intro saved hsave
      obtain rfl := @RowStore.result_save σ κ _ _ _ _ _ _ hsave
      have hwritable : m.createdAt.OfClock := hclock.truncateToMillis
      obtain ⟨body, hbody⟩ := Message.exists_toJson hwritable
      refine ⟨body, hbody, ?_⟩
      rw [hresponse, hsave, answerTo_of_not_head hhead, if_pos hmethod]
      simp only [resultResponse, messageResponse, hbody]
    failed := tellsError_of_answerTo hhead fun e hsave => by rw [hresponse, hsave] }

/-- Over this store, whatever is submitted goes in one of the ways in which a submission can go. -/
def ClassifiesSubmissions (σ : Type) [MessageStore σ] : Prop :=
  ∀ (s : Service σ) (reading : Reading) (r : Request),
    r.method = "POST" → r.path = "/messages" → reading.moment.now.OfClock →
      SubmissionCases s reading r

theorem classifiesSubmissions_of_rowStore (σ : Type) {κ : Type} [MessageStore σ] [Controlled σ κ]
    [RowStore σ κ] : ClassifiesSubmissions σ := by
  intro s reading r hmethod hpath hclock
  exact {
    recordable := recordable s reading r
    unsupported := fun htype =>
      refused_of_submission hmethod hpath (submission_of_not_isTakenForJson htype) s reading
    tooLarge := fun htype hlength =>
      refused_of_submission hmethod hpath (submission_of_tooLarge htype hlength) s reading
    fault := fun htype hlength f hjson =>
      refused_of_submission hmethod hpath (submission_of_fault htype hlength hjson) s reading
    saved := fun htype hlength new hjson => by
      have hsubmission : submission r = .ok new :=
        submission_eq_ok_iff.mpr ⟨isTakenForJson_iff.mp htype, hlength, hjson⟩
      have hsubmitted := submitted?_eq_some_iff.mpr ⟨hmethod, hpath, hsubmission⟩
      exact ⟨_, carries_toMessage new _ _, saves_of_submitted hsubmitted s hclock⟩ }

/-- It is so in memory and in the database. -/
theorem submissions_classified :
    ClassifiesSubmissions MemoryStore ∧ ClassifiesSubmissions Cql.Repository :=
  ⟨classifiesSubmissions_of_rowStore MemoryStore, classifiesSubmissions_of_rowStore Cql.Repository⟩

/-- The sample submission, with a type that is `application/json` but for its suffix. -/
def suffixedPost : Request :=
  { Session.samplePost with
    headers := [⟨"content-type", Utf8.ofString "Application/json+xml; charset=utf-8"⟩] }

theorem suffixedPost_saved : ∃ m body,
    storeCalls Session.sampleService Session.sampleReading suffixedPost = [.save m]
      ∧ m.body = "aA\nb" ∧ m.toJson = .ok body
      ∧ (handle Session.sampleService Session.sampleReading suffixedPost).response
        = (Response.json .created body).addHeader requestIdHeader
            (requestId suffixedPost Session.sampleReading.chance) := by
  have htype : IsTakenForJson suffixedPost := isTakenForJson_iff.mpr (by decide +kernel)
  have hread : ((NewMessage.ofJson suffixedPost.body).toOption.map NewMessage.body)
      = some "aA\nb" := by
    decide +kernel
  cases hjson : NewMessage.ofJson suffixedPost.body with
  | error f => simp [hjson, Except.toOption] at hread
  | ok new =>
    have hcases := submissions_classified.2 Session.sampleService Session.sampleReading
      suffixedPost rfl rfl (by decide)
    obtain ⟨m, hcarries, hsaves⟩ := hcases.saved htype (by decide +kernel) new hjson
    have hbody : new.body = "aA\nb" := by simpa [hjson, Except.toOption] using hread
    have hcreated : (handle Session.sampleService Session.sampleReading
        suffixedPost).response.status = .created := by
      decide +kernel
    cases hsave : (MessageStore.save Session.sampleService.store m).result with
    | error e =>
      rw [hsaves.failed.error e hsave] at hcreated
      exact absurd hcreated (status_error_ne_created e)
    | ok saved =>
      obtain ⟨body, hwritten, hresponse⟩ := hsaves.saved saved hsave
      obtain rfl := RowStore.result_save hsave
      exact ⟨_, body, hsaves.calls, hcarries.body.trans hbody, hwritten, hresponse⟩

/-- A body that ends too soon, with a type that is `application/json` but for its suffix. -/
def suffixedBrace : Request :=
  ⟨"POST", "/messages", [⟨"content-type", Utf8.ofString "application/json+xml"⟩],
    Utf8.ofString "\x7b"⟩

/-- Other types than `application/json` and `application/…+json` are not all refused. -/
theorem not_only_json_taken_for_json :
    ¬ ∀ (s : Service MemoryStore) (reading : Reading) (r : Request),
      r.method = "POST" → r.path = "/messages" → reading.moment.now.OfClock → ¬ HasJsonType r →
        (handle s reading r).response.status = .unsupportedMediaType := by
  intro h
  have hother : ¬ HasJsonType suffixedBrace := by
    rintro ⟨value, subtype, hheader, hspells, hjson⟩
    obtain rfl : Utf8.ofString "application/json+xml" = value := Option.some.inj hheader
    have hsubtype : subtype = Utf8.ofString "json+xml" := hspells.subtype_eq.trans (by decide)
    rw [hsubtype] at hjson
    rcases hjson.splitSuffix_eq with hplain | hsuffix
    · exact absurd hplain (by decide)
    · exact absurd hsuffix (by decide)
  have hstatus := h (.new .empty Session.sampleService.node 0) Session.sampleReading suffixedBrace
    rfl rfl (by decide) hother
  exact absurd hstatus (by decide +kernel)

end Messaging.Api
