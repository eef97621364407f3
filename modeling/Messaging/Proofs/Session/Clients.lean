import Messaging.Proofs.Session.Fetching
import Messaging.Proofs.Session.Indistinct

/-!
What goes on inside the store is not told to clients. Sessions that differ only in what the database
says when it fails, or in what a row is that cannot be read, are answered with the same bytes; and
where a call fails for such a reason the client is told one fixed text.
-/
namespace Messaging

/-- The errors are one, or both are failures of the database, or both are rows that are no
messages. -/
inductive ServiceError.SameToClient : ServiceError → ServiceError → Prop
  | same (e : ServiceError) : SameToClient e e
  | database (cause cause' : Cql.Failure) : SameToClient (.database cause) (.database cause')
  | malformedRow (fault fault' : RowFault) :
    SameToClient (.malformedRow fault) (.malformedRow fault')

theorem ServiceError.SameToClient.response_eq {e f : ServiceError} (h : e.SameToClient f) :
    e.response = f.response := by
  cases h <;> rfl

/-- Whoever sees all messages, but not why the store fails. -/
def Observer.client : Observer where
  SameMessage m n := m = n
  SameError := ServiceError.SameToClient
  message_refl _ := rfl
  error_refl := .same
  envelope := by
    rintro m _ rfl
    exact ⟨rfl, rfl, rfl, rfl, rfl⟩
  at_time := by
    rintro m _ time rfl
    rfl

theorem Observer.client_resultResponse {x y : Except ServiceError Message}
    (h : Observer.client.SameResult Observer.client.SameMessage x y) (status : Http.Status) :
    Api.resultResponse status x = Api.resultResponse status y := by
  cases h with
  | ok hmessage => exact congrArg (fun m => Api.resultResponse status (.ok m)) hmessage
  | error herror => exact herror.response_eq

theorem fate_eq_some_iff {α : Type} {x : Except ServiceError α} {e : ServiceError} :
    fate x = some e ↔ x = .error e := by
  cases x <;> simp [fate]

namespace Session

def Answer.response? : Answer → Option Http.Response
  | .response r => some r
  | _ => none

def Outcome.response? {σ : Type} (o : Outcome σ) : Option Http.Response := o.answer.response?

variable {σ κ : Type} [MessageStore σ]

/-- The error that the store answers with to the call that a step asks for. -/
def storeError? (s : Service σ) (st : Step κ) : Option ServiceError :=
  ((saveResult? s st).bind fate).or ((lookupAnswer? s st).bind fate)

theorem response_of_storeError? {s : Service σ} {reading : Api.Reading} {r : Http.Request}
    {e : ServiceError} (h : storeError? s (.request reading r : Step κ) = some e) :
    (Api.handle s reading r).response = Api.answerTo r reading.chance (.error e) := by
  cases hsubmitted : Api.submitted? r with
  | some new =>
    have hgot : got? (.request reading r : Step κ) = none :=
      got?_of_sent? (by rw [sent?_of_submitted hsubmitted, Option.isSome_some])
    rw [got?] at hgot
    have hfate : fate (MessageStore.save s.store
        (new.toMessage (s.nextId reading.moment) reading.moment.now)).result = some e := by
      simpa [storeError?, saveResult?, saveAsked?, lookupAnswer?, sent?, got?, hsubmitted, hgot]
        using h
    have hsend : (s.send reading.moment new).result = .error e := fate_eq_some_iff.mp hfate
    rw [(Api.handle_of_submitted hsubmitted s reading).2, hsend]
  | none =>
    cases hrequested : Api.requested? r with
    | some asked =>
      have hfate : fate (MessageStore.lookup s.store asked.1 asked.2).result = some e := by
        simpa [storeError?, saveResult?, saveAsked?, lookupAnswer?, sent?, got?, hsubmitted,
          hrequested] using h
      have hget : (s.get asked.1 asked.2).result = .error e := by
        change Service.foundOrError _ = _
        rw [fate_eq_some_iff.mp hfate]
        rfl
      rw [(Api.handle_of_requested hrequested s reading).2, hget]
    | none =>
      simp [storeError?, saveResult?, saveAsked?, lookupAnswer?, sent?, got?, hsubmitted,
        hrequested] at h

/-- The answer to a request that met an error of the store: one fixed text in a JSON object, which a
HEAD is not sent. -/
def fixedAnswer (status : Http.Status) (text : String) (reading : Api.Reading) (r : Http.Request) :
    Http.Response where
  status := status
  headers := [⟨"content-type", Utf8.ofString "application/json"⟩,
    ⟨Api.requestIdHeader, Api.requestId r reading.chance⟩]
  body := if r.method = "HEAD" then [] else Utf8.ofString text

theorem answerTo_of_error {e : ServiceError} {text : String}
    (htext : Json.object [Json.member "error" (Json.string e.clientText)] = Utf8.ofString text)
    (reading : Api.Reading) (r : Http.Request) :
    Api.answerTo r reading.chance (.error e) = fixedAnswer e.status text reading r := by
  by_cases hhead : r.method = "HEAD" <;>
    simp [Api.answerTo, Api.resultResponse, ServiceError.response, Http.Response.json,
      Http.Response.withBody, Http.Response.dropBody, Http.Response.addHeader, fixedAnswer, hhead,
      htext]

theorem answerTo_database (cause : Cql.Failure) (reading : Api.Reading) (r : Http.Request) :
    Api.answerTo r reading.chance (.error (.database cause)) = fixedAnswer .serviceUnavailable
      "\x7b\"error\":\"Message store unavailable\"\x7d" reading r := by
  refine answerTo_of_error ?_ reading r
  rw [ServiceError.clientText]
  decide +kernel

theorem answerTo_malformedRow (fault : RowFault) (reading : Api.Reading) (r : Http.Request) :
    Api.answerTo r reading.chance (.error (.malformedRow fault)) = fixedAnswer .internalServerError
      "\x7b\"error\":\"Internal server error\"\x7d" reading r := by
  refine answerTo_of_error ?_ reading r
  rw [ServiceError.clientText]
  decide +kernel

variable [Controlled σ κ] [ObservedControl κ] [ObservedStore σ κ]

/-- Where all messages are told apart, a save goes the same way because it is the same save. -/
theorem client_fate {s t : Service σ} {st st' : Step κ} (h : SameStep Observer.client st st')
    (hs : Indistinct Observer.client s t) :
    Option.Rel Observer.client.SameFate (saveResult? s st) (saveResult? t st') := by
  rw [saveResult?, saveResult?]
  rcases Option.rel_cases (h.saveAsked? hs) with ⟨hnone, hnone'⟩ | ⟨m, n, hm, hn, hsame⟩
  · rw [hnone, hnone']
    exact .none
  · obtain rfl : m = n := hsame
    rw [hm, hn]
    exact .some (ObservedStore.fate_save m hs.store)

/-- A client sees no difference between requests that do the same, whatever the store fails with. -/
theorem response_handle_eq {s t : Service σ} {reading reading' : Api.Reading} {r r' : Http.Request}
    (hs : Indistinct Observer.client s t)
    (hmoment : reading.moment = reading'.moment) (hchance : reading.chance = reading'.chance)
    (hrequest : Observer.client.SameRequest r r') :
    (Api.handle s reading r).response = (Api.handle t reading' r').response := by
  have hfate := client_fate (SameStep.request (κ := κ) hmoment hchance hrequest) hs
  rcases hrequest.calls with
    ⟨new, new', hnew, hnew', hsame, hid⟩ | ⟨rfl, -, messageId, receiverId, hasked⟩ |
      ⟨rfl, hsubmitted, hrequested⟩
  · have hsaved := sameFate_of_sent (sent?_of_submitted hnew reading)
      (sent?_of_submitted hnew' reading') hfate
    rw [← hmoment] at hsaved
    have hresult := (indistinct_send hs hsame hsaved).1
    have hmethod := (Api.submitted?_eq_some_iff.mp hnew).1
    have hmethod' := (Api.submitted?_eq_some_iff.mp hnew').1
    rw [(Api.handle_of_submitted hnew s reading).2, (Api.handle_of_submitted hnew' t reading').2,
      ← hmoment, Api.answerTo, Api.answerTo, Observer.client_resultResponse hresult, hmethod,
      hmethod', Api.requestId, Api.requestId, hid, hchance]
  · have hresult := (indistinct_get hs messageId receiverId).1
    rw [(Api.handle_of_requested hasked s reading).2, (Api.handle_of_requested hasked t reading').2,
      Api.answerTo, Api.answerTo, Observer.client_resultResponse hresult, hchance]
  · obtain ⟨response, events, hserve⟩ := Api.serve_of_none hsubmitted hrequested
    rw [Api.handle_eq, Api.handle_eq, hserve, hserve, Api.requestId, Api.requestId, hchance]

theorem response?_step {s t : Service σ} {st st' : Step κ}
    (hs : Indistinct Observer.client s t)
    (h : SameStep Observer.client st st') :
    (step s st).response? = (step t st').response? := by
  cases h with
  | request hmoment hchance hrequest =>
    exact congrArg some (response_handle_eq hs hmoment hchance hrequest)
  | _ => rfl

/-- A client sees no difference between runs that do the same. -/
theorem responses_eq {s t : Service σ} {steps steps' : List (Step κ)}
    (hs : Indistinct Observer.client s t)
    (h : List.Forall₂ (SameStep Observer.client) steps steps') :
    (run s steps).map Outcome.response? = (run t steps').map Outcome.response? := by
  induction h generalizing s t with
  | nil => rfl
  | cons hstep _ ih =>
    have hafter := indistinct_step hstep hs (client_fate hstep hs)
    simp only [run_cons, List.map_cons, response?_step hs hstep, ih hafter]

/-- Over this store, what the store fails with does not reach clients: runs that differ in this only
are answered alike, and a request that fails for it is answered with a fixed text. -/
def HidesStoreErrors (σ : Type) {κ : Type} [MessageStore σ] [Controlled σ κ] [ObservedControl κ]
    [ObservedStore σ κ] : Prop :=
  (∀ (s t : Service σ) (steps steps' : List (Step κ)),
    Indistinct Observer.client s t →
    List.Forall₂ (SameStep Observer.client) steps steps' →
    (run s steps).map Outcome.response? = (run t steps').map Outcome.response?)
  ∧ ∀ (s : Service σ) (reading : Api.Reading) (r : Http.Request),
    (∀ cause, storeError? s (.request reading r : Step κ) = some (.database cause) →
      (Api.handle s reading r).response = fixedAnswer .serviceUnavailable
        "\x7b\"error\":\"Message store unavailable\"\x7d" reading r)
    ∧ ∀ fault, storeError? s (.request reading r : Step κ) = some (.malformedRow fault) →
      (Api.handle s reading r).response = fixedAnswer .internalServerError
        "\x7b\"error\":\"Internal server error\"\x7d" reading r

theorem hidesStoreErrors_of_observedStore (σ : Type) {κ : Type} [MessageStore σ] [Controlled σ κ]
    [ObservedControl κ] [ObservedStore σ κ] : HidesStoreErrors σ := by
  refine ⟨fun s t steps steps' hs h => responses_eq hs h, fun s reading r => ⟨?_, ?_⟩⟩
  · intro cause h
    rw [response_of_storeError? h, answerTo_database]
  · intro fault h
    rw [response_of_storeError? h, answerTo_malformedRow]

/-- It is so in memory and in the database. -/
theorem store_errors_hidden_from_clients :
    HidesStoreErrors MemoryStore ∧ HidesStoreErrors Cql.Repository :=
  ⟨hidesStoreErrors_of_observedStore MemoryStore, hidesStoreErrors_of_observedStore Cql.Repository⟩

def sampleGet : Http.Request := ⟨"GET", Api.messagePath .nil .nil, [], []⟩

/-- The database refuses a message, and then answers a lookup with something else than messages. -/
def brokenSteps (cause : Cql.Failure) (reply : Cql.ResultSet) :
    List (Step Cql.Repository.Control) :=
  [.control (.fail fun _ => some cause), .request sampleReading samplePost,
    .control (.fail fun _ => none), .control (.reply (some reply)),
    .request sampleReading sampleGet]

/-- Whether there is no node to ask or no answer in time, and whatever is wrong with the reply, the
client is told the same. -/
theorem broken_answered_alike :
    (run sampleService (brokenSteps .emptyPlan ⟨[], []⟩)).map Outcome.response?
        = (run sampleService (brokenSteps (.timeout 5000) ⟨[⟨"found", .text⟩], []⟩)).map
            Outcome.response?
      ∧ (Api.handle (after sampleService ((brokenSteps .emptyPlan ⟨[], []⟩).take 1)) sampleReading
          samplePost).response
        = fixedAnswer .serviceUnavailable "\x7b\"error\":\"Message store unavailable\"\x7d"
            sampleReading samplePost
      ∧ (Api.handle (after sampleService ((brokenSteps .emptyPlan ⟨[], []⟩).take 4)) sampleReading
          sampleGet).response
        = fixedAnswer .internalServerError "\x7b\"error\":\"Internal server error\"\x7d"
            sampleReading sampleGet := by
  obtain ⟨hruns, hfixed⟩ := store_errors_hidden_from_clients.2
  have hcauses : ∀ _q : Cql.Request, Option.Rel (Cql.Repository.SameCause Observer.client)
      (some .emptyPlan) (some (.timeout 5000)) :=
    fun _ => .some (.database .emptyPlan (.timeout 5000))
  have hreplies : Observer.client.SameReply ⟨[], []⟩ ⟨[⟨"found", .text⟩], []⟩ :=
    .error (.malformedRow _ _)
  have hsteps : List.Forall₂ (SameStep Observer.client) (brokenSteps .emptyPlan ⟨[], []⟩)
      (brokenSteps (.timeout 5000) ⟨[⟨"found", .text⟩], []⟩) :=
    .cons (.control (.fail hcauses)) (.cons (.refl _ _) (.cons (.refl _ _)
      (.cons (.control (.reply (.some hreplies))) (.cons (.refl _ _) .nil))))
  refine ⟨hruns _ _ _ _ (.refl _ _) hsteps,
    (hfixed _ sampleReading samplePost).1 .emptyPlan ?_, (hfixed _ sampleReading sampleGet).2
      (.undecodable (Cql.Record.Fault.missingColumn "message_id").message) ?_⟩
  · decide +kernel
  · decide +kernel

end Session

end Messaging
