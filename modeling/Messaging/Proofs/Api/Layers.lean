import Messaging.Proofs.Api

/-!
The layers around the routes. The identifier that the outermost layer sets is the one that the
routes' answer bears in the end, since no answer has one before; and the routes take no notice of
it.
-/
namespace Messaging.Api

open Http

def headerValues (name : String) (headers : List Header) : List Bytes :=
  (headers.filter fun h => h.name = name).map Header.value

theorem header?_eq_head? (headers : List Header) (name : String) :
    Http.header? headers name = (headerValues name headers).head? := by
  rw [Http.header?, headerValues, List.head?_map, List.head?_filter]

/-- The answer bears no identifier yet. -/
def Unidentified (response : Response) : Prop :=
  headerValues requestIdHeader response.headers = []

namespace Unidentified

theorem withBody {contentType : String} {status : Status} {body : Bytes} :
    Unidentified (.withBody status contentType body) := by
  simp [Unidentified, headerValues, Response.withBody, requestIdHeader]

theorem addHeader {response : Response} (h : Unidentified response) {name : String}
    (hname : name ≠ requestIdHeader) (value : Bytes) :
    Unidentified (response.addHeader name value) := by
  rw [Unidentified, headerValues] at h ⊢
  simp only [Response.addHeader, List.filter_append, List.map_append, h]
  simp [hname]

theorem submission {r : Request} {response : Response} (h : submission r = .error response) :
    Unidentified response := by
  rw [Api.submission] at h
  split_ifs at h
  · exact Except.error.inj h ▸ withBody
  · exact Except.error.inj h ▸ withBody
  · split at h
    · simp at h
    · split_ifs at h <;> exact Except.error.inj h ▸ withBody

variable {σ : Type}

theorem resultResponse (status : Status) (result : Except ServiceError Message) :
    Unidentified (resultResponse status result) := by
  cases result with
  | error e => exact withBody
  | ok m => cases hbody : m.toJson <;> simp only [Api.resultResponse, messageResponse, hbody] <;>
      exact withBody

theorem ofReply (status : Status) (reply : Reply (Service σ) Message) :
    Unidentified (ofReply status reply).response := by
  rw [response_ofReply]
  exact resultResponse status reply.result

variable [MessageStore σ]

theorem submit (s : Service σ) (moment : Moment) (r : Request) :
    Unidentified (submit s moment r).response := by
  rw [Api.submit]
  split
  · rename_i response hsubmission
    exact submission hsubmission
  · exact ofReply .created _

theorem fetch (s : Service σ) (receiverId messageId : Bytes) :
    Unidentified (fetch s receiverId messageId).response := by
  rw [Api.fetch]
  split
  · exact withBody
  · exact withBody
  · split
    · exact withBody
    · exact ofReply .ok _

theorem servedAt (s : Service σ) (moment : Moment) (r : Request) (endpoint : Endpoint) :
    Unidentified (servedAt s moment r endpoint).response := by
  cases endpoint with
  | livez => rfl
  | messages => exact submit s moment r
  | message receiverId messageId => exact fetch s receiverId messageId

/-- Whatever becomes of a request, the answer is not identified before the end. -/
theorem serve (s : Service σ) (moment : Moment) (r : Request) :
    Unidentified (serve s moment r).response := by
  cases hplace : Endpoint.ofPath? r.path with
  | none =>
    simp only [Api.serve, hplace]
    rfl
  | some endpoint =>
    by_cases haccepts : endpoint.accepts r.method = true
    · rw [serve_eq_servedAt hplace haccepts]
      by_cases hhead : r.method = "HEAD" <;>
        simpa [hhead, Response.dropBody, Unidentified] using servedAt s moment r endpoint
    · simp only [Api.serve, hplace, haccepts]
      exact addHeader (by rfl) (by decide) _

end Unidentified

theorem header?_addHeader_of_ne (r : Request) {name other : String} (h : name ≠ other)
    (value : Bytes) : (r.addHeader name value).header? other = r.header? other := by
  rw [Request.header?, Request.header?, header?_eq_head?, header?_eq_head?, Request.addHeader,
    headerValues, headerValues, List.filter_append]
  simp [h]

theorem header?_addHeader {r : Request} {name : String} (h : r.header? name = none)
    (value : Bytes) : (r.addHeader name value).header? name = some value := by
  rw [Request.header?, Http.header?, Option.map_eq_none_iff] at h
  simp [Request.header?, Http.header?, Request.addHeader, h]

variable {σ : Type}

/-- A request that bears an identifier: its own, or the one that it is given. -/
def identified (r : Request) (chance : Uuid) : Request :=
  match r.header? requestIdHeader with
  | some _ => r
  | none => r.addHeader requestIdHeader (requestId r chance)

theorem header?_identified (r : Request) (chance : Uuid) :
    (identified r chance).header? requestIdHeader = some (requestId r chance) := by
  rw [identified]
  cases h : r.header? requestIdHeader with
  | some id => simp only [h, requestId, Option.getD_some]
  | none => exact header?_addHeader h _

theorem setRequestId_eq (chance : Uuid) (inner : Handler σ) (r : Request) :
    setRequestId chance inner ⟨r, none⟩
      = inner ⟨identified r chance, some (requestId r chance)⟩ := by
  rw [setRequestId, identified]
  cases r.header? requestIdHeader <;> rfl

/-- What comes from the inside without an identifier leaves with the one of the request. -/
theorem propagateRequestId_eq {inner : Handler σ} {i : Incoming} {id : Bytes}
    (hid : i.request.header? requestIdHeader = some id) (h : Unidentified (inner i).response) :
    propagateRequestId inner i
      = { inner i with response := (inner i).response.addHeader requestIdHeader id } := by
  have hnone : (inner i).response.header? requestIdHeader = none := by
    rw [Response.header?, header?_eq_head?, h, List.head?_nil]
  simp only [propagateRequestId, hnone, hid]

variable [MessageStore σ]

theorem serve_addHeader (s : Service σ) (moment : Moment) (r : Request) {name : String}
    (h : name ≠ "content-type") (value : Bytes) :
    serve s moment (r.addHeader name value) = serve s moment r := by
  have hsubmission : submission (r.addHeader name value) = submission r := by
    rw [submission, submission, header?_addHeader_of_ne r h]
    rfl
  have hsubmit : submit s moment (r.addHeader name value) = submit s moment r := by
    rw [submit, submit, hsubmission]
  rw [serve, serve, hsubmit]
  rfl

theorem serve_identified (s : Service σ) (moment : Moment) (r : Request) (chance : Uuid) :
    serve s moment (identified r chance) = serve s moment r := by
  rw [identified]
  split
  · rfl
  · exact serve_addHeader s moment r (by decide) _

theorem requestSpan_identified (r : Request) (chance : Uuid) :
    requestSpan (identified r chance) = requestSpan r := by
  rw [identified]
  split <;> rfl

/-- What all layers make of what the routes do with a request. -/
theorem handle_eq (s : Service σ) (reading : Reading) (r : Request) :
    handle s reading r =
      let id := requestId r reading.chance
      let outcome := serve s reading.moment r
      let status := outcome.response.status
      { outcome with
        response := outcome.response.addHeader requestIdHeader id
        events :=
          Log.within (requestSpan r id none) outcome.events
            ++ Log.within (requestSpan r id (some status))
              (completionEvents status reading.latencyMillis) } := by
  -- neither the routes nor the span take notice of the identifier that the request is given
  rw [handle, setRequestId_eq, trace,
    propagateRequestId_eq (header?_identified r reading.chance) (Unidentified.serve s _ _)]
  simp only [serve_identified, requestSpan_identified, Option.getD_some]
  rfl

theorem handle_service (s : Service σ) (reading : Reading) (r : Request) :
    (handle s reading r).service = (serve s reading.moment r).service := by
  rw [handle_eq]

theorem status_handle (s : Service σ) (reading : Reading) (r : Request) :
    (handle s reading r).response.status = (serve s reading.moment r).response.status := by
  rw [handle_eq]
  rfl

theorem body_handle (s : Service σ) (reading : Reading) (r : Request) :
    (handle s reading r).response.body = (serve s reading.moment r).response.body := by
  rw [handle_eq]
  rfl

theorem events_handle (s : Service σ) (reading : Reading) (r : Request) :
    (handle s reading r).events
      = Log.within (requestSpan r (requestId r reading.chance) none)
          (serve s reading.moment r).events
        ++ Log.within
          (requestSpan r (requestId r reading.chance) (some (handle s reading r).response.status))
          (completionEvents (handle s reading r).response.status reading.latencyMillis) := by
  rw [status_handle, handle_eq]

theorem handle_of_submitted {r : Request} {new : NewMessage} (h : submitted? r = some new)
    (s : Service σ) (reading : Reading) :
    (handle s reading r).service = (s.send reading.moment new).state
      ∧ (handle s reading r).response
        = answerTo r reading.chance (s.send reading.moment new).result := by
  have hmethod := (submitted?_eq_some_iff.mp h).1
  simp [handle_eq, serve_of_submitted h, service_ofReply, response_ofReply, answerTo, hmethod]

theorem handle_of_requested {r : Request} {messageId receiverId : Uuid}
    (h : requested? r = some (messageId, receiverId)) (s : Service σ) (reading : Reading) :
    (handle s reading r).service = (s.get messageId receiverId).state
      ∧ (handle s reading r).response
        = answerTo r reading.chance (s.get messageId receiverId).result := by
  have hmethod := method_ne_of_requested h
  by_cases hhead : r.method = "HEAD" <;>
    simp [handle_eq, serve_of_requested h, service_ofReply, response_ofReply, answerTo, hhead,
      hmethod]

/-- A request that leads to no call is answered one way, whatever the service and its store. -/
theorem handle_of_none {r : Request} (hsubmitted : submitted? r = none)
    (hrequested : requested? r = none) (reading : Reading) :
    ∃ response, ∀ {σ : Type} [MessageStore σ] (s : Service σ),
      (handle s reading r).service = s ∧ (handle s reading r).response = response := by
  obtain ⟨response, events, hserve⟩ := serve_of_none hsubmitted hrequested
  exact ⟨response.addHeader requestIdHeader (requestId r reading.chance), fun s => by
    simp only [handle_eq, hserve, and_self]⟩

end Messaging.Api
