import Messaging.Api
import Messaging.Proofs.Endpoint
import Messaging.Proofs.Http.Percent
import Messaging.Proofs.Uuid.Spelling

/-!
Which calls of the service a request leads to. A request hands in one submission or asks for one
message or does neither, and this is told by the request alone; where it does neither, the service
stays as it is.
-/
namespace Messaging.Api

open Http

/-- What a request submits: it is a POST at `/messages` that passes the checks of content type and
size, and its body holds a submission. -/
def submitted? (r : Request) : Option NewMessage :=
  if r.method = "POST" ∧ r.path = "/messages"
      ∧ (r.header? "content-type").any ContentType.isJson = true
      ∧ r.body.length ≤ maxBodyLength then
    (NewMessage.ofJson r.body).toOption
  else none

def uuidOf? (segment : Bytes) : Option Uuid := do
  (Uuid.read (← Percent.decodeText? segment)).toOption

/-- Which message a request asks for, and of which receiver: it is a GET or HEAD at
`/messages/{receiverId}/{messageId}`, where both spell identifiers. -/
def requested? (r : Request) : Option (Uuid × Uuid) :=
  if r.method = "GET" ∨ r.method = "HEAD" then
    match Endpoint.segments r.path with
    | [[], place, receiverId, messageId] =>
      if place = Utf8.ofString "messages" then do
        return (← uuidOf? messageId, ← uuidOf? receiverId)
      else none
    | _ => none
  else none

theorem submission_eq_ok_iff {r : Request} {new : NewMessage} :
    submission r = .ok new
      ↔ (r.header? "content-type").any ContentType.isJson = true
        ∧ r.body.length ≤ maxBodyLength ∧ NewMessage.ofJson r.body = .ok new := by
  rw [submission]
  by_cases htype : (r.header? "content-type").any ContentType.isJson = true
  · by_cases hlength : maxBodyLength < r.body.length
    · simp [htype, hlength]
    · cases hjson : NewMessage.ofJson r.body with
      | ok new => simp [htype, hlength, Nat.not_lt.mp hlength]
      | error f => by_cases hmisfit : f.problem.isMisfit = true <;> simp [htype, hlength, hmisfit]
  · simp [htype]

theorem submitted?_eq_some_iff {r : Request} {new : NewMessage} :
    submitted? r = some new
      ↔ r.method = "POST" ∧ r.path = "/messages" ∧ submission r = .ok new := by
  rw [submitted?, submission_eq_ok_iff]
  cases hjson : NewMessage.ofJson r.body <;> simp [Except.toOption, and_assoc]

@[simp] theorem uuidOf?_nil : uuidOf? [] = none := rfl

/-- A request asks for a message exactly if it comes to the place of a message whose segments both
spell identifiers. -/
theorem requested?_eq_some_iff {r : Request} {messageId receiverId : Uuid} :
    requested? r = some (messageId, receiverId)
      ↔ (r.method = "GET" ∨ r.method = "HEAD") ∧ ∃ receiverText messageText,
        Endpoint.ofPath? r.path = some (.message receiverText messageText)
          ∧ uuidOf? receiverText = some receiverId ∧ uuidOf? messageText = some messageId := by
  constructor
  · intro h
    rw [requested?] at h
    by_cases hmethod : r.method = "GET" ∨ r.method = "HEAD"
    · rw [if_pos hmethod] at h
      refine ⟨hmethod, ?_⟩
      split at h
      · rename_i place receiverText messageText hsegments
        split_ifs at h with hplace
        cases hmessage : uuidOf? messageText with
        | none => simp [hmessage] at h
        | some message =>
          cases hreceiver : uuidOf? receiverText with
          | none => simp [hmessage, hreceiver] at h
          | some receiver =>
            simp only [hmessage, hreceiver, Option.bind_eq_bind, Option.bind_some, Option.pure_def,
              Option.some.injEq, Prod.mk.injEq] at h
            obtain ⟨rfl, rfl⟩ := h
            have hne : messageText ≠ [] := by
              rintro rfl
              simp at hmessage
            exact ⟨receiverText, messageText,
              Endpoint.ofPath?_eq_message_iff.mpr ⟨hplace ▸ hsegments, hne⟩, hreceiver, hmessage⟩
      · simp at h
    · simp [if_neg hmethod] at h
  · rintro ⟨hmethod, receiverText, messageText, hpath, hreceiver, hmessage⟩
    obtain ⟨hsegments, -⟩ := Endpoint.ofPath?_eq_message_iff.mp hpath
    simp [requested?, hmethod, hsegments, hreceiver, hmessage]

/-- At the place of a message, a request asks for none only if a segment spells no identifier. -/
theorem uuidOf?_eq_none_of_requested {r : Request} {receiverText messageText : Bytes}
    (h : requested? r = none) (hmethod : r.method = "GET" ∨ r.method = "HEAD")
    (hplace : Endpoint.ofPath? r.path = some (.message receiverText messageText)) :
    uuidOf? receiverText = none ∨ uuidOf? messageText = none := by
  by_contra hcontra
  rw [not_or, ← ne_eq, ← ne_eq, Option.ne_none_iff_exists', Option.ne_none_iff_exists'] at hcontra
  obtain ⟨⟨receiverId, hreceiver⟩, messageId, hmessage⟩ := hcontra
  rw [requested?_eq_some_iff.mpr
    ⟨hmethod, receiverText, messageText, hplace, hreceiver, hmessage⟩] at h
  simp at h

/-- The segment writes a spelling of the identifier, in which any bytes may be escaped. -/
def SpellsInPath (segment : Bytes) (u : Uuid) : Prop :=
  ∃ s, Uuid.Spells s u ∧ Percent.Escapes (Utf8.ofString s) segment

theorem spellsInPath_toText (u : Uuid) : SpellsInPath (Utf8.ofString u.toText) u :=
  ⟨_, u.spells_toText, Percent.escapes_self (u.spells_toText.notMem_ofString (.inl rfl))⟩

theorem SpellsInPath.uuidOf? {segment : Bytes} {u : Uuid} (h : SpellsInPath segment u) :
    uuidOf? segment = some u := by
  obtain ⟨s, hspells, hescapes⟩ := h
  rw [Api.uuidOf?, Percent.decodeText?, hescapes.decode, Utf8.toString?_ofString]
  simp [Uuid.read_eq_ok_iff.mpr hspells, Except.toOption]

theorem SpellsInPath.slash_notMem {segment : Bytes} {u : Uuid} (h : SpellsInPath segment u) :
    Endpoint.slash ∉ segment := by
  obtain ⟨s, hspells, hescapes⟩ := h
  exact hescapes.notMem (hspells.notMem_ofString (.inr rfl)) (by decide) (by decide)

/-- A path whose segments spell identifiers asks for the message that they name, whichever way they
are spelled. -/
theorem requested?_of_spellsInPath {r : Request} {receiverId messageId : Uuid}
    {receiverText messageText : Bytes} (hmethod : r.method = "GET" ∨ r.method = "HEAD")
    (hpath : Utf8.ofString r.path
      = Endpoint.messagesLead ++ (receiverText ++ Endpoint.slash :: messageText))
    (hreceiver : SpellsInPath receiverText receiverId)
    (hmessage : SpellsInPath messageText messageId) :
    requested? r = some (messageId, receiverId) := by
  have hne : messageText ≠ [] := by
    rintro rfl
    simpa using hmessage.uuidOf?
  have hplace :=
    Endpoint.ofPath?_of_message hpath hreceiver.slash_notMem hmessage.slash_notMem hne
  exact requested?_eq_some_iff.mpr
    ⟨hmethod, _, _, hplace, hreceiver.uuidOf?, hmessage.uuidOf?⟩

def messagePath (receiverId messageId : Uuid) : String :=
  "/messages/" ++ (receiverId.toText ++ ("/" ++ messageId.toText))

theorem requested?_messagePath {r : Request} {receiverId messageId : Uuid}
    (hmethod : r.method = "GET" ∨ r.method = "HEAD")
    (hpath : r.path = messagePath receiverId messageId) :
    requested? r = some (messageId, receiverId) := by
  refine requested?_of_spellsInPath hmethod ?_ (spellsInPath_toText receiverId)
    (spellsInPath_toText messageId)
  rw [hpath, messagePath, Utf8.ofString_append, Utf8.ofString_append, Utf8.ofString_append]
  rfl

variable {σ : Type}

theorem service_ofReply (status : Status) (reply : Reply (Service σ) Message) :
    (ofReply status reply).service = reply.state := by
  cases h : reply.result <;> simp [ofReply, h]

/-- The answer that tells a result, with this status if it is a message. -/
def resultResponse (status : Status) : Except ServiceError Message → Response
  | .ok m => messageResponse status m
  | .error e => e.response

theorem response_ofReply (status : Status) (reply : Reply (Service σ) Message) :
    (ofReply status reply).response = resultResponse status reply.result := by
  cases h : reply.result <;> simp [ofReply, resultResponse, h]

theorem status_error_ne_created (e : ServiceError) : e.response.status ≠ .created := by
  cases e <;> simp [ServiceError.response, ServiceError.status, Response.json, Response.withBody]

theorem status_submission_ne_created {r : Request} {response : Response}
    (h : submission r = .error response) : response.status ≠ .created := by
  rw [submission] at h
  split_ifs at h
  · rw [← Except.error.inj h]
    simp [Response.text, Response.withBody]
  · rw [← Except.error.inj h]
    simp [Response.text, Response.withBody]
  · split at h
    · simp at h
    · split_ifs at h <;> rw [← Except.error.inj h] <;> simp [Response.text, Response.withBody]

theorem ofReply_of_ok {reply : Reply (Service σ) Message} {m : Message} {body : Bytes}
    (hreply : reply.result = .ok m) (hbody : m.toJson = .ok body) (status : Status) :
    (ofReply status reply).response = .json status body := by
  simp only [ofReply, hreply, messageResponse, hbody]

theorem ofReply_eq_created {reply : Reply (Service σ) Message} {status : Status}
    (h : (ofReply status reply).response.status = .created) :
    status = .created ∧ ∃ m body, reply.result = .ok m ∧ m.toJson = .ok body := by
  cases hreply : reply.result with
  | error e =>
    simp only [ofReply, hreply] at h
    exact absurd h (status_error_ne_created e)
  | ok m =>
    cases hbody : m.toJson with
    | error e =>
      simp [ofReply, hreply, messageResponse, hbody, Response.text, Response.withBody] at h
    | ok body =>
      rw [ofReply_of_ok hreply hbody] at h
      exact ⟨h, m, body, rfl, hbody⟩

variable [MessageStore σ]

theorem serve_of_submitted {r : Request} {new : NewMessage} (h : submitted? r = some new)
    (s : Service σ) (moment : Moment) :
    serve s moment r = ofReply .created (s.send moment new) := by
  obtain ⟨hmethod, hpath, hsubmission⟩ := submitted?_eq_some_iff.mp h
  have hplace : Endpoint.ofPath? r.path = some .messages :=
    Endpoint.ofPath?_eq_messages_iff.mpr hpath
  simp [serve, hplace, hmethod, Endpoint.accepts, submit, hsubmission]

theorem uuidOf?_eq_some_iff {segment : Bytes} {u : Uuid} :
    uuidOf? segment = some u
      ↔ ∃ text, Percent.decodeText? segment = some text ∧ Uuid.read text = .ok u := by
  cases htext : Percent.decodeText? segment with
  | none => simp [uuidOf?, htext]
  | some text => cases hread : Uuid.read text <;> simp [uuidOf?, htext, hread, Except.toOption]

theorem pathIds_eq_ok_iff {receiverText messageText : String} {receiverId messageId : Uuid} :
    pathIds receiverText messageText = .ok (receiverId, messageId)
      ↔ Uuid.read receiverText = .ok receiverId ∧ Uuid.read messageText = .ok messageId := by
  cases hreceiver : Uuid.read receiverText <;> cases hmessage : Uuid.read messageText <;>
    simp [pathIds, hreceiver, hmessage, Except.mapError, bind, Except.bind, pure, Except.pure]

theorem exists_of_pathIds_eq_error {receiverText messageText : String} {e : ServiceError}
    (h : pathIds receiverText messageText = .error e) : ∃ reason, e = .badRequest reason := by
  cases hreceiver : Uuid.read receiverText <;> cases hmessage : Uuid.read messageText <;>
    simp [pathIds, hreceiver, hmessage, Except.mapError, bind, Except.bind, pure, Except.pure] at h
  all_goals exact ⟨_, h.symm⟩

theorem fetch_of_uuids {receiverText messageText : Bytes} {receiverId messageId : Uuid}
    (hreceiver : uuidOf? receiverText = some receiverId)
    (hmessage : uuidOf? messageText = some messageId) (s : Service σ) :
    fetch s receiverText messageText = ofReply .ok (s.get messageId receiverId) := by
  obtain ⟨receiver, hreceiverText, hreceiverRead⟩ := uuidOf?_eq_some_iff.mp hreceiver
  obtain ⟨message, hmessageText, hmessageRead⟩ := uuidOf?_eq_some_iff.mp hmessage
  simp only [fetch, hreceiverText, hmessageText,
    pathIds_eq_ok_iff.mpr ⟨hreceiverRead, hmessageRead⟩]

/-- The service is not asked for segments that do not both spell an identifier: these are a bad
request, and nothing is said but why. -/
theorem fetch_of_none {receiverText messageText : Bytes}
    (h : uuidOf? receiverText = none ∨ uuidOf? messageText = none) :
    ∃ response events, response.status = .badRequest
      ∧ (events = [] ∨ ∃ reason, events = (ServiceError.badRequest reason).events)
      ∧ ∀ {σ : Type} [MessageStore σ] (s : Service σ),
        fetch s receiverText messageText = ⟨response, s, events⟩ := by
  cases hreceiver : Percent.decodeText? receiverText with
  | none => exact ⟨notText "receiverId", [], rfl, .inl rfl, fun s => by simp only [fetch, hreceiver]⟩
  | some receiver =>
    cases hmessage : Percent.decodeText? messageText with
    | none =>
      exact ⟨notText "messageId", [], rfl, .inl rfl, fun s => by
        simp only [fetch, hreceiver, hmessage]⟩
    | some message =>
      cases hids : pathIds receiver message with
      | error e =>
        obtain ⟨reason, rfl⟩ := exists_of_pathIds_eq_error hids
        exact ⟨(ServiceError.badRequest reason).response, _, rfl, .inr ⟨reason, rfl⟩, fun s => by
          simp only [fetch, hreceiver, hmessage, hids]⟩
      | ok ids =>
        obtain ⟨hreceiverRead, hmessageRead⟩ := pathIds_eq_ok_iff.mp hids
        simp [uuidOf?, hreceiver, hmessage, hreceiverRead, hmessageRead, Except.toOption] at h

/-- A request that asks for a message leads to one call that gets it; a HEAD is answered without
the body. -/
theorem serve_of_requested {r : Request} {messageId receiverId : Uuid}
    (h : requested? r = some (messageId, receiverId)) (s : Service σ) (moment : Moment) :
    serve s moment r =
      let outcome := ofReply .ok (s.get messageId receiverId)
      if r.method = "HEAD" then { outcome with response := outcome.response.dropBody }
      else outcome := by
  obtain ⟨hmethod, receiverText, messageText, hpath, hreceiver, hmessage⟩ :=
    requested?_eq_some_iff.mp h
  have haccepts : (Endpoint.message receiverText messageText).accepts r.method = true := by
    simpa [Endpoint.accepts] using hmethod
  simp [serve, hpath, haccepts, fetch_of_uuids hreceiver hmessage]

/-- What is done at a place, before the body of an answer to a HEAD is dropped. -/
def servedAt (s : Service σ) (moment : Moment) (r : Request) : Endpoint → Outcome σ
  | .livez => ⟨.empty .ok, s, []⟩
  | .messages => submit s moment r
  | .message receiverText messageText => fetch s receiverText messageText

theorem serve_eq_servedAt {r : Request} {endpoint : Endpoint}
    (hplace : Endpoint.ofPath? r.path = some endpoint) (haccepts : endpoint.accepts r.method = true)
    (s : Service σ) (moment : Moment) :
    serve s moment r =
      let outcome := servedAt s moment r endpoint
      if r.method = "HEAD" then { outcome with response := outcome.response.dropBody }
      else outcome := by
  simp only [serve, hplace, haccepts]
  cases endpoint <;> rfl

theorem serve_of_accepts {r : Request} {endpoint : Endpoint}
    (hplace : Endpoint.ofPath? r.path = some endpoint) (haccepts : endpoint.accepts r.method = true)
    (s : Service σ) (moment : Moment) :
    (serve s moment r).service = (servedAt s moment r endpoint).service
      ∧ (serve s moment r).response.status = (servedAt s moment r endpoint).response.status := by
  rw [serve_eq_servedAt hplace haccepts]
  by_cases hhead : r.method = "HEAD" <;> simp [hhead, Response.dropBody]

/-- All other requests are answered one way, whatever the service and its store. -/
theorem serve_of_none {r : Request} (hsubmitted : submitted? r = none)
    (hrequested : requested? r = none) :
    ∃ response events, ∀ {σ : Type} [MessageStore σ] (s : Service σ) (moment : Moment),
      serve s moment r = ⟨response, s, events⟩ := by
  cases hplace : Endpoint.ofPath? r.path with
  | none => exact ⟨.empty .notFound, [], fun s moment => by simp only [serve, hplace]⟩
  | some endpoint =>
    by_cases haccepts : endpoint.accepts r.method = true
    · cases endpoint with
      | livez =>
        refine ⟨if r.method = "HEAD" then (Response.empty .ok).dropBody else .empty .ok, [],
          fun s moment => ?_⟩
        simp only [serve, hplace, haccepts, Bool.not_true, Bool.false_eq_true, if_false]
        split <;> rfl
      | messages =>
        have hmethod : r.method = "POST" := by simpa [Endpoint.accepts] using haccepts
        have hpath := Endpoint.ofPath?_eq_messages_iff.mp hplace
        cases hsubmission : submission r with
        | error response =>
          have hhead : r.method ≠ "HEAD" := by simp [hmethod]
          exact ⟨response, [], fun s moment => by
            simp [serve, hplace, haccepts, submit, hsubmission, hhead]⟩
        | ok new =>
          rw [submitted?_eq_some_iff.mpr ⟨hmethod, hpath, hsubmission⟩] at hsubmitted
          simp at hsubmitted
      | message receiverText messageText =>
        have hmethod : r.method = "GET" ∨ r.method = "HEAD" := by
          simpa [Endpoint.accepts] using haccepts
        obtain ⟨response, events, -, -, hfetch⟩ :=
          fetch_of_none (uuidOf?_eq_none_of_requested hrequested hmethod hplace)
        refine ⟨if r.method = "HEAD" then response.dropBody else response, events,
          fun s moment => ?_⟩
        simp only [serve, hplace, haccepts, Bool.not_true, Bool.false_eq_true, if_false, hfetch]
        split <;> rfl
    · exact ⟨(Response.empty .methodNotAllowed).addHeader "allow" (Utf8.ofString endpoint.allowed),
        [], fun s moment => by simp [serve, hplace, haccepts]⟩

theorem service_serve_of_none {r : Request} (hsubmitted : submitted? r = none)
    (hrequested : requested? r = none) (s : Service σ) (moment : Moment) :
    (serve s moment r).service = s := by
  obtain ⟨response, events, hserve⟩ := serve_of_none hsubmitted hrequested
  rw [hserve]

theorem fetch_ne_created (s : Service σ) (receiverText messageText : Bytes) :
    (fetch s receiverText messageText).response.status ≠ .created := by
  intro h
  rw [fetch] at h
  split at h
  · simp [notText, Response.text, Response.withBody] at h
  · simp [notText, Response.text, Response.withBody] at h
  · split at h
    · exact status_error_ne_created _ h
    · exact absurd (ofReply_eq_created h).1 (by decide)

/-- An answer that something was created is the answer to a submission that the store has saved. -/
theorem submitted?_of_created {s : Service σ} {moment : Moment} {r : Request}
    (h : (serve s moment r).response.status = .created) :
    ∃ new m body, submitted? r = some new ∧ (s.send moment new).result = .ok m
      ∧ m.toJson = .ok body := by
  cases hplace : Endpoint.ofPath? r.path with
  | none => simp [serve, hplace, Response.empty] at h
  | some endpoint =>
    by_cases haccepts : endpoint.accepts r.method = true
    · rw [(serve_of_accepts hplace haccepts s moment).2] at h
      cases endpoint with
      | livez => simp [servedAt, Response.empty] at h
      | message receiverText messageText => exact absurd h (fetch_ne_created s _ _)
      | messages =>
        have hmethod : r.method = "POST" := by simpa [Endpoint.accepts] using haccepts
        have hpath := Endpoint.ofPath?_eq_messages_iff.mp hplace
        rw [servedAt, submit] at h
        cases hsubmission : submission r with
        | error response =>
          simp only [hsubmission] at h
          exact absurd h (status_submission_ne_created hsubmission)
        | ok new =>
          simp only [hsubmission] at h
          obtain ⟨-, m, body, hsend, hbody⟩ := ofReply_eq_created h
          exact ⟨new, m, body, submitted?_eq_some_iff.mpr ⟨hmethod, hpath, hsubmission⟩, hsend,
            hbody⟩
    · simp [serve, hplace, haccepts, Response.empty, Response.addHeader] at h

/-- The answer to a request that leads to a call of the service, by what the call gives. -/
def answerTo (r : Request) (chance : Uuid) (result : Except ServiceError Message) : Response :=
  let response := resultResponse (if r.method = "POST" then .created else .ok) result
  (if r.method = "HEAD" then response.dropBody else response).addHeader requestIdHeader
    (requestId r chance)

theorem answerTo_of_ok {r : Request} {m : Message} {body : Bytes} (hmethod : r.method ≠ "HEAD")
    (hbody : m.toJson = .ok body) (chance : Uuid) :
    (answerTo r chance (.ok m)).status = (if r.method = "POST" then .created else .ok)
      ∧ (answerTo r chance (.ok m)).body = body := by
  simp [answerTo, hmethod, resultResponse, messageResponse, hbody, Response.json,
    Response.withBody, Response.addHeader]

theorem status_answerTo_of_error (r : Request) (chance : Uuid) (e : ServiceError) :
    (answerTo r chance (.error e)).status = e.status := by
  by_cases hhead : r.method = "HEAD" <;>
    simp [answerTo, hhead, resultResponse, ServiceError.response, Response.json,
      Response.withBody, Response.addHeader, Response.dropBody]

theorem status_answerTo_ne_created {r : Request} (hmethod : r.method ≠ "POST") (chance : Uuid)
    (result : Except ServiceError Message) : (answerTo r chance result).status ≠ .created := by
  have hresponse : (resultResponse .ok result).status ≠ .created := by
    cases result with
    | error e => exact status_error_ne_created e
    | ok m =>
      cases hbody : m.toJson <;>
        simp [resultResponse, messageResponse, hbody, Response.json, Response.text,
          Response.withBody]
  by_cases hhead : r.method = "HEAD" <;>
    simpa [answerTo, hmethod, hhead, Response.addHeader, Response.dropBody] using hresponse

theorem method_ne_of_requested {r : Request} {messageId receiverId : Uuid}
    (h : requested? r = some (messageId, receiverId)) : r.method ≠ "POST" := by
  rcases (requested?_eq_some_iff.mp h).1 with hget | hget <;> simp [hget]

end Messaging.Api
