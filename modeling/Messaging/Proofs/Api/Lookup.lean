import Messaging.Proofs.Api.Recorded

/-!
What becomes of a request for a message. Both segments of its path have to spell texts, then the
first an identifier and then the second; whatever fails is answered without a call, and what passes
is looked up by one call, whose result is the answer. The path names the receiver first, the call
names the message first.
-/
namespace Messaging.Api

open Http

/-- The request gets the message whose path has these segments, as they are escaped. -/
structure Gets (r : Request) (p q : String) : Prop where
  method : r.method = "GET"
  path : r.path = "/messages/" ++ p ++ "/" ++ q
  nonempty : p ≠ "" ∧ q ≠ ""
  segments : '/' ∉ p.toList ∧ '/' ∉ q.toList

def decoded? (segment : String) : Option String := Percent.decodeText? (Utf8.ofString segment)

def errorResponse (status : Status) (reason : String) : Response :=
  .json status (Json.object [Json.member "error" (Json.string reason)])

variable {σ : Type} [MessageStore σ]

/-- A request leads to one call, which looks a message up and tells the answer. -/
structure LooksUp (s : Service σ) (reading : Reading) (r : Request) (messageId receiverId : Uuid) :
    Prop where
  calls : storeCalls s reading r = [.lookup messageId receiverId]
  store : (handle s reading r).service.store
    = (MessageStore.lookup s.store messageId receiverId).state
  found : ∀ m body, (MessageStore.lookup s.store messageId receiverId).result = .ok (some m) →
    m.toJson = .ok body → (handle s reading r).response
      = (Response.json .ok body).addHeader requestIdHeader (requestId r reading.chance)
  unwritable : ∀ m e, (MessageStore.lookup s.store messageId receiverId).result = .ok (some m) →
    m.toJson = .error e → (handle s reading r).response
      = (Response.text .internalServerError e.message).addHeader requestIdHeader
          (requestId r reading.chance)
  missing : (MessageStore.lookup s.store messageId receiverId).result = .ok none →
    (handle s reading r).response
      = Session.fixedAnswer .notFound "\x7b\"error\":\"Not found\"\x7d" reading r
  failed : TellsError reading r (MessageStore.lookup s.store messageId receiverId).result
    (handle s reading r).response

/-- The ways in which a request for a message can go, each where none before it applies. -/
structure LookupCases (s : Service σ) (reading : Reading) (r : Request) (p q : String) : Prop where
  /-- The calls that are told are the calls that are made. -/
  recordable : Recordable s reading r
  receiverNotText : decoded? p = none →
    Refused s reading r (.text .badRequest "Invalid URL: Invalid UTF-8 in `receiverId`")
  messageNotText : ∀ a, decoded? p = some a → decoded? q = none →
    Refused s reading r (.text .badRequest "Invalid URL: Invalid UTF-8 in `messageId`")
  /-- Whatever the second segment spells. -/
  receiverNotId : ∀ a b, decoded? p = some a → decoded? q = some b →
    ∀ e, Uuid.read a = .error e →
      Refused s reading r (errorResponse .badRequest ("Invalid receiverId: " ++ e.message))
  messageNotId : ∀ a b receiverId, decoded? p = some a → decoded? q = some b →
    Uuid.read a = .ok receiverId → ∀ e, Uuid.read b = .error e →
      Refused s reading r (errorResponse .badRequest ("Invalid messageId: " ++ e.message))
  lookedUp : ∀ a b receiverId messageId, decoded? p = some a → decoded? q = some b →
    Uuid.read a = .ok receiverId → Uuid.read b = .ok messageId →
      LooksUp s reading r messageId receiverId

section Place

variable {r : Request} {p q : String}

theorem slash_notMem_ofString {segment : String} (h : '/' ∉ segment.toList) :
    Endpoint.slash ∉ Utf8.ofString segment :=
  fun hmem => h (Utf8.mem_of_mem_ofString (by decide) hmem)

theorem ofPath?_of_gets (h : Gets r p q) :
    Endpoint.ofPath? r.path = some (.message (Utf8.ofString p) (Utf8.ofString q)) := by
  have hbytes : Utf8.ofString r.path
      = Endpoint.messagesLead ++ (Utf8.ofString p ++ Endpoint.slash :: Utf8.ofString q) := by
    rw [h.path, Utf8.ofString_append, Utf8.ofString_append, Utf8.ofString_append,
      List.append_assoc, List.append_assoc]
    rfl
  have hne : Utf8.ofString q ≠ [] := fun hnil => h.nonempty.2 (Utf8.ofString_injective hnil)
  exact Endpoint.ofPath?_of_message hbytes (slash_notMem_ofString h.segments.1)
    (slash_notMem_ofString h.segments.2) hne

theorem serve_of_gets (h : Gets r p q) (s : Service σ) (moment : Moment) :
    serve s moment r = fetch s (Utf8.ofString p) (Utf8.ofString q) := by
  simp [serve, ofPath?_of_gets h, Endpoint.accepts, h.method]

theorem refused_of_fetch (h : Gets r p q) {response : Response} (events : List Log.Event)
    (hfetch : ∀ {τ : Type} [MessageStore τ] (t : Service τ),
      fetch t (Utf8.ofString p) (Utf8.ofString q) = ⟨response, t, events⟩)
    (s : Service σ) (reading : Reading) : Refused s reading r response :=
  refused_of_serve events (fun t => (serve_of_gets h t reading.moment).trans (hfetch t)) s

theorem refused_of_pathIds (h : Gets r p q) {a b reason : String} (hp : decoded? p = some a)
    (hq : decoded? q = some b) (hids : pathIds a b = .error (.badRequest reason)) (s : Service σ)
    (reading : Reading) : Refused s reading r (errorResponse .badRequest reason) := by
  rw [decoded?] at hp hq
  refine refused_of_fetch h (ServiceError.badRequest reason).events (fun t => ?_) s reading
  simp only [fetch, hp, hq, hids]
  rfl

end Place

theorem answerTo_notFound (reading : Reading) (r : Request) :
    answerTo r reading.chance (.error .notFound)
      = Session.fixedAnswer .notFound "\x7b\"error\":\"Not found\"\x7d" reading r := by
  refine Session.answerTo_of_error ?_ reading r
  rw [ServiceError.clientText]
  decide +kernel

theorem looksUp_of_requested {r : Request} {messageId receiverId : Uuid}
    (hmethod : r.method = "GET") (h : requested? r = some (messageId, receiverId)) (s : Service σ)
    (reading : Reading) : LooksUp s reading r messageId receiverId := by
  have hhead : r.method ≠ "HEAD" := by simp [hmethod]
  have hpost : r.method ≠ "POST" := by simp [hmethod]
  obtain ⟨hservice, hresponse⟩ := handle_of_requested h s reading
  have hget : (s.get messageId receiverId).result
      = Service.foundOrError (MessageStore.lookup s.store messageId receiverId).result := rfl
  rw [hget] at hresponse
  exact {
    calls := storeCalls_of_requested h s reading
    store := by rw [hservice]; rfl
    found := by
      intro m body hlookup hbody
      rw [hresponse, hlookup, answerTo_of_not_head hhead, if_neg hpost]
      simp only [Service.foundOrError, resultResponse, messageResponse, hbody]
    unwritable := by
      intro m e hlookup hbody
      rw [hresponse, hlookup, answerTo_of_not_head hhead, if_neg hpost]
      simp only [Service.foundOrError, resultResponse, messageResponse, hbody]
    missing := by
      intro hlookup
      rw [hresponse, hlookup, Service.foundOrError, answerTo_notFound]
    failed := tellsError_of_answerTo hhead fun e hlookup => by
      rw [hresponse, hlookup, Service.foundOrError] }

theorem requested?_of_gets {r : Request} {p q a b : String} {receiverId messageId : Uuid}
    (h : Gets r p q) (ha : decoded? p = some a) (hb : decoded? q = some b)
    (hreceiver : Uuid.read a = .ok receiverId) (hmessage : Uuid.read b = .ok messageId) :
    requested? r = some (messageId, receiverId) :=
  requested?_eq_some_iff.mpr ⟨.inl h.method, _, _, ofPath?_of_gets h,
    uuidOf?_eq_some_iff.mpr ⟨a, ha, hreceiver⟩, uuidOf?_eq_some_iff.mpr ⟨b, hb, hmessage⟩⟩

/-- Whatever the store, a request for a message goes in one of the ways in which it can go. -/
theorem lookupCases_of_gets (s : Service σ) (reading : Reading) {r : Request} {p q : String}
    (h : Gets r p q) : LookupCases s reading r p q where
  recordable := recordable s reading r
  receiverNotText hp := by
    rw [decoded?] at hp
    exact refused_of_fetch h [] (fun t => by simp only [fetch, hp]; rfl) s reading
  messageNotText a hp hq := by
    rw [decoded?] at hp hq
    exact refused_of_fetch h [] (fun t => by simp only [fetch, hp, hq]; rfl) s reading
  receiverNotId a b hp hq e hreceiver := by
    refine refused_of_pathIds h hp hq ?_ s reading
    simp [pathIds, hreceiver, Except.mapError, bind, Except.bind]
  messageNotId a b receiverId hp hq hreceiver e hmessage := by
    refine refused_of_pathIds h hp hq ?_ s reading
    simp [pathIds, hreceiver, hmessage, Except.mapError, bind, Except.bind]
  lookedUp a b receiverId messageId hp hq hreceiver hmessage :=
    looksUp_of_requested h.method (requested?_of_gets h hp hq hreceiver hmessage) s reading

/-- The database is asked for the first row of the second segment's identifier in the partition of
the first segment's. -/
theorem received_of_gets {r : Request} {p q a b : String} {receiverId messageId : Uuid}
    (h : Gets r p q) (hp : decoded? p = some a) (hq : decoded? q = some b)
    (hreceiver : Uuid.read a = .ok receiverId) (hmessage : Uuid.read b = .ok messageId)
    (s : Service Cql.Repository) (reading : Reading) :
    (handle s reading r).service.store.server.received = s.store.server.received
      ++ [.select (Cql.Cell.ofUuid receiverId) (Cql.Cell.ofUuid messageId)] := by
  have hlookup := (lookupCases_of_gets s reading h).lookedUp a b receiverId messageId hp hq
    hreceiver hmessage
  rw [hlookup.store]
  exact congrArg Cql.Server.received (s.store.server_lookup messageId receiverId)

/-- Whatever the store, a request for a message goes in one of these ways; in the database, it is
the second segment that is looked up, in the partition of the first. -/
theorem lookups_classified :
    (∀ {σ : Type} [MessageStore σ] (s : Service σ) (reading : Reading) (r : Request) (p q : String),
      Gets r p q → LookupCases s reading r p q)
    ∧ ∀ (s : Service Cql.Repository) (reading : Reading) (r : Request) (p q : String),
      Gets r p q → ∀ a b receiverId messageId, decoded? p = some a → decoded? q = some b →
        Uuid.read a = .ok receiverId → Uuid.read b = .ok messageId →
        (handle s reading r).service.store.server.received = s.store.server.received
          ++ [.select (Cql.Cell.ofUuid receiverId) (Cql.Cell.ofUuid messageId)] :=
  ⟨fun s reading _ _ _ h => lookupCases_of_gets s reading h,
    fun s reading _ _ _ h _ _ _ _ hp hq hreceiver hmessage =>
      received_of_gets h hp hq hreceiver hmessage s reading⟩

def sampleReceiver : String := "00000000-0000-0000-0000-000000000001"

def sampleMessage : String := "00000000-0000-0000-0000-000000000002"

def escapedGet : Request :=
  ⟨"GET", "/messages/" ++ "%300000000-0000-0000-0000-000000000001" ++ "/" ++ sampleMessage, [], []⟩

theorem escapedGet_looked_up : ∃ receiverId messageId,
    Uuid.read sampleReceiver = .ok receiverId ∧ Uuid.read sampleMessage = .ok messageId
      ∧ storeCalls Session.sampleService Session.sampleReading escapedGet
        = [.lookup messageId receiverId]
      ∧ (handle Session.sampleService Session.sampleReading
          escapedGet).service.store.server.received
        = Session.sampleService.store.server.received
          ++ [.select (Cql.Cell.ofUuid receiverId) (Cql.Cell.ofUuid messageId)] := by
  have hgets : Gets escapedGet "%300000000-0000-0000-0000-000000000001" sampleMessage :=
    ⟨rfl, rfl, by decide, by decide +kernel⟩
  have hp : decoded? "%300000000-0000-0000-0000-000000000001" = some sampleReceiver := by
    decide +kernel
  have hq : decoded? sampleMessage = some sampleMessage := by decide +kernel
  have hids : (Uuid.read sampleReceiver).toOption.isSome = true
      ∧ (Uuid.read sampleMessage).toOption.isSome = true := by
    decide +kernel
  cases hreceiver : Uuid.read sampleReceiver with
  | error e => simp [hreceiver, Except.toOption] at hids
  | ok receiverId =>
    cases hmessage : Uuid.read sampleMessage with
    | error e => simp [hmessage, Except.toOption] at hids
    | ok messageId =>
      have hcases := lookups_classified.1 Session.sampleService Session.sampleReading _ _ _ hgets
      have hlooks := hcases.lookedUp _ _ _ _ hp hq hreceiver hmessage
      have hreceived := lookups_classified.2 Session.sampleService Session.sampleReading _ _ _
        hgets _ _ _ _ hp hq hreceiver hmessage
      exact ⟨receiverId, messageId, rfl, rfl, hlooks.calls, hreceived⟩

end Messaging.Api
