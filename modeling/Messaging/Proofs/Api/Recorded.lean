import Messaging.Proofs.Session.Clients

/-!
What a request asks of the store, and how it is answered by what the store says. A store that keeps
its calls answers as the store does, so what it has kept after a request is what the request has
asked.
-/
namespace Messaging

inductive StoreCall
  | save (m : Message)
  | lookup (messageId receiverId : Uuid)
  deriving DecidableEq

/-- A store with the calls that have been made, in order. -/
structure Recorded (σ : Type) where
  store : σ
  calls : List StoreCall

variable {σ : Type}

def Reply.recorded {α : Type} (reply : Reply σ α) (calls : List StoreCall) (call : StoreCall) :
    Reply (Recorded σ) α :=
  ⟨reply.result, ⟨reply.state, calls ++ [call]⟩, reply.events⟩

instance [MessageStore σ] : MessageStore (Recorded σ) where
  save r m := (MessageStore.save r.store m).recorded r.calls (.save m)
  lookup r messageId receiverId :=
    (MessageStore.lookup r.store messageId receiverId).recorded r.calls
      (.lookup messageId receiverId)
  rowCount r := MessageStore.rowCount r.store

namespace Service

def recorded (s : Service σ) : Service (Recorded σ) :=
  ⟨⟨s.store, []⟩, s.node, s.sequence, s.counters⟩

def unrecorded (s : Service (Recorded σ)) : Service σ :=
  ⟨s.store.store, s.node, s.sequence, s.counters⟩

end Service

namespace Api

open Http

variable [MessageStore σ]

/-- What the store is asked while a request is served. -/
def storeCalls (s : Service σ) (reading : Reading) (r : Request) : List StoreCall :=
  (handle s.recorded reading r).service.store.calls

/-- Keeping the calls changes neither the answer nor what becomes of the service, so that what is
kept is what the store is asked. -/
structure Recordable (s : Service σ) (reading : Reading) (r : Request) : Prop where
  response : (handle s.recorded reading r).response = (handle s reading r).response
  service : (handle s.recorded reading r).service.unrecorded = (handle s reading r).service

theorem recordable (s : Service σ) (reading : Reading) (r : Request) : Recordable s reading r := by
  suffices h : (handle s.recorded reading r).response = (handle s reading r).response
      ∧ (handle s.recorded reading r).service.unrecorded = (handle s reading r).service from
    ⟨h.1, h.2⟩
  cases hsubmitted : submitted? r with
  | some new =>
    obtain ⟨hservice, hresponse⟩ := handle_of_submitted hsubmitted s reading
    obtain ⟨hservice', hresponse'⟩ := handle_of_submitted hsubmitted s.recorded reading
    rw [hservice, hresponse, hservice', hresponse']
    exact ⟨rfl, rfl⟩
  | none =>
    cases hrequested : requested? r with
    | some asked =>
      obtain ⟨hservice, hresponse⟩ := handle_of_requested hrequested s reading
      obtain ⟨hservice', hresponse'⟩ := handle_of_requested hrequested s.recorded reading
      rw [hservice, hresponse, hservice', hresponse']
      exact ⟨rfl, rfl⟩
    | none =>
      obtain ⟨response, hhandle⟩ := handle_of_none hsubmitted hrequested reading
      rw [(hhandle s).1, (hhandle s).2, (hhandle s.recorded).1, (hhandle s.recorded).2]
      exact ⟨rfl, rfl⟩

theorem storeCalls_of_submitted {r : Request} {new : NewMessage} (h : submitted? r = some new)
    (s : Service σ) (reading : Reading) :
    storeCalls s reading r
      = [.save (new.toMessage (s.nextId reading.moment) reading.moment.now)] := by
  rw [storeCalls, (handle_of_submitted h s.recorded reading).1]
  rfl

theorem storeCalls_of_requested {r : Request} {messageId receiverId : Uuid}
    (h : requested? r = some (messageId, receiverId)) (s : Service σ) (reading : Reading) :
    storeCalls s reading r = [.lookup messageId receiverId] := by
  rw [storeCalls, (handle_of_requested h s.recorded reading).1]
  rfl

/-- A request is refused with an answer: the service stays as it is, with the identifiers that it
will make, and nothing is asked of the store. -/
structure Refused (s : Service σ) (reading : Reading) (r : Request) (response : Response) :
    Prop where
  response : (handle s reading r).response
    = response.addHeader requestIdHeader (requestId r reading.chance)
  service : (handle s reading r).service = s
  calls : storeCalls s reading r = []

/-- A request is refused if it is answered one way, whatever the service and its store. -/
theorem refused_of_serve {r : Request} {response : Response} (events : List Log.Event)
    {reading : Reading}
    (h : ∀ {τ : Type} [MessageStore τ] (t : Service τ),
      serve t reading.moment r = ⟨response, t, events⟩) (s : Service σ) :
    Refused s reading r response where
  response := by rw [handle_eq, h]
  service := by rw [handle_eq, h]
  calls := by rw [storeCalls, handle_eq, h]; rfl

theorem answerTo_of_not_head {r : Request} (hmethod : r.method ≠ "HEAD") (chance : Uuid)
    (result : Except ServiceError Message) :
    answerTo r chance result
      = (resultResponse (if r.method = "POST" then .created else .ok) result).addHeader
          requestIdHeader (requestId r chance) := by
  rw [answerTo, if_neg hmethod]

/-- A request whose call has failed is answered with the error of the call; for what goes wrong
inside the store, that is one fixed text. -/
structure TellsError {α : Type} (reading : Reading) (r : Request) (result : Except ServiceError α)
    (response : Response) : Prop where
  error : ∀ e, result = .error e →
    response = e.response.addHeader requestIdHeader (requestId r reading.chance)
  database : ∀ cause, result = .error (.database cause) →
    response = Session.fixedAnswer .serviceUnavailable
      "\x7b\"error\":\"Message store unavailable\"\x7d" reading r
  malformedRow : ∀ fault, result = .error (.malformedRow fault) →
    response = Session.fixedAnswer .internalServerError
      "\x7b\"error\":\"Internal server error\"\x7d" reading r

theorem tellsError_of_answerTo {α : Type} {reading : Reading} {r : Request}
    {result : Except ServiceError α} {response : Response} (hmethod : r.method ≠ "HEAD")
    (h : ∀ e, result = .error e → response = answerTo r reading.chance (.error e)) :
    TellsError reading r result response where
  error e he := by
    rw [h e he, answerTo_of_not_head hmethod]
    rfl
  database cause he := by rw [h _ he, Session.answerTo_database]
  malformedRow fault he := by rw [h _ he, Session.answerTo_malformedRow]

end Api

end Messaging
