import Messaging.Proofs.Session.Clients
import Messaging.Proofs.Session.Discretion
import Messaging.Proofs.Session.Writes

/-!
What is said about a request. Whatever serves it says no more than warnings, but for the one error
event of a call that went wrong inside the store; its completion comes after all that, and after its
completion the failure of an answer that blames the server.
-/
namespace Messaging

namespace Log

/-- The event tells neither an error nor information. -/
def Event.Subdued (e : Event) : Prop := e.level ≠ .error ∧ e.level ≠ .info

theorem subdued_within {span : Span} {events : List Event} (h : ∀ e ∈ events, e.Subdued) :
    ∀ e ∈ within span events, e.Subdued := by
  intro e he
  obtain ⟨inner, hinner, rfl⟩ := List.mem_map.mp he
  exact h inner hinner

theorem subdued_failureOf {ε α : Type} (target : String) (message : ε → String)
    (result : Except ε α) : ∀ e ∈ failureOf target message result, e.Subdued := by
  cases result <;> simp [failureOf, failure, Event.Subdued]

def errorMessages (events : List Event) : List (Option String) :=
  (events.filter fun e => e.level = .error).map Event.message

theorem errorMessages_append (es fs : List Event) :
    errorMessages (es ++ fs) = errorMessages es ++ errorMessages fs := by
  simp [errorMessages]

theorem errorMessages_of_subdued {events : List Event} (h : ∀ e ∈ events, e.Subdued) :
    errorMessages events = [] := by
  simpa [errorMessages] using fun e he => (h e he).1

theorem errorMessages_within (span : Span) (events : List Event) :
    errorMessages (within span events) = errorMessages events := by
  simp only [errorMessages, within, List.filter_map, List.map_map]
  rfl

end Log

/-- A store that tells neither errors nor information while it is called. -/
class QuietStore (σ : Type) [MessageStore σ] : Prop where
  events_save : ∀ (s : σ) (m : Message), ∀ e ∈ (MessageStore.save s m).events, e.Subdued
  events_lookup : ∀ (s : σ) (messageId receiverId : Uuid),
    ∀ e ∈ (MessageStore.lookup s messageId receiverId).events, e.Subdued

instance : QuietStore MemoryStore where
  events_save s m := by
    change ∀ e ∈ (s.save m).events, e.Subdued
    cases hfailing : s.failing <;> simp [MemoryStore.save, hfailing]
  events_lookup s messageId receiverId := by
    change ∀ e ∈ (s.lookup messageId receiverId).events, e.Subdued
    cases hfailing : s.failing <;> simp [MemoryStore.lookup, hfailing]

instance : QuietStore Cql.Repository where
  events_save _ _ := Log.subdued_within (Log.subdued_failureOf _ _ _)
  events_lookup _ _ _ := Log.subdued_within (Log.subdued_failureOf _ _ _)

/-- What is told in the log of an error inside the store, when it is answered. -/
def ServiceError.logged : ServiceError → List (Option String)
  | .database _ => [some "Database error"]
  | .malformedRow _ => [some "Failed to decode stored message"]
  | .notFound | .badRequest _ => []

theorem ServiceError.errorMessages_events (e : ServiceError) :
    Log.errorMessages e.events = e.logged := by
  cases e <;> rfl

theorem ServiceError.level_events (e : ServiceError) : ∀ event ∈ e.events, event.level ≠ .info := by
  cases e <;> simp [ServiceError.events, Log.event]

namespace Api

open Http

variable {σ : Type} [MessageStore σ]

/-- The error that a request ends in, if it leads to a call of the service that fails. -/
def callError? (s : Service σ) (moment : Moment) (r : Request) : Option ServiceError :=
  match submitted? r, requested? r with
  | some new, _ => fate (s.send moment new).result
  | none, some (messageId, receiverId) => fate (s.get messageId receiverId).result
  | none, none => none

/-- The events tell no information, and of errors just those that are wanted. -/
structure Tells (events : List Log.Event) (errors : List (Option String)) : Prop where
  level : ∀ e ∈ events, e.level ≠ .info
  errors : Log.errorMessages events = errors

theorem tells_of_subdued {events : List Log.Event} (h : ∀ e ∈ events, e.Subdued) :
    Tells events [] :=
  ⟨fun e he => (h e he).2, Log.errorMessages_of_subdued h⟩

omit [MessageStore σ] in
theorem tells_ofReply {reply : Reply (Service σ) Message} (h : ∀ e ∈ reply.events, e.Subdued)
    (status : Status) :
    Tells (ofReply status reply).events ((fate reply.result).elim [] ServiceError.logged) := by
  rw [Session.events_ofReply]
  cases fate reply.result with
  | none =>
    rw [Option.elim_none, Option.elim_none, List.append_nil]
    exact tells_of_subdued h
  | some e =>
    rw [Option.elim_some, Option.elim_some]
    refine ⟨fun event hevent => ?_, ?_⟩
    · rcases List.mem_append.mp hevent with hcall | herror
      · exact (h event hcall).2
      · exact e.level_events event herror
    · rw [Log.errorMessages_append, Log.errorMessages_of_subdued h, e.errorMessages_events,
        List.nil_append]

theorem subdued_sendEvents (result : Except ServiceError Message) :
    ∀ e ∈ Service.sendEvents result, e.Subdued := by
  cases result <;> simp [Service.sendEvents, Log.event, Log.failure, Log.Event.Subdued]

section Calls

variable [QuietStore σ]

theorem subdued_send (s : Service σ) (moment : Moment) (new : NewMessage) :
    ∀ e ∈ (s.send moment new).events, e.Subdued := by
  refine Log.subdued_within fun e he => ?_
  rcases List.mem_append.mp he with hstore | hsend
  · exact QuietStore.events_save _ _ e hstore
  · exact subdued_sendEvents _ e hsend

theorem subdued_get (s : Service σ) (messageId receiverId : Uuid) :
    ∀ e ∈ (s.get messageId receiverId).events, e.Subdued := by
  refine Log.subdued_within fun e he => ?_
  rcases List.mem_append.mp he with hstore | hget
  · exact QuietStore.events_lookup _ _ _ e hstore
  · exact Log.subdued_failureOf _ _ _ e hget

end Calls

theorem subdued_serve_of_none {r : Request} (hsubmitted : submitted? r = none)
    (hrequested : requested? r = none) (s : Service σ) (moment : Moment) :
    ∀ e ∈ (serve s moment r).events, e.Subdued := by
  cases hplace : Endpoint.ofPath? r.path with
  | none => simp [serve, hplace]
  | some endpoint =>
    by_cases haccepts : endpoint.accepts r.method = true
    · have hserved : ∀ e ∈ (servedAt s moment r endpoint).events, e.Subdued := by
        cases endpoint with
        | livez => simp [servedAt]
        | messages =>
          have hmethod : r.method = "POST" := by simpa [Endpoint.accepts] using haccepts
          have hpath := Endpoint.ofPath?_eq_messages_iff.mp hplace
          cases hsubmission : submission r with
          | error response => simp [servedAt, submit, hsubmission]
          | ok new =>
            rw [submitted?_eq_some_iff.mpr ⟨hmethod, hpath, hsubmission⟩] at hsubmitted
            simp at hsubmitted
        | message receiverText messageText =>
          have hmethod : r.method = "GET" ∨ r.method = "HEAD" := by
            simpa [Endpoint.accepts] using haccepts
          obtain ⟨response, events, -, hevents, hfetch⟩ :=
            fetch_of_none (uuidOf?_eq_none_of_requested hrequested hmethod hplace)
          rw [servedAt, hfetch]
          rcases hevents with rfl | ⟨reason, rfl⟩ <;>
            simp [ServiceError.events, Log.event, Log.Event.Subdued]
      rw [serve_eq_servedAt hplace haccepts]
      by_cases hhead : r.method = "HEAD" <;> simpa [hhead] using hserved
    · simp [serve, hplace, haccepts]

variable [QuietStore σ]

/-- Whatever serves a request tells one error if the request ends in one of the store, and none
otherwise. -/
theorem tells_serve (s : Service σ) (moment : Moment) (r : Request) :
    Tells (serve s moment r).events ((callError? s moment r).elim [] ServiceError.logged) := by
  cases hsubmitted : submitted? r with
  | some new =>
    rw [serve_of_submitted hsubmitted, callError?, hsubmitted]
    exact tells_ofReply (subdued_send s moment new) .created
  | none =>
    cases hrequested : requested? r with
    | some asked =>
      obtain ⟨messageId, receiverId⟩ := asked
      have htells := tells_ofReply (subdued_get s messageId receiverId) .ok
      rw [serve_of_requested hrequested, callError?, hsubmitted, hrequested]
      split <;> exact htells
    | none =>
      rw [callError?, hsubmitted, hrequested]
      exact tells_of_subdued (subdued_serve_of_none hsubmitted hrequested s moment)

omit [QuietStore σ] in
theorem status_handle_of_callError? {s : Service σ} {reading : Reading} {r : Request}
    {e : ServiceError} (h : callError? s reading.moment r = some e) :
    (handle s reading r).response.status = e.status := by
  rw [callError?] at h
  split at h
  · rename_i new hsubmitted
    rw [(handle_of_submitted hsubmitted s reading).2, fate_eq_some_iff.mp h,
      status_answerTo_of_error]
  · rename_i messageId receiverId hsubmitted hrequested
    rw [(handle_of_requested hrequested s reading).2, fate_eq_some_iff.mp h,
      status_answerTo_of_error]
  · simp at h

theorem Tells.within {events : List Log.Event} {errors : List (Option String)}
    (h : Tells events errors) (span : Log.Span) : Tells (Log.within span events) errors where
  level e he := by
    obtain ⟨inner, hinner, rfl⟩ := List.mem_map.mp he
    exact h.level inner hinner
  errors := by rw [Log.errorMessages_within, h.errors]

/-- The event tells that a request was completed with a status. -/
structure Completes (e : Log.Event) (status : Status) : Prop where
  level : e.level = .info
  message : e.message = some "request completed"
  status : e.fields.filter (fun f => f.name = "status")
    = [⟨"status", .shown (toString status.code)⟩]

/-- The error that an answer leaves which blames the server. -/
def failureMessages (status : Status) : List (Option String) :=
  if status.isServerError then [some "request failed"] else []

/-- The events are the errors that an answer with the status leaves. -/
structure AreFailures (status : Status) (events : List Log.Event) : Prop where
  level : ∀ e ∈ events, e.level = .error
  message : events.map Log.Event.message = failureMessages status

theorem AreFailures.tells {status : Status} {events : List Log.Event}
    (h : AreFailures status events) : Tells events (failureMessages status) where
  level e he := by simp [h.level e he]
  errors := by
    rw [Log.errorMessages, List.filter_eq_self.mpr (by simpa using h.level), h.message]

/-- What is told once a request has been served: its completion, and the failure of an answer that
blames the server. -/
theorem within_completionEvents (span : Log.Span) (status : Status) (latencyMillis : Nat) :
    ∃ completion failures,
      Log.within span (completionEvents status latencyMillis) = completion :: failures
      ∧ Completes completion status ∧ AreFailures status failures := by
  refine ⟨_, _, rfl, ⟨rfl, rfl, rfl⟩, ?_⟩
  by_cases hfailed : status.isServerError = true
  · constructor <;> simp [hfailed, failureMessages, Log.event, Log.Event.inside]
  · constructor <;> simp [hfailed, failureMessages]

/-- What is told of a request: what is told while it is served, and what is told in all. It is
answered with a status, and ended in an error or in none. -/
structure Logged (served told : List Log.Event) (status : Status) (failed? : Option ServiceError) :
    Prop where
  /-- There is one completion, after all that is told while the request is served. Nothing follows
  it but the failure of an answer that blames the server. -/
  completed : ∃ completion failures, told = served ++ completion :: failures
    ∧ Completes completion status
    ∧ (told.filter fun e => e.level = .info) = [completion]
    ∧ AreFailures status failures
  /-- An error of the store is told once, and before the completion. -/
  store : Log.errorMessages served = failed?.elim [] ServiceError.logged
  /-- Besides, the only error is the failure of the answer. -/
  errors : Log.errorMessages told = Log.errorMessages served ++ failureMessages status
  quiet : status.code < 500 → ∀ e ∈ told, e.level ≠ .error

theorem logged_nil_of_status {failed? : Option ServiceError} {status : Status}
    (h : ∀ e, failed? = some e → status = e.status) (hcode : status.code < 500) :
    failed?.elim [] ServiceError.logged = [] := by
  cases failed? with
  | none => rfl
  | some e =>
    obtain rfl := h e rfl
    cases e <;> simp_all [ServiceError.logged, ServiceError.status, Status.code]

theorem logged_of_tells {served after : List Log.Event} {status : Status}
    {failed? : Option ServiceError} (h : ∀ e, failed? = some e → status = e.status)
    (hserved : Tells served (failed?.elim [] ServiceError.logged))
    (hafter : ∃ completion failures, after = completion :: failures ∧ Completes completion status
      ∧ AreFailures status failures) :
    Logged served (served ++ after) status failed? := by
  obtain ⟨completion, failures, rfl, hcompletes, hfailures⟩ := hafter
  have herrors : Log.errorMessages (served ++ completion :: failures)
      = Log.errorMessages served ++ failureMessages status := by
    rw [← List.singleton_append, Log.errorMessages_append, Log.errorMessages_append,
      hfailures.tells.errors]
    simp [Log.errorMessages, hcompletes.level]
  have hinfo : ((served ++ completion :: failures).filter fun e => e.level = .info)
      = [completion] := by
    rw [List.filter_append, List.filter_cons_of_pos (by simpa using hcompletes.level),
      List.filter_eq_nil_iff.mpr (by simpa using hserved.level),
      List.filter_eq_nil_iff.mpr (by simpa using hfailures.tells.level), List.nil_append]
  refine ⟨⟨completion, failures, rfl, hcompletes, hinfo, hfailures⟩, hserved.errors, herrors, ?_⟩
  intro hcode e he hlevel
  have hnone : Log.errorMessages (served ++ completion :: failures) = [] := by
    rw [herrors, hserved.errors, logged_nil_of_status h hcode, failureMessages,
      Status.isServerError, if_neg (by simpa using hcode), List.append_nil]
  rw [Log.errorMessages, List.map_eq_nil_iff, List.filter_eq_nil_iff] at hnone
  exact hnone e he (by simpa using hlevel)

/-- Every request is logged, whatever it asks for and however that goes. -/
def LogsRequests (σ : Type) [MessageStore σ] : Prop :=
  ∀ (s : Service σ) (reading : Reading) (r : Request),
    Logged
      (Log.within (requestSpan r (requestId r reading.chance) none)
        (serve s reading.moment r).events)
      (handle s reading r).events (handle s reading r).response.status
      (callError? s reading.moment r)

theorem logsRequests_of_quietStore (σ : Type) [MessageStore σ] [QuietStore σ] :
    LogsRequests σ := by
  intro s reading r
  rw [events_handle]
  exact logged_of_tells (fun _ => status_handle_of_callError?)
    ((tells_serve s reading.moment r).within _) (within_completionEvents _ _ reading.latencyMillis)

/-- It is so in memory and in the database. -/
theorem requests_logged : LogsRequests MemoryStore ∧ LogsRequests Cql.Repository :=
  ⟨logsRequests_of_quietStore MemoryStore, logsRequests_of_quietStore Cql.Repository⟩

/-- A submission that the database does not store is told as an error twice: by the database, and as
the failure of its answer. A request that finds nothing is told as none. -/
theorem outage_logged :
    Log.errorMessages (handle (Session.after Session.sampleService Session.outage)
        Session.sampleReading Session.samplePost).events
        = [some "Database error", some "request failed"]
      ∧ ∀ e ∈ (handle Session.sampleService Session.sampleReading
          ⟨"GET", messagePath .nil .nil, [], []⟩).events, e.level ≠ .error := by
  have houtage := requests_logged.2 (Session.after Session.sampleService Session.outage)
    Session.sampleReading Session.samplePost
  have hstatus : (handle (Session.after Session.sampleService Session.outage)
      Session.sampleReading Session.samplePost).response.status = .serviceUnavailable := by
    decide +kernel
  have hfailed : callError? (Session.after Session.sampleService Session.outage)
      Session.sampleReading.moment Session.samplePost = some (.database .emptyPlan) := by
    decide +kernel
  constructor
  · rw [houtage.errors, houtage.store, hfailed, hstatus]
    rfl
  · exact (requests_logged.2 Session.sampleService Session.sampleReading
      ⟨"GET", messagePath .nil .nil, [], []⟩).quiet (by decide +kernel)

end Api

end Messaging
