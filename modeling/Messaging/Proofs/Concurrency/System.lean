import Messaging.Proofs.Api.Layers
import Messaging.Session

/-!
Requests that are served at the same time, over one service and one store. A request is worked on in
turns: a message that is submitted is given its identity, the store is called, the call is counted,
and the request is answered. Turns of different requests come in any order, and the store may be
interfered with between them. A request that is worked on alone is served as if there were no turns.
-/
namespace Messaging.Concurrency

structure Job where
  reading : Api.Reading
  request : Http.Request

inductive Called
  | save (m : Message) (result : Except ServiceError Message)
  | lookup (messageId receiverId : Uuid) (result : Except ServiceError (Option Message))
  deriving DecidableEq

namespace Called

def outcome : Called → Except ServiceError Message
  | .save _ result => result
  | .lookup _ _ result => Service.foundOrError result

def count (c : Counters) : Called → Counters
  | .save _ result => c.countSave result
  | .lookup _ _ result => c.countFetch result

def saveResult? : Called → Option (Except ServiceError Message)
  | .save _ result => some result
  | .lookup _ _ _ => none

def lookupResult? : Called → Option (Except ServiceError (Option Message))
  | .save _ _ => none
  | .lookup _ _ result => some result

def saved? : Called → Option Message
  | .save _ (.ok m) => some m
  | _ => none

end Called

/-- How far a request has been worked on. -/
inductive Stage
  | received
  /-- A message has its identity and time. -/
  | identified (m : Message)
  /-- The store has been called. -/
  | called (c : Called)
  /-- The call has been counted. -/
  | counted (c : Called)
  /-- The request has been answered, with a call of the store or without one. -/
  | answered (c : Option Called) (response : Http.Response)

namespace Stage

def call? : Stage → Option Called
  | .called c | .counted c => some c
  | .answered c _ => c
  | _ => none

def countedCall? : Stage → Option Called
  | .counted c => some c
  | .answered c _ => c
  | _ => none

def identity? : Stage → Option Message
  | .identified m => some m
  | stage => stage.call?.bind fun c =>
    match c with
    | .save m _ => some m
    | .lookup _ _ _ => none

def saved? (stage : Stage) : Option Message := stage.call?.bind Called.saved?

def response? : Stage → Option Http.Response
  | .answered _ response => some response
  | _ => none

def created? (stage : Stage) : Option Message :=
  stage.response?.bind fun response =>
    if response.status = .created then (Message.ofJson response.body).toOption else none

variable {σ : Type} [MessageStore σ]

def next (job : Job) (s : Service σ) : Stage → Stage × Service σ
  | .received =>
    match Api.submitted? job.request, Api.requested? job.request with
    | some new, _ =>
      (.identified (new.toMessage (s.nextId job.reading.moment) job.reading.moment.now),
        { s with sequence := (s.sequence + 1) % Uuid.clockSequences })
    | none, some (messageId, receiverId) =>
      let reply := MessageStore.lookup s.store messageId receiverId
      (.called (.lookup messageId receiverId reply.result), { s with store := reply.state })
    | none, none => (.answered none (Api.handle s job.reading job.request).response, s)
  | .identified m =>
    let reply := MessageStore.save s.store m
    (.called (.save m reply.result), { s with store := reply.state })
  | .called c => (.counted c, { s with counters := c.count s.counters })
  | .counted c => (.answered (some c) (Api.answerTo job.request job.reading.chance c.outcome), s)
  | .answered c response => (.answered c response, s)

/-- A request that is worked on alone is answered as by the service, and leaves the service as the
service does. -/
theorem next_alone (job : Job) (s : Service σ) :
    ∃ c, (fun p : Stage × Service σ => p.1.next job p.2)^[4] (.received, s)
      = (.answered c (Api.handle s job.reading job.request).response,
          (Api.handle s job.reading job.request).service) := by
  simp only [Function.iterate_succ, Function.iterate_zero, Function.comp, id]
  cases hsubmitted : Api.submitted? job.request with
  | some new =>
    obtain ⟨hservice, hresponse⟩ := Api.handle_of_submitted hsubmitted s job.reading
    exact ⟨_, by simp only [next, hsubmitted, hservice, hresponse]; rfl⟩
  | none =>
    cases hrequested : Api.requested? job.request with
    | some asked =>
      obtain ⟨hservice, hresponse⟩ := Api.handle_of_requested hrequested s job.reading
      exact ⟨_, by simp only [next, hsubmitted, hrequested, hservice, hresponse]; rfl⟩
    | none =>
      obtain ⟨response, hhandle⟩ := Api.handle_of_none hsubmitted hrequested job.reading
      exact ⟨none, by simp only [next, hsubmitted, hrequested, (hhandle s).1]⟩

end Stage

structure System (σ : Type) (n : ℕ) where
  service : Service σ
  stage : Fin n → Stage

/-- What happens next: a request is worked on, or the store is interfered with. -/
inductive Turn (n : ℕ) (κ : Type)
  | work (i : Fin n)
  | interfere (k : κ)

namespace System

variable {σ κ : Type} {n : ℕ}

def start (s : Service σ) : System σ n := ⟨s, fun _ => .received⟩

variable [MessageStore σ] [Controlled σ κ]

def turn (jobs : Fin n → Job) (sys : System σ n) : Turn n κ → System σ n
  | .work i =>
    let (stage, service) := (sys.stage i).next (jobs i) sys.service
    ⟨service, Function.update sys.stage i stage⟩
  | .interfere k =>
    { sys with service := { sys.service with store := Controlled.control k sys.service.store } }

def run (jobs : Fin n → Job) (sys : System σ n) (turns : List (Turn n κ)) : System σ n :=
  turns.foldl (turn jobs) sys

@[simp] theorem run_nil (jobs : Fin n → Job) (sys : System σ n) :
    sys.run jobs ([] : List (Turn n κ)) = sys := rfl

@[simp] theorem run_cons (jobs : Fin n → Job) (sys : System σ n) (t : Turn n κ)
    (turns : List (Turn n κ)) : sys.run jobs (t :: turns) = (sys.turn jobs t).run jobs turns := rfl

theorem run_append (jobs : Fin n → Job) (sys : System σ n) (turns more : List (Turn n κ)) :
    sys.run jobs (turns ++ more) = (sys.run jobs turns).run jobs more := List.foldl_append

end System

/-- The turns of a request: from a stage to the next one and to the service after it. -/
inductive Advances {σ : Type} [MessageStore σ] (job : Job) (s : Service σ) :
    Stage → Stage → Service σ → Prop
  | identify (new : NewMessage) (h : Api.submitted? job.request = some new) :
    Advances job s .received
      (.identified (new.toMessage (s.nextId job.reading.moment) job.reading.moment.now))
      { s with sequence := (s.sequence + 1) % Uuid.clockSequences }
  | lookup (messageId receiverId : Uuid)
      (h : Api.requested? job.request = some (messageId, receiverId)) :
    Advances job s .received
      (.called (.lookup messageId receiverId
        (MessageStore.lookup s.store messageId receiverId).result))
      { s with store := (MessageStore.lookup s.store messageId receiverId).state }
  | refuse (hsubmitted : Api.submitted? job.request = none)
      (hrequested : Api.requested? job.request = none) :
    Advances job s .received (.answered none (Api.handle s job.reading job.request).response) s
  | save (m : Message) :
    Advances job s (.identified m) (.called (.save m (MessageStore.save s.store m).result))
      { s with store := (MessageStore.save s.store m).state }
  | count (c : Called) :
    Advances job s (.called c) (.counted c) { s with counters := c.count s.counters }
  | answer (c : Called) :
    Advances job s (.counted c)
      (.answered (some c) (Api.answerTo job.request job.reading.chance c.outcome)) s
  | rest (c : Option Called) (response : Http.Response) :
    Advances job s (.answered c response) (.answered c response) s

section Advances

variable {σ : Type} [MessageStore σ] {job : Job} {s s' : Service σ} {stage stage' : Stage}

theorem advances_next (job : Job) (s : Service σ) (stage : Stage) :
    Advances job s stage (stage.next job s).1 (stage.next job s).2 := by
  cases stage with
  | received =>
    cases hsubmitted : Api.submitted? job.request with
    | some new =>
      simp only [Stage.next, hsubmitted]
      exact .identify new hsubmitted
    | none =>
      cases hrequested : Api.requested? job.request with
      | some asked =>
        simp only [Stage.next, hsubmitted, hrequested]
        exact .lookup asked.1 asked.2 hrequested
      | none =>
        simp only [Stage.next, hsubmitted, hrequested]
        exact .refuse hsubmitted hrequested
  | identified m => exact .save m
  | called c => exact .count c
  | counted c => exact .answer c
  | answered c response => exact .rest c response

theorem Advances.call? {c : Called} (h : Advances job s stage stage' s')
    (hc : stage.call? = some c) : stage'.call? = some c := by
  cases h <;> simp_all [Stage.call?]

theorem Advances.identity? {m : Message} (h : Advances job s stage stage' s')
    (hm : stage.identity? = some m) : stage'.identity? = some m := by
  cases h <;> simp_all [Stage.identity?, Stage.call?]

theorem Advances.result_lookup {messageId receiverId : Uuid}
    {result : Except ServiceError (Option Message)} (h : Advances job s stage stage' s')
    (hbefore : stage.call? = none)
    (hafter : stage'.call? = some (.lookup messageId receiverId result)) :
    (MessageStore.lookup s.store messageId receiverId).result = result := by
  cases h with
  | lookup askedId askedReceiver _ =>
    simp only [Stage.call?, Option.some.injEq, Called.lookup.injEq] at hafter
    obtain ⟨rfl, rfl, hresult⟩ := hafter
    exact hresult
  | identify new _ => simp [Stage.call?] at hafter
  | refuse _ _ => simp [Stage.call?] at hafter
  | save m => simp [Stage.call?] at hafter
  | count c => simp [Stage.call?] at hbefore
  | answer c => simp [Stage.call?] at hbefore
  | rest c response => simp_all [Stage.call?]

theorem Advances.counters (h : Advances job s stage stage' s') :
    (stage'.countedCall? = stage.countedCall? ∧ s'.counters = s.counters)
      ∨ ∃ c, stage.countedCall? = none ∧ stage'.countedCall? = some c
        ∧ s'.counters = c.count s.counters := by
  cases h with
  | count c => exact .inr ⟨c, rfl, rfl, rfl⟩
  | _ => exact .inl ⟨rfl, rfl⟩

end Advances

end Messaging.Concurrency
