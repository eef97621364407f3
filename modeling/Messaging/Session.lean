import Messaging.Api
import Messaging.Store.Memory

/-!
Runs of a service: requests, direct calls of the service and of its store, and outside
interference with the store, one after the other.
-/
namespace Messaging

/-- Stores that can be interfered with from outside. -/
class Controlled (σ : Type) (κ : outParam Type) where
  control : κ → σ → σ

namespace Session

/-- One step of a session with a service; `κ` is the type of interferences with its store. -/
inductive Step (κ : Type)
  | request (reading : Api.Reading) (r : Http.Request)
  | send (moment : Moment) (new : NewMessage)
  | get (messageId receiverId : Uuid)
  | save (m : Message)
  | lookup (messageId receiverId : Uuid)
  | rowCount
  | control (k : κ)

inductive Answer
  | response (r : Http.Response)
  | message (result : Except ServiceError Message)
  | found (result : Except ServiceError (Option Message))
  | rowCount (n : Nat)
  | done

structure Outcome (σ : Type) where
  answer : Answer
  service : Service σ
  events : List Log.Event

variable {σ κ : Type} [MessageStore σ] [Controlled σ κ]

def step (s : Service σ) : Step κ → Outcome σ
  | .request reading r =>
    let o := Api.handle s reading r
    ⟨.response o.response, o.service, o.events⟩
  | .send moment new =>
    let reply := s.send moment new
    ⟨.message reply.result, reply.state, reply.events⟩
  | .get messageId receiverId =>
    let reply := s.get messageId receiverId
    ⟨.message reply.result, reply.state, reply.events⟩
  | .save m =>
    let reply := MessageStore.save s.store m
    ⟨.message reply.result, { s with store := reply.state }, reply.events⟩
  | .lookup messageId receiverId =>
    let reply := MessageStore.lookup s.store messageId receiverId
    ⟨.found reply.result, { s with store := reply.state }, reply.events⟩
  | .rowCount => ⟨.rowCount (MessageStore.rowCount s.store), s, []⟩
  | .control k => ⟨.done, { s with store := Controlled.control k s.store }, []⟩

def run (s : Service σ) : List (Step κ) → List (Outcome σ)
  | [] => []
  | st :: steps =>
    let o := step s st
    o :: run o.service steps

def after (s : Service σ) (steps : List (Step κ)) : Service σ :=
  steps.foldl (fun s st => (step s st).service) s

@[simp] theorem run_nil (s : Service σ) : run s ([] : List (Step κ)) = [] := rfl

@[simp] theorem run_cons (s : Service σ) (st : Step κ) (steps : List (Step κ)) :
    run s (st :: steps) = step s st :: run (step s st).service steps := rfl

@[simp] theorem after_nil (s : Service σ) : after s ([] : List (Step κ)) = s := rfl

@[simp] theorem after_cons (s : Service σ) (st : Step κ) (steps : List (Step κ)) :
    after s (st :: steps) = after (step s st).service steps := rfl

end Session

instance : Controlled MemoryStore (Option ServiceError) where
  control failing s := s.withFailure failing

end Messaging
