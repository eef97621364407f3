import Messaging.Proofs.Session.Calls

/-!
The counters of a service against the answers of its store. Over any run they tell how often the
store was asked to save by a step that sends, and to look up by a step that gets, by what the store
answered; how the service then answers is of no account.
-/
namespace Messaging

def isFound : Except ServiceError (Option Message) → Bool
  | .ok (some _) => true
  | _ => false

def isMissing : Except ServiceError (Option Message) → Bool
  | .ok none => true
  | _ => false

def isFailure {α : Type} : Except ServiceError α → Bool
  | .ok _ => false
  | .error _ => true

namespace Counters

/-- The counters once the store has answered some saves and some lookups more. -/
def tally (c : Counters) (saves : List (Except ServiceError Message))
    (lookups : List (Except ServiceError (Option Message))) : Counters where
  savedSuccess := c.savedSuccess + saves.countP Except.isOk
  savedFailure := c.savedFailure + saves.countP isFailure
  fetchedFound := c.fetchedFound + lookups.countP isFound
  fetchedNotFound := c.fetchedNotFound + lookups.countP isMissing
  fetchedFailure := c.fetchedFailure + lookups.countP isFailure

@[simp] theorem tally_nil (c : Counters) : c.tally [] [] = c := rfl

theorem tally_save (c : Counters) (answer : Except ServiceError Message) :
    c.tally [answer] [] = c.countSave answer := by
  cases answer <;> rfl

theorem tally_lookup (c : Counters) (answer : Except ServiceError (Option Message)) :
    c.tally [] [answer] = c.countFetch answer := by
  rcases answer with e | m
  · rfl
  · cases m <;> rfl

theorem tally_tally (c : Counters) (saves saves' : List (Except ServiceError Message))
    (lookups lookups' : List (Except ServiceError (Option Message))) :
    (c.tally saves lookups).tally saves' lookups'
      = c.tally (saves ++ saves') (lookups ++ lookups') := by
  simp only [tally, List.countP_append, Nat.add_assoc]

end Counters

namespace Session

variable {σ κ : Type} [MessageStore σ] [Controlled σ κ]

def saveAnswer? (s : Service σ) (st : Step κ) : Option (Except ServiceError Message) :=
  (sent? st).map fun (moment, new) =>
    (MessageStore.save s.store (new.toMessage (s.nextId moment) moment.now)).result

def lookupAnswer? (s : Service σ) (st : Step κ) :
    Option (Except ServiceError (Option Message)) :=
  (got? st).map fun (messageId, receiverId) =>
    (MessageStore.lookup s.store messageId receiverId).result

/-- The answers of the store to the saves of all steps that send, in order. -/
def saveAnswers (s : Service σ) : List (Step κ) → List (Except ServiceError Message)
  | [] => []
  | st :: steps => (saveAnswer? s st).toList ++ saveAnswers (step s st).service steps

/-- The answers of the store to the lookups of all steps that get, in order. -/
def lookupAnswers (s : Service σ) : List (Step κ) → List (Except ServiceError (Option Message))
  | [] => []
  | st :: steps => (lookupAnswer? s st).toList ++ lookupAnswers (step s st).service steps

/-- One step counts the one answer of the store that it asked for, if it asked for one. -/
theorem counters_step (s : Service σ) (st : Step κ) :
    (step s st).service.counters
      = s.counters.tally (saveAnswer? s st).toList (lookupAnswer? s st).toList := by
  cases hsent : sent? st with
  | some call =>
    obtain ⟨moment, new⟩ := call
    have hgot : got? st = none := got?_of_sent? (by simp [hsent])
    simp only [service_step_of_sent hsent, saveAnswer?, lookupAnswer?, hsent, hgot, Option.map_some,
      Option.map_none, Option.toList_some, Option.toList_none, Counters.tally_save]
    rfl
  | none =>
    cases hgot : got? st with
    | some call =>
      obtain ⟨messageId, receiverId⟩ := call
      simp only [service_step_of_got hgot, saveAnswer?, lookupAnswer?, hsent, hgot,
        Option.map_some, Option.map_none, Option.toList_some, Option.toList_none,
        Counters.tally_lookup]
      rfl
    | none =>
      rw [service_step_of_none hsent hgot]
      simp [saveAnswer?, lookupAnswer?, hsent, hgot]

theorem counters_after_eq_tally (s : Service σ) (steps : List (Step κ)) :
    (after s steps).counters = s.counters.tally (saveAnswers s steps) (lookupAnswers s steps) := by
  induction steps generalizing s with
  | nil => rfl
  | cons st steps ih =>
    rw [after_cons, ih, counters_step, Counters.tally_tally]
    rfl

/-- After any run, each counter has grown by the number of answers of its kind; and a step that
neither sends nor gets changes none. -/
theorem counters_after (s : Service σ) (steps : List (Step κ)) :
    (after s steps).counters.savedSuccess
        = s.counters.savedSuccess + (saveAnswers s steps).countP Except.isOk
      ∧ (after s steps).counters.savedFailure
        = s.counters.savedFailure + (saveAnswers s steps).countP isFailure
      ∧ (after s steps).counters.fetchedFound
        = s.counters.fetchedFound + (lookupAnswers s steps).countP isFound
      ∧ (after s steps).counters.fetchedNotFound
        = s.counters.fetchedNotFound + (lookupAnswers s steps).countP isMissing
      ∧ (after s steps).counters.fetchedFailure
        = s.counters.fetchedFailure + (lookupAnswers s steps).countP isFailure
      ∧ ∀ st : Step κ, sent? st = none → got? st = none →
        (after s (steps ++ [st])).counters = (after s steps).counters := by
  have htally := counters_after_eq_tally s steps
  refine ⟨?_, ?_, ?_, ?_, ?_, ?_⟩
  · rw [htally]; rfl
  · rw [htally]; rfl
  · rw [htally]; rfl
  · rw [htally]; rfl
  · rw [htally]; rfl
  · intro st hsent hgot
    rw [after_append, after_cons, after_nil, service_step_of_none hsent hgot]

end Session

end Messaging
