import Messaging.Proofs.Session.Observer

/-!
Steps that an observer cannot tell apart. Taken from services that are indistinct to the observer,
they leave the services indistinct, provided that the saves that they ask for go the same way.
-/
namespace Messaging

namespace Observer

variable (o : Observer)

/-- Both submissions become messages that are the same to the observer. -/
def SameSubmission (new new' : NewMessage) : Prop :=
  ∀ (messageId : Uuid) (now : Timestamp),
    o.SameMessage (new.toMessage messageId now) (new'.toMessage messageId now)

/-- One and the same request, or two that bear the same identifier and submit what becomes the same
message. -/
inductive SameRequest : Http.Request → Http.Request → Prop
  | same (r : Http.Request) : SameRequest r r
  | submit {r r' : Http.Request} {new new' : NewMessage} :
    r.header? Api.requestIdHeader = r'.header? Api.requestIdHeader →
    Api.submitted? r = some new → Api.submitted? r' = some new' → o.SameSubmission new new' →
    SameRequest r r'

variable {o}

/-- Same requests send what becomes the same message, or they are one request that gets a message or
makes no call. -/
theorem SameRequest.calls {r r' : Http.Request} (h : o.SameRequest r r') :
    (∃ new new', Api.submitted? r = some new ∧ Api.submitted? r' = some new'
        ∧ o.SameSubmission new new'
        ∧ r.header? Api.requestIdHeader = r'.header? Api.requestIdHeader)
      ∨ (r' = r ∧ Api.submitted? r = none
        ∧ ∃ messageId receiverId, Api.requested? r = some (messageId, receiverId))
      ∨ (r' = r ∧ Api.submitted? r = none ∧ Api.requested? r = none) := by
  cases h with
  | submit hid hnew hnew' hsame => exact .inl ⟨_, _, hnew, hnew', hsame, hid⟩
  | same =>
    cases hsubmitted : Api.submitted? r with
    | some new => exact .inl ⟨new, new, rfl, rfl, fun _ _ => o.message_refl _, rfl⟩
    | none =>
      cases hrequested : Api.requested? r with
      | some asked => exact .inr (.inl ⟨rfl, rfl, asked.1, asked.2, rfl⟩)
      | none => exact .inr (.inr ⟨rfl, rfl, rfl⟩)

end Observer

namespace Session

section Saves

variable {σ κ : Type} [MessageStore σ]

/-- What the store answers to the save that a step asks for, if it asks for one. -/
def saveResult? (s : Service σ) (st : Step κ) : Option (Except ServiceError Message) :=
  (saveAsked? s st).map fun m => (MessageStore.save s.store m).result

theorem sameFate_of_sent {o : Observer} {s t : Service σ} {st st' : Step κ}
    {moment moment' : Moment} {new new' : NewMessage} (hsent : sent? st = some (moment, new))
    (hsent' : sent? st' = some (moment', new'))
    (hfate : Option.Rel o.SameFate (saveResult? s st) (saveResult? t st')) :
    o.SameFate (MessageStore.save s.store (new.toMessage (s.nextId moment) moment.now)).result
      (MessageStore.save t.store (new'.toMessage (t.nextId moment') moment'.now)).result := by
  rw [saveResult?, saveResult?, saveAsked?_of_sent hsent, saveAsked?_of_sent hsent'] at hfate
  cases hfate with
  | some hfate => exact hfate

end Saves

variable {σ κ : Type} [MessageStore σ] [Controlled σ κ]

/-- Steps that do the same, as far as the observer can tell. How long a request takes is of no
account. -/
inductive SameStep [ObservedControl κ] (o : Observer) : Step κ → Step κ → Prop
  | request {reading reading' : Api.Reading} {r r' : Http.Request} :
    reading.moment = reading'.moment → reading.chance = reading'.chance → o.SameRequest r r' →
    SameStep o (.request reading r) (.request reading' r')
  | send (moment : Moment) {new new' : NewMessage} :
    o.SameSubmission new new' → SameStep o (.send moment new) (.send moment new')
  | get (messageId receiverId : Uuid) :
    SameStep o (.get messageId receiverId) (.get messageId receiverId)
  | save {m n : Message} : o.SameMessage m n → SameStep o (.save m) (.save n)
  | lookup (messageId receiverId : Uuid) :
    SameStep o (.lookup messageId receiverId) (.lookup messageId receiverId)
  | rowCount : SameStep o .rowCount .rowCount
  | control {k l : κ} : ObservedControl.Same o k l → SameStep o (.control k) (.control l)

theorem SameStep.refl [ObservedControl κ] (o : Observer) (st : Step κ) : SameStep o st st := by
  cases st with
  | request reading r => exact .request rfl rfl (.same r)
  | send moment new => exact .send moment fun _ _ => o.message_refl _
  | get messageId receiverId => exact .get messageId receiverId
  | save m => exact .save (o.message_refl m)
  | lookup messageId receiverId => exact .lookup messageId receiverId
  | rowCount => exact .rowCount
  | control k => exact .control (ObservedControl.same_refl o k)

variable [ObservedControl κ] [ObservedStore σ κ]

/-- Services that differ in their stores only, and in these in nothing that the observer can
tell. -/
structure Indistinct (o : Observer) (s t : Service σ) : Prop extends
    Alike (ObservedStore.Indistinct o) s t where
  counters : s.counters = t.counters

theorem Indistinct.refl (o : Observer) (s : Service σ) : Indistinct o s s :=
  ⟨⟨ObservedStore.indistinct_refl o s.store, rfl, rfl⟩, rfl⟩

variable {o : Observer} {s t : Service σ} {st st' : Step κ}

/-- The steps ask the stores to save the same, or neither asks to save anything. -/
theorem SameStep.saveAsked? (h : SameStep o st st') (hs : Indistinct o s t) :
    Option.Rel o.SameMessage (saveAsked? s st) (saveAsked? t st') := by
  cases h with
  | request hmoment _ hrequest =>
    rcases hrequest.calls with
      ⟨new, new', hnew, hnew', hsame, -⟩ | ⟨rfl, hnone, -⟩ | ⟨rfl, hnone, -⟩
    · simp only [Session.saveAsked?, sent?, hnew, hnew', Option.map_some, hs.nextId, hmoment]
      exact .some (hsame _ _)
    · simp only [Session.saveAsked?, sent?, hnone]
      exact .none
    · simp only [Session.saveAsked?, sent?, hnone]
      exact .none
  | send moment hsame =>
    simp only [Session.saveAsked?, sent?, Option.map_some, hs.nextId]
    exact .some (hsame _ _)
  | save hsame => exact .some hsame
  | _ => exact .none

include κ in
theorem sameResult_save {m n : Message} {a b : σ} (hsame : o.SameMessage m n)
    (hfate : o.SameFate (MessageStore.save a m).result (MessageStore.save b n).result) :
    o.SameResult o.SameMessage (MessageStore.save a m).result (MessageStore.save b n).result := by
  cases ha : (MessageStore.save a m).result <;> cases hb : (MessageStore.save b n).result <;>
    rw [ha, hb] at hfate <;> cases hfate
  · exact .error ‹_›
  · rw [@RowStore.result_save σ κ _ _ _ _ _ _ ha, @RowStore.result_save σ κ _ _ _ _ _ _ hb]
    exact .ok hsame

/-- A call that sends gives what is the same, if the store saves it or not in the same way. -/
theorem indistinct_send {moment : Moment} {new new' : NewMessage}
    (hs : Indistinct o s t) (hsame : o.SameSubmission new new')
    (hfate : o.SameFate
      (MessageStore.save s.store (new.toMessage (s.nextId moment) moment.now)).result
      (MessageStore.save t.store (new'.toMessage (t.nextId moment) moment.now)).result) :
    o.SameResult o.SameMessage (s.send moment new).result (t.send moment new').result
      ∧ Indistinct o (s.send moment new).state (t.send moment new').state := by
  have hmessage : o.SameMessage (new.toMessage (s.nextId moment) moment.now)
      (new'.toMessage (t.nextId moment) moment.now) := by
    rw [hs.nextId]
    exact hsame _ _
  refine ⟨sameResult_save hmessage hfate,
    ⟨ObservedStore.save hs.store hmessage hfate, hs.node, ?_⟩, ?_⟩
  · simp only [Service.send, hs.sequence]
  · simp only [Service.send, hs.counters, hfate.countSave_eq]

theorem indistinct_get (hs : Indistinct o s t) (messageId receiverId : Uuid) :
    o.SameResult o.SameMessage (s.get messageId receiverId).result
        (t.get messageId receiverId).result
      ∧ Indistinct o (s.get messageId receiverId).state (t.get messageId receiverId).state := by
  obtain ⟨hfound, hstore⟩ := ObservedStore.lookup messageId receiverId hs.store
  refine ⟨hfound.foundOrError, ⟨hstore, hs.node, hs.sequence⟩, ?_⟩
  simp only [Service.get, hs.counters, hfound.countFetch_eq]

/-- Steps that do the same leave what is the same, if the saves that they ask for go the same
way. -/
theorem indistinct_step (h : SameStep o st st') (hs : Indistinct o s t)
    (hfate : Option.Rel o.SameFate (saveResult? s st) (saveResult? t st')) :
    Indistinct o (step s st).service (step t st').service := by
  cases h with
  | @request reading reading' r r' hmoment _ hrequest =>
    rcases hrequest.calls with
      ⟨new, new', hnew, hnew', hsame, -⟩ | ⟨rfl, -, messageId, receiverId, hasked⟩ |
        ⟨rfl, hsubmitted, hrequested⟩
    · have hsent := sent?_of_submitted (κ := κ) hnew reading
      have hsent' := sent?_of_submitted (κ := κ) hnew' reading'
      rw [← hmoment] at hsent'
      rw [service_step_of_sent hsent, service_step_of_sent hsent']
      exact (indistinct_send hs hsame (sameFate_of_sent hsent hsent' hfate)).2
    · have hgot : got? (.request reading r' : Step κ) = some (messageId, receiverId) := hasked
      have hgot' : got? (.request reading' r' : Step κ) = some (messageId, receiverId) := hasked
      rw [service_step_of_got hgot, service_step_of_got hgot']
      exact (indistinct_get hs messageId receiverId).2
    · rw [service_request_of_none (by simp [sent?, hsubmitted]) hrequested,
        service_request_of_none (by simp [sent?, hsubmitted]) hrequested]
      exact hs
  | send moment hsame => exact (indistinct_send hs hsame (sameFate_of_sent rfl rfl hfate)).2
  | get messageId receiverId => exact (indistinct_get hs messageId receiverId).2
  | save hsame =>
    cases hfate with
    | some hfate =>
      exact ⟨⟨ObservedStore.save hs.store hsame hfate, hs.node, hs.sequence⟩, hs.counters⟩
  | lookup messageId receiverId =>
    exact ⟨⟨(ObservedStore.lookup messageId receiverId hs.store).2, hs.node, hs.sequence⟩,
      hs.counters⟩
  | rowCount => exact hs
  | control hk => exact ⟨⟨ObservedStore.control hs.store hk, hs.node, hs.sequence⟩, hs.counters⟩

end Session

end Messaging
