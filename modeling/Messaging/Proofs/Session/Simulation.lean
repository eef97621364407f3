import Messaging.Proofs.Session.Accounting
import Messaging.Proofs.Session.Rows

/-!
Services over stores that answer alike. If each call of one store gives what the same call of the
other gives, and leaves the two related again, then so does every step of the services, and every
run: the same answers, and the same counts.
-/
namespace Messaging.Session

/-- The step with another kind of interference in the place of its own. -/
def Step.map {κ κ' : Type} (f : κ → κ') : Step κ → Step κ'
  | .request reading r => .request reading r
  | .send moment new => .send moment new
  | .get messageId receiverId => .get messageId receiverId
  | .save m => .save m
  | .lookup messageId receiverId => .lookup messageId receiverId
  | .rowCount => .rowCount
  | .control k => .control (f k)

@[simp] theorem Step.map_id (κ : Type) : Step.map (id : κ → κ) = id := by
  funext st
  cases st <;> rfl

@[simp] theorem sent?_map {κ κ' : Type} (f : κ → κ') (st : Step κ) :
    sent? (st.map f) = sent? st := by
  cases st <;> rfl

@[simp] theorem got?_map {κ κ' : Type} (f : κ → κ') (st : Step κ) : got? (st.map f) = got? st := by
  cases st <;> rfl

section Simulation

variable {σ τ κ κ' ι : Type} [MessageStore σ] [Controlled σ κ] [MessageStore τ] [Controlled τ κ']

/-- Stores that are related answer alike, and stay related, as long as only certain messages are
saved. `f` and `g` are what an interference does to the one and to the other. -/
structure Simulates (R : σ → τ → Prop) (Admits : Message → Prop) (f : ι → κ) (g : ι → κ') :
    Prop where
  save : ∀ {s : σ} {t : τ} {m : Message}, R s t → Admits m →
    (MessageStore.save s m).result = (MessageStore.save t m).result
      ∧ R (MessageStore.save s m).state (MessageStore.save t m).state
  lookup : ∀ {s : σ} {t : τ} (messageId receiverId : Uuid), R s t →
    (MessageStore.lookup s messageId receiverId).result
        = (MessageStore.lookup t messageId receiverId).result
      ∧ R (MessageStore.lookup s messageId receiverId).state
          (MessageStore.lookup t messageId receiverId).state
  rowCount : ∀ {s : σ} {t : τ}, R s t → MessageStore.rowCount s = MessageStore.rowCount t
  control : ∀ {s : σ} {t : τ} (i : ι), R s t →
    R (Controlled.control (f i) s) (Controlled.control (g i) t)

/-- Two services that differ in their stores and their counters only. -/
structure Alike (R : σ → τ → Prop) (s : Service σ) (t : Service τ) : Prop where
  store : R s.store t.store
  node : s.node = t.node
  sequence : s.sequence = t.sequence

/-- Steps from one service and from another are answered alike, by the services and by their
stores, and leave the services alike. -/
structure Agree (R : σ → τ → Prop) (s : Service σ) (t : Service τ) (steps : List (Step κ))
    (steps' : List (Step κ')) : Prop where
  answers : (run s steps).map Outcome.answer = (run t steps').map Outcome.answer
  saves : saveAnswers s steps = saveAnswers t steps'
  lookups : lookupAnswers s steps = lookupAnswers t steps'
  alike : Alike R (after s steps) (after t steps')

variable {R : σ → τ → Prop} {Admits : Message → Prop} {f : ι → κ} {g : ι → κ'} {s : Service σ}
  {t : Service τ}

omit [MessageStore σ] [MessageStore τ] in
theorem Alike.nextId (h : Alike R s t) (moment : Moment) : s.nextId moment = t.nextId moment := by
  rw [Service.nextId, Service.nextId, h.node, h.sequence]

namespace Simulates

theorem send (h : Simulates R Admits f g) (hs : Alike R s t) {moment : Moment} {new : NewMessage}
    (hm : Admits (new.toMessage (s.nextId moment) moment.now)) :
    (s.send moment new).result = (t.send moment new).result
      ∧ Alike R (s.send moment new).state (t.send moment new).state := by
  obtain ⟨hresult, hstore⟩ := h.save hs.store hm
  rw [hs.nextId moment] at hresult hstore
  simp only [Service.send, hs.nextId moment]
  exact ⟨hresult, hstore, hs.node, by rw [hs.sequence]⟩

theorem get (h : Simulates R Admits f g) (hs : Alike R s t) (messageId receiverId : Uuid) :
    (s.get messageId receiverId).result = (t.get messageId receiverId).result
      ∧ Alike R (s.get messageId receiverId).state (t.get messageId receiverId).state := by
  obtain ⟨hresult, hstore⟩ := h.lookup messageId receiverId hs.store
  exact ⟨congrArg Service.foundOrError hresult, hstore, hs.node, hs.sequence⟩

/-- A request is answered alike: it sends or gets one message, or has nothing to do with the
store. -/
theorem request (h : Simulates R Admits f g) (hs : Alike R s t) (reading : Api.Reading)
    (r : Http.Request)
    (hsaves : ∀ m ∈ saveAsked? s (.request reading r : Step κ), Admits m) :
    (Api.handle s reading r).response = (Api.handle t reading r).response
      ∧ Alike R (Api.handle s reading r).service (Api.handle t reading r).service := by
  cases hsubmitted : Api.submitted? r with
  | some new =>
    have hm : Admits (new.toMessage (s.nextId reading.moment) reading.moment.now) :=
      hsaves _ (by simp [saveAsked?, sent?, hsubmitted])
    obtain ⟨hresult, halike⟩ := h.send hs hm
    obtain ⟨hservice, hresponse⟩ := Api.handle_of_submitted hsubmitted s reading
    obtain ⟨hservice', hresponse'⟩ := Api.handle_of_submitted hsubmitted t reading
    rw [hresponse, hresponse', hresult, hservice, hservice']
    exact ⟨rfl, halike⟩
  | none =>
    cases hrequested : Api.requested? r with
    | some asked =>
      obtain ⟨messageId, receiverId⟩ := asked
      obtain ⟨hresult, halike⟩ := h.get hs messageId receiverId
      obtain ⟨hservice, hresponse⟩ := Api.handle_of_requested hrequested s reading
      obtain ⟨hservice', hresponse'⟩ := Api.handle_of_requested hrequested t reading
      rw [hresponse, hresponse', hresult, hservice, hservice']
      exact ⟨rfl, halike⟩
    | none =>
      obtain ⟨response, hhandle⟩ := Api.handle_of_none hsubmitted hrequested reading
      rw [(hhandle s).1, (hhandle s).2, (hhandle t).1, (hhandle t).2]
      exact ⟨rfl, hs⟩

theorem saveAnswer?_eq (h : Simulates R Admits f g) (hs : Alike R s t) {st : Step ι}
    (hsaves : ∀ m ∈ saveAsked? s (st.map f), Admits m) :
    saveAnswer? s (st.map f) = saveAnswer? t (st.map g) := by
  simp only [saveAnswer?, sent?_map]
  cases hsent : sent? st with
  | none => rfl
  | some call =>
    obtain ⟨moment, new⟩ := call
    have hm : Admits (new.toMessage (s.nextId moment) moment.now) := by
      apply hsaves
      cases st <;> simp_all [saveAsked?, sent?, Step.map]
    simp only [Option.map_some, hs.nextId moment] at hm ⊢
    rw [(h.save hs.store hm).1]

theorem lookupAnswer?_eq (h : Simulates R Admits f g) (hs : Alike R s t) (st : Step ι) :
    lookupAnswer? s (st.map f) = lookupAnswer? t (st.map g) := by
  simp only [lookupAnswer?, got?_map]
  cases got? st with
  | none => rfl
  | some call => simp only [Option.map_some, (h.lookup call.1 call.2 hs.store).1]

/-- One step is answered alike, and leaves the services alike. -/
theorem step (h : Simulates R Admits f g) (hs : Alike R s t) (st : Step ι)
    (hsaves : ∀ m ∈ saveAsked? s (st.map f), Admits m) :
    (Session.step s (st.map f)).answer = (Session.step t (st.map g)).answer
      ∧ Alike R (Session.step s (st.map f)).service (Session.step t (st.map g)).service := by
  cases st with
  | request reading r =>
    obtain ⟨hresponse, halike⟩ := h.request hs reading r hsaves
    exact ⟨congrArg Answer.response hresponse, halike⟩
  | send moment new =>
    obtain ⟨hresult, halike⟩ := h.send hs (hsaves _ rfl)
    exact ⟨congrArg Answer.message hresult, halike⟩
  | get messageId receiverId =>
    obtain ⟨hresult, halike⟩ := h.get hs messageId receiverId
    exact ⟨congrArg Answer.message hresult, halike⟩
  | save m =>
    obtain ⟨hresult, hstore⟩ := h.save hs.store (hsaves _ rfl)
    exact ⟨congrArg Answer.message hresult, hstore, hs.node, hs.sequence⟩
  | lookup messageId receiverId =>
    obtain ⟨hresult, hstore⟩ := h.lookup messageId receiverId hs.store
    exact ⟨congrArg Answer.found hresult, hstore, hs.node, hs.sequence⟩
  | rowCount => exact ⟨congrArg Answer.rowCount (h.rowCount hs.store), hs⟩
  | control i => exact ⟨rfl, h.control i hs.store, hs.node, hs.sequence⟩

/-- Every run is answered alike. -/
theorem agree (h : Simulates R Admits f g) (hs : Alike R s t) (steps : List (Step ι))
    (hsaves : ∀ m ∈ savesAsked s (steps.map (Step.map f)), Admits m) :
    Agree R s t (steps.map (Step.map f)) (steps.map (Step.map g)) := by
  induction steps generalizing s t with
  | nil => exact ⟨rfl, rfl, rfl, hs⟩
  | cons st steps ih =>
    simp only [List.map_cons, savesAsked, List.mem_append, Option.mem_toList] at hsaves
    have hfirst : ∀ m ∈ saveAsked? s (st.map f), Admits m := fun m hm => hsaves m (.inl hm)
    obtain ⟨hanswer, halike⟩ := h.step hs st hfirst
    obtain ⟨hanswers, hsaved, hfound, hafter⟩ := ih halike fun m hm => hsaves m (.inr hm)
    refine ⟨?_, ?_, ?_, hafter⟩
    · simp only [List.map_cons, run_cons, hanswer, hanswers]
    · simp only [List.map_cons, saveAnswers, h.saveAnswer?_eq hs hfirst, hsaved]
    · simp only [List.map_cons, lookupAnswers, h.lookupAnswer?_eq hs st, hfound]

end Simulates

end Simulation

end Messaging.Session
