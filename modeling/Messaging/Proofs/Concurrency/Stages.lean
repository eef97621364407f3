import Messaging.Proofs.Concurrency.System
import Messaging.Proofs.Message.Document
import Messaging.Proofs.Session.Accounting
import Messaging.Proofs.Session.Tables

/-!
What requests come to that are served at the same time. What all of them have come to is gathered in
a list, which one turn changes in one place only; and the stage of a request tells which call of the
store it leads to, and how that is answered.
-/
namespace Messaging.Concurrency

section Gather

variable {α : Type} {n : ℕ}

def gather (f : Stage → Option α) (stage : Fin n → Stage) : List α :=
  (List.finRange n).filterMap fun i => f (stage i)

variable {f : Stage → Option α} {stage : Fin n → Stage} {i : Fin n} {new : Stage}

theorem gather_update_of_eq (h : f new = f (stage i)) :
    gather f (Function.update stage i new) = gather f stage := by
  have hsame : (fun j => f (Function.update stage i new j)) = fun j => f (stage j) := by
    funext j
    by_cases hj : j = i
    · subst hj
      rw [Function.update_self, h]
    · rw [Function.update_of_ne hj]
  rw [gather, hsame, gather]

theorem gather_update_of_some {a : α} (hold : f (stage i) = none) (hnew : f new = some a) :
    (gather f (Function.update stage i new)).Perm (a :: gather f stage) := by
  -- the request stands once in the list of all, between two parts that stay as they are
  obtain ⟨before, after, hsplit⟩ := List.append_of_mem (List.mem_finRange i)
  have hnodup := List.nodup_finRange n
  rw [hsplit, List.nodup_append, List.nodup_cons] at hnodup
  have hothers : ∀ l : List (Fin n), i ∉ l →
      (l.filterMap fun j => f (Function.update stage i new j))
        = l.filterMap fun j => f (stage j) := by
    intro l hl
    refine List.filterMap_congr fun j hj => ?_
    have hne : j ≠ i := by
      rintro rfl
      exact hl hj
    rw [Function.update_of_ne hne]
  have hbefore : i ∉ before := fun hi => hnodup.2.2 i hi i List.mem_cons_self rfl
  simp only [gather, hsplit, List.filterMap_append, List.filterMap_cons, Function.update_self, hold,
    hnew, hothers before hbefore, hothers after hnodup.2.1.1]
  exact List.perm_middle

theorem gather_of_none (h : ∀ i, f (stage i) = none) : gather f stage = [] :=
  List.filterMap_eq_nil_iff.mpr fun i _ => h i

theorem gather_congr {g : Stage → Option α} (h : ∀ i, f (stage i) = g (stage i)) :
    gather f stage = gather g stage :=
  List.filterMap_congr fun i _ => h i

end Gather

/-- The counters once some calls more have been counted, in whatever order. -/
def tallyCalls (c : Counters) (calls : List Called) : Counters :=
  c.tally (calls.filterMap Called.saveResult?) (calls.filterMap Called.lookupResult?)

theorem tallyCalls_perm (c : Counters) {calls calls' : List Called} (h : calls.Perm calls') :
    tallyCalls c calls = tallyCalls c calls' := by
  simp only [tallyCalls, Counters.tally, (h.filterMap _).countP_eq]

theorem tallyCalls_cons (c : Counters) (call : Called) (calls : List Called) :
    tallyCalls c (call :: calls) = call.count (tallyCalls c calls) := by
  have hlast : (call :: calls).Perm (calls ++ [call]) :=
    (List.perm_append_singleton call calls).symm
  rw [tallyCalls_perm c hlast]
  simp only [tallyCalls, List.filterMap_append, ← Counters.tally_tally]
  cases call with
  | save m result => exact Counters.tally_save _ result
  | lookup messageId receiverId result => exact Counters.tally_lookup _ result

/-- The message is a submission of the request, with some identity. -/
def Job.Submits (job : Job) (m : Message) : Prop :=
  ∃ new messageId, Api.submitted? job.request = some new
    ∧ m = new.toMessage messageId job.reading.moment.now

/-- The call is one that the request leads to. -/
def Called.Consistent (job : Job) : Called → Prop
  | .save m result => job.Submits m ∧ ∀ saved, result = .ok saved → saved = m
  | .lookup messageId receiverId _ => Api.requested? job.request = some (messageId, receiverId)

/-- The stage is one that the request comes to. -/
def Stage.Consistent (job : Job) : Stage → Prop
  | .received => True
  | .identified m => job.Submits m
  | .called c | .counted c => c.Consistent job
  | .answered none response =>
    Api.submitted? job.request = none ∧ Api.requested? job.request = none
      ∧ response.status ≠ .created
  | .answered (some c) response =>
    c.Consistent job ∧ response = Api.answerTo job.request job.reading.chance c.outcome

section Consistent

variable {job : Job} {stage : Stage} {m : Message}

theorem Stage.Consistent.of_call? {c : Called} (h : stage.Consistent job)
    (hc : stage.call? = some c) : c.Consistent job := by
  cases stage with
  | received => simp [call?] at hc
  | identified m => simp [call?] at hc
  | called d => exact Option.some.inj hc ▸ h
  | counted d => exact Option.some.inj hc ▸ h
  | answered d response =>
    obtain rfl : d = some c := hc
    exact h.1

theorem Stage.Consistent.of_saved? (h : stage.Consistent job) (hm : stage.saved? = some m) :
    stage.call? = some (.save m (.ok m)) ∧ job.Submits m := by
  obtain ⟨c, hc, hsaved⟩ := Option.bind_eq_some_iff.mp hm
  have hconsistent := h.of_call? hc
  cases c with
  | lookup messageId receiverId result => simp [Called.saved?] at hsaved
  | save m' result =>
    cases result with
    | error e => simp [Called.saved?] at hsaved
    | ok saved =>
      obtain rfl : saved = m := Option.some.inj hsaved
      obtain rfl : saved = m' := hconsistent.2 saved rfl
      exact ⟨hc, hconsistent.1⟩

theorem Stage.identity?_of_call? {result : Except ServiceError Message}
    (h : stage.call? = some (.save m result)) : stage.identity? = some m := by
  cases stage <;> simp_all [identity?, call?]

theorem Job.Submits.inMillis (h : job.Submits m) (hclock : job.reading.moment.now.OfClock) :
    m.InMillis := by
  obtain ⟨new, messageId, -, rfl⟩ := h
  exact new.inMillis_toMessage messageId hclock.1

theorem Job.Submits.exists_toJson (h : job.Submits m) (hclock : job.reading.moment.now.OfClock) :
    ∃ body, m.toJson = .ok body := by
  obtain ⟨new, messageId, -, rfl⟩ := h
  exact Message.exists_toJson hclock.truncateToMillis

theorem Job.Submits.method (h : job.Submits m) : job.request.method = "POST" := by
  obtain ⟨new, -, hsubmitted, -⟩ := h
  exact (Api.submitted?_eq_some_iff.mp hsubmitted).1

theorem Stage.Consistent.response_of_call? (h : stage.Consistent job) {c : Called}
    {response : Http.Response} (hresponse : stage.response? = some response)
    (hc : stage.call? = some c) :
    response = Api.answerTo job.request job.reading.chance c.outcome := by
  cases stage with
  | answered d r =>
    obtain rfl : r = response := Option.some.inj hresponse
    obtain rfl : d = some c := hc
    exact h.2
  | _ => simp [response?] at hresponse

theorem Stage.Consistent.response_of_saved? (h : stage.Consistent job)
    (hclock : job.reading.moment.now.OfClock) {response : Http.Response}
    (hresponse : stage.response? = some response) (hm : stage.saved? = some m) :
    response.status = .created ∧ m.toJson = .ok response.body := by
  obtain ⟨hcall, hsubmits⟩ := h.of_saved? hm
  obtain ⟨body, hbody⟩ := hsubmits.exists_toJson hclock
  have hmethod := hsubmits.method
  obtain ⟨hstatus, htext⟩ :=
    Api.answerTo_of_ok (r := job.request) (by simp [hmethod]) hbody job.reading.chance
  rw [if_pos hmethod] at hstatus
  rw [h.response_of_call? hresponse hcall]
  exact ⟨hstatus, htext ▸ hbody⟩

theorem Stage.Consistent.exists_saved (h : stage.Consistent job) {response : Http.Response}
    (hresponse : stage.response? = some response) (hstatus : response.status = .created) :
    ∃ m, stage.saved? = some m := by
  cases hcall : stage.call? with
  | none =>
    cases stage with
    | answered c r =>
      obtain rfl : c = none := hcall
      obtain rfl : r = response := Option.some.inj hresponse
      exact absurd hstatus h.2.2
    | _ => simp [response?] at hresponse
  | some c =>
    rw [h.response_of_call? hresponse hcall] at hstatus
    have hconsistent := h.of_call? hcall
    cases c with
    | lookup messageId receiverId result =>
      exact absurd hstatus
        (Api.status_answerTo_ne_created (Api.method_ne_of_requested hconsistent) _ _)
    | save m result =>
      cases result with
      | ok saved => exact ⟨saved, by rw [saved?, hcall]; rfl⟩
      | error e =>
        rw [Called.outcome, Api.status_answerTo_of_error] at hstatus
        exact absurd hstatus (Api.status_error_ne_created e)

/-- An answer with status 201 tells the message that has been saved, and every message that has been
saved is told by one. -/
theorem Stage.Consistent.created?_eq (h : stage.Consistent job)
    (hclock : job.reading.moment.now.OfClock) (hanswered : stage.response?.isSome = true) :
    stage.created? = stage.saved? := by
  obtain ⟨response, hresponse⟩ := Option.isSome_iff_exists.mp hanswered
  have hcreated : stage.created? = if response.status = .created then
      (Message.ofJson response.body).toOption else none := by
    rw [created?, hresponse, Option.bind_some]
  rw [hcreated]
  cases hsaved : stage.saved? with
  | some m =>
    obtain ⟨hstatus, hbody⟩ := h.response_of_saved? hclock hresponse hsaved
    rw [if_pos hstatus, Message.ofJson_of_toJson hbody]
    rfl
  | none =>
    refine if_neg fun hstatus => ?_
    obtain ⟨m, hm⟩ := h.exists_saved hresponse hstatus
    simp [hsaved] at hm

theorem Stage.Consistent.call?_of_requested (h : stage.Consistent job)
    (hanswered : stage.response?.isSome = true) {messageId receiverId : Uuid}
    (hasked : Api.requested? job.request = some (messageId, receiverId)) :
    ∃ result, stage.call? = some (.lookup messageId receiverId result) := by
  cases hcall : stage.call? with
  | none =>
    cases stage with
    | answered c r =>
      obtain rfl : c = none := hcall
      have hnone := h.2.1
      simp [hasked] at hnone
    | _ => simp [response?] at hanswered
  | some c =>
    have hconsistent := h.of_call? hcall
    cases c with
    | lookup askedId askedReceiver result =>
      have hids : (messageId, receiverId) = (askedId, askedReceiver) :=
        Option.some.inj (hasked.symm.trans hconsistent)
      obtain ⟨rfl, rfl⟩ := Prod.mk.inj hids
      exact ⟨result, rfl⟩
    | save m result => exact absurd hconsistent.1.method (Api.method_ne_of_requested hasked)

/-- Whatever a request has called has been counted before it is answered. -/
theorem Stage.countedCall?_eq (h : stage.response?.isSome = true) :
    stage.countedCall? = stage.call? := by
  cases stage with
  | answered c r => rfl
  | _ => simp [response?] at h

end Consistent

end Messaging.Concurrency
