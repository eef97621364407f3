import Messaging.Proofs.Session.Fetching
import Messaging.Proofs.Session.Indistinct

/-!
What messages say is not told in the log, nor who sends them. Sessions that differ in the bodies and
senders of messages only leave the same events, but for how long requests took, and the same
counters.
-/
namespace Messaging

namespace Observer

/-- Whoever is told every error, but of messages neither the sender nor the body. -/
def logReader : Observer where
  SameMessage := Message.SameEnvelope
  SameError e f := e = f
  message_refl _ := ⟨rfl, rfl, rfl, rfl, rfl⟩
  error_refl _ := rfl
  envelope h := h
  at_time _ h := ⟨h.messageId, h.receiverId, rfl, h.type, h.hasRead⟩

variable {α : Type}

theorem sameFate_logReader_iff {x y : Except ServiceError α} :
    logReader.SameFate x y ↔ fate x = fate y := by
  constructor
  · intro h
    rcases Option.rel_cases h with ⟨hx, hy⟩ | ⟨e, f, hx, hy, hsame⟩
    · rw [hx, hy]
    · rw [hx, hy, show e = f from hsame]
  · intro h
    rw [SameFate, h]
    exact Option.rel_refl (fun _ => rfl) _

end Observer

namespace Log

/-- The event without the time that a request took. -/
def Event.untimed (e : Event) : Event :=
  { e with fields := e.fields.filter fun f => f.name ≠ "latency_ms" }

theorem map_untimed_within (span : Span) (events : List Event) :
    (within span events).map Event.untimed = within span (events.map Event.untimed) := by
  simp only [within, List.map_map]
  rfl

theorem failureOf_congr {α : Type} {x y : Except ServiceError α} (h : fate x = fate y)
    (target : String) :
    failureOf target ServiceError.message x = failureOf target ServiceError.message y := by
  cases x <;> cases y <;> simp_all [fate, failureOf]

end Log

/-- A store that tells of its calls which message is asked for and how the call went, and nothing
else. -/
class DiscreetStore (σ : Type) [MessageStore σ] : Prop where
  events_save : ∀ {s t : σ} {m n : Message}, m.SameEnvelope n →
    fate (MessageStore.save s m).result = fate (MessageStore.save t n).result →
    (MessageStore.save s m).events = (MessageStore.save t n).events
  events_lookup : ∀ {s t : σ} (messageId receiverId : Uuid),
    fate (MessageStore.lookup s messageId receiverId).result
        = fate (MessageStore.lookup t messageId receiverId).result →
    (MessageStore.lookup s messageId receiverId).events
      = (MessageStore.lookup t messageId receiverId).events

instance : DiscreetStore MemoryStore where
  events_save {s t m n} _ _ := by
    change (s.save m).events = (t.save n).events
    cases hs : s.failing <;> cases ht : t.failing <;> simp only [MemoryStore.save, hs, ht]
  events_lookup {s t} messageId receiverId _ := by
    change (s.lookup messageId receiverId).events = (t.lookup messageId receiverId).events
    cases hs : s.failing <;> cases ht : t.failing <;> simp only [MemoryStore.lookup, hs, ht]

open Cql in
instance : DiscreetStore Repository where
  events_save {r r' m n} henvelope h := by
    have hspan : Repository.saveSpan m = Repository.saveSpan n := by
      rw [Repository.saveSpan, Repository.saveSpan, henvelope.receiverId, henvelope.messageId]
    change Log.within _ (Log.failureOf _ _ (r.save m).result)
      = Log.within _ (Log.failureOf _ _ (r'.save n).result)
    rw [hspan]
    exact congrArg (Log.within _) (Log.failureOf_congr h _)
  events_lookup {r r'} messageId receiverId h := by
    exact congrArg (Log.within _) (Log.failureOf_congr h _)

namespace Session

variable {σ κ : Type} [MessageStore σ] [Controlled σ κ] [ObservedControl κ] [ObservedStore σ κ]
  [DiscreetStore σ] {s t : Service σ}

open Observer

theorem sendEvents_congr {x y : Except ServiceError Message} (h : fate x = fate y) :
    Service.sendEvents x = Service.sendEvents y := by
  cases x <;> cases y <;> simp_all [fate, Service.sendEvents]

theorem events_send {moment : Moment} {new new' : NewMessage} (hs : Indistinct logReader s t)
    (hsame : logReader.SameSubmission new new')
    (hfate : logReader.SameFate
      (MessageStore.save s.store (new.toMessage (s.nextId moment) moment.now)).result
      (MessageStore.save t.store (new'.toMessage (t.nextId moment) moment.now)).result) :
    (s.send moment new).events = (t.send moment new').events := by
  rw [sameFate_logReader_iff] at hfate
  have henvelope := hsame (t.nextId moment) moment.now
  have hspan :
      Service.sendSpan new (t.nextId moment) = Service.sendSpan new' (t.nextId moment) := by
    have hreceiver : new.receiverId = new'.receiverId := henvelope.receiverId
    have htype : new.type = new'.type := henvelope.type
    rw [Service.sendSpan, Service.sendSpan, hreceiver, htype]
  rw [hs.nextId] at hfate
  simp only [Service.send, hs.nextId, hspan, DiscreetStore.events_save henvelope hfate,
    sendEvents_congr hfate]

theorem events_get (hs : Indistinct logReader s t) (messageId receiverId : Uuid) :
    (s.get messageId receiverId).events = (t.get messageId receiverId).events := by
  have hfound := (ObservedStore.lookup messageId receiverId hs.store).1
  have hlookup := sameFate_logReader_iff.mp hfound.fate
  have hget := sameFate_logReader_iff.mp hfound.foundOrError.fate
  simp only [Service.get, DiscreetStore.events_lookup messageId receiverId hlookup,
    Log.failureOf_congr hget]

omit [MessageStore σ] in
theorem events_ofReply (status : Http.Status) (reply : Reply (Service σ) Message) :
    (Api.ofReply status reply).events
      = reply.events ++ (fate reply.result).elim [] ServiceError.events := by
  cases h : reply.result <;> simp [Api.ofReply, h, fate]

theorem status_resultResponse_eq {x y : Except ServiceError Message}
    (h : logReader.SameResult logReader.SameMessage x y) (status : Http.Status) :
    (Api.resultResponse status x).status = (Api.resultResponse status y).status := by
  cases h with
  | @error e f herror =>
    obtain rfl : e = f := herror
    rfl
  | @ok m n henvelope =>
    have htime : m.createdAt = n.createdAt := henvelope.createdAt
    simp only [Api.resultResponse, Api.messageResponse, Message.toJson, htime]
    cases Timestamp.Rfc3339.write n.createdAt <;>
      simp [Except.map, Http.Response.json, Http.Response.text, Http.Response.withBody]

omit [MessageStore σ] in
/-- Calls that went the same way, and said the same, are served with the same events and status. -/
theorem ofReply_congr {reply reply' : Reply (Service σ) Message}
    (hresult : logReader.SameResult logReader.SameMessage reply.result reply'.result)
    (hevents : reply.events = reply'.events) (status : Http.Status) :
    (Api.ofReply status reply).events = (Api.ofReply status reply').events
      ∧ (Api.ofReply status reply).response.status
        = (Api.ofReply status reply').response.status := by
  rw [events_ofReply, events_ofReply, Api.response_ofReply, Api.response_ofReply, hevents,
    sameFate_logReader_iff.mp hresult.fate]
  exact ⟨rfl, status_resultResponse_eq hresult status⟩

theorem serve_congr {moment : Moment} {r r' : Http.Request} (hs : Indistinct logReader s t)
    (hrequest : logReader.SameRequest r r')
    (hfate : ∀ new new', Api.submitted? r = some new → Api.submitted? r' = some new' →
      logReader.SameFate
        (MessageStore.save s.store (new.toMessage (s.nextId moment) moment.now)).result
        (MessageStore.save t.store (new'.toMessage (t.nextId moment) moment.now)).result) :
    (Api.serve s moment r).events = (Api.serve t moment r').events
      ∧ (Api.serve s moment r).response.status = (Api.serve t moment r').response.status := by
  rcases hrequest.calls with
    ⟨new, new', hnew, hnew', hsame, hid⟩ | ⟨rfl, -, messageId, receiverId, hasked⟩ |
      ⟨rfl, hsubmitted, hrequested⟩
  · rw [Api.serve_of_submitted hnew, Api.serve_of_submitted hnew']
    have hsaved := hfate new new' hnew hnew'
    exact ofReply_congr (indistinct_send hs hsame hsaved).1 (events_send hs hsame hsaved) _
  · have hcall := ofReply_congr (indistinct_get hs messageId receiverId).1
      (events_get hs messageId receiverId) .ok
    rw [Api.serve_of_requested hasked, Api.serve_of_requested hasked]
    by_cases hhead : r'.method = "HEAD"
    · simpa [hhead, Http.Response.dropBody] using hcall
    · simpa [hhead] using hcall
  · obtain ⟨response, events, hserve⟩ := Api.serve_of_none hsubmitted hrequested
    rw [hserve, hserve]
    exact ⟨rfl, rfl⟩

omit [MessageStore σ] [Controlled σ κ] [ObservedControl κ] [ObservedStore σ κ] [DiscreetStore σ] in
theorem map_untimed_completionEvents (status : Http.Status) (latency latency' : Nat) :
    (Api.completionEvents status latency).map Log.Event.untimed
      = (Api.completionEvents status latency').map Log.Event.untimed := by
  simp [Api.completionEvents, Log.event, Log.Event.untimed]

theorem requestSpan_congr {r r' : Http.Request} (h : logReader.SameRequest r r') (chance : Uuid)
    (status : Option Http.Status) :
    Api.requestSpan r (Api.requestId r chance) status
      = Api.requestSpan r' (Api.requestId r' chance) status := by
  rcases h.calls with ⟨new, new', hnew, hnew', -, hid⟩ | ⟨rfl, -⟩ | ⟨rfl, -⟩
  · obtain ⟨hmethod, hpath, -⟩ := Api.submitted?_eq_some_iff.mp hnew
    obtain ⟨hmethod', hpath', -⟩ := Api.submitted?_eq_some_iff.mp hnew'
    rw [Api.requestSpan, Api.requestSpan, Api.requestId, Api.requestId, hid, hmethod, hmethod',
      hpath, hpath']
  · rfl
  · rfl

/-- The same is said about requests that do the same, but for how long they took. -/
theorem untimed_handle {reading reading' : Api.Reading} {r r' : Http.Request}
    (hs : Indistinct logReader s t) (hmoment : reading.moment = reading'.moment)
    (hchance : reading.chance = reading'.chance) (hrequest : logReader.SameRequest r r')
    (hfate : Option.Rel logReader.SameFate (saveResult? s (.request reading r : Step κ))
      (saveResult? t (.request reading' r' : Step κ))) :
    (Api.handle s reading r).events.map Log.Event.untimed
      = (Api.handle t reading' r').events.map Log.Event.untimed := by
  have hserve : (Api.serve s reading.moment r).events = (Api.serve t reading.moment r').events
      ∧ (Api.serve s reading.moment r).response.status
        = (Api.serve t reading.moment r').response.status := by
    refine serve_congr hs hrequest fun new new' hnew hnew' => ?_
    have hsaved := sameFate_of_sent (sent?_of_submitted hnew reading)
      (sent?_of_submitted hnew' reading') hfate
    rwa [← hmoment] at hsaved
  obtain ⟨hevents, hstatus⟩ := hserve
  rw [hmoment] at hevents hstatus
  simp only [Api.handle_eq, List.map_append, Log.map_untimed_within, hmoment, hchance,
    requestSpan_congr hrequest, hevents, hstatus,
    map_untimed_completionEvents _ reading.latencyMillis reading'.latencyMillis]

/-- The same is said in steps that do the same, if the saves that they ask for go the same way. -/
theorem untimed_step {st st' : Step κ} (hs : Indistinct logReader s t)
    (h : SameStep logReader st st')
    (hfate : Option.Rel logReader.SameFate (saveResult? s st) (saveResult? t st')) :
    (step s st).events.map Log.Event.untimed = (step t st').events.map Log.Event.untimed := by
  cases h with
  | request hmoment hchance hrequest => exact untimed_handle hs hmoment hchance hrequest hfate
  | send moment hsame =>
    exact congrArg _ (events_send hs hsame (sameFate_of_sent rfl rfl hfate))
  | get messageId receiverId => exact congrArg _ (events_get hs messageId receiverId)
  | save henvelope =>
    cases hfate with
    | some hfate =>
      exact congrArg _ (DiscreetStore.events_save henvelope (sameFate_logReader_iff.mp hfate))
  | lookup messageId receiverId =>
    have hfound := (ObservedStore.lookup messageId receiverId hs.store).1
    exact congrArg _ (DiscreetStore.events_lookup messageId receiverId
      (sameFate_logReader_iff.mp hfound.fate))
  | rowCount => rfl
  | control _ => rfl

/-- How the saves went that steps ask for, in order. -/
def saveFates (s : Service σ) : List (Step κ) → List (Option ServiceError)
  | [] => []
  | st :: steps => ((saveResult? s st).map fate).toList ++ saveFates (step s st).service steps

omit [DiscreetStore σ] in
theorem sameFate_of_saveFates {st st' : Step κ} {steps steps' : List (Step κ)}
    (hs : Indistinct logReader s t) (h : SameStep logReader st st')
    (hfates : saveFates s (st :: steps) = saveFates t (st' :: steps')) :
    Option.Rel logReader.SameFate (saveResult? s st) (saveResult? t st')
      ∧ saveFates (step s st).service steps = saveFates (step t st').service steps' := by
  rw [saveFates, saveFates, saveResult?, saveResult?] at hfates
  rw [saveResult?, saveResult?]
  rcases Option.rel_cases (h.saveAsked? hs) with ⟨hnone, hnone'⟩ | ⟨m, n, hm, hn, -⟩
  · rw [hnone, hnone'] at hfates ⊢
    exact ⟨.none, hfates⟩
  · rw [hm, hn] at hfates ⊢
    obtain ⟨hfirst, hrest⟩ := List.cons_eq_cons.mp hfates
    exact ⟨.some (sameFate_logReader_iff.mpr hfirst), hrest⟩

/-- What a step leaves in the log, but for how long it took, and the counters after it. -/
def Outcome.told (o : Outcome σ) : List Log.Event × Counters :=
  (o.events.map Log.Event.untimed, o.service.counters)

theorem told_run {steps steps' : List (Step κ)} (hs : Indistinct logReader s t)
    (h : List.Forall₂ (SameStep logReader) steps steps')
    (hfates : saveFates s steps = saveFates t steps') :
    (run s steps).map Outcome.told = (run t steps').map Outcome.told := by
  induction h generalizing s t with
  | nil => rfl
  | cons hstep _ ih =>
    obtain ⟨hfate, hrest⟩ := sameFate_of_saveFates hs hstep hfates
    have hafter := indistinct_step hstep hs hfate
    simp only [run_cons, List.map_cons, ih hafter hrest, Outcome.told, hafter.counters,
      untimed_step hs hstep hfate]

/-- Over this store, what messages say and who sends them is not told: runs that differ in this
only, and whose saves go the same way, leave the same in the log and in the counters, step by
step. -/
def KeepsMessagesSecret (σ : Type) {κ : Type} [MessageStore σ] [Controlled σ κ] [ObservedControl κ]
    [ObservedStore σ κ] : Prop :=
  ∀ (s t : Service σ) (steps steps' : List (Step κ)), Indistinct logReader s t →
    List.Forall₂ (SameStep logReader) steps steps' → saveFates s steps = saveFates t steps' →
    (run s steps).map Outcome.told = (run t steps').map Outcome.told

/-- It is so in memory and in the database. -/
theorem messages_kept_secret :
    KeepsMessagesSecret MemoryStore ∧ KeepsMessagesSecret Cql.Repository :=
  ⟨fun _ _ _ _ => told_run, fun _ _ _ _ => told_run⟩

/-- A message of another sender with another body, and otherwise as the sample. -/
def otherPost : Http.Request :=
  { samplePost with
    body := Utf8.ofString
      ("[\"00000000-0000-0000-0000-000000000003\", \"00000000-0000-0000-0000-000000000002\","
        ++ " \"secret\", \"Text\"]") }

/-- A message is submitted while the database answers, and once more when it does not, and another
is saved and looked for. -/
def tellingSteps (post : Http.Request) (body : String) : List (Step Cql.Repository.Control) :=
  [.request sampleReading post, .control (.fail fun _ => some .emptyPlan),
    .request sampleReading post, .control (.fail fun _ => none),
    .save { Cql.Repository.afterwards with body := body }, .lookup .nil .nil]

theorem posts_told_alike :
    (run sampleService (tellingSteps samplePost "told")).map Outcome.told
      = (run sampleService (tellingSteps otherPost "secret")).map Outcome.told := by
  obtain ⟨hsubmitted, hsubmitted', hreceiver, htype⟩ :
      (Api.submitted? samplePost).isSome = true ∧ (Api.submitted? otherPost).isSome = true
        ∧ (Api.submitted? samplePost).map NewMessage.receiverId
          = (Api.submitted? otherPost).map NewMessage.receiverId
        ∧ (Api.submitted? samplePost).map NewMessage.type
          = (Api.submitted? otherPost).map NewMessage.type := by
    decide +kernel
  obtain ⟨new, hnew⟩ := Option.isSome_iff_exists.mp hsubmitted
  obtain ⟨new', hnew'⟩ := Option.isSome_iff_exists.mp hsubmitted'
  rw [hnew, hnew'] at hreceiver htype
  have hsame : logReader.SameSubmission new new' :=
    fun _ _ => ⟨rfl, Option.some.inj hreceiver, rfl, Option.some.inj htype, rfl⟩
  have hid : samplePost.header? Api.requestIdHeader = otherPost.header? Api.requestIdHeader := by
    simp only [Http.Request.header?, otherPost]
  have hpost : SameStep logReader (.request sampleReading samplePost : Step Cql.Repository.Control)
      (.request sampleReading otherPost) := .request rfl rfl (.submit hid hnew hnew' hsame)
  have hsave : SameStep logReader
      (.save { Cql.Repository.afterwards with body := "told" } : Step Cql.Repository.Control)
      (.save { Cql.Repository.afterwards with body := "secret" }) := .save ⟨rfl, rfl, rfl, rfl, rfl⟩
  have hsteps : List.Forall₂ (SameStep logReader) (tellingSteps samplePost "told")
      (tellingSteps otherPost "secret") :=
    .cons hpost (.cons (.refl _ _) (.cons hpost (.cons (.refl _ _) (.cons hsave
      (.cons (.refl _ _) .nil)))))
  have hfates : saveFates sampleService (tellingSteps samplePost "told")
      = saveFates sampleService (tellingSteps otherPost "secret") := by decide +kernel
  exact messages_kept_secret.2 _ _ _ _ (.refl _ _) hsteps hfates

end Session

end Messaging
