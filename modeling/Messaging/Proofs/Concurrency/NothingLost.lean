import Messaging.Proofs.Concurrency.Delivery
import Messaging.Proofs.Session.Fetching

/-!
When all requests have been answered that were served at the same time, nothing is lost and nothing
is doubled: there is one row more for each answer with status 201, every call has been counted once,
and whoever has looked for a message after it was saved has been given it.
-/
namespace Messaging.Concurrency

section Alone

variable {σ κ : Type} {n : ℕ} [MessageStore σ] [Controlled σ κ]

theorem run_replicate_work (jobs : Fin n → Job) (sys : System σ n) (i : Fin n) (k : ℕ) :
    let alone := sys.run jobs (List.replicate k (.work i : Turn n κ))
    (alone.stage i, alone.service)
      = (fun p : Stage × Service σ => p.1.next (jobs i) p.2)^[k] (sys.stage i, sys.service) := by
  intro alone
  induction k generalizing sys with
  | zero => rfl
  | succ k ih =>
    have hlater := ih (sys.turn jobs (.work i : Turn n κ))
    rw [System.stage_turn_self] at hlater
    rw [Function.iterate_succ_apply]
    exact hlater

/-- So it is in a system, when no turns of other requests come between. -/
theorem run_alone (jobs : Fin n → Job) (sys : System σ n) {i : Fin n}
    (h : sys.stage i = .received) :
    let alone := sys.run jobs (List.replicate 4 (.work i : Turn n κ))
    let served := Api.handle sys.service (jobs i).reading (jobs i).request
    alone.service = served.service ∧ (alone.stage i).response? = some served.response := by
  intro alone served
  have hrun := run_replicate_work (κ := κ) jobs sys i 4
  obtain ⟨c, halone⟩ := Stage.next_alone (jobs i) sys.service
  rw [h, halone, Prod.mk.injEq] at hrun
  exact ⟨hrun.2, by rw [hrun.1]; rfl⟩

end Alone

section Together

variable {σ κ : Type} {n : ℕ} [MessageStore σ] [Controlled σ κ] [TableStore σ κ]

structure Delivered (jobs : Fin n → Job) (turns : List (Turn n κ)) (before after : System σ n) :
    Prop where
  /-- Whatever is answered with status 201 was submitted, and the answer tells a message. -/
  acknowledged : ∀ i response, (after.stage i).response? = some response →
    response.status = .created →
    (jobs i).request.method = "POST" ∧ (after.stage i).created?.isSome = true
  /-- There is one row more for each such message. -/
  rows : (TableStore.rows after.service.store).Perm
    (TableStore.rows before.service.store ++ (gather Stage.created? after.stage).map entryOf)
  /-- Each counter has grown by the calls with its outcome. -/
  counters : after.service.counters
    = tallyCalls before.service.counters (gather Stage.call? after.stage)
  /-- Whoever asks for such a message looks for it, and if the store does not refuse is answered
  with it once it has been saved, and with status 404 before. -/
  fetched : TableStore.Honest before.service.store → (∀ t ∈ turns, t.Honest σ) →
    ∀ i j m created response, (after.stage i).created? = some m →
      (after.stage i).response? = some created → (jobs j).request.method = "GET" →
      Api.requested? (jobs j).request = some (m.messageId, m.receiverId) →
      (after.stage j).response? = some response →
      ∃ result, (after.stage j).call? = some (.lookup m.messageId m.receiverId result)
        ∧ (before.CallsBefore jobs turns i j ∨ before.CallsBefore jobs turns j i)
        ∧ ∀ found, result = .ok found →
          (before.CallsBefore jobs turns i j →
            response.status = .ok ∧ response.body = created.body)
          ∧ (before.CallsBefore jobs turns j i → response.status = .notFound)

variable {jobs : Fin n → Job} {initial : Service σ} {ids : Fin n → Option Message}
  {turns : List (Turn n κ)} {i j : Fin n} {m : Message} {found : Option Message}

/-- A lookup that is made after a message has been saved gives the message. -/
theorem found_of_callsBefore (hnew : NewNames ids initial)
    (hnames : ((System.start initial).run jobs turns).Names ids)
    (hhonest : TableStore.Honest initial.store) (hturns : ∀ t ∈ turns, t.Honest σ)
    (hclock : (jobs i).reading.moment.now.OfClock)
    (hsaved : (((System.start initial).run jobs turns).stage i).saved? = some m)
    (hlookup : (((System.start initial).run jobs turns).stage j).call?
      = some (.lookup m.messageId m.receiverId (.ok found)))
    (hfirst : (System.start initial).CallsBefore jobs turns i j) : found = some m := by
  obtain ⟨earlier, later, rfl, hi, hj⟩ := hfirst
  rw [System.run_append] at hnames hsaved hlookup
  rw [List.forall_mem_append] at hturns
  exact ((sound_start hnew).run hnew hnames.of_run).found_of_saved hnew hnames
    (honest_run hturns.1 hhonest) hturns.2 hclock (System.saved?_of_run later hsaved hi) hj hlookup

theorem missing_of_callsBefore (hnew : NewNames ids initial)
    (hnames : ((System.start initial).run jobs turns).Names ids)
    (hhonest : TableStore.Honest initial.store) (hturns : ∀ t ∈ turns, t.Honest σ)
    (hids : ids i = some m)
    (hlookup : (((System.start initial).run jobs turns).stage j).call?
      = some (.lookup m.messageId m.receiverId (.ok found)))
    (hfirst : (System.start initial).CallsBefore jobs turns j i) : found = none := by
  obtain ⟨earlier, later, rfl, hj, hi⟩ := hfirst
  rw [List.forall_mem_append] at hturns
  rw [System.run_append] at hnames hlookup
  have hcalled : (((System.start initial).run jobs earlier).stage j).call?
      = some (.lookup m.messageId m.receiverId (.ok found)) := by
    obtain ⟨c, hcall⟩ := Option.isSome_iff_exists.mp hj
    rw [hcall, ← hlookup, System.call?_run later hcall]
  exact (sound_start hnew).missing_of_uncalled hnew hnames.of_run hhonest hturns.1 hids hi rfl
    hcalled

theorem delivered (hclock : ∀ i, (jobs i).reading.moment.now.OfClock)
    (hanswered : ∀ i,
      (((System.start initial).run jobs turns).stage i).response?.isSome = true)
    (hnew : NewNames (fun i => (((System.start initial).run jobs turns).stage i).identity?)
      initial) :
    Delivered jobs turns (System.start initial) ((System.start initial).run jobs turns) := by
  set final := (System.start initial).run jobs turns
  -- the identifiers at the end are those of the whole run, so that one invariant tells all four
  have hnames : final.Names fun i => (final.stage i).identity? := fun i m hm => hm
  have hsound : Sound jobs initial (fun i => (final.stage i).identity?) final :=
    (sound_start hnew).run hnew hnames
  have hcreated : ∀ i, (final.stage i).created? = (final.stage i).saved? := fun i =>
    (hsound.consistent i).created?_eq (hclock i) (hanswered i)
  refine ⟨?acknowledged, ?rows, ?counters, ?fetched⟩
  case acknowledged =>
    intro i response hresponse hstatus
    obtain ⟨m, hm⟩ := (hsound.consistent i).exists_saved hresponse hstatus
    exact ⟨((hsound.consistent i).of_saved? hm).2.method, by rw [hcreated, hm]; rfl⟩
  case rows =>
    rw [gather_congr hcreated]
    exact hsound.rows
  case counters =>
    rw [← gather_congr fun i => Stage.countedCall?_eq (hanswered i)]
    exact hsound.counters
  case fetched =>
    intro hhonest hturns i j m created response hm hposted hget hrequested hasked
    have hsaved : (final.stage i).saved? = some m := by rw [← hcreated, hm]
    have hcall := ((hsound.consistent i).of_saved? hsaved).1
    have hbody := ((hsound.consistent i).response_of_saved? (hclock i) hposted hsaved).2
    obtain ⟨result, hlookup⟩ := (hsound.consistent j).call?_of_requested (hanswered j) hrequested
    have hresponse := (hsound.consistent j).response_of_call? hasked hlookup
    have hij : i ≠ j := by
      rintro rfl
      simp [hcall] at hlookup
    refine ⟨result, hlookup, System.callsBefore_or hij rfl rfl (Option.isSome_of_eq_some hcall)
      (Option.isSome_of_eq_some hlookup), ?_⟩
    rintro found rfl
    refine ⟨fun hafter => ?_, fun hbefore => ?_⟩
    · obtain rfl := found_of_callsBefore hnew hnames hhonest hturns (hclock i) hsaved hlookup hafter
      obtain ⟨hstatus, htext⟩ :=
        Api.answerTo_of_ok (r := (jobs j).request) (by simp [hget]) hbody (jobs j).reading.chance
      rw [if_neg (by simp [hget])] at hstatus
      rw [hresponse]
      exact ⟨hstatus, htext⟩
    · obtain rfl := missing_of_callsBefore hnew hnames hhonest hturns
        (Stage.identity?_of_call? hcall) hlookup hbefore
      rw [hresponse]
      exact Api.status_answerTo_of_error _ _ .notFound

end Together

/-- Over this store, requests that are worked on alone are served as by the service; and requests
that are served at the same time, in whatever turns and with whatever interference, have all been
delivered when all of them have been answered, as long as the clock shows UTC in a year of four
digits and each message has an identifier of its own. -/
def LosesNothing (σ : Type) {κ : Type} [MessageStore σ] [Controlled σ κ] [TableStore σ κ] : Prop :=
  ∀ {n : ℕ} (jobs : Fin n → Job),
    (∀ (sys : System σ n) (i : Fin n), sys.stage i = .received →
      let alone := sys.run jobs (List.replicate 4 (.work i : Turn n κ))
      let served := Api.handle sys.service (jobs i).reading (jobs i).request
      alone.service = served.service ∧ (alone.stage i).response? = some served.response)
    ∧ ∀ (initial : Service σ) (turns : List (Turn n κ)),
      let final := (System.start initial).run jobs turns
      (∀ i, (jobs i).reading.moment.now.OfClock) →
      (∀ i, (final.stage i).response?.isSome = true) →
      NewNames (fun i => (final.stage i).identity?) initial →
      Delivered jobs turns (System.start initial) final

/-- It is so in memory and in the database. -/
theorem nothing_is_lost : LosesNothing MemoryStore ∧ LosesNothing Cql.Repository :=
  ⟨fun jobs => ⟨fun sys _ => run_alone jobs sys, fun _ _ => delivered⟩,
    fun jobs => ⟨fun sys _ => run_alone jobs sys, fun _ _ => delivered⟩⟩

open Session (sampleReading samplePost sampleService)

/-- A message is submitted twice, and the one that is identified first is asked for. -/
def sampleJobs : Fin 3 → Job
  | 2 => ⟨sampleReading, "GET", Api.messagePath ⟨List.replicate 15 0 ++ [2], by decide⟩
      (Uuid.timeBased 0 0 sampleService.node), [], []⟩
  | _ => ⟨sampleReading, samplePost⟩

def sampleTurns : List (Turn 3 Cql.Repository.Control) :=
  [.work 0, .work 1, .work 0, .interfere (.fail fun _ => some .emptyPlan), .work 1,
    .interfere (.fail fun _ => none), .work 2, .work 1, .work 0, .work 2, .work 2, .work 1,
    .work 0]

theorem sample_delivered :
    let final := (System.start sampleService).run sampleJobs sampleTurns
    MessageStore.rowCount final.service.store = 1
      ∧ ∃ created response, (final.stage 0).response? = some created
        ∧ (final.stage 2).response? = some response ∧ response.status = .ok
        ∧ response.body = created.body := by
  intro final
  obtain ⟨hanswered, hids, hcreated, hstatus, hasked⟩ :
      (∀ i, (final.stage i).response?.isSome = true)
        ∧ (∀ i j, (final.stage i).identity?.isSome = true →
          (final.stage i).identity?.map Message.messageId
            = (final.stage j).identity?.map Message.messageId → i = j)
        ∧ (gather Stage.created? final.stage).length = 1
        ∧ (∀ r ∈ (final.stage 0).response?, r.status = .created)
        ∧ ∀ m ∈ (final.stage 0).created?,
          Api.requested? (sampleJobs 2).request = some (m.messageId, m.receiverId)
            ∧ (final.stage 2).call?
              = some (.lookup m.messageId m.receiverId (.ok (some m))) := by
    decide +kernel
  have hnew : NewNames (fun i => (final.stage i).identity?) sampleService := by
    refine ⟨fun i j m m' hi hj h => hids i j (Option.isSome_of_eq_some hi) ?_, ?_⟩
    · rw [show (final.stage i).identity? = some m from hi,
        show (final.stage j).identity? = some m' from hj, Option.map_some, Option.map_some, h]
    · intro i m _ entry hentry
      exact absurd hentry List.not_mem_nil
  have hclock : ∀ i, (sampleJobs i).reading.moment.now.OfClock := by decide +kernel
  -- `final` is put back first, lest the run be evaluated to see that both are the same
  have hdelivered : Delivered sampleJobs sampleTurns (System.start sampleService) final := by
    unfold final at hanswered hnew ⊢
    exact (nothing_is_lost.2 sampleJobs).2 sampleService sampleTurns hclock hanswered hnew
  have hturns : ∀ t ∈ sampleTurns, t.Honest Cql.Repository := by
    simp only [sampleTurns, List.forall_mem_cons]
    exact ⟨trivial, trivial, trivial, fun _ h => h, trivial, fun _ h => h, trivial, trivial,
      trivial, trivial, trivial, trivial, trivial, by simp⟩
  have hbefore : (System.start sampleService).CallsBefore sampleJobs sampleTurns 0 2 :=
    ⟨sampleTurns.take 3, sampleTurns.drop 3, rfl, by decide +kernel⟩
  obtain ⟨created, hposted⟩ := Option.isSome_iff_exists.mp (hanswered 0)
  obtain ⟨response, hfetched⟩ := Option.isSome_iff_exists.mp (hanswered 2)
  obtain ⟨m, hm⟩ := Option.isSome_iff_exists.mp
    (hdelivered.acknowledged 0 created hposted (hstatus created hposted)).2
  obtain ⟨hrequested, hlookup⟩ := hasked m hm
  obtain ⟨result, hcall, -, htold⟩ :=
    hdelivered.fetched rfl hturns 0 2 m created response hm hposted rfl hrequested hfetched
  have hresult : result = .ok (some m) := by
    rw [hlookup] at hcall
    exact ((Called.lookup.inj (Option.some.inj hcall)).2.2).symm
  refine ⟨?_, created, response, hposted, hfetched, (htold _ hresult).1 hbefore⟩
  rw [TableStore.rowCount_eq, hdelivered.rows.length_eq, List.length_append, List.length_map,
    hcreated]
  rfl

end Messaging.Concurrency
