import Messaging.Proofs.Cql.Script

/-!
Starting up as a script. Once a session is open, starting up makes the requests of one list in
order, up to the first that is not carried out: it succeeds exactly if all are, and it fails with
the error of the one that is not.
-/
namespace Messaging.Cql

/-- The error that starting up ends with where a request is not carried out. -/
inductive StageError : Request → UseFailure → StartError → Prop
  | createKeyspace (name : String) (cause : Failure) :
    StageError (.createKeyspace name) (.failed cause) (.schema (.createKeyspace name cause))
  | useKeyspace (name : String) (reason : UseFailure) :
    StageError (.use name) reason (.schema (.useKeyspace name reason))
  | createTable (cause : Failure) :
    StageError .createTable (.failed cause) (.schema (.createTable cause))
  | prepareInsert (cause : Failure) : StageError .prepareInsert (.failed cause) (.prepare cause)
  | prepareSelect (cause : Failure) : StageError .prepareSelect (.failed cause) (.prepare cause)

/-- A step of starting up ends as a script does, and leaves the server as the script does. -/
structure Started.Follows (step : Started Unit)
    (run : Except (Request × UseFailure) Unit × Connection) : Prop where
  server : step.server = run.2.server
  ok : run.1 = .ok () → step.result = .ok ()
  error : ∀ q reason, run.1 = .error (q, reason) →
    ∃ e, step.result = .error e ∧ StageError q reason e

namespace Started

variable {first : Started Unit} {next : Server → Started Unit} {c d : Connection}
  {qs : List Request}

theorem follows_ok {step : Started Unit} (hserver : step.server = d.server)
    (hresult : step.result = .ok ()) : step.Follows (.ok (), d) :=
  ⟨hserver, fun _ => hresult, fun _ _ h => by simp at h⟩

theorem follows_error {step : Started Unit} {q : Request} {reason : UseFailure} {e : StartError}
    (hserver : step.server = d.server) (hresult : step.result = .error e)
    (hstage : StageError q reason e) : step.Follows (.error (q, reason), d) := by
  refine ⟨hserver, fun h => by simp at h, fun p why h => ?_⟩
  simp only [Except.error.injEq, Prod.mk.injEq] at h
  obtain ⟨rfl, rfl⟩ := h
  exact ⟨e, hresult, hstage⟩

/-- A step that sends a request first ends there if that fails, and else goes on with the script. -/
theorem follows_send {step : Started Unit} {q : Request} {error : Failure → StartError}
    (hsend : q.unsendable? = none) (hstage : ∀ cause, StageError q (.failed cause) (error cause))
    (hfailed : ∀ cause server, c.server.receive c.current q = (.error cause, server) →
      step.server = server ∧ step.result = .error (error cause))
    (hreceived : ∀ answer server, c.server.receive c.current q = (.ok answer, server) →
      step.Follows (Connection.script ⟨server, q.selects c.current⟩ qs)) :
    step.Follows (c.script (q :: qs)) := by
  rcases hreceive : c.server.receive c.current q with ⟨cause | answer, server⟩
  · obtain ⟨hserver, hresult⟩ := hfailed cause server hreceive
    rw [Connection.script_cons_of_error (Connection.request_of_failed hsend hreceive)]
    exact follows_error hserver hresult (hstage cause)
  · rw [Connection.script_cons_of_ok (Connection.request_of_received hsend hreceive)]
    exact hreceived answer server hreceive

theorem Follows.goOn {step : Started Unit} (more : List Request)
    (hfirst : first.Follows (c.script qs))
    (hfailed : ∀ e, first.result = .error e →
      step.server = first.server ∧ step.result = .error e)
    (hnext : ∀ d, c.script qs = (.ok (), d) → first.result = .ok () → first.server = d.server →
      step.Follows (d.script more)) :
    step.Follows (c.script (qs ++ more)) := by
  rcases hscript : c.script qs with ⟨⟨q, reason⟩ | ⟨⟩, d⟩
  · rw [hscript] at hfirst
    obtain ⟨e, hresult, hstage⟩ := hfirst.error q reason rfl
    obtain ⟨hserver, hstep⟩ := hfailed e hresult
    rw [Connection.script_append_of_error hscript]
    exact follows_error (hserver.trans hfirst.server) hstep hstage
  · rw [hscript] at hfirst
    rw [Connection.script_append_of_ok hscript]
    exact hnext d hscript (hfirst.ok rfl) hfirst.server

/-- Of two steps one after the other, the second goes on with the script where the first left. -/
theorem Follows.andThen (more : List Request) (hfirst : first.Follows (c.script qs))
    (hnext : ∀ d, c.script qs = (.ok (), d) → (next d.server).Follows (d.script more)) :
    (first.andThen next).Follows (c.script (qs ++ more)) := by
  refine hfirst.goOn more (fun e hresult => ?_) fun d hscript hresult hserver => ?_
  · simp [Started.andThen, hresult]
  · obtain ⟨hlast, hok, herror⟩ := hnext d hscript
    rw [← hserver] at hlast hok herror
    exact ⟨by simpa [Started.andThen, hresult] using hlast,
      by simpa [Started.andThen, hresult] using hok,
      by simpa [Started.andThen, hresult] using herror⟩

end Started

theorem useKeyspace_follows (name : String) (c : Connection) :
    (useKeyspace name c.server).Follows (c.script [.use name]) := by
  cases hname : checkKeyspaceName name with
  | error reason =>
    have hrequest : c.request (.use name) = (.error (.badName reason), c) := by
      simp [Connection.request, Request.unsendable?, hname]
    rw [Connection.script_cons_of_error hrequest]
    exact Started.follows_error (by simp [useKeyspace, hname]) (by simp [useKeyspace, hname])
      (.useKeyspace name _)
  | ok _ =>
    refine Started.follows_send (by simp [Request.unsendable?, hname])
      (fun cause => .useKeyspace name (.failed cause)) ?_ ?_
    · intro cause server hreceive
      rw [Server.receive_use] at hreceive
      simp [useKeyspace, hname, hreceive]
    · intro answer server hreceive
      rw [Server.receive_use] at hreceive
      exact Started.follows_ok (by simp [useKeyspace, hname, hreceive])
        (by simp [useKeyspace, hname, hreceive])

theorem bootstrap_follows (name : String) (server : Server) :
    (bootstrap name server).Follows
      (Connection.script ⟨server, none⟩ [.createKeyspace name, .use name, .createTable]) := by
  refine Started.follows_send rfl (.createKeyspace name) ?_ ?_
  · intro cause server hcreate
    simp [bootstrap, hcreate]
  · intro answer server hcreate
    refine (useKeyspace_follows name ⟨server, none⟩).goOn [.createTable] ?_ ?_
    · intro e hresult
      simp [bootstrap, hcreate, hresult]
    · intro d hscript hresult hserver
      have hcurrent : d.current = some name := Connection.current_script hscript
      refine Started.follows_send rfl .createTable ?_ ?_
      · intro cause last htable
        rw [hcurrent, ← hserver] at htable
        simp [bootstrap, hcreate, hresult, htable]
      · intro answer last htable
        rw [hcurrent, ← hserver] at htable
        exact Started.follows_ok (by simp [bootstrap, hcreate, hresult, htable])
          (by simp [bootstrap, hcreate, hresult, htable])

theorem prepareStatements_follows {name : String} {c : Connection}
    (hcurrent : c.current = some name) :
    (prepareStatements name c.server).Follows (c.script [.prepareInsert, .prepareSelect]) := by
  refine Started.follows_send rfl .prepareInsert ?_ ?_
  · intro cause server hinsert
    rw [hcurrent] at hinsert
    simp [prepareStatements, hinsert]
  · intro answer server hinsert
    rw [hcurrent] at hinsert
    refine Started.follows_send rfl .prepareSelect ?_ ?_
    · intro cause last hselect
      simp only [Request.selects, hcurrent] at hselect
      simp [prepareStatements, hinsert, hselect]
    · intro answer last hselect
      simp only [Request.selects, hcurrent] at hselect
      exact Started.follows_ok (by simp [prepareStatements, hinsert, hselect])
        (by simp [prepareStatements, hinsert, hselect])

/-- The requests that make the schema ready, or only select the keyspace. -/
def schemaStages (settings : DatabaseSettings) : List Request :=
  if settings.init then
    [.createKeyspace settings.keyspace, .use settings.keyspace, .createTable]
  else [.use settings.keyspace]

/-- The requests that make the store ready once a session is open, in order. -/
def stages (settings : DatabaseSettings) : List Request :=
  schemaStages settings ++ [.prepareInsert, .prepareSelect]

theorem selects_schemaStages (settings : DatabaseSettings) :
    (schemaStages settings).foldl Request.selects none = some settings.keyspace := by
  by_cases hinit : settings.init = true <;> simp [schemaStages, hinit, Request.selects]

/-- Once a session is open, starting up is the script of the stages. -/
theorem start_follows {settings : DatabaseSettings} {s : Server}
    (h : (connect settings s).result = .ok ()) :
    (start settings s).Follows
      (Connection.script ⟨(connect settings s).server, none⟩ (stages settings)) := by
  have hconnect : (connect settings s).Follows
      (Connection.script ⟨(connect settings s).server, none⟩ []) := Started.follows_ok rfl h
  refine (hconnect.andThen (schemaStages settings) ?_).andThen [.prepareInsert, .prepareSelect] ?_
  · intro d hscript
    obtain ⟨-, rfl⟩ := Prod.mk.inj hscript
    by_cases hinit : settings.init = true
    · rw [if_pos hinit, schemaStages, if_pos hinit]
      exact bootstrap_follows settings.keyspace _
    · rw [if_neg hinit, schemaStages, if_neg hinit]
      exact useKeyspace_follows settings.keyspace _
  · intro d hscript
    have hcurrent := Connection.current_script hscript
    rw [List.nil_append, selects_schemaStages] at hcurrent
    exact prepareStatements_follows hcurrent

theorem start_of_connect_error {settings : DatabaseSettings} {s : Server} {e : StartError}
    (h : (connect settings s).result = .error e) :
    (start settings s).result = .error e ∧ (start settings s).server = (connect settings s).server
    := by
  simp [start, Started.andThen, h]

theorem connect_server (settings : DatabaseSettings) (s : Server) :
    (connect settings s).server = s
      ∨ (connect settings s).server
        = (s.receive none (.login settings.user settings.password)).2 := by
  rw [connect]
  cases s.credentials with
  | none => exact .inl rfl
  | some credentials =>
    refine .inr ?_
    rcases s.receive none (.login settings.user settings.password) with ⟨cause | answer, server⟩
    · rfl
    · by_cases hright : credentials = (settings.user, settings.password) <;> simp [hright]

/-- What neither a login nor any stage changes of a server is the same after starting up. -/
theorem view_start {α : Type} (view : Server → α) {settings : DatabaseSettings}
    (hlogin : ∀ s : Server,
      view (s.receive none (.login settings.user settings.password)).2 = view s)
    (hstages : ∀ q ∈ stages settings, ∀ (s : Server) (current : Option String),
      view (s.receive current q).2 = view s)
    (s : Server) : view (start settings s).server = view s := by
  have hconnect : view (connect settings s).server = view s := by
    rcases connect_server settings s with hsame | hreceived
    · rw [hsame]
    · rw [hreceived, hlogin]
  cases hresult : (connect settings s).result with
  | error e => rw [(start_of_connect_error hresult).2, hconnect]
  | ok _ => rw [(start_follows hresult).server, Connection.view_script view hstages, hconnect]

def opened (settings : DatabaseSettings) (s : Server) : Connection :=
  ⟨(connect settings s).server, none⟩

theorem stages_eq_append (settings : DatabaseSettings) :
    stages settings = (schemaStages settings ++ [.prepareInsert]) ++ [.prepareSelect] := by
  rw [stages, List.append_assoc, List.singleton_append]

theorem table?_of_script_stages {settings : DatabaseSettings} {c d : Connection}
    (h : c.script (stages settings) = (.ok (), d)) : (d.server.table? d.current).isSome = true := by
  rw [stages_eq_append, Connection.script_append_eq_ok_iff] at h
  obtain ⟨e, -, hlast⟩ := h
  rcases e.request_cases .prepareSelect with ⟨d', hd⟩ | ⟨reason, d', hd⟩
  · rw [Connection.script_cons_of_ok hd] at hlast
    obtain ⟨-, rfl⟩ := Prod.mk.inj hlast
    exact Connection.table?_of_request_ok rfl hd
  · simp [Connection.script_cons_of_error hd] at hlast

theorem selects_stages (settings : DatabaseSettings) :
    (stages settings).foldl Request.selects none = some settings.keyspace := by
  rw [stages, List.foldl_append, selects_schemaStages]
  rfl

theorem changesNothing_of_mem_stages {settings : DatabaseSettings} (h : settings.init = false)
    {q : Request} (hq : q ∈ stages settings) : q.changesNothing = true := by
  simp only [stages, schemaStages, h, Bool.false_eq_true, if_false, List.cons_append,
    List.nil_append, List.mem_cons, List.not_mem_nil, or_false] at hq
  rcases hq with rfl | rfl | rfl <;> rfl

theorem writesNothing_of_mem_stages {settings : DatabaseSettings} {q : Request}
    (hq : q ∈ stages settings) : q.writesNothing = true := by
  rw [stages, schemaStages] at hq
  split at hq <;>
    simp only [List.cons_append, List.nil_append, List.mem_cons, List.not_mem_nil, or_false] at hq
  · rcases hq with rfl | rfl | rfl | rfl | rfl <;> rfl
  · rcases hq with rfl | rfl | rfl <;> rfl

theorem initStore_eq_ok_iff {settings : DatabaseSettings} {s : Server} {r : Repository} :
    (initStore settings (.listening s)).1 = .ok r
      ↔ (start settings s).result = .ok ()
        ∧ r = ⟨(start settings s).server, settings.keyspace⟩ := by
  cases hresult : (start settings s).result with
  | error e => simp [initStore, hresult, Except.map]
  | ok _ => simp [initStore, hresult, Except.map, eq_comm]

theorem initStore_eq_error_iff {settings : DatabaseSettings} {s : Server} {e : StartError} :
    (initStore settings (.listening s)).1 = .error e ↔ (start settings s).result = .error e := by
  cases hresult : (start settings s).result <;> simp [initStore, hresult, Except.map]

/-- Starting up is all or nothing, and in order: after the session is open the stages are asked for
one after the other, all of them exactly if it succeeds, and none after the one that fails. -/
structure OrderlyStart (settings : DatabaseSettings) (s : Server) : Prop where
  /-- Without a session, nothing is asked. -/
  notConnected : ∀ e, (connect settings s).result = .error e →
    (initStore settings (.listening s)).1 = .error e
      ∧ (start settings s).server = (opened settings s).server
  /-- The stages are asked for in order, and nothing else is. -/
  issued : ∃ issued, issued <+: stages settings
    ∧ (start settings s).server.received = (opened settings s).server.received ++ issued
  /-- It succeeds exactly if every stage does. -/
  ok_iff : (∃ r, (initStore settings (.listening s)).1 = .ok r) ↔
    (connect settings s).result = .ok ()
      ∧ ((opened settings s).script (stages settings)).1 = .ok ()
  /-- Otherwise the first stage that is not carried out is the last that is asked for, if it can be
  asked for at all, and the error is that of this stage. -/
  failed : ∀ e, (connect settings s).result = .ok () →
    (initStore settings (.listening s)).1 = .error e →
    ∃ earlier q later before reason after, stages settings = earlier ++ q :: later
      ∧ (opened settings s).script earlier = (.ok (), before)
      ∧ before.request q = (.error reason, after) ∧ StageError q reason e
      ∧ (start settings s).server = after.server
      ∧ after.server.received = (opened settings s).server.received
          ++ (earlier ++ if q.unsendable?.isSome then [] else [q])
  /-- Where the schema is not asked for, no keyspace and no table changes. -/
  unchanged : settings.init = false → (start settings s).server.keyspaces = s.keyspaces
  /-- The store that is given uses the keyspace of the settings, and the table is there. -/
  ready : ∀ r, (initStore settings (.listening s)).1 = .ok r →
    (opened settings s).script (stages settings) = (.ok (), ⟨r.server, some settings.keyspace⟩)
      ∧ r.server.received = (opened settings s).server.received ++ stages settings
      ∧ r.keyspace = settings.keyspace ∧ r.table?.isSome = true

section OrderlyStart

variable {settings : DatabaseSettings} {s : Server}

theorem start_ok_iff :
    (start settings s).result = .ok () ↔ (connect settings s).result = .ok ()
      ∧ ((opened settings s).script (stages settings)).1 = .ok () := by
  cases hconnect : (connect settings s).result with
  | error e => simp [(start_of_connect_error hconnect).1]
  | ok _ =>
    have hfollows := start_follows hconnect
    refine ⟨fun hok => ⟨rfl, ?_⟩, fun h => hfollows.ok h.2⟩
    rcases hscript : ((opened settings s).script (stages settings)).1 with ⟨q, reason⟩ | ⟨⟩
    · obtain ⟨e, herror, -⟩ := hfollows.error q reason hscript
      simp [hok] at herror
    · rfl

/-- Where starting up succeeds, its script is carried out to the end, in the keyspace that is
asked for. -/
theorem script_stages_of_start (h : (start settings s).result = .ok ()) :
    (opened settings s).script (stages settings)
      = (.ok (), ⟨(start settings s).server, some settings.keyspace⟩) := by
  obtain ⟨hconnect, hok⟩ := start_ok_iff.mp h
  have hserver := (start_follows hconnect).server
  rcases hscript : (opened settings s).script (stages settings) with ⟨_, d⟩
  rw [hscript] at hok
  obtain rfl := hok
  have hcurrent := Connection.current_script hscript
  rw [opened, selects_stages] at hcurrent
  rw [← opened, hscript] at hserver
  rw [hserver, ← hcurrent]

theorem issued_stages (settings : DatabaseSettings) (s : Server) :
    ∃ issued, issued <+: stages settings
      ∧ (start settings s).server.received = (opened settings s).server.received ++ issued := by
  cases hconnect : (connect settings s).result with
  | error e =>
    refine ⟨[], List.nil_prefix, ?_⟩
    rw [(start_of_connect_error hconnect).2, List.append_nil, opened]
  | ok _ =>
    rw [(start_follows hconnect).server]
    exact Connection.received_script _ _

theorem exists_stage_of_start_error {e : StartError}
    (hconnect : (connect settings s).result = .ok ())
    (h : (start settings s).result = .error e) :
    ∃ earlier q later before reason after, stages settings = earlier ++ q :: later
      ∧ (opened settings s).script earlier = (.ok (), before)
      ∧ before.request q = (.error reason, after) ∧ StageError q reason e
      ∧ (start settings s).server = after.server
      ∧ after.server.received = (opened settings s).server.received
          ++ (earlier ++ if q.unsendable?.isSome then [] else [q]) := by
  have hfollows := start_follows hconnect
  rcases hscript : (opened settings s).script (stages settings) with ⟨⟨q, reason⟩ | ⟨⟩, after⟩
  · rw [← opened, hscript] at hfollows
    obtain ⟨e', herror, hstage⟩ := hfollows.error q reason rfl
    obtain rfl : e' = e := Except.error.inj (herror.symm.trans h)
    obtain ⟨earlier, later, before, hstages, hearlier, hq⟩ :=
      Connection.script_eq_error_iff.mp hscript
    have hreceived := before.received_request q
    rw [hq, Connection.received_script_of_ok hearlier, List.append_assoc] at hreceived
    exact ⟨earlier, q, later, before, reason, after, hstages, hearlier, hq, hstage,
      hfollows.server, hreceived⟩
  · have hok := start_ok_iff.mpr ⟨hconnect, by rw [hscript]⟩
    simp [hok] at h

theorem orderlyStart (settings : DatabaseSettings) (s : Server) : OrderlyStart settings s where
  notConnected e hconnect :=
    ⟨initStore_eq_error_iff.mpr (start_of_connect_error hconnect).1,
      (start_of_connect_error hconnect).2⟩
  issued := issued_stages settings s
  ok_iff := by
    rw [← start_ok_iff]
    constructor
    · rintro ⟨r, hr⟩
      exact (initStore_eq_ok_iff.mp hr).1
    · intro h
      exact ⟨_, initStore_eq_ok_iff.mpr ⟨h, rfl⟩⟩
  failed e hconnect h := exists_stage_of_start_error hconnect (initStore_eq_error_iff.mp h)
  unchanged hinit :=
    view_start Server.keyspaces (fun s => Server.keyspaces_receive rfl s none)
      (fun _ hq => Server.keyspaces_receive (changesNothing_of_mem_stages hinit hq)) s
  ready r hr := by
    obtain ⟨hok, rfl⟩ := initStore_eq_ok_iff.mp hr
    have hscript := script_stages_of_start hok
    exact ⟨hscript, Connection.received_script_of_ok hscript, rfl, table?_of_script_stages hscript⟩

end OrderlyStart

end Messaging.Cql
