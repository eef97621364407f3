import Messaging.Proofs.Cql.Deployment
import Messaging.Proofs.Cql.History
import Messaging.Proofs.Cql.Settling

/-!
Starting up on a database that is in use. Once the store of one client is ready, whoever starts up
on the same keyspace changes no keyspace, no table and no row, and every store that is ready finds
what the first would have found alone.
-/
namespace Messaging.Cql

/-- A client of the database that starts up, or has started up, on this keyspace. -/
structure Client.Kept (c : Client) (name : String) (s : Server) : Prop where
  keyspace : c.settings.keyspace = name
  /-- The schema is made ready, or the name means the same everywhere. -/
  prepares : c.settings.init = true ∨ Keyspace.read? name = some name
  current : c.current = none ∨ c.current = some name
  todo : ∀ qs, c.todo = some qs → qs <:+ stages c.settings
  /-- What it has made is there. -/
  created : ∀ qs, c.todo = some qs → c.settings.init = true → .createKeyspace name ∉ qs →
    ∀ created, Server.created? name = some created → (s.keyspace? created).isSome = true
  /-- Its store is not ready before there is a table. -/
  ready : c.todo = some [] → (s.table? (some name)).isSome = true

namespace Connection

variable {c d : Connection} {q : Request} {name : String}

theorem settles_request (h : q.StartsUp name c.current) :
    c.server.Settles name (c.request q).2.server := by
  have hreceive := Server.settles_receive h c.server
  rw [request]
  split
  · exact .refl name c.server
  · split <;> simp_all

theorem later_request (c : Connection) (q : Request) :
    c.server.Later (c.request q).2.server := by
  have hlater := c.server.later_receive c.current q
  rw [request]
  split
  · exact .refl c.server
  · split <;> simp_all

theorem keyspace?_of_request_createKeyspace (h : c.request (.createKeyspace name) = (.ok (), d))
    {created : String} (hcreated : Server.created? name = some created) :
    (d.server.keyspace? created).isSome = true := by
  obtain ⟨-, -, -, rfl⟩ := request_eq_ok_iff.mp h
  have hthere := (c.server.isSome_keyspace?_ensuringKeyspace name created).mpr (.inl hcreated)
  rwa [← c.server.perform_createKeyspace_snd c.current] at hthere

theorem current_request_of_error {reason : UseFailure} (h : c.request q = (.error reason, d)) :
    d.current = c.current := by
  rw [request] at h
  split at h
  · obtain ⟨-, rfl⟩ := Prod.mk.inj h
    rfl
  · split at h
    · obtain ⟨-, rfl⟩ := Prod.mk.inj h
      rfl
    · simp at h

end Connection

theorem eq_prepareSelect_of_suffix {settings : DatabaseSettings} {q : Request}
    (h : [q] <:+ stages settings) : q = .prepareSelect := by
  obtain ⟨earlier, hstages⟩ := h
  rw [stages_eq_append] at hstages
  simpa using (List.append_inj' hstages rfl).2

theorem table?_of_last_request {settings : DatabaseSettings} {c d : Connection} {q : Request}
    {name : String} (hlast : [q] <:+ stages settings) (hd : c.request q = (.ok (), d))
    (hcurrent : d.current = none ∨ d.current = some name) :
    (d.server.table? (some name)).isSome = true := by
  obtain rfl := eq_prepareSelect_of_suffix hlast
  have htable := Connection.table?_of_request_ok rfl hd
  rcases hcurrent with hnone | hsome
  · simp [hnone, Server.table?] at htable
  · rwa [hsome] at htable

namespace Client

variable {c : Client} {name : String} {s s' : Server}

theorem Kept.mono (h : c.Kept name s) (hgrows : s.Grows s') : c.Kept name s' :=
  ⟨h.keyspace, h.prepares, h.current, h.todo,
    fun qs hqs hinit hmade created hcreated =>
      hgrows.keyspace created (h.created qs hqs hinit hmade created hcreated),
    fun hready => hgrows.table name (h.ready hready)⟩

/-- Where a store is ready, the schema has been made ready. -/
theorem Kept.made (h : c.Kept name s) (htodo : c.todo = some []) : s.Made name := by
  have htable := h.ready htodo
  refine ⟨fun created hcreated => ?_, htable⟩
  rcases h.prepares with hinit | hname
  · exact h.created [] htodo hinit (by simp) created hcreated
  · -- a plain name can be created as itself only
    rw [Keyspace.created?_eq hname, Option.ite_none_left_eq_some] at hcreated
    obtain ⟨-, hcreated⟩ := hcreated
    obtain ⟨table, hthere⟩ := Option.isSome_iff_exists.mp htable
    rw [← Option.some.inj hcreated, Server.keyspace?_of_table? hthere]
    rfl

theorem left_eq_some {ε α : Type} {qs more : List Request} {result : Except ε α}
    (h : left qs result = some more) : more = qs := by
  cases result with
  | error e => simp [left] at h
  | ok a => exact (Option.some.inj h).symm

theorem kept_opened {settings : DatabaseSettings}
    (h : settings.init = true ∨ Keyspace.read? settings.keyspace = some settings.keyspace)
    (s s' : Server) : (opened settings s).Kept settings.keyspace s' := by
  have htodo : ∀ qs, (opened settings s).todo = some qs → qs = stages settings :=
    fun qs => left_eq_some
  refine ⟨rfl, h, .inl rfl, fun qs hqs => ?_, fun qs hqs hinit hnot => ?_, fun hready => ?_⟩
  · rw [htodo qs hqs]
    exact List.suffix_refl _
  · have hinit' : settings.init = true := hinit
    rw [htodo qs hqs, stages, schemaStages, if_pos hinit'] at hnot
    simp at hnot
  · simpa [stages] using htodo [] hready

/-- A request that is carried out keeps the client. -/
theorem Kept.of_request_ok (h : c.Kept name s) {q : Request} {qs : List Request}
    (htodo : c.todo = some (q :: qs)) {d : Connection}
    (hd : Connection.request ⟨s, c.current⟩ q = (.ok (), d))
    (hselects : q.selects c.current = none ∨ q.selects c.current = some name) :
    Kept { c with current := d.current, todo := some qs } name d.server := by
  have hsuffix := h.todo _ htodo
  have hgrows : s.Grows d.server := by
    have hlater := Connection.later_request ⟨s, c.current⟩ q
    rw [hd] at hlater
    exact hlater.grows
  have hcurrent : d.current = none ∨ d.current = some name := by
    rwa [Connection.current_request hd]
  refine ⟨h.keyspace, h.prepares, hcurrent, fun more hmore => ?_,
    fun more hmore hinit hnot created hcreated => ?_, fun hready => ?_⟩
  · rw [← Option.some.inj hmore]
    exact (List.suffix_cons q qs).trans hsuffix
  · obtain rfl := Option.some.inj hmore
    by_cases hq : q = .createKeyspace name
    · exact Connection.keyspace?_of_request_createKeyspace (hq ▸ hd) hcreated
    · have hnot' : Request.createKeyspace name ∉ q :: qs :=
        List.not_mem_cons_of_ne_of_not_mem (fun heq => hq heq.symm) hnot
      exact hgrows.keyspace created (h.created _ htodo hinit hnot' created hcreated)
  · obtain rfl : qs = [] := Option.some.inj hready
    exact table?_of_last_request hsuffix hd hcurrent

/-- The next request keeps the client, and changes nothing where the schema has been made ready. -/
theorem Kept.next (h : c.Kept name s) :
    (c.next s).1.Kept name (c.next s).2 ∧ s.Settles name (c.next s).2 := by
  rcases htodo : c.todo with _ | _ | ⟨q, qs⟩
  · rw [Client.next, htodo]
    exact ⟨h, .refl name s⟩
  · rw [Client.next, htodo]
    exact ⟨h, .refl name s⟩
  · have hq : q ∈ stages c.settings := (h.todo _ htodo).subset List.mem_cons_self
    obtain ⟨hstarts, hselects⟩ := startsUp_of_mem_stages hq (h.keyspace ▸ h.current)
    rw [h.keyspace] at hstarts hselects
    have hsettles := Connection.settles_request (c := ⟨s, c.current⟩) hstarts
    rcases Connection.request_cases ⟨s, c.current⟩ q with ⟨d, hd⟩ | ⟨reason, d, hd⟩
    · rw [hd] at hsettles
      simp only [Client.next, htodo, hd, left]
      exact ⟨h.of_request_ok htodo hd hselects, hsettles⟩
    · rw [hd] at hsettles
      have hcurrent : d.current = none ∨ d.current = some name := by
        rw [Connection.current_request_of_error hd]
        exact h.current
      simp only [Client.next, htodo, hd, left]
      exact ⟨⟨h.keyspace, h.prepares, hcurrent, by simp, by simp, by simp⟩, hsettles⟩

theorem later_next (c : Client) (s : Server) : s.Later (c.next s).2 := by
  rcases htodo : c.todo with _ | _ | ⟨q, qs⟩
  · rw [Client.next, htodo]
    exact .refl s
  · rw [Client.next, htodo]
    exact .refl s
  · simp only [Client.next, htodo]
    exact Connection.later_request ⟨s, c.current⟩ q

end Client

namespace Repository

theorem Same.recalling {r r' : Repository} (h : Same r r') (received : List Request) :
    Same r ⟨r'.server.recalling received, r'.keyspace⟩ := by
  obtain ⟨hkeyspace, earlier, hserver⟩ := h
  exact ⟨hkeyspace, received, by rw [hserver]; rfl⟩

theorem Same.save {r r' : Repository} (h : Same r r') (m : Message) :
    Same (r.save m).state (r'.save m).state := by
  obtain ⟨received, rfl⟩ := h.exists_recalling
  exact (r.save_recalling received m).2

theorem Same.saveAll {r r' : Repository} (h : Same r r') (history : List Message) :
    Same (r.saveAll history) (r'.saveAll history) := by
  induction history generalizing r r' with
  | nil => exact h
  | cons m history ih => exact ih (h.save m)

theorem Same.result_lookup {r r' : Repository} (h : Same r r') (messageId receiverId : Uuid) :
    (r'.lookup messageId receiverId).result = (r.lookup messageId receiverId).result := by
  obtain ⟨received, rfl⟩ := h.exists_recalling
  exact (r.lookup_recalling received messageId receiverId).1

end Repository

namespace Deployment

/-- With the schema made ready, the database is as the base once it has saved the same messages; and
all clients are on one keyspace. -/
structure Kept (d : Deployment) (name : String) (base : Repository) (saved : List Message) :
    Prop where
  same : Repository.Same (base.saveAll saved) ⟨d.server.ensuring name, name⟩
  clients : ∀ i c, d.clients i = some c → c.Kept name d.server

variable {d : Deployment} {name : String} {base : Repository} {saved : List Message}

theorem kept_new (s : Server) (name : String) :
    (new s).Kept name ⟨s.ensuring name, name⟩ [] :=
  ⟨Repository.Same.refl _, fun _ _ h => by simp [new] at h⟩

theorem Kept.of_store? (h : d.Kept name base saved) {i : ℕ} {r : Repository}
    (hr : d.store? i = some r) :
    r = ⟨d.server, name⟩ ∧ d.server.Made name ∧ Repository.Same (base.saveAll saved) r := by
  obtain ⟨c, hc, hstore⟩ := Option.bind_eq_some_iff.mp hr
  have hkept := h.clients i c hc
  have htodo : c.todo = some [] := by
    by_contra hne
    simp [Client.store?, hne] at hstore
  obtain rfl : r = ⟨d.server, name⟩ := by
    simpa [Client.store?, htodo, hkept.keyspace, eq_comm] using hstore
  have hmade := hkept.made htodo
  have hsame := h.same
  rw [Server.ensuring_of_made hmade] at hsame
  exact ⟨rfl, hmade, hsame⟩

theorem Kept.of_settles (h : d.Kept name base saved) {s : Server} (hs : d.server.Settles name s) :
    Kept ⟨s, d.clients⟩ name base saved := by
  refine ⟨?_, fun i c hc => (h.clients i c hc).mono hs.grows⟩
  obtain ⟨received, hensuring⟩ := hs.ensuring
  have hsame := h.same.recalling received
  rwa [← hensuring] at hsame

theorem Kept.update (h : d.Kept name base saved) {c : Client} (hc : c.Kept name d.server) (i : ℕ) :
    Kept ⟨d.server, Function.update d.clients i (some c)⟩ name base saved := by
  refine ⟨h.same, fun j c' hj => ?_⟩
  change Function.update d.clients i (some c) j = some c' at hj
  by_cases hij : j = i
  · subst hij
    rw [Function.update_self] at hj
    rwa [← Option.some.inj hj]
  · rw [Function.update_of_ne hij] at hj
    exact h.clients j c' hj

/-- A turn that saves nothing changes nothing where the schema has been made ready. -/
theorem Kept.turn_of_not_save (h : d.Kept name base saved) {t : Turn} (ht : t.On name)
    (hsave : t.isSave = false) :
    (d.turn t).Kept name base saved ∧ d.server.Settles name (d.turn t).server := by
  cases t with
  | connect i settings =>
    obtain ⟨rfl, hprepares⟩ := ht
    have hsettles := settles_connect settings.keyspace settings d.server
    exact ⟨(h.of_settles hsettles).update (Client.kept_opened hprepares d.server _) i, hsettles⟩
  | advance i =>
    cases hc : d.clients i with
    | none =>
      simp only [turn, hc]
      exact ⟨h, .refl name d.server⟩
    | some c =>
      obtain ⟨hkept, hsettles⟩ := (h.clients i c hc).next
      simp only [turn, hc]
      exact ⟨(h.of_settles hsettles).update hkept i, hsettles⟩
  | save i m => simp [Turn.isSave] at hsave
  | lookup i messageId receiverId =>
    cases hr : d.store? i with
    | none =>
      simp only [turn, hr]
      exact ⟨h, .refl name d.server⟩
    | some r =>
      obtain ⟨rfl, -, -⟩ := h.of_store? hr
      simp only [turn, hr, Repository.server_lookup]
      have hsettles := d.server.settles_noting name
        (.select (Cell.ofUuid receiverId) (Cell.ofUuid messageId))
      exact ⟨h.of_settles hsettles, hsettles⟩

/-- One turn keeps the database as the base is once it has saved the same. -/
theorem Kept.turn (h : d.Kept name base saved) {t : Turn} (ht : t.On name) :
    (d.turn t).Kept name base (saved ++ (d.saved? t).toList) := by
  by_cases hsave : t.isSave = true
  · cases t with
    | save i m =>
      cases hr : d.store? i with
      | none => simpa [Deployment.turn, saved?, hr] using h
      | some r =>
        obtain ⟨rfl, hmade, hsame⟩ := h.of_store? hr
        have hgrows : d.server.Grows (Repository.save ⟨d.server, name⟩ m).state.server :=
          d.server.grows_receive (some name) _
        have hsaved := hsame.save m
        simp only [Deployment.turn, saved?, hr, Option.map_some, Option.toList_some]
        refine ⟨?_, fun j c hc => (h.clients j c hc).mono hgrows⟩
        rw [Server.ensuring_of_made (hmade.mono hgrows), Repository.saveAll, List.foldl_append]
        exact hsaved
    | _ => simp [Turn.isSave] at hsave
  · rw [Bool.not_eq_true] at hsave
    rw [saved?_of_not_save hsave, Option.toList_none, List.append_nil]
    exact (h.turn_of_not_save ht hsave).1

theorem Kept.run (h : d.Kept name base saved) {turns : List Turn}
    (hturns : ∀ t ∈ turns, t.On name) : (d.run turns).Kept name base (saved ++ d.saves turns) := by
  induction turns generalizing d saved with
  | nil => simpa [saves] using h
  | cons t turns ih =>
    rw [List.forall_mem_cons] at hturns
    rw [run_cons, saves, ← List.append_assoc]
    exact ih (h.turn hturns.1) hturns.2

theorem Kept.run_of_not_save (h : d.Kept name base saved) {turns : List Turn}
    (hturns : ∀ t ∈ turns, t.On name ∧ t.isSave = false) :
    (d.run turns).Kept name base saved ∧ d.server.Settles name (d.run turns).server := by
  induction turns generalizing d with
  | nil => exact ⟨h, .refl name d.server⟩
  | cons t turns ih =>
    rw [List.forall_mem_cons] at hturns
    obtain ⟨hkept, hfirst⟩ := h.turn_of_not_save hturns.1.1 hturns.1.2
    obtain ⟨hlast, hrest⟩ := ih hkept hturns.2
    exact ⟨hlast, hfirst.trans hrest⟩

theorem mem_startingTurns {i : ℕ} {settings : DatabaseSettings} {name : String} {t : Turn}
    (hon : StartsOn settings name) (ht : t ∈ startingTurns i settings) :
    t.On name ∧ t.isSave = false := by
  rcases List.mem_cons.mp ht with rfl | hadvance
  · exact ⟨hon, rfl⟩
  · rw [List.eq_of_mem_replicate hadvance]
    exact ⟨trivial, rfl⟩

/-- No turn takes anything away, or makes other requests fail. -/
theorem later_turn (d : Deployment) (t : Turn) : d.server.Later (d.turn t).server := by
  cases t with
  | connect i settings => exact later_connect settings d.server
  | advance i =>
    cases hc : d.clients i with
    | none => simpa only [turn, hc] using .refl d.server
    | some c => simpa only [turn, hc] using c.later_next d.server
  | save i m =>
    cases hr : d.store? i with
    | none => simpa only [turn, hr] using .refl d.server
    | some r =>
      have hlater := r.server.later_receive (some r.keyspace) (.insert (Record.ofMessage m).cells)
      rw [server_of_store? hr] at hlater
      simp only [turn, hr]
      rwa [Repository.save, server_of_store? hr]
  | lookup i messageId receiverId =>
    cases hr : d.store? i with
    | none => simpa only [turn, hr] using .refl d.server
    | some r =>
      have hserver := server_of_store? hr
      simp only [turn, hr, Repository.server_lookup, hserver]
      exact ⟨.of_keyspaces_eq rfl, rfl, rfl⟩

theorem later_run (d : Deployment) (turns : List Turn) :
    d.server.Later (d.run turns).server := by
  induction turns generalizing d with
  | nil => exact .refl d.server
  | cons t turns ih => exact (d.later_turn t).trans (ih (d.turn t))

/-- What is left as it is, and what is found, by clients of a database that this first store and
these saves would have led to, had nobody else started up. -/
structure KeepsData (settings : DatabaseSettings) (first : Repository) (saved : List Message)
    (d : Deployment) (r : Repository) : Prop where
  /-- A turn that saves nothing changes no keyspace, no table and no row. -/
  turn : ∀ t : Turn, t.On settings.keyspace → t.isSave = false →
    (d.turn t).server.keyspaces = d.server.keyspaces
  /-- Neither does a whole start. -/
  start : ∀ settings' : DatabaseSettings, StartsOn settings' settings.keyspace →
    (start settings' d.server).server.keyspaces = d.server.keyspaces
  /-- The first start succeeds again. -/
  again : ∃ r', (initStore settings (.listening d.server)).1 = .ok r'
  lookup : ∀ messageId receiverId : Uuid,
    (r.lookup messageId receiverId).result
      = ((first.saveAll saved).lookup messageId receiverId).result

/-- A start under a plain name that is not reserved succeeds where nothing fails. And however
clients start up on one keyspace, save and look up, once a store is ready, neither a turn that saves
nothing nor a whole start changes any keyspace, table or row, what has started starts again, and
every store that is ready finds what the store of the first start finds, had nobody else started
up. -/
theorem restarts_keep_data :
    (∀ (settings : DatabaseSettings) (s : Server), settings.init = true →
        Keyspace.read? settings.keyspace = some settings.keyspace →
        isReserved settings.keyspace = false → (connect settings s).result = .ok () →
        (∀ q ∈ stages settings, s.fails q = none) →
        ∃ first, (initStore settings (.listening s)).1 = .ok first)
      ∧ ∀ (settings : DatabaseSettings) (s : Server) (first : Repository),
        StartsOn settings settings.keyspace →
        (initStore settings (.listening s)).1 = .ok first →
        ∀ turns : List Turn, (∀ t ∈ turns, t.On settings.keyspace) →
        ∀ (i : ℕ) (r : Repository), ((new s).run turns).store? i = some r →
          KeepsData settings first ((new s).saves turns) ((new s).run turns) r := by
  constructor
  · intro settings s hinit hname hfree hconnect hfails
    have hready : if settings.init then isReserved settings.keyspace = false
        else (s.table? (some settings.keyspace)).isSome = true := by
      rwa [if_pos hinit]
    exact ⟨_, initStore_eq_ok_iff.mpr ⟨start_of_plain hname hready hconnect hfails, rfl⟩⟩
  · intro settings s first hon hfirst turns hturns i r hr
    set name := settings.keyspace
    set base : Repository := ⟨s.ensuring name, name⟩
    have hkept : ((new s).run turns).Kept name base ((new s).saves turns) :=
      (kept_new s name).run hturns
    obtain ⟨rfl, hmade, hsame⟩ := hkept.of_store? hr
    -- the first start, with nobody else, is a run too
    have hbase : Repository.Same base first := by
      obtain ⟨-, hstore⟩ := (new s).run_startingTurns 0 settings
      have halone := ((kept_new s name).run_of_not_save fun t ht =>
        mem_startingTurns (i := 0) hon ht).1
      rw [show (new s).server = s from rfl, hfirst] at hstore
      exact (halone.of_store? hstore).2.2
    refine ⟨fun t ht hsave => ?_, fun settings' hsettings => ?_, ?_,
      fun messageId receiverId => ?_⟩
    · exact (hkept.turn_of_not_save ht hsave).2.keyspaces_eq hmade
    · have hrun := hkept.run_of_not_save fun t ht => mem_startingTurns (i := 0) hsettings ht
      rw [← (((new s).run turns).run_startingTurns 0 settings').1]
      exact hrun.2.keyspaces_eq hmade
    · have hstarted := (initStore_eq_ok_iff.mp hfirst).1
      have hagain := start_again ((new s).later_run turns) hstarted
      exact ⟨_, initStore_eq_ok_iff.mpr ⟨hagain, rfl⟩⟩
    · rw [hsame.result_lookup, (hbase.saveAll _).result_lookup]

def sampleSettings : DatabaseSettings := ⟨"localhost", 9042, "", "", "chat", true⟩

def sampleServer : Server := ⟨[("other", none)], none, fun _ => none, none, []⟩

def sampleTurns : List Turn :=
  startingTurns 0 sampleSettings ++ .save 0 Repository.inUtc :: (startingTurns 1 sampleSettings
    ++ [.save 0 Repository.aheadOfUtc, .lookup 0 .nil .nil, .save 1 Repository.afterwards])

/-- The second client finds what the first would have found, and a third may start up. -/
theorem sample_restarted :
    ∃ first r, (initStore sampleSettings (.listening sampleServer)).1 = .ok first
      ∧ ((new sampleServer).run sampleTurns).store? 1 = some r
      ∧ KeepsData sampleSettings first
        [Repository.inUtc, Repository.aheadOfUtc, Repository.afterwards]
        ((new sampleServer).run sampleTurns) r := by
  have hon : StartsOn sampleSettings "chat" := ⟨rfl, .inl rfl⟩
  obtain ⟨first, hfirst⟩ := restarts_keep_data.1 sampleSettings sampleServer rfl (by decide)
    (by decide) rfl fun _ _ => rfl
  have hstarting : ∀ i, ∀ t ∈ startingTurns i sampleSettings, t.On "chat" ∧ t.isSave = false :=
    fun i t => mem_startingTurns hon
  have hnone : ∀ i (d : Deployment), d.saves (startingTurns i sampleSettings) = [] :=
    fun i => saves_of_not_save fun t ht => (hstarting i t ht).2
  have hturns : ∀ t ∈ sampleTurns, t.On "chat" := by
    simp only [sampleTurns, List.forall_mem_append, List.forall_mem_cons]
    exact ⟨fun t ht => (hstarting 0 t ht).1, trivial, fun t ht => (hstarting 1 t ht).1, trivial,
      trivial, trivial, by simp⟩
  have hstart := (initStore_eq_ok_iff.mp hfirst).1
  set d := (new sampleServer).run (startingTurns 0 sampleSettings)
  have hready : (d.store? 0).isSome = true := isSome_store?_startingTurns hstart 0
  set d₁ := d.turn (.save 0 Repository.inUtc)
  have hready₁ : (d₁.store? 0).isSome = true := isSome_store?_turn hready (by simp)
  set d₂ := d₁.run (startingTurns 1 sampleSettings)
  have hready₂ : (d₂.store? 0).isSome = true := by
    refine isSome_store?_run hready₁ fun t ht settings => ?_
    rcases List.mem_cons.mp ht with rfl | hadvance
    · simp
    · simp [List.eq_of_mem_replicate hadvance]
  have hother : (d₂.store? 1).isSome = true := by
    have hlater := ((new sampleServer).later_run (startingTurns 0 sampleSettings)).trans
      (d.later_turn (.save 0 Repository.inUtc))
    exact isSome_store?_startingTurns (start_again hlater hstart) 1
  have hsaves : (new sampleServer).saves sampleTurns
      = [Repository.inUtc, Repository.aheadOfUtc, Repository.afterwards] := by
    rw [sampleTurns, saves_append, hnone, saves, saved?_save hready, saves_append, hnone, saves,
      saved?_save hready₂, saves, saves, saved?_save
        (isSome_store?_turn (isSome_store?_turn hother (by simp)) (by simp))]
    rfl
  have hlast : (((new sampleServer).run sampleTurns).store? 1).isSome = true := by
    rw [sampleTurns, run_append, run_cons, run_append]
    exact isSome_store?_run hother (by simp)
  obtain ⟨r, hr⟩ := Option.isSome_iff_exists.mp hlast
  have hkeeps := restarts_keep_data.2 sampleSettings sampleServer first hon hfirst sampleTurns
    hturns 1 r hr
  rw [hsaves] at hkeeps
  exact ⟨first, r, hfirst, hr, hkeeps⟩

end Deployment

end Messaging.Cql
