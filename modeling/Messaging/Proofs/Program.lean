import Messaging.Program
import Messaging.Proofs.Cql.Growth
import Messaging.Proofs.Session.Fetching

/-!
The program around its start. It listens only once the database is ready, so a run that does not get
so far is the same whatever could be listened on and whatever requests would come.
-/
namespace Messaging.Program

/-- The configuration is accepted, and starting up on the database gives a store. -/
def StartsUp (w : World) : Prop :=
  ∃ settings repository, Settings.load w.words w.env = .ok settings
    ∧ (Cql.initStore settings.database (w.network settings.database)).1 = .ok repository

theorem boot_of_error {w : World} {settings : Settings} {e : Cql.StartError}
    (h : (Cql.initStore settings.database (w.network settings.database)).1 = .error e) :
    boot w settings
      = failed settings.telemetry.logFormat e.message
          (Log.within (bootSpan settings)
            (loadedEvent settings
              :: (Cql.initStore settings.database (w.network settings.database)).2.2))
          (Cql.initStore settings.database (w.network settings.database)).2.1 := by
  simp only [boot, h]

/-- A program that does not start up answers no request: neither what could be listened on nor the
requests that would come have any part in its run. -/
theorem run_of_not_startsUp {w : World} (h : ¬ StartsUp w) :
    (run w).responses = [] ∧ (∀ bind requests, run { w with bind, requests } = run w)
      ∧ ∀ settings, Settings.load w.words w.env = .ok settings → (run w).exitCode = 1 := by
  cases hload : Settings.load w.words w.env with
  | error stop =>
    simp only [run, hload]
    refine ⟨?_, fun _ _ => trivial, by simp⟩
    split <;> rfl
  | ok settings =>
    cases htelemetry : telemetryError? settings.telemetry w.env with
    | some e =>
      simp only [run, hload, htelemetry]
      exact ⟨rfl, fun _ _ => trivial, fun _ _ => rfl⟩
    | none =>
      cases hstore : (Cql.initStore settings.database (w.network settings.database)).1 with
      | ok repository => exact absurd ⟨settings, repository, hload, hstore⟩ h
      | error e =>
        have hboot : ∀ bind requests,
            boot { w with bind, requests } settings = boot w settings := by
          intro bind requests
          have hother := @boot_of_error { w with bind, requests } settings e hstore
          rw [boot_of_error hstore, hother]
        simp only [run, hload, htelemetry, hboot]
        rw [boot_of_error hstore]
        exact ⟨rfl, fun _ _ => trivial, fun _ _ => rfl⟩

/-- Starting up is all or nothing and in order, and no request is served unless it has succeeded. -/
theorem starts_up_in_order :
    (∀ settings server, Cql.OrderlyStart settings server)
      ∧ ∀ w, ¬ StartsUp w →
        (run w).responses = [] ∧ (∀ bind requests, run { w with bind, requests } = run w)
          ∧ ∀ settings, Settings.load w.words w.env = .ok settings → (run w).exitCode = 1 :=
  ⟨Cql.orderlyStart, fun _ => run_of_not_startsUp⟩

def tablelessServer : Cql.Server where
  keyspaces := []
  credentials := none
  fails q := if q = .createTable then some .emptyPlan else none
  canned := none
  received := []

/-- The program with its built-in settings, where one request waits. -/
def tablelessWorld : World where
  words := [Utf8.ofString "server"]
  env _ := none
  network _ := .listening tablelessServer
  bind _ := .ok "0.0.0.0:8080"
  node := Session.sampleService.node
  sequence := 0
  requests := [(Session.sampleReading, ⟨"GET", "/livez", [], []⟩)]

def builtInDatabase : DatabaseSettings :=
  ⟨"localhost", 5432, "admin", "admin", "messaging", true⟩

/-- The keyspace is made and selected, the table is refused, nothing is prepared, and the request
that waits is not served. -/
theorem tableless_not_served :
    ¬ StartsUp tablelessWorld ∧ (run tablelessWorld).responses = []
      ∧ (run tablelessWorld).exitCode = 1
      ∧ (Cql.start builtInDatabase tablelessServer).server.received
        = [.createKeyspace "messaging", .use "messaging", .createTable] := by
  have hdatabase : (Settings.load tablelessWorld.words tablelessWorld.env).toOption.map
      Settings.database = some builtInDatabase := by decide +kernel
  obtain ⟨settings, hload, hsettings⟩ := Option.map_eq_some_iff.mp hdatabase
  have hloaded : Settings.load tablelessWorld.words tablelessWorld.env = .ok settings := by
    cases hcase : Settings.load tablelessWorld.words tablelessWorld.env with
    | error stop => simp [hcase, Except.toOption] at hload
    | ok settings' => simpa [hcase, Except.toOption] using hload
  have herror : (Cql.initStore builtInDatabase (.listening tablelessServer)).1
      = .error (.schema (.createTable .emptyPlan)) := by
    obtain ⟨d, hd, -, hsame, -⟩ := Cql.Connection.script_select_ok
      (c := ⟨tablelessServer, none⟩) (k := "messaging") (by decide) (by decide) rfl rfl
    have hfails : d.server.fails .createTable = some .emptyPlan := by rw [hsame]; rfl
    have hscript := Cql.Connection.script_append_of_ok hd
      [.createTable, .prepareInsert, .prepareSelect]
    rw [Cql.Connection.script_cons_of_error
      (Cql.Connection.request_of_failed rfl (Cql.Server.receive_of_fails hfails _))] at hscript
    have hconnect : (Cql.connect builtInDatabase tablelessServer).result = .ok () := rfl
    obtain ⟨e, he, hstage⟩ := (Cql.start_follows hconnect).error _ _ (congrArg Prod.fst hscript)
    cases hstage
    exact Cql.initStore_eq_error_iff.mpr he
  have hnot : ¬ StartsUp tablelessWorld := by
    rintro ⟨settings', repository, hload', hstore⟩
    obtain rfl : settings = settings' := Except.ok.inj (hloaded.symm.trans hload')
    rw [hsettings] at hstore
    exact absurd (herror.symm.trans hstore) (by simp)
  obtain ⟨hresponses, -, hexit⟩ := starts_up_in_order.2 tablelessWorld hnot
  obtain ⟨earlier, q, later, before, reason, after, hstages, -, hq, hstage, hserver, hreceived⟩ :=
    (starts_up_in_order.1 builtInDatabase tablelessServer).failed _ rfl herror
  -- the error names the stage, and so tells where in the list it stands
  obtain rfl : q = .createTable := by cases hstage; rfl
  have hearlier : earlier = [.createKeyspace "messaging", .use "messaging"] := by
    have hsplit : earlier ++ Cql.Request.createTable :: later
        = [.createKeyspace "messaging", .use "messaging", .createTable, .prepareInsert,
            .prepareSelect] := hstages.symm
    rcases earlier with _ | ⟨a, _ | ⟨b, _ | ⟨c, rest⟩⟩⟩
    · simp at hsplit
    · simp at hsplit
    · simp only [List.cons_append, List.nil_append, List.cons.injEq] at hsplit
      rw [hsplit.1, hsplit.2.1]
    · exfalso
      simp at hsplit
      have hmem : Cql.Request.createTable ∈ rest ++ Cql.Request.createTable :: later := by simp
      rw [hsplit.2.2.2] at hmem
      simp at hmem
  refine ⟨hnot, hresponses, hexit settings hloaded, ?_⟩
  rw [hserver, hreceived, hearlier]
  rfl

end Messaging.Program
