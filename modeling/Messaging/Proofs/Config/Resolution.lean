import Messaging.Config
import Messaging.Proofs.Config.CommandLine

/-!
Where the configuration comes from. Each setting has one effective value, and the configuration is
what the readers of the settings make of these; nothing else in the command line or the environment
counts.
-/
namespace Messaging.Settings

open Config

def environmentValue? (env : Environment) (o : Setting) : Option String :=
  (env o.variableName).filter fun value => !value.isEmpty

/-- The value that counts for a setting: the one on the command line, else the one in the
environment, else the built-in one. -/
def effective? (groups : List Group) (env : Environment) (o : Setting) : Option Bytes :=
  (given? groups o).or (((environmentValue? env o).or o.builtIn?).map Utf8.ofString)

def toGiven (c : Settings) : Given
  | .host => some c.server.host
  | .port => some c.server.port
  | .envMode => some c.server.envMode
  | .shutdownTimeout => some c.server.shutdownTimeoutSecs
  | .dbHost => some c.database.host
  | .dbPort => some c.database.port
  | .dbUser => some c.database.user
  | .dbPassword => some c.database.password
  | .dbKeyspace => some c.database.keyspace
  | .dbInit => some c.database.init
  | .logFormat => some c.telemetry.logFormat
  | .otlpEndpoint => c.telemetry.otlpEndpoint

theorem ofGiven_toGiven (c : Settings) : ofGiven c.toGiven = c := rfl

theorem toGiven_ofGiven {g : Given} (h : ∀ o, o ≠ .otlpEndpoint → g o ≠ none) :
    (ofGiven g).toGiven = g := by
  funext o
  by_cases ho : o = .otlpEndpoint
  · subst ho
    rfl
  · obtain ⟨v, hv⟩ := Option.ne_none_iff_exists'.mp (h o ho)
    cases o <;> first | exact absurd rfl ho | simp [ofGiven, toGiven, hv]

theorem effective?_ne_none (groups : List Group) (env : Environment) {o : Setting}
    (h : o ≠ .otlpEndpoint) : effective? groups env o ≠ none := by
  have hbuiltIn : o.builtIn? ≠ none := by
    cases o <;> first | exact absurd rfl h | simp [Setting.builtIn?]
  simp [effective?, hbuiltIn]

theorem toGiven_ofGiven_of_effective {g : Given} {groups : List Group} {env : Environment}
    (h : ∀ o, (g o).map Except.ok = (effective? groups env o).map o.read) :
    (ofGiven g).toGiven = g := by
  apply toGiven_ofGiven
  intro o ho hnone
  have hvalue := h o
  rw [hnone, Option.map_none, eq_comm, Option.map_eq_none_iff] at hvalue
  exact effective?_ne_none groups env ho hvalue

theorem fallback?_eq (env : Environment) (o : Setting) :
    fallback? env o = (environmentValue? env o).or o.builtIn? := by
  rw [fallback?, environmentValue?]
  cases env o.variableName with
  | none => rfl
  | some value => by_cases h : value.isEmpty = true <;> simp [Option.filter, h]

theorem fallback?_of_set {env : Environment} {o : Setting} {value : String}
    (h : env o.variableName = some value) (hne : value ≠ "") : fallback? env o = some value := by
  simp [fallback?, h, hne]

theorem readValue_eq_ok_iff {o : Setting} {bs : Bytes} {v : o.Value} :
    o.readValue bs = .ok v ↔ o.read bs = .ok v := by
  cases hread : o.read bs <;> simp [Setting.readValue, hread, Except.mapError]

theorem addFallbacks_cons_eq_ok_iff {env : Environment} {k : Setting} {os : List Setting}
    {g g' : Given} :
    addFallbacks env (k :: os) g = .ok g'
      ↔ ∃ g₁, (g₁ k).map Except.ok = ((g k).map Except.ok).or
            ((fallback? env k).map fun value => k.read (Utf8.ofString value))
          ∧ (∀ o, o ≠ k → g₁ o = g o) ∧ addFallbacks env os g₁ = .ok g' := by
  -- with no value to add, the settings stay the same
  have hskip (hnothing : ((g k).map Except.ok).or
      ((fallback? env k).map fun value => k.read (Utf8.ofString value)) = (g k).map Except.ok) :
      addFallbacks env os g = .ok g'
        ↔ ∃ g₁, (g₁ k).map Except.ok = ((g k).map Except.ok).or
            ((fallback? env k).map fun value => k.read (Utf8.ofString value))
          ∧ (∀ o, o ≠ k → g₁ o = g o) ∧ addFallbacks env os g₁ = .ok g' := by
    rw [hnothing]
    constructor
    · intro h
      exact ⟨g, rfl, fun _ _ => rfl, h⟩
    · rintro ⟨g₁, hk, hothers, h⟩
      have hsame : g₁ = g := by
        apply CommandLine.eq_of_map_ok
        intro o
        by_cases ho : o = k
        · rw [ho, hk]
        · rw [hothers o ho]
      rw [← hsame]
      exact h
  rcases Option.eq_none_or_eq_some (g k) with hg | ⟨v, hg⟩
  · rcases Option.eq_none_or_eq_some (fallback? env k) with hfallback | ⟨value, hfallback⟩
    · have hsame : addFallbacks env (k :: os) g = addFallbacks env os g := by
        simp [addFallbacks, hfallback]
      rw [hsame]
      exact hskip (by simp [hfallback])
    · rw [addFallbacks, hg, hfallback, Option.map_none, Option.none_or, Option.map_some]
      constructor
      · intro h
        obtain ⟨v, hread, h⟩ := except_bind_eq_ok.mp h
        refine ⟨g.set k v, ?_, fun o ho => Given.set_of_ne g v ho, h⟩
        rw [Given.set_self, readValue_eq_ok_iff.mp hread]
        rfl
      · rintro ⟨g₁, hk, hothers, h⟩
        obtain ⟨v, hv, hread⟩ := Option.map_eq_some_iff.mp hk
        have hset : g₁ = g.set k v := by
          funext o
          by_cases ho : o = k
          · subst ho
            rw [hv, Given.set_self]
          · rw [hothers o ho, Given.set_of_ne g v ho]
        exact except_bind_eq_ok.mpr
          ⟨v, readValue_eq_ok_iff.mpr hread.symm, by rw [← hset]; exact h⟩
  · have hsame : addFallbacks env (k :: os) g = addFallbacks env os g := by
      simp [addFallbacks, hg]
    rw [hsame]
    exact hskip (by simp [hg])

theorem addFallbacks_eq_ok_iff {env : Environment} {os : List Setting} {g g' : Given}
    (hnodup : os.Nodup) :
    addFallbacks env os g = .ok g'
      ↔ ∀ o, (g' o).map Except.ok = ((g o).map Except.ok).or
          (if o ∈ os then (fallback? env o).map fun value => o.read (Utf8.ofString value)
           else none) := by
  induction os generalizing g with
  | nil =>
    simp only [addFallbacks, Except.ok.injEq, List.not_mem_nil, if_false, Option.or_none]
    constructor
    · rintro rfl o
      rfl
    · exact fun h => (CommandLine.eq_of_map_ok h).symm
  | cons k os ih =>
    obtain ⟨hk, hrest⟩ := List.nodup_cons.mp hnodup
    rw [addFallbacks_cons_eq_ok_iff]
    constructor
    · rintro ⟨g₁, hfirst, hothers, h⟩ o
      rw [(ih hrest).mp h o]
      by_cases ho : o = k
      · subst ho
        simp [hk, hfirst]
      · simp [hothers o ho, ho]
    · intro h
      refine ⟨fun o => if o = k then g' o else g o, ?_, fun o ho => if_neg ho, ?_⟩
      · simpa using h k
      · refine (ih hrest).mpr fun o => ?_
        by_cases ho : o = k
        · subst ho
          simp [hk]
        · simpa [ho] using h o

theorem mem_all (o : Setting) : o ∈ Setting.all := by
  cases o <;> decide

theorem nodup_all : Setting.all.Nodup := by decide

/-- With the command line in groups, a configuration is loaded exactly if each of its settings is
what its reader makes of the effective value. -/
theorem load_eq_ok_iff {words : List Bytes} {groups : List Group}
    (h : Spells groups words.tail) {env : Environment} {c : Settings} :
    load words env = .ok c
      ↔ ∀ o, (c.toGiven o).map Except.ok = (effective? groups env o).map o.read := by
  have hall {g g' : Given} := @addFallbacks_eq_ok_iff env Setting.all g g' nodup_all
  simp only [mem_all, if_true, fallback?_eq] at hall
  -- what the command line gives and what is added to it make up the effective values
  have heffective {g : Given} (hg : CommandLine.read words.tail = .ok g) (o : Setting) :
      ((g o).map Except.ok).or (((environmentValue? env o).or o.builtIn?).map fun value =>
        o.read (Utf8.ofString value)) = (effective? groups env o).map o.read := by
    rw [(CommandLine.read_of_spells h).mp hg o, effective?, Option.map_or (f := o.read),
      Option.map_map]
    rfl
  rw [load, except_bind_eq_ok]
  constructor
  · rintro ⟨g, hg, hload⟩
    obtain ⟨g', hg', hc⟩ := except_bind_eq_ok.mp hload
    have hvalues : ∀ o, (g' o).map Except.ok = (effective? groups env o).map o.read := by
      intro o
      rw [hall.mp hg' o, heffective hg o]
    rw [← Except.ok.inj hc, toGiven_ofGiven_of_effective hvalues]
    exact hvalues
  · intro hvalues
    obtain ⟨g, hg⟩ : ∃ g : Given, ∀ o, (g o).map Except.ok = (given? groups o).map o.read := by
      refine ⟨fun o => if (given? groups o).isSome then c.toGiven o else none, fun o => ?_⟩
      cases hgiven : given? groups o with
      | none => simp [hgiven]
      | some value => simpa [effective?, hgiven] using hvalues o
    have hread := (CommandLine.read_of_spells h).mpr hg
    refine ⟨g, hread, except_bind_eq_ok.mpr ⟨c.toGiven, ?_, ?_⟩⟩
    swap
    · rw [ofGiven_toGiven]
      rfl
    rw [hall]
    intro o
    rw [heffective hread o, hvalues o]

/-- What does not change the effective values does not change the configuration. -/
theorem load_eq_of_effective? {words words' : List Bytes} {groups groups' : List Group}
    {env env' : Environment} (h : Spells groups words.tail) (h' : Spells groups' words'.tail)
    (hsame : ∀ o, effective? groups env o = effective? groups' env' o) :
    (load words env).toOption = (load words' env').toOption := by
  have hok {r : Except Stop Settings} {c : Settings} : r.toOption = some c ↔ r = .ok c := by
    cases r <;> simp [Except.toOption]
  ext c
  rw [hok, hok, load_eq_ok_iff h, load_eq_ok_iff h']
  simp only [hsame]

/-- A command line without a word that ends the options gives a configuration exactly if its words
are groups and each effective value fits its setting. The configuration is then read off the
effective values. How the groups are ordered and spelled does not count, and neither do empty
variables and those of settings that are on the command line. -/
theorem load_resolved {words : List Bytes}
    (hend : ∀ word ∈ words.tail, word ≠ [CommandLine.hyphen, CommandLine.hyphen])
    (env : Environment) :
    ((∃ c, load words env = .ok c)
        ↔ ∃ groups, Spells groups words.tail
          ∧ ∀ o value, effective? groups env o = some value → ∃ v, o.read value = .ok v)
      ∧ (∀ c groups, load words env = .ok c → Spells groups words.tail →
          ∀ o, (c.toGiven o).map Except.ok = (effective? groups env o).map o.read)
      ∧ ∀ (words' : List Bytes) (env' : Environment) (groups groups' : List Group),
          Spells groups words.tail → Spells groups' words'.tail →
          (groups.map Group.assignment).Perm (groups'.map Group.assignment) →
          (∀ o, given? groups o = none → environmentValue? env o = environmentValue? env' o) →
          (load words env).toOption = (load words' env').toOption := by
  refine ⟨⟨?_, ?_⟩, ?_, ?_⟩
  · rintro ⟨c, hload⟩
    obtain ⟨g, hg, -⟩ := except_bind_eq_ok.mp hload
    obtain ⟨groups, hspells⟩ := CommandLine.exists_spells_of_read hend hg
    refine ⟨groups, hspells, fun o value hvalue => ?_⟩
    have hfield := (load_eq_ok_iff hspells).mp hload o
    rw [hvalue, Option.map_some] at hfield
    obtain ⟨v, -, hread⟩ := Option.map_eq_some_iff.mp hfield
    exact ⟨v, hread.symm⟩
  · rintro ⟨groups, hspells, hfits⟩
    have hread : ∀ o, ∃ v : Option o.Value,
        v.map Except.ok = (effective? groups env o).map o.read := by
      intro o
      cases hvalue : effective? groups env o with
      | none => exact ⟨none, rfl⟩
      | some value =>
        obtain ⟨v, hv⟩ := hfits o value hvalue
        exact ⟨some v, by rw [Option.map_some, Option.map_some, hv]⟩
    choose g hg using hread
    refine ⟨ofGiven g, (load_eq_ok_iff hspells).mpr ?_⟩
    rw [toGiven_ofGiven_of_effective hg]
    exact hg
  · intro c groups hload hspells
    exact (load_eq_ok_iff hspells).mp hload
  · intro words' env' groups groups' hspells hspells' hperm henv
    apply load_eq_of_effective? hspells hspells'
    intro o
    rw [effective?, effective?, ← CommandLine.given?_eq_of_perm hspells.nodup hspells'.nodup hperm]
    cases hgiven : given? groups o with
    | none => rw [henv o hgiven]
    | some value => rfl

/-- The keyspace and the port are on the command line, in either spelling. -/
def sampleWords : List Bytes :=
  ["server", "--db-keyspace", "chat", "--port=9000"].map Utf8.ofString

/-- The variable of the port is no number, and the one of the database's host is empty. -/
def sampleEnvironment : Environment := fun name =>
  [("PORT", "closed"), ("DB_HOST", ""), ("LOG_FORMAT", "json")].lookup name

theorem load_overrides_variable :
    (∀ word ∈ sampleWords.tail, word ≠ [CommandLine.hyphen, CommandLine.hyphen])
      ∧ ∃ c, load sampleWords sampleEnvironment = .ok c ∧ c.server.port = 9000
        ∧ c.database.keyspace = "chat" ∧ c.database.host = "localhost"
        ∧ c.telemetry.logFormat = .json := by
  have hend : ∀ word ∈ sampleWords.tail, word ≠ [CommandLine.hyphen, CommandLine.hyphen] := by
    decide +kernel
  let groups : List Group :=
    [.spaced .dbKeyspace (Utf8.ofString "chat"), .joined .port (Utf8.ofString "9000")]
  have hplain : Group.IsPlain (Utf8.ofString "chat") := .inl (by decide +kernel)
  have hspells : Spells groups sampleWords.tail :=
    ⟨by decide +kernel, List.forall_mem_cons.mpr ⟨hplain, by simp [Group.Valid]⟩, by decide⟩
  have hfits (o : Setting) :
      (effective? groups sampleEnvironment o).all fun value => (o.read value).isOk := by
    cases o <;> decide +kernel
  have hload : ∃ c, load sampleWords sampleEnvironment = .ok c := by
    refine (load_resolved hend sampleEnvironment).1.mpr ⟨groups, hspells, fun o value hvalue => ?_⟩
    have hfit := hfits o
    rw [hvalue] at hfit
    cases hread : o.read value with
    | ok v => exact ⟨v, rfl⟩
    | error e => simp [hread, Except.isOk, Except.toBool] at hfit
  obtain ⟨c, hload⟩ := hload
  have hvalues := (load_resolved hend sampleEnvironment).2.1 c groups hload hspells
  have hvalue {o : Setting} {v : o.Value}
      (h : (effective? groups sampleEnvironment o).map o.read = some (.ok v)) :
      c.toGiven o = some v := by
    have hmap := (hvalues o).trans h
    obtain ⟨v', hv', hsame⟩ := Option.map_eq_some_iff.mp hmap
    rw [hv', Except.ok.inj hsame]
  have hport : c.toGiven .port = some 9000 := hvalue (by decide +kernel)
  have hkeyspace : c.toGiven .dbKeyspace = some "chat" := hvalue (by decide +kernel)
  have hhost : c.toGiven .dbHost = some "localhost" := hvalue (by decide +kernel)
  have hformat : c.toGiven .logFormat = some .json := hvalue (by decide +kernel)
  exact ⟨hend, c, hload, Option.some.inj hport, Option.some.inj hkeyspace,
    Option.some.inj hhost, Option.some.inj hformat⟩

end Messaging.Settings
