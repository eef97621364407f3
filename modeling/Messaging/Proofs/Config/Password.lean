import Messaging.Proofs.Config.Resolution

/-!
How far the configuration tells the database's password. Two environments that differ in it alone
are refused with the same words or give configurations that differ in it alone; but the help shows
it as the default of its option.
-/
namespace Messaging

open Config

/-- The help is made of one line for each setting, so that two of them that agree on all other
settings agree exactly if they have the same line for this one. -/
theorem Config.helpText_eq_iff {calledAs : String} {default default' : Setting → Option String}
    {k : Setting} (h : ∀ o, o ≠ k → default o = default' o) :
    helpText calledAs default = helpText calledAs default'
      ↔ helpLine (default k) k = helpLine (default' k) k := by
  obtain ⟨before, after, hall⟩ := List.append_of_mem (Settings.mem_all k)
  have hnodup := Settings.nodup_all
  rw [hall, List.nodup_append, List.nodup_cons] at hnodup
  obtain ⟨-, ⟨hafter, -⟩, hbefore⟩ := hnodup
  have hline : ∀ o, o ≠ k → helpLine (default o) o = helpLine (default' o) o :=
    fun o ho => by rw [h o ho]
  have hfirst : before.map (fun o => helpLine (default o) o)
      = before.map fun o => helpLine (default' o) o :=
    List.map_congr_left fun o ho => hline o (hbefore o ho k List.mem_cons_self)
  have hlast : after.map (fun o => helpLine (default o) o)
      = after.map fun o => helpLine (default' o) o :=
    List.map_congr_left fun o ho => hline o fun heq => hafter (heq ▸ ho)
  simp only [helpText, hall, List.map_append, List.map_cons, String.join_append,
    String.join_cons, hfirst, hlast, String.append_left_inj, String.append_right_inj]

theorem Config.helpLine_dbPassword_eq_iff {p p' : String} :
    helpLine (some p) .dbPassword = helpLine (some p') .dbPassword
      ↔ shownDefault p = shownDefault p' := by
  simp [helpLine, Setting.help, Setting.choices, String.append_left_inj, String.append_right_inj]

namespace Settings

def withPassword (c : Settings) (password : String) : Settings :=
  { c with database := { c.database with password } }

/-- The same settings are given, with the same values but for the password. -/
structure AlikeButPassword (g g' : Given) : Prop where
  others : ∀ o, o ≠ .dbPassword → g o = g' o
  password : (g .dbPassword).isSome = (g' .dbPassword).isSome

namespace AlikeButPassword

variable {g g' : Given}

theorem refl (g : Given) : AlikeButPassword g g := ⟨fun _ _ => rfl, rfl⟩

theorem set (h : AlikeButPassword g g') (o : Setting) (v : o.Value) :
    AlikeButPassword (g.set o v) (g'.set o v) := by
  refine ⟨fun k hk => ?_, ?_⟩
  · by_cases hko : k = o
    · subst hko
      rw [Given.set_self, Given.set_self]
    · rw [Given.set_of_ne g v hko, Given.set_of_ne g' v hko, h.others k hk]
  · by_cases ho : Setting.dbPassword = o
    · subst ho
      rw [Given.set_self, Given.set_self]
    · rw [Given.set_of_ne g v ho, Given.set_of_ne g' v ho, h.password]

theorem set_password (h : AlikeButPassword g g') (p p' : String) :
    AlikeButPassword (g.set .dbPassword p) (g'.set .dbPassword p') := by
  refine ⟨fun k hk => ?_, ?_⟩
  · rw [Given.set_of_ne g _ hk, Given.set_of_ne g' _ hk, h.others k hk]
  · rw [Given.set_self, Given.set_self]
    rfl

theorem ofGiven (h : AlikeButPassword g g') :
    Settings.ofGiven g' = (Settings.ofGiven g).withPassword ((g' .dbPassword).getD "") := by
  simp [Settings.ofGiven, withPassword, h.others]

end AlikeButPassword

/-- Both attempts end for the same reason, or both give settings that differ in the password
alone. -/
def EndAlike (r r' : Except Stop Given) : Prop :=
  (∃ stop, r = .error stop ∧ r' = .error stop)
    ∨ ∃ g g', r = .ok g ∧ r' = .ok g' ∧ AlikeButPassword g g'

section Environments

variable {env env' : Environment} {p p' : String}

/-- The environments tell each variable alike, but that of the password, which both set. -/
structure DifferInPassword (env env' : Environment) (p p' : String) : Prop where
  others : ∀ name, name ≠ "DB_PASSWORD" → env name = env' name
  first : env "DB_PASSWORD" = some p
  second : env' "DB_PASSWORD" = some p'
  first_ne : p ≠ ""
  second_ne : p' ≠ ""

theorem variableName_ne {o : Setting} (h : o ≠ .dbPassword) : o.variableName ≠ "DB_PASSWORD" := by
  cases o <;> first | exact absurd rfl h | simp [Setting.variableName]

theorem readValue_dbPassword (p : String) :
    Setting.readValue .dbPassword (Utf8.ofString p) = .ok p := by
  simp [Setting.readValue, Setting.read, readText, Except.mapError]

namespace DifferInPassword

theorem fallback?_eq (h : DifferInPassword env env' p p') {o : Setting} (ho : o ≠ .dbPassword) :
    fallback? env o = fallback? env' o := by
  rw [fallback?, fallback?, h.others _ (variableName_ne ho)]

/-- A password is never refused, so filling in fallbacks goes the same way in both. -/
theorem addFallbacks (h : DifferInPassword env env' p p') (os : List Setting) {g g' : Given}
    (hg : AlikeButPassword g g') :
    EndAlike (Settings.addFallbacks env os g) (Settings.addFallbacks env' os g') := by
  induction os generalizing g g' with
  | nil => exact .inr ⟨g, g', rfl, rfl, hg⟩
  | cons o os ih =>
    by_cases ho : o = .dbPassword
    · subst ho
      have hpassword := hg.password
      have hfirst : fallback? env .dbPassword = some p := fallback?_of_set h.first h.first_ne
      have hsecond : fallback? env' .dbPassword = some p' := fallback?_of_set h.second h.second_ne
      simp only [Settings.addFallbacks, hfirst, hsecond, readValue_dbPassword]
      cases hgiven : g .dbPassword <;> cases hgiven' : g' .dbPassword
      · exact ih (hg.set_password p p')
      · simp [hgiven, hgiven'] at hpassword
      · simp [hgiven, hgiven'] at hpassword
      · exact ih hg
    · simp only [Settings.addFallbacks, ← hg.others o ho, ← h.fallback?_eq ho]
      cases g o with
      | some v => exact ih hg
      | none =>
        cases fallback? env o with
        | none => exact ih hg
        | some value =>
          cases hread : o.readValue (Utf8.ofString value) with
          | error stop =>
            exact .inl ⟨stop, by simp only [hread]; rfl, by simp only [hread]; rfl⟩
          | ok v =>
            simp only [hread]
            exact ih (hg.set o v)

/-- A command line gives no settings in either environment, for the same reason, or configurations
that differ in the password alone. -/
theorem load (h : DifferInPassword env env' p p') (words : List Bytes) :
    (∃ stop, Settings.load words env = .error stop ∧ Settings.load words env' = .error stop)
      ∨ ∃ c password, Settings.load words env = .ok c
        ∧ Settings.load words env' = .ok (c.withPassword password) := by
  cases hread : CommandLine.read words.tail with
  | error stop =>
    exact .inl ⟨stop, by rw [Settings.load, hread]; rfl, by rw [Settings.load, hread]; rfl⟩
  | ok given =>
    rcases h.addFallbacks Setting.all (.refl given) with
      ⟨stop, hfirst, hsecond⟩ | ⟨g, g', hfirst, hsecond, halike⟩
    · exact .inl ⟨stop, by simp [Settings.load, hread, hfirst, bind, Except.bind],
        by simp [Settings.load, hread, hsecond, bind, Except.bind]⟩
    · refine .inr ⟨Settings.ofGiven g, (g' .dbPassword).getD "", ?_, ?_⟩
      · simp [Settings.load, hread, hfirst, bind, Except.bind, pure, Except.pure]
      · rw [← halike.ofGiven]
        simp [Settings.load, hread, hsecond, bind, Except.bind, pure, Except.pure]

theorem help_eq_iff (h : DifferInPassword env env' p p') (words : List Bytes) :
    stopText words env .help = stopText words env' .help ↔ shownDefault p = shownDefault p' := by
  rw [stopText, stopText, helpText_eq_iff fun o ho => h.fallback?_eq ho,
    fallback?_of_set (o := .dbPassword) h.first h.first_ne,
    fallback?_of_set (o := .dbPassword) h.second h.second_ne, helpLine_dbPassword_eq_iff]

end DifferInPassword

end Environments

/-- Whatever the command line, two environments that differ in the password alone lead to the same
end: to the same error, with the same words, or to configurations that differ in the password alone.
Only the help tells them apart, and it does so as far as the two passwords are shown differently. -/
theorem password_told_by_help_only {env env' : Environment} {p p' : String}
    (h : DifferInPassword env env' p p') (words : List Bytes) :
    (∀ stop, load words env = .error stop ↔ load words env' = .error stop)
      ∧ (∀ c, load words env = .ok c → ∃ password,
        load words env' = .ok (c.withPassword password))
      ∧ (∀ stop, stop ≠ .help → stopText words env stop = stopText words env' stop)
      ∧ (stopText words env .help = stopText words env' .help
        ↔ shownDefault p = shownDefault p') := by
  refine ⟨fun stop => ?_, fun c hc => ?_, fun stop hstop => ?_, h.help_eq_iff words⟩
  · rcases h.load words with ⟨stop', hfirst, hsecond⟩ | ⟨c, password, hfirst, hsecond⟩
    · rw [hfirst, hsecond]
    · simp [hfirst, hsecond]
  · rcases h.load words with ⟨stop', hfirst, hsecond⟩ | ⟨c', password, hfirst, hsecond⟩
    · simp [hfirst] at hc
    · obtain rfl : c' = c := Except.ok.inj (hfirst.symm.trans hc)
      exact ⟨password, hsecond⟩
  · cases stop with
    | usage error => rfl
    | version => rfl
    | help => exact absurd rfl hstop

def passwordOnly (password : String) : Environment := fun name =>
  if name = "DB_PASSWORD" then some password else none

theorem differInPassword_passwordOnly {p p' : String} (hp : p ≠ "") (hp' : p' ≠ "") :
    DifferInPassword (passwordOnly p) (passwordOnly p') p p' where
  others name hname := by simp [passwordOnly, hname]
  first := if_pos rfl
  second := if_pos rfl
  first_ne := hp
  second_ne := hp'

def helpWords : List Bytes := ["ism-server", "--help"].map Utf8.ofString

/-- Where the server is told nothing else, it starts with the one password or with the other. -/
theorem passwordOnly_loaded :
    DifferInPassword (passwordOnly "secret") (passwordOnly "admin") "secret" "admin"
      ∧ ∃ c password, load [Utf8.ofString "ism-server"] (passwordOnly "secret") = .ok c
        ∧ c.database.password = "secret"
        ∧ load [Utf8.ofString "ism-server"] (passwordOnly "admin")
          = .ok (c.withPassword password) := by
  have hdiffer : DifferInPassword (passwordOnly "secret") (passwordOnly "admin") "secret" "admin" :=
    differInPassword_passwordOnly (by decide) (by decide)
  have hsecret : (load [Utf8.ofString "ism-server"] (passwordOnly "secret")).toOption.map
      (fun c => c.database.password) = some "secret" := by decide +kernel
  obtain ⟨c, hload, hpassword⟩ := Option.map_eq_some_iff.mp hsecret
  have hloaded : load [Utf8.ofString "ism-server"] (passwordOnly "secret") = .ok c := by
    cases hcase : load [Utf8.ofString "ism-server"] (passwordOnly "secret") with
    | error stop => simp [hcase, Except.toOption] at hload
    | ok c' => simpa [hcase, Except.toOption] using hload
  obtain ⟨password, hother⟩ :=
    (password_told_by_help_only hdiffer [Utf8.ofString "ism-server"]).2.1 c hloaded
  exact ⟨hdiffer, c, password, hloaded, hpassword, hother⟩

/-- Asked for help, the program shows a password that is only in its environment: the text is not
the one that it shows where another password is set. -/
theorem help_shows_password :
    (∀ name, name ≠ "DB_PASSWORD" → passwordOnly "secret" name = passwordOnly "admin" name)
      ∧ load helpWords (passwordOnly "secret") = .error .help
      ∧ load helpWords (passwordOnly "admin") = .error .help
      ∧ stopText helpWords (passwordOnly "secret") .help
        ≠ stopText helpWords (passwordOnly "admin") .help := by
  have hdiffer : DifferInPassword (passwordOnly "secret") (passwordOnly "admin") "secret" "admin" :=
    differInPassword_passwordOnly (by decide) (by decide)
  have hshown : shownDefault "secret" ≠ shownDefault "admin" := by decide +kernel
  refine ⟨hdiffer.others, rfl, rfl, ?_⟩
  rw [ne_eq, hdiffer.help_eq_iff]
  exact hshown

end Settings

end Messaging
