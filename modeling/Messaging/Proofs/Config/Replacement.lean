import Messaging.Proofs.Config.Resolution

/-!
One value of a setting in place of another, on the command line or in the environment. Where a
configuration is loaded with the one, all else that is told is in order; the other is then read on
its own, and either it is refused or the configuration is the same but for this setting.
-/
namespace Messaging.Config

namespace Given

variable (g : Given) {o k : Setting}

theorem set_set (v w : o.Value) : (g.set o v).set o w = g.set o w := by
  funext j
  by_cases hj : j = o
  · subst hj
    rw [set_self, set_self]
  · rw [set_of_ne _ w hj, set_of_ne g v hj, set_of_ne g w hj]

theorem set_comm (h : o ≠ k) (v : o.Value) (w : k.Value) :
    (g.set o v).set k w = (g.set k w).set o v := by
  funext j
  by_cases hk : j = k
  · subst hk
    rw [set_self, set_of_ne _ v (Ne.symm h), set_self]
  · by_cases ho : j = o
    · subst ho
      rw [set_of_ne _ w hk, set_self, set_self]
    · rw [set_of_ne _ w hk, set_of_ne g v ho, set_of_ne _ v ho, set_of_ne g w hk]

end Given

namespace CommandLine

variable {g g' : Given} {s s' : State} {o k : Setting} {word : Bytes}
  {words before after : List Bytes}

def State.set (s : State) (o : Setting) (v : o.Value) : State :=
  { s with given := s.given.set o v }

theorem complete_set {value : Option Bytes} (h : complete g k value = .ok g') (ho : g o ≠ none)
    (v : o.Value) : complete (g.set o v) k value = .ok (g'.set o v) ∧ g' o ≠ none := by
  obtain ⟨bs, w, rfl, hk, hread, rfl⟩ := complete_eq_ok_iff.mp h
  have hne : o ≠ k := by
    rintro rfl
    exact ho hk
  refine ⟨complete_eq_ok_iff.mpr ⟨bs, w, rfl, ?_, hread, (g.set_comm hne v w).symm⟩, ?_⟩
  · rw [Given.set_of_ne g v hne.symm, hk]
  · rwa [Given.set_of_ne g w hne]

theorem settle_set (h : s.settle = .ok g) (ho : s.given o ≠ none) (v : o.Value) :
    (s.set o v).settle = .ok (g.set o v) ∧ g o ≠ none := by
  obtain ⟨given, pending, closed⟩ := s
  cases pending with
  | none =>
    obtain rfl := Except.ok.inj h
    exact ⟨rfl, ho⟩
  | some p => exact complete_set h ho v

theorem closed_of_take (h : s.take word = .ok s') : s.closed = false := by
  cases hclosed : s.closed with
  | false => rfl
  | true => simp [State.take, hclosed, unexpected] at h

theorem take_end (h : s.closed = false) :
    s.take [hyphen, hyphen] = .ok { s with closed := true } := by
  rw [hyphen, State.take, h, if_neg Bool.false_ne_true]

theorem take_set (h : s.take word = .ok s') (ho : s.given o ≠ none) (v : o.Value) :
    (s.set o v).take word = .ok (s'.set o v) ∧ s'.given o ≠ none := by
  have hopen := closed_of_take h
  have hopen' : (s.set o v).closed = false := hopen
  by_cases hend : word = [hyphen, hyphen]
  · subst hend
    rw [take_end hopen] at h
    obtain rfl := Except.ok.inj h
    exact ⟨take_end hopen', ho⟩
  -- a value for the option that waits, an option with its value, or one that waits for it
  rw [take_eq_ok_iff hopen' hend]
  rcases (take_eq_ok_iff hopen hend).mp h with ⟨k, hpending, hplain, rfl⟩
    | ⟨g, k, value, g', hsettle, hword, hcomplete, rfl⟩ | ⟨g, k, hsettle, hword, rfl⟩
  · exact ⟨.inl ⟨k, hpending, hplain, rfl⟩, ho⟩
  · obtain ⟨hsettle', hg⟩ := settle_set hsettle ho v
    obtain ⟨hcomplete', hg'⟩ := complete_set hcomplete hg v
    exact ⟨.inr (.inl ⟨_, k, value, _, hsettle', hword, hcomplete', rfl⟩), hg'⟩
  · obtain ⟨hsettle', hg⟩ := settle_set hsettle ho v
    exact ⟨.inr (.inr ⟨_, k, hsettle', hword, rfl⟩), hg⟩

/-- Words that lead to settings lead to the same ones, but for the value that was given before. -/
theorem run_set (h : run s words = .ok g) (ho : s.given o ≠ none) (v : o.Value) :
    run (s.set o v) words = .ok (g.set o v) := by
  induction words generalizing s with
  | nil => exact (settle_set h ho v).1
  | cons word words ih =>
    obtain ⟨s', htake, hrun⟩ := run_cons_eq_ok_iff.mp h
    obtain ⟨htake', hs'⟩ := take_set htake ho v
    exact run_cons_eq_ok_iff.mpr ⟨_, htake', ih hrun hs'⟩

theorem complete_of_none (h : g o = none) (value : Bytes) :
    complete g o (some value) = (o.readValue value).map (g.set o) := by
  simp [complete, h]

/-- A word that gives a value completes what waits, then its own option, and the rest goes on from
there. -/
theorem run_joined (h : s.closed = false) (o : Setting) (value : Bytes) (words : List Bytes) :
    run s ((Group.optionWord o ++ 0x3D :: value) :: words)
      = s.settle >>= fun g => complete g o (some value) >>= fun g' =>
        run ⟨g', none, false⟩ words := by
  rw [run, List.foldlM_cons, take_joined h]
  cases s.settle with
  | error stop => rfl
  | ok g =>
    change (complete g o (some value) >>= _) >>= _ >>= _ = complete g o (some value) >>= _
    cases complete g o (some value) <;> rfl

theorem read_append (before words : List Bytes) :
    read (before ++ words) = before.foldlM State.take .start >>= fun s => run s words := by
  rw [read, List.foldlM_append, bind_assoc]
  rfl

/-- An option has its value in one word. If the command line gives settings with some value there,
any other value is read, and given in its place if it fits. -/
theorem read_joined {value : Bytes}
    (h : read (before ++ (Group.optionWord o ++ 0x3D :: value) :: after) = .ok g)
    (value' : Bytes) :
    read (before ++ (Group.optionWord o ++ 0x3D :: value') :: after)
      = (o.readValue value').map (g.set o) := by
  rw [read_append] at h ⊢
  obtain ⟨s, hbefore, hrun⟩ := except_bind_eq_ok.mp h
  obtain ⟨s', htake, -⟩ := run_cons_eq_ok_iff.mp hrun
  have hopen := closed_of_take htake
  rw [run_joined hopen] at hrun
  obtain ⟨g₀, hsettle, hrun⟩ := except_bind_eq_ok.mp hrun
  obtain ⟨g₁, hcomplete, hafter⟩ := except_bind_eq_ok.mp hrun
  obtain ⟨_, v, -, hnone, -, rfl⟩ := complete_eq_ok_iff.mp hcomplete
  -- what stands before the word goes the same way, and what stands after it does not see the value
  calc
    _ = run s ((Group.optionWord o ++ 0x3D :: value') :: after) := by rw [hbefore]; rfl
    _ = complete g₀ o (some value') >>= fun g₁ => run ⟨g₁, none, false⟩ after := by
      rw [run_joined hopen, hsettle]
      rfl
    _ = (o.readValue value').map (g.set o) := by
      rw [complete_of_none hnone]
      cases o.readValue value' with
      | error stop => rfl
      | ok w =>
        have hgiven : (g₀.set o v) o ≠ none := by simp
        have hafter' := run_set hafter hgiven w
        rw [State.set, Given.set_set] at hafter'
        exact hafter'

def Names (o : Setting) (word : Bytes) : Prop :=
  word = Group.optionWord o ∨ ∃ value, word = Group.optionWord o ++ 0x3D :: value

/-- A setting is not given, and no option waits to give it. -/
def State.Lacks (s : State) (o : Setting) : Prop :=
  s.given o = none ∧ ∀ p ∈ s.pending, p.setting ≠ o

theorem complete_of_ne {value : Option Bytes} (h : complete g k value = .ok g') (hne : o ≠ k) :
    g' o = g o := by
  obtain ⟨_, w, -, -, -, rfl⟩ := complete_eq_ok_iff.mp h
  exact Given.set_of_ne g w hne

namespace State.Lacks

theorem settle (h : s.Lacks o) (hsettle : s.settle = .ok g) : g o = none := by
  obtain ⟨given, pending, closed⟩ := s
  cases pending with
  | none =>
    obtain rfl := Except.ok.inj hsettle
    exact h.1
  | some p => rw [complete_of_ne hsettle (Ne.symm (h.2 p rfl)), h.1]

theorem take (h : s.Lacks o) (hword : ¬ Names o word) (htake : s.take word = .ok s') :
    s'.Lacks o := by
  have hopen := closed_of_take htake
  by_cases hend : word = [hyphen, hyphen]
  · subst hend
    rw [take_end hopen] at htake
    obtain rfl := Except.ok.inj htake
    exact h
  rcases (take_eq_ok_iff hopen hend).mp htake with ⟨k, hpending, -, rfl⟩
    | ⟨g, k, value, g', hsettle, rfl, hcomplete, rfl⟩ | ⟨g, k, hsettle, rfl, rfl⟩
  · exact ⟨h.1, by simpa using h.2 _ hpending⟩
  · have hne : o ≠ k := by
      rintro rfl
      exact hword (.inr ⟨value, rfl⟩)
    exact ⟨(complete_of_ne hcomplete hne).trans (h.settle hsettle), by simp⟩
  · have hne : k ≠ o := by
      rintro rfl
      exact hword (.inl rfl)
    exact ⟨h.settle hsettle, by simpa using hne⟩

theorem run (h : s.Lacks o) (hwords : ∀ word ∈ words, ¬ Names o word)
    (hrun : CommandLine.run s words = .ok g) : g o = none := by
  induction words generalizing s with
  | nil => exact h.settle hrun
  | cons word words ih =>
    rw [List.forall_mem_cons] at hwords
    obtain ⟨s', htake, hrun⟩ := run_cons_eq_ok_iff.mp hrun
    exact ih (h.take hwords.1 htake) hwords.2 hrun

end State.Lacks

theorem given_eq_none_of_read (hwords : ∀ word ∈ words, ¬ Names o word)
    (hread : read words = .ok g) : g o = none :=
  State.Lacks.run (s := .start) ⟨rfl, by simp [State.start]⟩ hwords hread

end CommandLine

end Messaging.Config

namespace Messaging.Settings

open Config CommandLine

variable {env env' : Environment} {g g' : Given} {o : Setting} {os : List Setting}

theorem variableName_injective : Function.Injective Setting.variableName := by
  intro o k h
  cases o <;> cases k <;> first | rfl | simp [Setting.variableName] at h

theorem addFallbacks_congr (h : ∀ k ∈ os, fallback? env k = fallback? env' k) (g : Given) :
    addFallbacks env os g = addFallbacks env' os g := by
  induction os generalizing g with
  | nil => rfl
  | cons k os ih =>
    rw [List.forall_mem_cons] at h
    simp only [addFallbacks, h.1, ih h.2]

theorem addFallbacks_append (os' : List Setting) (g : Given) :
    addFallbacks env (os ++ os') g = addFallbacks env os g >>= addFallbacks env os' := by
  induction os generalizing g with
  | nil => rfl
  | cons k os ih =>
    rw [List.cons_append, addFallbacks, addFallbacks]
    cases g k <;> cases fallback? env k <;> simp only [ih, bind_assoc]

theorem addFallbacks_set (hnodup : os.Nodup) (h : addFallbacks env os g = .ok g') (v : o.Value) :
    addFallbacks env os (g.set o v) = .ok (g'.set o v) := by
  rw [addFallbacks_eq_ok_iff hnodup] at h ⊢
  intro k
  by_cases hk : k = o
  · subst hk
    simp
  · rw [Given.set_of_ne g' v hk, Given.set_of_ne g v hk, h k]

/-- The value of a setting that is not given is read from its variable. If the settings are complete
with some value there, any other one is read, and taken if it fits. -/
theorem addFallbacks_replaced (h : addFallbacks env Setting.all g = .ok g') (hnone : g o = none)
    (hothers : ∀ k, k ≠ o → fallback? env' k = fallback? env k) {value : String}
    (hvalue : fallback? env' o = some value) :
    addFallbacks env' Setting.all g = (o.readValue (Utf8.ofString value)).map (g'.set o) := by
  -- settings before `o` are filled in alike, and those after it as if it had been given
  obtain ⟨before, after, hall⟩ := List.append_of_mem (mem_all o)
  have hnodup := nodup_all
  rw [hall] at hnodup h ⊢
  rw [addFallbacks_append] at h ⊢
  obtain ⟨hfirst, hlast, hapart⟩ := List.nodup_append.mp hnodup
  have hnotBefore : o ∉ before := fun hmem => hapart o hmem o List.mem_cons_self rfl
  have hnotAfter : o ∉ after := (List.nodup_cons.mp hlast).1
  obtain ⟨g₁, hbefore, hrest⟩ := except_bind_eq_ok.mp h
  have hbefore' : addFallbacks env' before g = .ok g₁ := by
    rw [addFallbacks_congr fun k hk => hothers k (ne_of_mem_of_not_mem hk hnotBefore), hbefore]
  have hnone₁ : g₁ o = none := by
    have hvalue₁ := (addFallbacks_eq_ok_iff hfirst).mp hbefore o
    simpa [hnone, hnotBefore] using hvalue₁
  have hafter' (w : o.Value) : addFallbacks env' after (g₁.set o w) = .ok (g'.set o w) := by
    rw [addFallbacks_congr fun k hk => hothers k (ne_of_mem_of_not_mem hk hnotAfter),
      addFallbacks_eq_ok_iff (List.nodup_cons.mp hlast).2]
    rw [addFallbacks_eq_ok_iff hlast] at hrest
    intro k
    by_cases hk : k = o
    · subst hk
      simp
    · simpa [Given.set_of_ne _ _ hk, hk] using hrest k
  rw [hbefore']
  change addFallbacks env' (o :: after) g₁ = _
  rw [addFallbacks, hnone₁, hvalue]
  cases hread : o.readValue (Utf8.ofString value) with
  | error stop => simp [hread, bind, Except.bind, Except.map]
  | ok w => simpa [hread, bind, Except.bind, Except.map] using hafter' w

def set (c : Settings) (o : Setting) (v : o.Value) : Settings := ofGiven (c.toGiven.set o v)

theorem toGiven_set (c : Settings) (o : Setting) (v : o.Value) :
    (c.set o v).toGiven = c.toGiven.set o v := by
  cases o <;> funext k <;> cases k <;> rfl

theorem ofGiven_set (g : Given) (o : Setting) (v : o.Value) :
    ofGiven (g.set o v) = (ofGiven g).set o v := by
  cases o <;> rfl

theorem load_of_read {words : List Bytes} (h : CommandLine.read words.tail = .ok g) :
    load words env = (addFallbacks env Setting.all g).map ofGiven := by
  rw [load, h]
  change (addFallbacks env Setting.all g >>= fun g' => pure (ofGiven g')) = _
  cases addFallbacks env Setting.all g <;> rfl

theorem load_eq_ok_iff_of_read {words : List Bytes} {c : Settings} :
    load words env = .ok c ↔ ∃ g g', CommandLine.read words.tail = .ok g
      ∧ addFallbacks env Setting.all g = .ok g' ∧ ofGiven g' = c := by
  constructor
  · intro h
    obtain ⟨g, hread, -⟩ := except_bind_eq_ok.mp h
    rw [load_of_read hread] at h
    obtain ⟨g', hfill, hc⟩ := map_eq_ok_iff.mp h
    exact ⟨g, g', hread, hfill, hc⟩
  · rintro ⟨g, g', hread, hfill, rfl⟩
    rw [load_of_read hread, hfill]
    rfl

theorem load_joined {program value : Bytes} {before after : List Bytes} {c : Settings}
    (h : load (program :: (before ++ (Group.optionWord o ++ 0x3D :: value) :: after)) env = .ok c)
    (value' : Bytes) :
    load (program :: (before ++ (Group.optionWord o ++ 0x3D :: value') :: after)) env
      = (o.readValue value').map (c.set o) := by
  obtain ⟨g, g', hread, hfill, rfl⟩ := load_eq_ok_iff_of_read.mp h
  have hread' := read_joined hread value'
  cases hvalue : o.readValue value' with
  | error stop =>
    rw [load, List.tail_cons, hread', hvalue]
    rfl
  | ok v =>
    rw [hvalue] at hread'
    exact load_eq_ok_iff_of_read.mpr
      ⟨g.set o v, g'.set o v, hread', addFallbacks_set nodup_all hfill v, ofGiven_set g' o v⟩

theorem load_update {words : List Bytes} (habsent : ∀ word ∈ words.tail, ¬ Names o word)
    {value value' : String} {c : Settings}
    (h : load words (Function.update env o.variableName (some value)) = .ok c)
    (hvalue' : value' ≠ "") :
    load words (Function.update env o.variableName (some value'))
      = (o.readValue (Utf8.ofString value')).map (c.set o) := by
  obtain ⟨g, g', hread, hfill, rfl⟩ := load_eq_ok_iff_of_read.mp h
  have hothers (k : Setting) (hk : k ≠ o) :
      fallback? (Function.update env o.variableName (some value')) k
        = fallback? (Function.update env o.variableName (some value)) k := by
    have hname : k.variableName ≠ o.variableName := variableName_injective.ne hk
    rw [fallback?, fallback?, Function.update_of_ne hname, Function.update_of_ne hname]
  have hfallback : fallback? (Function.update env o.variableName (some value')) o = some value' :=
    fallback?_of_set (Function.update_self ..) hvalue'
  rw [load_of_read hread,
    addFallbacks_replaced hfill (given_eq_none_of_read habsent hread) hothers hfallback]
  cases o.readValue (Utf8.ofString value') with
  | error stop => rfl
  | ok v => exact congrArg Except.ok (ofGiven_set g' o v)

/-- Where a setting has its value, and all else that is told: the value stands in one word with the
setting's option, or in the setting's variable, and then no word is the option. -/
inductive Place (o : Setting)
  | onCommandLine (program : Bytes) (before after : List Bytes) (env : Environment)
  | inEnvironment (words : List Bytes) (env : Environment)
    (absent : ∀ word ∈ words.tail, ¬ Names o word)

namespace Place

/-- What comes of all that is told, with a text in the place of the value. -/
def load : Place o → String → Except Stop Settings
  | onCommandLine program before after env, s =>
    Settings.load
      (program :: (before ++ (Group.optionWord o ++ 0x3D :: Utf8.ofString s) :: after)) env
  | inEnvironment words env _, s =>
    Settings.load words (Function.update env o.variableName (some s))

/-- A text can stand in the place. An empty variable has no value. -/
def Holds : Place o → String → Prop
  | onCommandLine .., _ => True
  | inEnvironment .., s => s ≠ ""

end Place

/-- Where a configuration is loaded with some text in a place, any other text there is read as the
value of its setting. If it fits, the configuration is the same but for this value. -/
theorem load_replaced {p : Place o} {s₀ s : String} {c : Settings} (h : p.load s₀ = .ok c)
    (hs : p.Holds s) : p.load s = (o.readValue (Utf8.ofString s)).map (c.set o) := by
  cases p with
  | onCommandLine => exact load_joined h (Utf8.ofString s)
  | inEnvironment _ _ absent => exact load_update absent h hs

end Messaging.Settings
