import Mathlib
import Messaging.Config.CommandLine
import Messaging.Proofs.Except
import Messaging.Proofs.Text.Utf8

/-!
Command lines as groups of words. A command line gives settings exactly if its words are options,
each with its value in the same word or in the next, and the settings that it gives are told by the
groups alone.
-/
namespace Messaging.Config

/-- An option with its value: in one word, after an equals sign, or in two. -/
inductive Group
  | joined (o : Setting) (value : Bytes)
  | spaced (o : Setting) (value : Bytes)

namespace Group

def setting : Group → Setting
  | joined o _ => o
  | spaced o _ => o

def value : Group → Bytes
  | joined _ value => value
  | spaced _ value => value

def assignment (g : Group) : Setting × Bytes := (g.setting, g.value)

def optionWord (o : Setting) : Bytes :=
  CommandLine.hyphen :: CommandLine.hyphen :: Utf8.ofString o.option

def words : Group → List Bytes
  | joined o value => [optionWord o ++ 0x3D :: value]
  | spaced o value => [optionWord o, value]

/-- A word that can stand as a value of its own: it starts with no hyphen, or is one. -/
def IsPlain (word : Bytes) : Prop :=
  word.head? ≠ some CommandLine.hyphen ∨ word = [CommandLine.hyphen]

/-- A value in a word of its own must be plain. -/
def Valid : Group → Prop
  | joined _ _ => True
  | spaced _ value => IsPlain value

end Group

/-- The groups spell these words, and no setting stands twice. -/
structure Spells (groups : List Group) (words : List Bytes) : Prop where
  words_eq : groups.flatMap Group.words = words
  valid : ∀ g ∈ groups, g.Valid
  nodup : (groups.map Group.setting).Nodup

def given? (groups : List Group) (o : Setting) : Option Bytes :=
  (groups.find? fun g => g.setting = o).map Group.value

namespace CommandLine

theorem splitAtEquals_append {name : Bytes} (h : 0x3D ∉ name) (value : Bytes) :
    splitAtEquals (name ++ 0x3D :: value) = (name, some value) := by
  induction name with
  | nil => simp [splitAtEquals]
  | cons b name ih =>
    rw [List.mem_cons, not_or] at h
    rw [List.cons_append, splitAtEquals, if_neg (Ne.symm h.1), ih h.2]

theorem splitAtEquals_of_notMem {name : Bytes} (h : 0x3D ∉ name) :
    splitAtEquals name = (name, none) := by
  induction name with
  | nil => rfl
  | cons b name ih =>
    rw [List.mem_cons, not_or] at h
    rw [splitAtEquals, if_neg (Ne.symm h.1), ih h.2]

theorem eq_of_splitAtEquals {body name : Bytes} {value : Option Bytes}
    (h : splitAtEquals body = (name, value)) :
    body = name ++ value.elim [] fun value => 0x3D :: value := by
  induction body generalizing name with
  | nil =>
    simp only [splitAtEquals, Prod.mk.injEq] at h
    obtain ⟨rfl, rfl⟩ := h
    rfl
  | cons b body ih =>
    rw [splitAtEquals] at h
    split_ifs at h with hb
    · simp only [Prod.mk.injEq] at h
      obtain ⟨rfl, rfl⟩ := h
      rw [hb]
      rfl
    · simp only [Prod.mk.injEq] at h
      obtain ⟨rfl, rfl⟩ := h
      rw [List.cons_append, ← ih rfl]

theorem equals_notMem_option (o : Setting) : 0x3D ∉ Utf8.ofString o.option := by
  cases o <;> decide

theorem option_ne_nil (o : Setting) : Utf8.ofString o.option ≠ [] := by
  cases o <;> decide

theorem ofOption?_eq_some_iff {name : Bytes} {o : Setting} :
    Setting.ofOption? name = some o ↔ name = Utf8.ofString o.option := by
  constructor
  · intro h
    have hfound := List.find?_some h
    simpa using (of_decide_eq_true hfound).symm
  · rintro rfl
    cases o <;> rfl

theorem complete_eq_ok_iff {g g' : Given} {o : Setting} {value : Option Bytes} :
    complete g o value = .ok g'
      ↔ ∃ bs v, value = some bs ∧ g o = none ∧ o.read bs = .ok v ∧ g' = g.set o v := by
  cases value with
  | none => simp [complete]
  | some bs =>
    cases hg : g o with
    | some v => simp [complete, hg]
    | none =>
      cases hread : o.read bs <;>
        simp [complete, hg, Setting.readValue, hread, Except.mapError, Except.map, eq_comm]

theorem settle_none (g : Given) (closed : Bool) : State.settle ⟨g, none, closed⟩ = .ok g := rfl

theorem long_eq_ok_iff {s s' : State} {body : Bytes} :
    s.long body = .ok s'
      ↔ ∃ g o, s.settle = .ok g
        ∧ ((∃ value g', body = Utf8.ofString o.option ++ 0x3D :: value
              ∧ complete g o (some value) = .ok g' ∧ s' = ⟨g', none, false⟩)
          ∨ body = Utf8.ofString o.option ∧ s' = ⟨g, some ⟨o, none⟩, false⟩) := by
  constructor
  · intro h
    rw [State.long] at h
    cases hsplit : splitAtEquals body with
    | mk name value =>
      have hbody := eq_of_splitAtEquals hsplit
      cases hoption : Setting.ofOption? name with
      | none =>
        simp only [hsplit, hoption] at h
        cases hrequest : request? name <;> cases value <;>
          simp only [hrequest, unexpected, reduceCtorEq] at h
        -- a request for help or the version ends the reading, whatever it completes
        obtain ⟨g, -, h⟩ := except_bind_eq_ok.mp h
        simp [throw, throwThe, MonadExceptOf.throw] at h
      | some o =>
        obtain rfl := ofOption?_eq_some_iff.mp hoption
        simp only [hsplit, hoption] at h
        obtain ⟨g, hsettle, h⟩ := except_bind_eq_ok.mp h
        refine ⟨g, o, hsettle, ?_⟩
        cases value with
        | none =>
          refine .inr ⟨by simpa using hbody, ?_⟩
          exact (Except.ok.inj h).symm
        | some value =>
          obtain ⟨g', hcomplete, h⟩ := except_bind_eq_ok.mp h
          exact .inl ⟨value, g', hbody, hcomplete, (Except.ok.inj h).symm⟩
  · rintro ⟨g, o, hsettle, ⟨value, g', rfl, hcomplete, rfl⟩ | ⟨rfl, rfl⟩⟩
    · rw [State.long, splitAtEquals_append (equals_notMem_option o)]
      simp only [ofOption?_eq_some_iff.mpr rfl, hsettle, hcomplete, bind, Except.bind, pure,
        Except.pure]
    · rw [State.long, splitAtEquals_of_notMem (equals_notMem_option o)]
      simp only [ofOption?_eq_some_iff.mpr rfl, hsettle, bind, Except.bind, pure, Except.pure]

theorem take_plain {s : State} {word : Bytes} (hopen : s.closed = false)
    (h : Group.IsPlain word) : s.take word = s.plain word := by
  have hne : ∀ b rest, word ≠ 0x2D :: b :: rest := by
    rintro b rest rfl
    rcases h with h | h
    · exact h rfl
    · simp at h
  rw [State.take, hopen, if_neg Bool.false_ne_true]
  · exact fun h => hne _ _ h
  · exact fun _ h => hne _ _ h
  · exact hne

theorem take_long {s : State} {body : Bytes} (hopen : s.closed = false) (hne : body ≠ []) :
    s.take (hyphen :: hyphen :: body) = s.long body := by
  cases body with
  | nil => exact absurd rfl hne
  | cons b body =>
    rw [hyphen, State.take, hopen, if_neg Bool.false_ne_true]
    simp

theorem take_short {s s' : State} {letter : UInt8} {rest : Bytes} (hopen : s.closed = false)
    (hletter : letter ≠ hyphen) : s.take (hyphen :: letter :: rest) ≠ .ok s' := by
  intro h
  rw [hyphen, State.take, hopen, if_neg Bool.false_ne_true, State.short] at h
  · cases hrequest : requestLetter? letter with
    | none => simp [hrequest, unexpected] at h
    | some stop =>
      simp only [hrequest] at h
      obtain ⟨g, -, h⟩ := except_bind_eq_ok.mp h
      simp [throw, throwThe, MonadExceptOf.throw] at h
  · exact fun h _ => hletter h
  · exact fun h => hletter h

theorem plain_eq_ok_iff {s s' : State} {word : Bytes} :
    s.plain word = .ok s'
      ↔ ∃ o, s.pending = some ⟨o, none⟩ ∧ s' = { s with pending := some ⟨o, some word⟩ } := by
  rw [State.plain]
  split
  · rename_i o hpending
    simp [hpending, eq_comm]
  · rename_i hpending
    simp only [unexpected, reduceCtorEq, false_iff, not_exists, not_and]
    exact fun o ho => absurd ho (hpending o)

theorem word_cases {word : Bytes} (hend : word ≠ [hyphen, hyphen]) :
    Group.IsPlain word
      ∨ (∃ body, body ≠ [] ∧ word = hyphen :: hyphen :: body)
      ∨ ∃ letter rest, letter ≠ hyphen ∧ word = hyphen :: letter :: rest := by
  rcases word with _ | ⟨b, _ | ⟨c, rest⟩⟩
  · exact .inl (.inl (by simp))
  · by_cases hb : b = hyphen
    · exact .inl (.inr (by rw [hb]))
    · exact .inl (.inl (by simpa using hb))
  · by_cases hb : b = hyphen
    · subst hb
      by_cases hc : c = hyphen
      · subst hc
        exact .inr (.inl ⟨rest, fun h => hend (by rw [h]), rfl⟩)
      · exact .inr (.inr ⟨c, rest, hc, rfl⟩)
    · exact .inl (.inl (by simpa using hb))

theorem not_isPlain (b : UInt8) (rest : Bytes) : ¬ Group.IsPlain (hyphen :: b :: rest) := by
  rintro (h | h)
  · exact h rfl
  · simp at h

/-- All that a word can do: it is the value that an option waits for, or an option with its value,
or an option that waits for one; an option completes what stands before it. -/
theorem take_eq_ok_iff {s s' : State} {word : Bytes} (hopen : s.closed = false)
    (hend : word ≠ [hyphen, hyphen]) :
    s.take word = .ok s'
      ↔ (∃ o, s.pending = some ⟨o, none⟩ ∧ Group.IsPlain word
          ∧ s' = ⟨s.given, some ⟨o, some word⟩, false⟩)
        ∨ (∃ g o value g', s.settle = .ok g ∧ word = Group.optionWord o ++ 0x3D :: value
          ∧ complete g o (some value) = .ok g' ∧ s' = ⟨g', none, false⟩)
        ∨ ∃ g o, s.settle = .ok g ∧ word = Group.optionWord o
          ∧ s' = ⟨g, some ⟨o, none⟩, false⟩ := by
  constructor
  · intro h
    rcases word_cases hend with hplain | ⟨body, hne, rfl⟩ | ⟨letter, rest, hletter, rfl⟩
    · rw [take_plain hopen hplain] at h
      obtain ⟨o, hpending, rfl⟩ := plain_eq_ok_iff.mp h
      exact .inl ⟨o, hpending, hplain, by rw [hopen]⟩
    · rw [take_long hopen hne] at h
      obtain ⟨g, o, hsettle, ⟨value, g', rfl, hcomplete, rfl⟩ | ⟨rfl, rfl⟩⟩ := long_eq_ok_iff.mp h
      · exact .inr (.inl ⟨g, o, value, g', hsettle, rfl, hcomplete, rfl⟩)
      · exact .inr (.inr ⟨g, o, hsettle, rfl, rfl⟩)
    · exact absurd h (take_short hopen hletter)
  · rintro (⟨o, hpending, hplain, rfl⟩ | ⟨g, o, value, g', hsettle, rfl, hcomplete, rfl⟩
      | ⟨g, o, hsettle, rfl, rfl⟩)
    · rw [take_plain hopen hplain, plain_eq_ok_iff]
      exact ⟨o, hpending, by rw [hopen]⟩
    · have hne : Utf8.ofString o.option ++ 0x3D :: value ≠ [] := by simp
      rw [Group.optionWord, List.cons_append, List.cons_append, take_long hopen hne, long_eq_ok_iff]
      exact ⟨g, o, hsettle, .inl ⟨value, g', rfl, hcomplete, rfl⟩⟩
    · rw [Group.optionWord, take_long hopen (option_ne_nil o), long_eq_ok_iff]
      exact ⟨g, o, hsettle, .inr ⟨rfl, rfl⟩⟩

def run (s : State) (words : List Bytes) : Except Stop Given := do
  (← words.foldlM State.take s).settle

theorem run_nil (s : State) : run s [] = s.settle := rfl

theorem run_cons_eq_ok_iff {s : State} {word : Bytes} {words : List Bytes} {g : Given} :
    run s (word :: words) = .ok g ↔ ∃ s', s.take word = .ok s' ∧ run s' words = .ok g := by
  rw [run, List.foldlM_cons, bind_assoc, except_bind_eq_ok]
  rfl

theorem take_pending_eq_ok_iff {g : Given} {o : Setting} {value word : Bytes} {s' : State}
    (hend : word ≠ [hyphen, hyphen]) :
    State.take ⟨g, some ⟨o, some value⟩, false⟩ word = .ok s'
      ↔ ∃ g₁, complete g o (some value) = .ok g₁ ∧ State.take ⟨g₁, none, false⟩ word = .ok s' := by
  rw [take_eq_ok_iff rfl hend]
  constructor
  · rintro (⟨o', hpending, -⟩ | ⟨g₁, o', value', g₂, hsettle, hword, hcomplete, rfl⟩
      | ⟨g₁, o', hsettle, hword, rfl⟩)
    · simp at hpending
    · exact ⟨g₁, hsettle, (take_eq_ok_iff rfl hend).mpr
        (.inr (.inl ⟨g₁, o', value', g₂, rfl, hword, hcomplete, rfl⟩))⟩
    · exact ⟨g₁, hsettle, (take_eq_ok_iff rfl hend).mpr (.inr (.inr ⟨g₁, o', rfl, hword, rfl⟩))⟩
  · rintro ⟨g₁, hsettle, htake⟩
    rcases (take_eq_ok_iff rfl hend).mp htake with ⟨o', hpending, -⟩
      | ⟨g₂, o', value', g₃, hsame, hword, hcomplete, rfl⟩ | ⟨g₂, o', hsame, hword, rfl⟩
    · simp at hpending
    · obtain rfl := Except.ok.inj hsame
      exact .inr (.inl ⟨g₁, o', value', g₃, hsettle, hword, hcomplete, rfl⟩)
    · obtain rfl := Except.ok.inj hsame
      exact .inr (.inr ⟨g₁, o', hsettle, hword, rfl⟩)

theorem run_pending_eq_ok_iff {g g' : Given} {o : Setting} {value : Bytes} {words : List Bytes}
    (hend : ∀ w ∈ words, w ≠ [hyphen, hyphen]) :
    run ⟨g, some ⟨o, some value⟩, false⟩ words = .ok g'
      ↔ ∃ g₁, complete g o (some value) = .ok g₁ ∧ run ⟨g₁, none, false⟩ words = .ok g' := by
  cases words with
  | nil => simp [run_nil, State.settle]
  | cons word words =>
    have hword := hend word List.mem_cons_self
    constructor
    · intro h
      obtain ⟨s', htake, hrun⟩ := run_cons_eq_ok_iff.mp h
      obtain ⟨g₁, hcomplete, htake⟩ := (take_pending_eq_ok_iff hword).mp htake
      exact ⟨g₁, hcomplete, run_cons_eq_ok_iff.mpr ⟨s', htake, hrun⟩⟩
    · rintro ⟨g₁, hcomplete, h⟩
      obtain ⟨s', htake, hrun⟩ := run_cons_eq_ok_iff.mp h
      exact run_cons_eq_ok_iff.mpr
        ⟨s', (take_pending_eq_ok_iff hword).mpr ⟨g₁, hcomplete, htake⟩, hrun⟩

theorem run_waiting_eq_ok_iff {g g' : Given} {o : Setting} {words : List Bytes}
    (hend : ∀ w ∈ words, w ≠ [hyphen, hyphen]) :
    run ⟨g, some ⟨o, none⟩, false⟩ words = .ok g'
      ↔ ∃ value rest, words = value :: rest ∧ Group.IsPlain value
        ∧ run ⟨g, some ⟨o, some value⟩, false⟩ rest = .ok g' := by
  cases words with
  | nil => simp [run_nil, State.settle, complete]
  | cons word words =>
    have hword := hend word List.mem_cons_self
    constructor
    · intro h
      obtain ⟨s', htake, hrun⟩ := run_cons_eq_ok_iff.mp h
      rcases (take_eq_ok_iff rfl hword).mp htake with ⟨o', hpending, hplain, rfl⟩
        | ⟨_, _, _, _, hsettle, -⟩ | ⟨_, _, hsettle, -⟩
      · simp only [Option.some.injEq, Pending.mk.injEq, and_true] at hpending
        subst hpending
        exact ⟨word, words, rfl, hplain, hrun⟩
      · simp [State.settle, complete] at hsettle
      · simp [State.settle, complete] at hsettle
    · rintro ⟨value, rest, hwords, hplain, hrun⟩
      obtain ⟨rfl, rfl⟩ := List.cons.inj hwords
      exact run_cons_eq_ok_iff.mpr
        ⟨_, (take_eq_ok_iff rfl hword).mpr (.inl ⟨o, rfl, hplain, rfl⟩), hrun⟩

def completeAll (g : Given) (groups : List Group) : Except Stop Given :=
  groups.foldlM (fun g group => complete g group.setting (some group.value)) g

theorem completeAll_cons_eq_ok_iff {g g' : Given} {group : Group} {groups : List Group} :
    completeAll g (group :: groups) = .ok g'
      ↔ ∃ g₁, complete g group.setting (some group.value) = .ok g₁
        ∧ completeAll g₁ groups = .ok g' := by
  rw [completeAll, List.foldlM_cons, except_bind_eq_ok]
  rfl

theorem optionWord_ne_end (o : Setting) (rest : Bytes) :
    Group.optionWord o ++ rest ≠ [hyphen, hyphen] := by
  intro h
  have hnil : Utf8.ofString o.option ++ rest = [] := by simpa [Group.optionWord] using h
  exact option_ne_nil o (List.append_eq_nil_iff.mp hnil).1

theorem ne_end_of_mem_words {groups : List Group} (hvalid : ∀ x ∈ groups, x.Valid) {w : Bytes}
    (hw : w ∈ groups.flatMap Group.words) : w ≠ [hyphen, hyphen] := by
  obtain ⟨x, hx, hmem⟩ := List.mem_flatMap.mp hw
  have hxValid := hvalid x hx
  cases x with
  | joined o value =>
    rw [Group.words, List.mem_singleton] at hmem
    rw [hmem]
    exact optionWord_ne_end o _
  | spaced o value =>
    simp only [Group.words, List.mem_cons, List.not_mem_nil, or_false] at hmem
    rcases hmem with rfl | rfl
    · simpa using optionWord_ne_end o []
    · rintro rfl
      exact not_isPlain hyphen [] hxValid

theorem take_joined {s : State} (hopen : s.closed = false) (o : Setting) (value : Bytes) :
    s.take (Group.optionWord o ++ 0x3D :: value) = do
      let g ← s.settle
      let g' ← complete g o (some value)
      return ⟨g', none, false⟩ := by
  have hne : Utf8.ofString o.option ++ 0x3D :: value ≠ [] := by simp
  rw [Group.optionWord, List.cons_append, List.cons_append, take_long hopen hne, State.long,
    splitAtEquals_append (equals_notMem_option o)]
  simp only [ofOption?_eq_some_iff.mpr rfl]

theorem take_joined_eq_ok_iff {g : Given} {o : Setting} {value : Bytes} {s' : State} :
    State.take ⟨g, none, false⟩ (Group.optionWord o ++ 0x3D :: value) = .ok s'
      ↔ ∃ g₁, complete g o (some value) = .ok g₁ ∧ s' = ⟨g₁, none, false⟩ := by
  rw [take_joined rfl, settle_none]
  cases hcomplete : complete g o (some value) <;>
    simp [hcomplete, bind, Except.bind, pure, Except.pure, eq_comm]

theorem take_option (g : Given) (o : Setting) :
    State.take ⟨g, none, false⟩ (Group.optionWord o) = .ok ⟨g, some ⟨o, none⟩, false⟩ := by
  rw [Group.optionWord, take_long rfl (option_ne_nil o), State.long,
    splitAtEquals_of_notMem (equals_notMem_option o)]
  simp only [ofOption?_eq_some_iff.mpr rfl, settle_none]
  rfl

theorem run_words_eq_ok_iff {g g' : Given} {x : Group} {words : List Bytes} (hvalid : x.Valid)
    (hend : ∀ w ∈ words, w ≠ [hyphen, hyphen]) :
    run ⟨g, none, false⟩ (x.words ++ words) = .ok g'
      ↔ ∃ g₁, complete g x.setting (some x.value) = .ok g₁
        ∧ run ⟨g₁, none, false⟩ words = .ok g' := by
  cases x with
  | joined o value =>
    rw [Group.words, List.singleton_append, run_cons_eq_ok_iff]
    simp only [take_joined_eq_ok_iff]
    constructor
    · rintro ⟨s', ⟨g₁, hcomplete, rfl⟩, hrun⟩
      exact ⟨g₁, hcomplete, hrun⟩
    · rintro ⟨g₁, hcomplete, hrun⟩
      exact ⟨_, ⟨g₁, hcomplete, rfl⟩, hrun⟩
  | spaced o value =>
    have hendValue : ∀ w ∈ value :: words, w ≠ [hyphen, hyphen] := by
      rw [List.forall_mem_cons]
      refine ⟨?_, hend⟩
      rintro rfl
      exact not_isPlain hyphen [] hvalid
    rw [Group.words, List.cons_append, List.singleton_append, run_cons_eq_ok_iff, take_option]
    constructor
    · rintro ⟨s', hs', hrun⟩
      obtain rfl := Except.ok.inj hs'
      obtain ⟨value', rest, hwords, -, hrun⟩ := (run_waiting_eq_ok_iff hendValue).mp hrun
      obtain ⟨rfl, rfl⟩ := List.cons.inj hwords
      exact (run_pending_eq_ok_iff hend).mp hrun
    · intro h
      exact ⟨_, rfl, (run_waiting_eq_ok_iff hendValue).mpr
        ⟨value, words, rfl, hvalid, (run_pending_eq_ok_iff hend).mpr h⟩⟩

theorem run_flatMap_words_eq_ok_iff {g g' : Given} {groups : List Group}
    (hvalid : ∀ x ∈ groups, x.Valid) :
    run ⟨g, none, false⟩ (groups.flatMap Group.words) = .ok g'
      ↔ completeAll g groups = .ok g' := by
  induction groups generalizing g with
  | nil => rfl
  | cons x groups ih =>
    rw [List.forall_mem_cons] at hvalid
    rw [List.flatMap_cons, run_words_eq_ok_iff hvalid.1 fun w => ne_end_of_mem_words hvalid.2,
      completeAll_cons_eq_ok_iff]
    simp only [ih hvalid.2]

/-- Words that lead to settings are groups. -/
theorem exists_groups_of_run {g g' : Given} {words : List Bytes}
    (hend : ∀ w ∈ words, w ≠ [hyphen, hyphen]) (h : run ⟨g, none, false⟩ words = .ok g') :
    ∃ groups, groups.flatMap Group.words = words ∧ (∀ x ∈ groups, x.Valid)
      ∧ completeAll g groups = .ok g' := by
  -- a group takes one word or two, so the induction is on how many are left
  induction hlength : words.length using Nat.strong_induction_on generalizing g words with
  | _ n ih =>
    cases words with
    | nil => exact ⟨[], rfl, by simp, h⟩
    | cons word words =>
      rw [List.forall_mem_cons] at hend
      obtain ⟨hword, hwords⟩ := hend
      obtain ⟨s', htake, hrun⟩ := run_cons_eq_ok_iff.mp h
      rcases (take_eq_ok_iff rfl hword).mp htake with ⟨o, hpending, -⟩
        | ⟨g₁, o, value, g₂, hsettle, rfl, hcomplete, rfl⟩ | ⟨g₁, o, hsettle, rfl, rfl⟩
      · simp at hpending
      · obtain rfl := Except.ok.inj hsettle
        obtain ⟨groups, rfl, hvalid, hall⟩ := ih words.length (by simp [← hlength]) hwords hrun rfl
        refine ⟨.joined o value :: groups, rfl, List.forall_mem_cons.mpr ⟨trivial, hvalid⟩, ?_⟩
        exact completeAll_cons_eq_ok_iff.mpr ⟨g₂, hcomplete, hall⟩
      · obtain rfl := Except.ok.inj hsettle
        obtain ⟨value, rest, rfl, hplain, hrun⟩ := (run_waiting_eq_ok_iff hwords).mp hrun
        rw [List.forall_mem_cons] at hwords
        obtain ⟨g₂, hcomplete, hrun⟩ := (run_pending_eq_ok_iff hwords.2).mp hrun
        have hshorter : rest.length < n := by
          rw [← hlength, List.length_cons, List.length_cons]
          omega
        obtain ⟨groups, rfl, hvalid, hall⟩ := ih rest.length hshorter hwords.2 hrun rfl
        refine ⟨.spaced o value :: groups, rfl, List.forall_mem_cons.mpr ⟨hplain, hvalid⟩, ?_⟩
        exact completeAll_cons_eq_ok_iff.mpr ⟨g₂, hcomplete, hall⟩

theorem given?_cons (x : Group) (groups : List Group) (o : Setting) :
    given? (x :: groups) o = if x.setting = o then some x.value else given? groups o := by
  by_cases h : x.setting = o <;> simp [given?, h]

theorem given?_eq_none {groups : List Group} {o : Setting} (h : o ∉ groups.map Group.setting) :
    given? groups o = none := by
  rw [given?, Option.map_eq_none_iff, List.find?_eq_none]
  intro x hx hsetting
  exact h (List.mem_map.mpr ⟨x, hx, of_decide_eq_true hsetting⟩)

theorem given?_eq_some_iff {groups : List Group} {o : Setting} {value : Bytes}
    (hnodup : (groups.map Group.setting).Nodup) :
    given? groups o = some value ↔ (o, value) ∈ groups.map Group.assignment := by
  induction groups with
  | nil => simp [given?]
  | cons x groups ih =>
    rw [List.map_cons, List.nodup_cons] at hnodup
    obtain ⟨hnotMem, hnodup⟩ := hnodup
    rw [given?_cons, List.map_cons, List.mem_cons, Group.assignment, Prod.mk.injEq]
    by_cases ho : x.setting = o
    · subst ho
      have hrest : (x.setting, value) ∉ groups.map Group.assignment := by
        intro hmem
        rw [← ih hnodup, given?_eq_none hnotMem] at hmem
        simp at hmem
      simp [hrest, eq_comm]
    · simp [ho, Ne.symm ho, ih hnodup]

theorem given?_eq_of_perm {groups groups' : List Group}
    (hnodup : (groups.map Group.setting).Nodup) (hnodup' : (groups'.map Group.setting).Nodup)
    (h : (groups.map Group.assignment).Perm (groups'.map Group.assignment)) (o : Setting) :
    given? groups o = given? groups' o := by
  ext value
  rw [given?_eq_some_iff hnodup, given?_eq_some_iff hnodup', h.mem_iff]

theorem eq_of_map_ok {g g' : Given}
    (h : ∀ o, (g' o).map (Except.ok : o.Value → Except ValueError o.Value) = (g o).map Except.ok) :
    g' = g := by
  funext o
  exact Option.map_injective (fun _ _ => Except.ok.inj) (h o)

theorem given?_cons_or {g : Given} {x : Group} {groups : List Group} {v : x.setting.Value}
    (hnotMem : x.setting ∉ groups.map Group.setting) (hread : x.setting.read x.value = .ok v)
    (o : Setting) :
    ((given? (x :: groups) o).map o.read).or ((g o).map Except.ok)
      = ((given? groups o).map o.read).or ((g.set x.setting v o).map Except.ok) := by
  rw [given?_cons]
  by_cases ho : x.setting = o
  · subst ho
    simp only [if_pos, given?_eq_none hnotMem, Given.set_self, Option.map_some, Option.map_none,
      Option.none_or, Option.some_or, hread]
  · rw [if_neg ho, Given.set_of_ne g v (Ne.symm ho)]

/-- Groups are all completed exactly if no setting stands twice and each value fits, and they give
each setting its value. -/
theorem completeAll_eq_ok_iff {g g' : Given} {groups : List Group} :
    completeAll g groups = .ok g'
      ↔ (groups.map Group.setting).Nodup ∧ (∀ x ∈ groups, g x.setting = none)
        ∧ ∀ o, (g' o).map Except.ok = ((given? groups o).map o.read).or ((g o).map Except.ok) := by
  induction groups generalizing g with
  | nil =>
    have hgiven : ∀ o, given? [] o = none := fun _ => rfl
    simp only [completeAll, List.foldlM_nil, pure, Except.pure, Except.ok.injEq, List.map_nil,
      List.nodup_nil, List.not_mem_nil, false_implies, implies_true, hgiven, Option.map_none,
      Option.none_or, true_and]
    constructor
    · rintro rfl o
      rfl
    · exact fun h => (eq_of_map_ok h).symm
  | cons x groups ih =>
    -- the first group must be new to `g`, and no later one may be of its setting
    rw [completeAll_cons_eq_ok_iff, List.map_cons, List.nodup_cons, List.forall_mem_cons]
    constructor
    · rintro ⟨g₁, hcomplete, hrest⟩
      obtain ⟨bs, v, hbs, hnew, hread, rfl⟩ := complete_eq_ok_iff.mp hcomplete
      obtain rfl := Option.some.inj hbs
      obtain ⟨hnodup, hothers, hvalues⟩ := ih.mp hrest
      have hne : ∀ y ∈ groups, y.setting ≠ x.setting := by
        intro y hy hsame
        have hnone := hothers y hy
        rw [hsame, Given.set_self] at hnone
        simp at hnone
      have hnotMem : x.setting ∉ groups.map Group.setting := by
        rw [List.mem_map]
        rintro ⟨y, hy, hsame⟩
        exact hne y hy hsame
      refine ⟨⟨hnotMem, hnodup⟩, ⟨hnew, fun y hy => ?_⟩, fun o => ?_⟩
      · rw [← Given.set_of_ne g v (hne y hy)]
        exact hothers y hy
      · rw [hvalues o, given?_cons_or hnotMem hread]
    · rintro ⟨⟨hnotMem, hnodup⟩, ⟨hnew, hothers⟩, hvalues⟩
      have hfirst := hvalues x.setting
      rw [given?_cons, if_pos rfl, Option.map_some, Option.some_or] at hfirst
      obtain ⟨v, -, hread⟩ := Option.map_eq_some_iff.mp hfirst
      refine ⟨g.set x.setting v, complete_eq_ok_iff.mpr ⟨_, v, rfl, hnew, hread.symm, rfl⟩, ?_⟩
      refine ih.mpr ⟨hnodup, fun y hy => ?_, fun o => ?_⟩
      · have hne : y.setting ≠ x.setting :=
          fun hsame => hnotMem (List.mem_map.mpr ⟨y, hy, hsame⟩)
        rw [Given.set_of_ne g v hne]
        exact hothers y hy
      · rw [hvalues o, given?_cons_or hnotMem hread.symm]

/-- Groups give settings exactly if their values fit, and then those that they name. -/
theorem read_of_spells {groups : List Group} {words : List Bytes} (h : Spells groups words)
    {g : Given} :
    read words = .ok g ↔ ∀ o, (g o).map Except.ok = (given? groups o).map o.read := by
  have hread : read words = run ⟨.empty, none, false⟩ (groups.flatMap Group.words) := by
    rw [h.words_eq]
    rfl
  rw [hread, run_flatMap_words_eq_ok_iff h.valid, completeAll_eq_ok_iff]
  simp [h.nodup]

/-- A command line without a word that ends the options gives settings only if its words are
groups. -/
theorem exists_spells_of_read {words : List Bytes} (hend : ∀ w ∈ words, w ≠ [hyphen, hyphen])
    {g : Given} (h : read words = .ok g) : ∃ groups, Spells groups words := by
  obtain ⟨groups, hwords, hvalid, hcomplete⟩ := exists_groups_of_run hend h
  exact ⟨groups, hwords, hvalid, (completeAll_eq_ok_iff.mp hcomplete).1⟩

end CommandLine

end Messaging.Config
