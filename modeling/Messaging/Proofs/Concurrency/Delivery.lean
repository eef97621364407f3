import Messaging.Proofs.Concurrency.Stages

/-!
What holds at every point while requests are served at the same time. The rows are those of the
start and one more for each message that has been saved, and the counters have grown by the calls
that have been counted. So a message is found by a lookup that is made after it has been saved, and
by none before.
-/
namespace Messaging.Concurrency

namespace System

variable {σ κ : Type} {n : ℕ} [MessageStore σ] [Controlled σ κ] {jobs : Fin n → Job}
  {sys : System σ n} {i j : Fin n}

theorem stage_turn_of_ne (h : i ≠ j) :
    (sys.turn jobs (.work i : Turn n κ)).stage j = sys.stage j := Function.update_of_ne h.symm _ _

theorem stage_turn_self :
    (sys.turn jobs (.work i : Turn n κ)).stage i
      = ((sys.stage i).next (jobs i) sys.service).1 := Function.update_self _ _ _

/-- What no turn of a request takes away stays through every run. -/
theorem persists_turn {P : Stage → Prop}
    (h : ∀ (job : Job) (s s' : Service σ) (stage stage' : Stage),
      Advances job s stage stage' s' → P stage → P stage')
    (t : Turn n κ) (hj : P (sys.stage j)) : P ((sys.turn jobs t).stage j) := by
  cases t with
  | interfere k => exact hj
  | work i =>
    by_cases hij : i = j
    · subst hij
      rw [stage_turn_self]
      exact h _ _ _ _ _ (advances_next (jobs i) sys.service (sys.stage i)) hj
    · rwa [stage_turn_of_ne hij]

theorem persists_run {P : Stage → Prop}
    (h : ∀ (job : Job) (s s' : Service σ) (stage stage' : Stage),
      Advances job s stage stage' s' → P stage → P stage')
    (turns : List (Turn n κ)) (hj : P (sys.stage j)) : P ((sys.run jobs turns).stage j) := by
  induction turns generalizing sys with
  | nil => exact hj
  | cons t turns ih => exact ih (persists_turn h t hj)

theorem call?_run {c : Called} (turns : List (Turn n κ)) (h : (sys.stage j).call? = some c) :
    ((sys.run jobs turns).stage j).call? = some c :=
  persists_run (fun _ _ _ _ _ hadvances => hadvances.call?) turns h

theorem identity?_run {m : Message} (turns : List (Turn n κ))
    (h : (sys.stage j).identity? = some m) : ((sys.run jobs turns).stage j).identity? = some m :=
  persists_run (fun _ _ _ _ _ hadvances => hadvances.identity?) turns h

theorem call?_eq_none_of_run (turns : List (Turn n κ))
    (h : ((sys.run jobs turns).stage j).call? = none) : (sys.stage j).call? = none := by
  cases hcall : (sys.stage j).call? with
  | none => rfl
  | some c =>
    rw [call?_run turns hcall] at h
    simp at h

theorem saved?_run {m : Message} (turns : List (Turn n κ)) (h : (sys.stage j).saved? = some m) :
    ((sys.run jobs turns).stage j).saved? = some m := by
  obtain ⟨c, hcall, hsaved⟩ := Option.bind_eq_some_iff.mp h
  rw [Stage.saved?, call?_run turns hcall, Option.bind_some, hsaved]

theorem saved?_of_run {m : Message} (turns : List (Turn n κ))
    (h : ((sys.run jobs turns).stage j).saved? = some m)
    (hcalled : (sys.stage j).call?.isSome = true) : (sys.stage j).saved? = some m := by
  obtain ⟨c, hcall⟩ := Option.isSome_iff_exists.mp hcalled
  rw [Stage.saved?, call?_run turns hcall] at h
  rwa [Stage.saved?, hcall]

def Names (sys : System σ n) (ids : Fin n → Option Message) : Prop :=
  ∀ i m, (sys.stage i).identity? = some m → ids i = some m

theorem Names.of_run {ids : Fin n → Option Message} {turns : List (Turn n κ)}
    (h : (sys.run jobs turns).Names ids) : sys.Names ids :=
  fun i m hm => h i m (identity?_run turns hm)

theorem exists_lookup {messageId receiverId : Uuid} {result : Except ServiceError (Option Message)}
    (turns : List (Turn n κ)) (hbefore : (sys.stage j).call? = none)
    (hafter : ((sys.run jobs turns).stage j).call? = some (.lookup messageId receiverId result)) :
    ∃ earlier later, turns = earlier ++ later
      ∧ (MessageStore.lookup (sys.run jobs earlier).service.store messageId receiverId).result
        = result := by
  induction turns generalizing sys with
  | nil => simp [hbefore] at hafter
  | cons t turns ih =>
    cases hcall : ((sys.turn jobs t).stage j).call? with
    | none =>
      obtain ⟨earlier, later, rfl, hresult⟩ := ih hcall hafter
      exact ⟨t :: earlier, later, rfl, hresult⟩
    | some c =>
      -- this is the turn at which the store is called, so the call is the one of the end
      refine ⟨[], t :: turns, rfl, ?_⟩
      rw [run_cons, call?_run turns hcall] at hafter
      rw [Option.some.inj hafter] at hcall
      cases t with
      | interfere k =>
        change (sys.stage j).call? = _ at hcall
        simp [hbefore] at hcall
      | work i =>
        by_cases hij : i = j
        · subst hij
          rw [stage_turn_self] at hcall
          exact (advances_next _ _ _).result_lookup hbefore hcall
        · rw [stage_turn_of_ne hij, hbefore] at hcall
          simp at hcall

/-- At some point of the run, the one request has called the store and the other one has not. -/
def CallsBefore (jobs : Fin n → Job) (sys : System σ n) (turns : List (Turn n κ)) (i j : Fin n) :
    Prop :=
  ∃ earlier later, turns = earlier ++ later
    ∧ ((sys.run jobs earlier).stage i).call?.isSome = true
    ∧ ((sys.run jobs earlier).stage j).call? = none

theorem CallsBefore.cons {t : Turn n κ} {turns : List (Turn n κ)}
    (h : (sys.turn jobs t).CallsBefore jobs turns i j) : sys.CallsBefore jobs (t :: turns) i j := by
  obtain ⟨earlier, later, rfl, hi, hj⟩ := h
  exact ⟨t :: earlier, later, rfl, hi, hj⟩

theorem stage_turn_eq_or (hij : i ≠ j) (t : Turn n κ) :
    (sys.turn jobs t).stage i = sys.stage i ∨ (sys.turn jobs t).stage j = sys.stage j := by
  cases t with
  | interfere k => exact .inl rfl
  | work l =>
    by_cases hl : l = i
    · exact .inr (stage_turn_of_ne (hl ▸ hij))
    · exact .inl (stage_turn_of_ne hl)

theorem callsBefore_or {turns : List (Turn n κ)} (hij : i ≠ j) (hi : (sys.stage i).call? = none)
    (hj : (sys.stage j).call? = none)
    (hi' : ((sys.run jobs turns).stage i).call?.isSome = true)
    (hj' : ((sys.run jobs turns).stage j).call?.isSome = true) :
    sys.CallsBefore jobs turns i j ∨ sys.CallsBefore jobs turns j i := by
  induction turns generalizing sys with
  | nil => simp [hi] at hi'
  | cons t turns ih =>
    cases hcalledI : ((sys.turn jobs t).stage i).call? with
    | none =>
      cases hcalledJ : ((sys.turn jobs t).stage j).call? with
      | none => exact (ih hcalledI hcalledJ hi' hj').imp CallsBefore.cons CallsBefore.cons
      | some c => exact .inr ⟨[t], turns, rfl, Option.isSome_of_eq_some hcalledJ, hcalledI⟩
    | some c =>
      refine .inl ⟨[t], turns, rfl, Option.isSome_of_eq_some hcalledI, ?_⟩
      have hone : (sys.turn jobs t).stage i = sys.stage i
          ∨ (sys.turn jobs t).stage j = sys.stage j := stage_turn_eq_or hij t
      rcases hone with hsame | hsame
      · rw [hsame, hi] at hcalledI
        simp at hcalledI
      · exact (congrArg Stage.call? hsame).trans hj

end System

section Store

variable {σ κ : Type} [MessageStore σ] [Controlled σ κ] [TableStore σ κ] {job : Job}
  {s s' : Service σ} {stage stage' : Stage}

theorem Advances.store (h : Advances job s stage stage' s') :
    (stage'.saved? = stage.saved? ∧ TableStore.Same s'.store s.store)
      ∨ ∃ m, stage = .identified m ∧ stage'.saved? = some m
        ∧ (MessageStore.save s.store m).result = .ok m
        ∧ s'.store = (MessageStore.save s.store m).state := by
  cases h with
  | save m =>
    cases hresult : (MessageStore.save s.store m).result with
    | ok saved =>
      obtain rfl : saved = m := @RowStore.result_save σ κ _ _ _ _ _ _ hresult
      exact .inr ⟨saved, rfl, rfl, hresult, rfl⟩
    | error e => exact .inl ⟨rfl, TableStore.same_save hresult⟩
  | lookup messageId receiverId _ => exact .inl ⟨rfl, TableStore.same_lookup _ _ _⟩
  | _ => exact .inl ⟨rfl, TableStore.same_refl _⟩

theorem Advances.honest (h : Advances job s stage stage' s') (hs : TableStore.Honest s.store) :
    TableStore.Honest s'.store := by
  cases h with
  | save m => exact TableStore.honest_save m hs
  | lookup messageId receiverId _ => exact TableStore.honest_lookup messageId receiverId hs
  | _ => exact hs

include κ in
theorem Advances.consistent (h : Advances job s stage stage' s') (hs : stage.Consistent job) :
    stage'.Consistent job := by
  cases h with
  | identify new hsubmitted => exact ⟨new, _, hsubmitted, rfl⟩
  | lookup messageId receiverId hrequested => exact hrequested
  | refuse hsubmitted hrequested =>
    refine ⟨hsubmitted, hrequested, fun hcreated => ?_⟩
    rw [Api.status_handle] at hcreated
    obtain ⟨new, -, -, hnew, -⟩ := Api.submitted?_of_created hcreated
    simp [hsubmitted] at hnew
  | save m => exact ⟨hs, fun _ => @RowStore.result_save σ κ _ _ _ _ _ _⟩
  | count c => exact hs
  | answer c => exact ⟨hs, rfl⟩
  | rest c response => exact hs

end Store

section Runs

variable {σ κ : Type} {n : ℕ} [MessageStore σ] [Controlled σ κ] [TableStore σ κ]
  {jobs : Fin n → Job} {initial : Service σ} {ids : Fin n → Option Message} {sys : System σ n}

def entryOf (m : Message) : RowKey × RowStore.Row σ :=
  (m.rowKey (TableStore.unit σ), RowStore.row m)

/-- The messages that are made have identifiers of their own, which no stored row has. -/
structure NewNames (ids : Fin n → Option Message) (initial : Service σ) : Prop where
  distinct : ∀ i j m m', ids i = some m → ids j = some m' → m.messageId = m'.messageId → i = j
  fresh : ∀ i m, ids i = some m →
    ∀ entry ∈ TableStore.rows initial.store, entry.1.messageId ≠ m.messageId

/-- The rows are those of the start and one more for each message that has been saved; the counters
have grown by the calls that have been counted; and each message that is made comes first under its
identifiers once it has been saved, and nothing does before. -/
structure Sound (jobs : Fin n → Job) (initial : Service σ) (ids : Fin n → Option Message)
    (sys : System σ n) : Prop where
  consistent : ∀ i, (sys.stage i).Consistent (jobs i)
  rows : (TableStore.rows sys.service.store).Perm
    (TableStore.rows initial.store ++ (gather Stage.saved? sys.stage).map entryOf)
  counters : sys.service.counters
    = tallyCalls initial.counters (gather Stage.countedCall? sys.stage)
  first : ∀ i m, ids i = some m →
    RowStore.first? sys.service.store m.messageId m.receiverId
      = (sys.stage i).saved?.map RowStore.row

theorem sound_start (hnew : NewNames ids initial) :
    Sound jobs initial ids (System.start initial) where
  consistent _ := trivial
  rows := by
    rw [gather_of_none fun _ => rfl, List.map_nil, List.append_nil]
    exact List.Perm.refl _
  counters := by
    rw [gather_of_none fun _ => rfl]
    rfl
  first i m hm := by
    change RowStore.first? initial.store m.messageId m.receiverId = none
    rw [TableStore.first?_eq]
    exact Rows.first?_of_notMem (hnew.fresh i m hm)

namespace Sound

theorem interfere (h : Sound jobs initial ids sys) (k : κ) :
    Sound jobs initial ids (sys.turn jobs (.interfere k)) where
  consistent := h.consistent
  rows := by
    change (TableStore.rows (Controlled.control k sys.service.store)).Perm _
    rw [TableStore.rows_control]
    exact h.rows
  counters := h.counters
  first i m hm := by
    change RowStore.first? (Controlled.control k sys.service.store) _ _ = _
    rw [RowStore.first?_control]
    exact h.first i m hm

theorem key_ne (h : Sound jobs initial ids sys) (hnew : NewNames ids initial)
    (hnames : sys.Names ids) {i : Fin n} {m : Message} (hstage : sys.stage i = .identified m) :
    ∀ entry ∈ TableStore.rows sys.service.store, entry.1 ≠ m.rowKey (TableStore.unit σ) := by
  intro entry hentry hkey
  have hm : ids i = some m := hnames i m (by rw [hstage]; rfl)
  rcases List.mem_append.mp (h.rows.mem_iff.mp hentry) with hold | hsaved
  · exact hnew.fresh i m hm entry hold (congrArg RowKey.messageId hkey)
  · -- a row that was saved in this run tells the request that saved it
    obtain ⟨m', hm', rfl⟩ := List.mem_map.mp hsaved
    obtain ⟨j, -, hj⟩ := List.mem_filterMap.mp hm'
    obtain ⟨hcall, -⟩ := (h.consistent j).of_saved? hj
    have hids : ids j = some m' := hnames j m' (Stage.identity?_of_call? hcall)
    obtain rfl : j = i := hnew.distinct j i m' m hids hm (congrArg RowKey.messageId hkey)
    rw [hstage] at hj
    simp [Stage.saved?, Stage.call?] at hj

open scoped List in
theorem rows_work (h : Sound jobs initial ids sys) (hnew : NewNames ids initial)
    (hnames : sys.Names ids) {i : Fin n} {stage' : Stage} {s' : Service σ}
    (hadvances : Advances (jobs i) sys.service (sys.stage i) stage' s') :
    (TableStore.rows s'.store).Perm (TableStore.rows initial.store
      ++ (gather Stage.saved? (Function.update sys.stage i stage')).map entryOf) := by
  rcases hadvances.store with ⟨hsaved, hsame⟩ | ⟨m, hstage, hsaved, hresult, hstore⟩
  · rw [TableStore.rows_same hsame, gather_update_of_eq hsaved]
    exact h.rows
  · have hold : (sys.stage i).saved? = none := by rw [hstage]; rfl
    have hgather := (gather_update_of_some hold hsaved).map (entryOf (σ := σ))
    rw [hstore, TableStore.rows_save hresult]
    calc (TableStore.rows sys.service.store).upsert (m.rowKey (TableStore.unit σ)) (RowStore.row m)
      _ ~ entryOf m :: TableStore.rows sys.service.store :=
        Rows.upsert_perm (h.key_ne hnew hnames hstage) _
      _ ~ entryOf m :: (TableStore.rows initial.store
            ++ (gather Stage.saved? sys.stage).map entryOf) := h.rows.cons _
      _ ~ TableStore.rows initial.store
            ++ entryOf m :: (gather Stage.saved? sys.stage).map entryOf := List.perm_middle.symm
      _ ~ _ := List.Perm.append_left _ hgather.symm

theorem counters_work (h : Sound jobs initial ids sys) {i : Fin n} {stage' : Stage}
    {s' : Service σ} (hadvances : Advances (jobs i) sys.service (sys.stage i) stage' s') :
    s'.counters = tallyCalls initial.counters
      (gather Stage.countedCall? (Function.update sys.stage i stage')) := by
  rcases hadvances.counters with ⟨hsame, hcounters⟩ | ⟨c, hold, hcounted, hcounters⟩
  · rw [gather_update_of_eq hsame, hcounters, h.counters]
  · rw [tallyCalls_perm _ (gather_update_of_some hold hcounted), tallyCalls_cons, hcounters,
      h.counters]

theorem first_work (h : Sound jobs initial ids sys) (hnew : NewNames ids initial)
    (hnames : sys.Names ids) {i : Fin n} {stage' : Stage} {s' : Service σ}
    (hadvances : Advances (jobs i) sys.service (sys.stage i) stage' s') {j : Fin n} {m : Message}
    (hm : ids j = some m) :
    RowStore.first? s'.store m.messageId m.receiverId
      = (Function.update sys.stage i stage' j).saved?.map RowStore.row := by
  have hfirst := h.first j m hm
  rcases hadvances.store with ⟨hsaved, hsame⟩ | ⟨m', hstage, hsaved, hresult, hstore⟩
  · rw [TableStore.first?_eq, TableStore.rows_same hsame, ← TableStore.first?_eq, hfirst]
    by_cases hij : j = i
    · subst hij
      rw [Function.update_self, hsaved]
    · rw [Function.update_of_ne hij]
  · -- the message that is saved is the one looked at, or has another identifier
    have hm' : ids i = some m' := hnames i m' (by rw [hstage]; rfl)
    rw [hstore]
    by_cases hij : j = i
    · subst hij
      obtain rfl : m = m' := Option.some.inj (hm.symm.trans hm')
      rw [Function.update_self, hsaved, Option.map_some]
      refine RowStore.first?_save ?_ hresult
      rw [hfirst, hstage]
      rfl
    · rw [Function.update_of_ne hij, ← hfirst]
      refine RowStore.first?_save_of_not _ fun hof => hij ?_
      exact hnew.distinct j i m m' hm hm' hof.2.symm

theorem work (h : Sound jobs initial ids sys) (hnew : NewNames ids initial)
    (hnames : sys.Names ids) (i : Fin n) :
    Sound jobs initial ids (sys.turn jobs (.work i : Turn n κ)) := by
  have hadvances := advances_next (jobs i) sys.service (sys.stage i)
  refine ⟨fun j => ?_, h.rows_work hnew hnames hadvances, h.counters_work hadvances,
    fun j m hm => h.first_work hnew hnames hadvances hm⟩
  by_cases hij : i = j
  · subst hij
    rw [System.stage_turn_self]
    exact hadvances.consistent (h.consistent i)
  · rw [System.stage_turn_of_ne hij]
    exact h.consistent j

theorem run (h : Sound jobs initial ids sys) (hnew : NewNames ids initial)
    {turns : List (Turn n κ)} (hnames : (sys.run jobs turns).Names ids) :
    Sound jobs initial ids (sys.run jobs turns) := by
  induction turns generalizing sys with
  | nil => exact h
  | cons t turns ih =>
    refine ih ?_ hnames
    cases t with
    | work i => exact h.work hnew (System.Names.of_run hnames) i
    | interfere k => exact h.interfere k

end Sound

/-- No interference makes the store answer lookups otherwise than from its rows. -/
def Turn.Honest (σ : Type) {κ : Type} [MessageStore σ] [Controlled σ κ] [TableStore σ κ] {n : ℕ} :
    Turn n κ → Prop
  | .work _ => True
  | .interfere k => ∀ s : σ, TableStore.Honest s → TableStore.Honest (Controlled.control k s)

theorem honest_run {turns : List (Turn n κ)} (hturns : ∀ t ∈ turns, t.Honest σ)
    (h : TableStore.Honest sys.service.store) :
    TableStore.Honest (sys.run jobs turns).service.store := by
  induction turns generalizing sys with
  | nil => exact h
  | cons t turns ih =>
    rw [List.forall_mem_cons] at hturns
    refine ih hturns.2 ?_
    cases t with
    | work i => exact (advances_next (jobs i) sys.service (sys.stage i)).honest h
    | interfere k => exact hturns.1 _ h

section Lookups

variable {turns : List (Turn n κ)} {i j : Fin n} {m : Message} {found : Option Message}

theorem Sound.found_of_saved (h : Sound jobs initial ids sys) (hnew : NewNames ids initial)
    (hnames : (sys.run jobs turns).Names ids) (hhonest : TableStore.Honest sys.service.store)
    (hturns : ∀ t ∈ turns, t.Honest σ) (hclock : (jobs i).reading.moment.now.OfClock)
    (hsaved : (sys.stage i).saved? = some m) (hbefore : (sys.stage j).call? = none)
    (hafter : ((sys.run jobs turns).stage j).call?
      = some (.lookup m.messageId m.receiverId (.ok found))) : found = some m := by
  obtain ⟨earlier, later, rfl, hresult⟩ := System.exists_lookup turns hbefore hafter
  rw [System.run_append] at hnames
  have hthere := h.run hnew hnames.of_run
  have hhonestThere : TableStore.Honest (sys.run jobs earlier).service.store :=
    honest_run (fun t ht => hturns t (List.mem_append_left _ ht)) hhonest
  obtain ⟨hcall, hsubmits⟩ := (h.consistent i).of_saved? hsaved
  have hids : ids i = some m :=
    hnames.of_run.of_run i m (Stage.identity?_of_call? hcall)
  have hfirst := hthere.first i m hids
  rw [System.saved?_run earlier hsaved, Option.map_some] at hfirst
  obtain ⟨hoffset, hmillis⟩ := hsubmits.inMillis hclock
  rw [RowStore.result_lookup (TableStore.answers_of_ok hhonestThere hresult) hfirst hoffset hmillis]
    at hresult
  exact (Except.ok.inj hresult).symm

theorem Sound.missing_of_uncalled (h : Sound jobs initial ids sys) (hnew : NewNames ids initial)
    (hnames : (sys.run jobs turns).Names ids) (hhonest : TableStore.Honest sys.service.store)
    (hturns : ∀ t ∈ turns, t.Honest σ) (hids : ids i = some m)
    (hend : ((sys.run jobs turns).stage i).call? = none) (hbefore : (sys.stage j).call? = none)
    (hafter : ((sys.run jobs turns).stage j).call?
      = some (.lookup m.messageId m.receiverId (.ok found))) : found = none := by
  obtain ⟨earlier, later, rfl, hresult⟩ := System.exists_lookup turns hbefore hafter
  rw [System.run_append] at hnames hend
  have hhonestThere : TableStore.Honest (sys.run jobs earlier).service.store :=
    honest_run (fun t ht => hturns t (List.mem_append_left _ ht)) hhonest
  have hfirst := (h.run hnew hnames.of_run).first i m hids
  rw [Stage.saved?, System.call?_eq_none_of_run later hend] at hfirst
  exact TableStore.missing_of_ok hhonestThere hresult hfirst

end Lookups

end Runs

end Messaging.Concurrency
