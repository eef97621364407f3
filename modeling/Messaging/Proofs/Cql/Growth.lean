import Messaging.Proofs.Cql.Keyspace
import Messaging.Proofs.Cql.Startup

/-!
What is there stays there: no request takes a keyspace or a table away. So a start that succeeds
once succeeds again, at any later time; and with the schema asked for, a start under a plain name
that is not reserved succeeds wherever nothing fails.
-/
namespace Messaging.Cql

namespace Server

/-- No keyspace and no table of the first server is missing in the second. -/
structure Grows (s s' : Server) : Prop where
  keyspace : ∀ name, (s.keyspace? name).isSome = true → (s'.keyspace? name).isSome = true
  table : ∀ name, (s.table? (some name)).isSome = true → (s'.table? (some name)).isSome = true

theorem Grows.of_keyspaces_eq {s s' : Server} (h : s'.keyspaces = s.keyspaces) : s.Grows s' := by
  have hkeyspace : ∀ name, s'.keyspace? name = s.keyspace? name := fun name => by
    rw [keyspace?, keyspace?, h]
  exact ⟨fun name hthere => by rwa [hkeyspace], fun name hthere => by
    rwa [table?, Option.bind_some, hkeyspace]⟩

theorem Grows.refl (s : Server) : s.Grows s := .of_keyspaces_eq rfl

theorem Grows.trans {s s' s'' : Server} (h : s.Grows s') (h' : s'.Grows s'') : s.Grows s'' :=
  ⟨fun name hname => h'.keyspace name (h.keyspace name hname),
    fun name hname => h'.table name (h.table name hname)⟩

theorem grows_adding (s : Server) (added : String) : s.Grows (s.adding added) :=
  ⟨fun name h => (s.isSome_keyspace?_adding added name).mpr (.inr h),
    fun name h => by rwa [table?_adding]⟩

theorem isSome_keyspace?_setTable (s : Server) (name : String) (table : Table) (other : String) :
    ((s.setTable name table).keyspace? other).isSome = (s.keyspace? other).isSome := by
  rw [keyspace?_setTable]
  split
  · rename_i hname
    rw [hname, Option.isSome_map]
  · rfl

theorem isSome_table?_setTable (s : Server) (name : String) (table : Table) (other : String) :
    ((s.setTable name table).table? (some other)).isSome = true
      ↔ (s.table? (some other)).isSome = true
        ∨ (other = name ∧ (s.keyspace? name).isSome = true) := by
  rw [table?, table?, Option.bind_some, Option.bind_some, keyspace?_setTable]
  by_cases hname : other = name
  · subst hname
    rcases s.keyspace? other with _ | _ | there <;> simp
  · simp [hname]

theorem grows_setTable (s : Server) (name : String) (table : Table) :
    s.Grows (s.setTable name table) :=
  ⟨fun other h => by rwa [isSome_keyspace?_setTable],
    fun other h => (s.isSome_table?_setTable name table other).mpr (.inl h)⟩

theorem grows_perform (s : Server) (current : Option String) (q : Request) :
    s.Grows (s.perform current q).2 := by
  cases hcarry : s.carryOut current q with
  | error failure =>
    rw [perform_of_error hcarry]
    exact .refl s
  | ok done =>
    rw [perform_of_ok hcarry]
    rcases carryOut_cases hcarry with hsame | ⟨name, -, hadded⟩ | ⟨name, table, -, hset⟩
    · exact hsame ▸ .refl s
    · exact hadded ▸ s.grows_adding name
    · exact hset ▸ s.grows_setTable name table

theorem grows_receive (s : Server) (current : Option String) (q : Request) :
    s.Grows (s.receive current q).2 := by
  cases hfails : s.fails q with
  | some cause =>
    rw [receive_of_fails hfails]
    exact .of_keyspaces_eq rfl
  | none =>
    rw [receive_of_carried hfails]
    have hnoting : s.Grows (s.noting q) := .of_keyspaces_eq rfl
    exact hnoting.trans ((s.noting q).grows_perform current q)

/-- The server some time later: no less is there, and the same fails and is asked for. -/
structure Later (s s' : Server) : Prop where
  grows : s.Grows s'
  fails : s'.fails = s.fails
  credentials : s'.credentials = s.credentials

theorem Later.refl (s : Server) : s.Later s := ⟨.refl s, rfl, rfl⟩

theorem Later.trans {s s' s'' : Server} (h : s.Later s') (h' : s'.Later s'') : s.Later s'' :=
  ⟨h.grows.trans h'.grows, h'.fails.trans h.fails, h'.credentials.trans h.credentials⟩

theorem later_receive (s : Server) (current : Option String) (q : Request) :
    s.Later (s.receive current q).2 := by
  have hgrows := s.grows_receive current q
  rw [receive_eq] at hgrows ⊢
  exact ⟨hgrows, rfl, rfl⟩

/-- The server once the keyspace that is created under a name is there. -/
def ensuringKeyspace (s : Server) (name : String) : Server :=
  match created? name with
  | some created => if (s.keyspace? created).isSome then s else s.adding created
  | none => s

/-- The server once a keyspace that is there has a table. -/
def ensuringTable (s : Server) (name : String) : Server :=
  match s.keyspace? name with
  | some none => s.setTable name []
  | _ => s

theorem isSome_keyspace?_ensuringKeyspace (s : Server) (name other : String) :
    ((s.ensuringKeyspace name).keyspace? other).isSome = true
      ↔ created? name = some other ∨ (s.keyspace? other).isSome = true := by
  rw [ensuringKeyspace]
  cases created? name with
  | none => simp
  | some created =>
    dsimp only
    split
    · rename_i hthere
      refine ⟨.inr, fun h => h.elim (fun hcreated => ?_) id⟩
      rwa [← Option.some.inj hcreated]
    · rw [isSome_keyspace?_adding, Option.some.injEq]

theorem table?_ensuringKeyspace (s : Server) (name other : String) :
    (s.ensuringKeyspace name).table? (some other) = s.table? (some other) := by
  rw [ensuringKeyspace]
  split
  · split
    · rfl
    · rw [table?_adding]
  · rfl

theorem isSome_keyspace?_ensuringTable (s : Server) (name other : String) :
    ((s.ensuringTable name).keyspace? other).isSome = (s.keyspace? other).isSome := by
  rw [ensuringTable]
  split
  · rw [isSome_keyspace?_setTable]
  · rfl

theorem isSome_table?_ensuringTable (s : Server) (name other : String) :
    ((s.ensuringTable name).table? (some other)).isSome = true
      ↔ (s.table? (some other)).isSome = true
        ∨ (other = name ∧ (s.keyspace? name).isSome = true) := by
  rcases hkeyspace : s.keyspace? name with _ | _ | table
  · simp [ensuringTable, hkeyspace]
  · have htable : s.ensuringTable name = s.setTable name [] := by rw [ensuringTable, hkeyspace]
    rw [htable, isSome_table?_setTable, hkeyspace]
  · have hthere : (s.table? (some name)).isSome = true := by simp [table?, hkeyspace]
    rw [ensuringTable, hkeyspace]
    exact ⟨.inl, fun h => h.elim id fun hname => hname.1 ▸ hthere⟩

theorem perform_createKeyspace_snd (s : Server) (current : Option String) (name : String) :
    (s.perform current (.createKeyspace name)).2 = s.ensuringKeyspace name := by
  cases hcreated : created? name with
  | none =>
    obtain ⟨failure, hperform⟩ := perform_createKeyspace_of_none hcreated s current
    rw [hperform, ensuringKeyspace, hcreated]
  | some created => rw [perform_createKeyspace_of_some hcreated, ensuringKeyspace, hcreated]

theorem perform_createTable_snd (s : Server) (name : String) :
    (s.perform (some name) .createTable).2 = s.ensuringTable name := by
  rw [perform_createTable, ensuringTable]
  rcases hkeyspace : s.keyspace? name with _ | _ | table <;> simp only [hkeyspace]

variable {s s' : Server} {current : Option String} {settings : DatabaseSettings} {q : Request}

theorem isOk_perform_createKeyspace (s : Server) (current : Option String) (name : String) :
    (s.perform current (.createKeyspace name)).1.isOk = (created? name).isSome := by
  cases hcreated : created? name with
  | none =>
    obtain ⟨failure, hperform⟩ := perform_createKeyspace_of_none hcreated s current
    rw [hperform]
    rfl
  | some created => rw [perform_createKeyspace_of_some hcreated]; rfl

theorem isOk_perform_use_cases (name : String) :
    (∀ (s : Server) (current : Option String), (s.perform current (.use name)).1.isOk = false)
      ∨ ∃ selected, ∀ (s : Server) (current : Option String),
        (s.perform current (.use name)).1.isOk = (s.keyspace? selected).isSome := by
  rcases carryOut_use_cases name with h | ⟨selected, h⟩
  · exact .inl fun s current => by rw [perform, h]; rfl
  · refine .inr ⟨selected, fun s current => ?_⟩
    rw [perform, h]
    cases (s.keyspace? selected).isSome <;> rfl

theorem isOk_perform_createTable (s : Server) (current : Option String) :
    (s.perform current .createTable).1.isOk = (current.bind s.keyspace?).isSome := by
  rw [perform_createTable]
  cases current with
  | none => rfl
  | some name =>
    rw [Option.bind_some]
    rcases hkeyspace : s.keyspace? name with _ | _ | table <;> simp only [hkeyspace] <;> rfl

theorem isOk_perform_prepare (h : q.isPrepare = true) (s : Server) (current : Option String) :
    (s.perform current q).1.isOk = (s.table? current).isSome := by
  rw [perform_prepare h]
  cases s.table? current <;> rfl

theorem Grows.table?_current (h : s.Grows s') (hthere : (s.table? current).isSome = true) :
    (s'.table? current).isSome = true := by
  cases current with
  | none => simp [table?] at hthere
  | some name => exact h.table name hthere

/-- A request that starts up and is carried out is carried out too where no less is there, and there
is no less afterwards. -/
theorem Grows.perform (h : s.Grows s') (hq : q ∈ stages settings)
    (hok : (s.perform current q).1.isOk = true) :
    (s'.perform current q).1.isOk = true
      ∧ (s.perform current q).2.Grows (s'.perform current q).2 := by
  -- to prepare a statement changes nothing; all that counts is that the table is there
  have hprepare : q.isPrepare = true → (s'.perform current q).1.isOk = true
      ∧ (s.perform current q).2.Grows (s'.perform current q).2 := by
    intro hprepare
    have hnothing : q.changesNothing = true := by
      cases q <;> simp [Request.isPrepare] at hprepare <;> rfl
    rw [isOk_perform_prepare hprepare] at hok ⊢
    rw [perform_changesNothing hnothing, perform_changesNothing hnothing]
    exact ⟨h.table?_current hok, h⟩
  cases q with
  | createKeyspace name =>
    rw [isOk_perform_createKeyspace] at hok ⊢
    rw [perform_createKeyspace_snd, perform_createKeyspace_snd]
    refine ⟨hok, fun other hother => ?_, fun other hother => ?_⟩
    · rw [isSome_keyspace?_ensuringKeyspace] at hother ⊢
      exact hother.imp_right (h.keyspace other)
    · rw [table?_ensuringKeyspace] at hother ⊢
      exact h.table other hother
  | use name =>
    rw [perform_use_snd, perform_use_snd]
    refine ⟨?_, h⟩
    rcases isOk_perform_use_cases name with hall | ⟨selected, hall⟩
    · simp [hall] at hok
    · rw [hall] at hok ⊢
      exact h.keyspace selected hok
  | createTable =>
    rw [isOk_perform_createTable] at hok ⊢
    cases current with
    | none => simp at hok
    | some name =>
      rw [Option.bind_some] at hok ⊢
      rw [perform_createTable_snd, perform_createTable_snd]
      refine ⟨h.keyspace name hok, fun other hother => ?_, fun other hother => ?_⟩
      · rw [isSome_keyspace?_ensuringTable] at hother ⊢
        exact h.keyspace other hother
      · rw [isSome_table?_ensuringTable] at hother ⊢
        exact hother.imp (h.table other) (And.imp_right (h.keyspace name))
  | prepareInsert => exact hprepare rfl
  | prepareSelect => exact hprepare rfl
  | _ =>
    rw [stages, schemaStages] at hq
    split at hq <;> simp at hq

end Server

namespace Connection

variable {c c' d : Connection} {settings : DatabaseSettings} {q : Request} {qs : List Request}

/-- A request is carried out exactly if it is sent, does not fail and is not refused. -/
theorem request_eq_ok_iff :
    c.request q = (.ok (), d)
      ↔ q.unsendable? = none ∧ c.server.fails q = none
        ∧ (c.server.perform c.current q).1.isOk = true
        ∧ d = ⟨(c.server.perform c.current q).2.recalling (c.server.received ++ [q]),
            q.selects c.current⟩ := by
  cases hsend : q.unsendable? with
  | some reason => simp [request, hsend]
  | none =>
    cases hfails : c.server.fails q with
    | some cause => simp [request, hsend, Server.receive_of_fails hfails]
    | none =>
      have hreceive : c.server.receive c.current q
          = ((c.server.perform c.current q).1,
              (c.server.perform c.current q).2.recalling (c.server.received ++ [q])) := by
        rw [Server.receive_of_carried hfails]
        exact c.server.perform_recalling (c.server.received ++ [q]) c.current q
      rw [request, hsend, hreceive]
      cases (c.server.perform c.current q).1 <;>
        simp [Except.isOk, Except.toBool, eq_comm]

/-- The second connection is to a server where no less is there, and where the same fails. -/
structure Precedes (c c' : Connection) : Prop where
  grows : c.server.Grows c'.server
  fails : c'.server.fails = c.server.fails
  current : c'.current = c.current

theorem Precedes.request (h : c.Precedes c') (hq : q ∈ stages settings)
    (hd : c.request q = (.ok (), d)) : ∃ d', c'.request q = (.ok (), d') ∧ d.Precedes d' := by
  obtain ⟨hsend, hfails, hok, rfl⟩ := request_eq_ok_iff.mp hd
  obtain ⟨hok', hgrows⟩ := h.grows.perform hq hok
  refine ⟨_, request_eq_ok_iff.mpr ⟨hsend, by rw [h.fails, hfails], by rw [h.current, hok'], rfl⟩,
    ?_, ?_, ?_⟩
  · rw [h.current]
    exact ⟨hgrows.keyspace, hgrows.table⟩
  · rw [Server.perform_eq c.server, Server.perform_eq c'.server]
    exact h.fails
  · exact congrArg (Request.selects · q) h.current

theorem Precedes.script (h : c.Precedes c') (hqs : qs ⊆ stages settings)
    (hd : c.script qs = (.ok (), d)) : ∃ d', c'.script qs = (.ok (), d') := by
  induction qs generalizing c c' with
  | nil => exact ⟨c', rfl⟩
  | cons q qs ih =>
    obtain ⟨hq, hqs⟩ := List.cons_subset.mp hqs
    rcases c.request_cases q with ⟨e, he⟩ | ⟨reason, e, he⟩
    · rw [script_cons_of_ok he] at hd
      obtain ⟨e', he', hnext⟩ := h.request hq he
      rw [script_cons_of_ok he']
      exact ih hnext hqs hd
    · simp [script_cons_of_error he] at hd

end Connection

section Start

variable {settings : DatabaseSettings} {s s' : Server}

theorem connect_eq (settings : DatabaseSettings) (s : Server) :
    ∃ received, (connect settings s).server = s.recalling received := by
  rcases connect_server settings s with hsame | hlogin
  · exact ⟨s.received, hsame⟩
  · refine ⟨s.received ++ [.login settings.user settings.password], ?_⟩
    rw [hlogin, Server.receive_eq, Server.keyspaces_receive rfl, Server.recalling]

theorem result_connect_congr (hcredentials : s'.credentials = s.credentials)
    (hfails : s'.fails = s.fails) : (connect settings s').result = (connect settings s).result := by
  rw [connect, connect, hcredentials]
  cases s.credentials with
  | none => rfl
  | some credentials =>
    cases hlogin : s.fails (.login settings.user settings.password) with
    | some cause =>
      rw [Server.receive_of_fails hlogin, Server.receive_of_fails (by rw [hfails, hlogin])]
    | none =>
      rw [Server.receive_of_carried hlogin, Server.receive_of_carried (by rw [hfails, hlogin])]
      by_cases hright : credentials = (settings.user, settings.password) <;>
        simp [Server.perform, Server.carryOut, hright]

theorem later_connect (settings : DatabaseSettings) (s : Server) :
    s.Later (connect settings s).server := by
  obtain ⟨received, hserver⟩ := connect_eq settings s
  rw [hserver]
  exact ⟨.of_keyspaces_eq rfl, rfl, rfl⟩

/-- A start that succeeds succeeds again, at any later time. -/
theorem start_again (hlater : s.Later s') (h : (start settings s).result = .ok ()) :
    (start settings s').result = .ok () := by
  obtain ⟨hconnect, -⟩ := start_ok_iff.mp h
  obtain ⟨received, hopened⟩ := connect_eq settings s
  obtain ⟨received', hopened'⟩ := connect_eq settings s'
  have hprecedes : (opened settings s).Precedes (opened settings s') := by
    rw [opened, opened, hopened, hopened']
    exact ⟨⟨hlater.grows.keyspace, hlater.grows.table⟩, hlater.fails, rfl⟩
  obtain ⟨d', hd'⟩ := hprecedes.script (List.Subset.refl _) (script_stages_of_start h)
  refine start_ok_iff.mpr ⟨?_, by rw [hd']⟩
  rw [result_connect_congr hlater.credentials hlater.fails, hconnect]

/-- A request is carried out where it is sent, does not fail and is not refused; what it makes is
there afterwards. -/
theorem Connection.exists_request_ok {c : Connection} {q : Request} (hsend : q.unsendable? = none)
    (hfails : c.server.fails q = none) (hok : (c.server.perform c.current q).1.isOk = true) :
    ∃ d, c.request q = (.ok (), d) ∧ (c.server.perform c.current q).2.Grows d.server
      ∧ d.server.fails = c.server.fails ∧ d.current = q.selects c.current := by
  refine ⟨_, request_eq_ok_iff.mpr ⟨hsend, hfails, hok, rfl⟩, .of_keyspaces_eq rfl, ?_, rfl⟩
  rw [Server.perform_eq]
  rfl

theorem isOk_perform_use {k : String} (h : Keyspace.read? k = some k) (s : Server)
    (current : Option String) :
    (s.perform current (.use k)).1.isOk = (s.keyspace? k).isSome := by
  rw [Keyspace.perform_use h]
  cases (s.keyspace? k).isSome <;> rfl

theorem unsendable?_use {k : String} (h : Keyspace.read? k = some k) :
    (Request.use k).unsendable? = none := by
  rw [Request.unsendable?, Keyspace.checkKeyspaceName_of_read? h]

theorem Connection.script_prepare_ok {c : Connection}
    (htable : (c.server.table? c.current).isSome = true)
    (hfails : ∀ q ∈ stages settings, c.server.fails q = none) :
    ∃ d, c.script [.prepareInsert, .prepareSelect] = (.ok (), d) := by
  obtain ⟨d, hd, hgrows, hsame, hcurrent⟩ := exists_request_ok (q := .prepareInsert) rfl
    (hfails _ (by simp [stages])) ((Server.isOk_perform_prepare rfl _ _).trans htable)
  have hthere : (d.server.table? d.current).isSome = true := by
    rw [hcurrent]
    exact ((c.server.grows_perform _ _).trans hgrows).table?_current htable
  obtain ⟨e, he, -⟩ := exists_request_ok (q := .prepareSelect) rfl
    (by rw [hsame]; exact hfails _ (by simp [stages]))
    ((Server.isOk_perform_prepare rfl _ _).trans hthere)
  exact ⟨e, by rw [script_cons_of_ok hd, script_cons_of_ok he, script_nil]⟩

theorem Connection.exists_request_use {c : Connection} {k : String} (h : Keyspace.read? k = some k)
    (hfails : c.server.fails (.use k) = none) (hthere : (c.server.keyspace? k).isSome = true) :
    ∃ d, c.request (.use k) = (.ok (), d) ∧ c.server.Grows d.server
      ∧ d.server.fails = c.server.fails ∧ d.current = some k := by
  obtain ⟨d, hd, hgrows, hsame⟩ := exists_request_ok (unsendable?_use h) hfails
    ((isOk_perform_use h c.server c.current).trans hthere)
  exact ⟨d, hd, (c.server.grows_perform _ _).trans hgrows, hsame⟩

/-- Under a plain name that is not reserved, the keyspace that is created is selected. -/
theorem Connection.script_select_ok {c : Connection} {k : String} (h : Keyspace.read? k = some k)
    (hfree : isReserved k = false) (hcreate : c.server.fails (.createKeyspace k) = none)
    (huse : c.server.fails (.use k) = none) :
    ∃ d, c.script [.createKeyspace k, .use k] = (.ok (), d)
      ∧ (d.server.keyspace? k).isSome = true ∧ d.server.fails = c.server.fails
      ∧ d.current = some k := by
  have hcreated : Server.created? k = some k := by
    rw [Keyspace.created?_eq h, hfree]
    rfl
  obtain ⟨d, hd, hgrows, hsame, -⟩ := exists_request_ok (c := c) (q := .createKeyspace k) rfl
    hcreate (by rw [Server.isOk_perform_createKeyspace, hcreated]; rfl)
  have hthere : (d.server.keyspace? k).isSome = true := by
    refine hgrows.keyspace k ?_
    rw [Server.perform_createKeyspace_snd, Server.isSome_keyspace?_ensuringKeyspace]
    exact .inl hcreated
  obtain ⟨e, he, hgrows', hsame', hcurrent⟩ := exists_request_use h (by rwa [hsame]) hthere
  refine ⟨e, ?_, hgrows'.keyspace k hthere, hsame'.trans hsame, hcurrent⟩
  rw [script_cons_of_ok hd, script_cons_of_ok he, script_nil]

theorem Connection.script_schema_ok {c : Connection} {k : String} (h : Keyspace.read? k = some k)
    (hfree : isReserved k = false)
    (hfails : ∀ q ∈ [Request.createKeyspace k, .use k, .createTable], c.server.fails q = none) :
    ∃ d, c.script [.createKeyspace k, .use k, .createTable] = (.ok (), d)
      ∧ (d.server.table? (some k)).isSome = true ∧ d.server.fails = c.server.fails := by
  simp only [List.forall_mem_cons] at hfails
  obtain ⟨hcreate, huse, htable, -⟩ := hfails
  obtain ⟨d, hd, hthere, hsame, hcurrent⟩ := script_select_ok h hfree hcreate huse
  obtain ⟨e, he, hgrows, hsame', -⟩ := exists_request_ok (c := d) (q := .createTable) rfl
    (by rwa [hsame]) (by rwa [Server.isOk_perform_createTable, hcurrent])
  refine ⟨e, ?_, hgrows.table k ?_, hsame'.trans hsame⟩
  · have hscript := script_append_of_ok hd [.createTable]
    rwa [script_cons_of_ok he, script_nil] at hscript
  · rw [hcurrent, Server.perform_createTable_snd, Server.isSome_table?_ensuringTable]
    exact .inr ⟨rfl, hthere⟩

theorem Connection.script_schemaStages_ok {c : Connection}
    (hname : Keyspace.read? settings.keyspace = some settings.keyspace)
    (hready : if settings.init then isReserved settings.keyspace = false
      else (c.server.table? (some settings.keyspace)).isSome = true)
    (hfails : ∀ q ∈ stages settings, c.server.fails q = none) :
    ∃ d, c.script (schemaStages settings) = (.ok (), d)
      ∧ (d.server.table? (some settings.keyspace)).isSome = true
      ∧ d.server.fails = c.server.fails := by
  have hfails' : ∀ q ∈ schemaStages settings, c.server.fails q = none :=
    fun q hq => hfails q (List.mem_append_left _ hq)
  by_cases hinit : settings.init = true
  · rw [schemaStages, if_pos hinit] at hfails' ⊢
    exact script_schema_ok hname (by rwa [if_pos hinit] at hready) hfails'
  · rw [schemaStages, if_neg hinit] at hfails' ⊢
    rw [if_neg hinit] at hready
    have hthere : (c.server.keyspace? settings.keyspace).isSome = true := by
      obtain ⟨table, htable⟩ := Option.isSome_iff_exists.mp hready
      rw [Server.keyspace?_of_table? htable]
      rfl
    obtain ⟨d, hd, hgrows, hsame, -⟩ := exists_request_use hname (hfails' _ (by simp)) hthere
    exact ⟨d, by rw [script_cons_of_ok hd, script_nil], hgrows.table _ hready, hsame⟩

/-- Where nothing fails, a start under a plain name succeeds: with the schema asked for, if the name
is not reserved, and without, if the table is there. -/
theorem start_of_plain (hname : Keyspace.read? settings.keyspace = some settings.keyspace)
    (hready : if settings.init then isReserved settings.keyspace = false
      else (s.table? (some settings.keyspace)).isSome = true)
    (hconnect : (connect settings s).result = .ok ())
    (hfails : ∀ q ∈ stages settings, s.fails q = none) : (start settings s).result = .ok () := by
  obtain ⟨received, hopened⟩ := connect_eq settings s
  have hserver : (opened settings s).server = s.recalling received := hopened
  obtain ⟨d, hd, htable, hsame⟩ := Connection.script_schemaStages_ok (c := opened settings s) hname
    (by rwa [hserver]) (by rwa [hserver])
  have hcurrent : d.current = some settings.keyspace :=
    (Connection.current_script hd).trans (selects_schemaStages settings)
  have hfails' : ∀ q ∈ stages settings, d.server.fails q = none := by rwa [hsame, hserver]
  obtain ⟨e, he⟩ := Connection.script_prepare_ok (by rwa [hcurrent]) hfails'
  refine start_ok_iff.mpr ⟨hconnect, ?_⟩
  rw [stages, Connection.script_append_of_ok hd, he]

end Start

end Messaging.Cql
