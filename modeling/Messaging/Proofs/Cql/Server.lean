import Messaging.Proofs.Cql.Command
import Messaging.Proofs.Cql.Row
import Messaging.Proofs.Except

/-!
What each request does to the database. A statement is carried out as what it is read as; whatever
it is, only keyspaces change, and what was received before plays no part.
-/
namespace Messaging.Cql

namespace Server

theorem keyspace?_setTable (s : Server) (name : String) (table : Table) (other : String) :
    (s.setTable name table).keyspace? other
      = if other = name then (s.keyspace? name).map fun _ => some table else s.keyspace? other := by
  have hkey : ((fun k : String × Option Table => decide (k.1 = other)) ∘
      fun k => if k.1 = name then (k.1, some table) else k) = fun k => decide (k.1 = other) := by
    funext k
    by_cases hk : k.1 = name <;> simp [hk]
  simp only [keyspace?, setTable, List.find?_map, hkey]
  cases hfind : s.keyspaces.find? fun k => decide (k.1 = other) with
  | none =>
    by_cases hname : other = name
    · subst hname
      rw [hfind, if_pos rfl]
      rfl
    · rw [if_neg hname]
      rfl
  | some k =>
    have hk : k.1 = other := by simpa using List.find?_some hfind
    by_cases hname : other = name
    · subst hname
      simp [hfind, hk]
    · simp [hname, hk]

theorem keyspace?_of_table? {s : Server} {name : String} {table : Table}
    (h : s.table? (some name) = some table) : s.keyspace? name = some (some table) := by
  simpa [table?, Option.join_eq_some_iff] using h

theorem exists_current_of_table? {s : Server} {current : Option String} {table : Table}
    (h : s.table? current = some table) : ∃ name, current = some name := by
  cases current with
  | none => simp [table?] at h
  | some name => exact ⟨name, rfl⟩

theorem table?_setTable {s : Server} {name : String} {old : Table}
    (h : s.table? (some name) = some old) (table : Table) :
    (s.setTable name table).table? (some name) = some table := by
  rw [table?, Option.bind_some, keyspace?_setTable, if_pos rfl, keyspace?_of_table? h]
  rfl

def noting (s : Server) (q : Request) : Server := { s with received := s.received ++ [q] }

@[simp] theorem table?_noting (s : Server) (q : Request) (current : Option String) :
    (s.noting q).table? current = s.table? current := rfl

@[simp] theorem canned_noting (s : Server) (q : Request) : (s.noting q).canned = s.canned := rfl

theorem receive_of_fails {s : Server} {q : Request} {cause : Failure} (h : s.fails q = some cause)
    (current : Option String) : s.receive current q = (.error cause, s.noting q) := by
  simp [receive, h, noting]

theorem receive_of_carried {s : Server} {q : Request} (h : s.fails q = none)
    (current : Option String) : s.receive current q = (s.noting q).perform current q := by
  simp [receive, h, noting]

variable {s after : Server} {current : Option String} {q : Request}

theorem perform_of_ok {response : Response} (h : s.carryOut current q = .ok (response, after)) :
    s.perform current q = (.ok response, after) := by
  rw [perform, h]

theorem perform_of_error {failure : Failure} (h : s.carryOut current q = .error failure) :
    s.perform current q = (.error failure, s) := by
  rw [perform, h]

theorem perform_snd_of_error {failure : Failure} (h : (s.perform current q).1 = .error failure) :
    (s.perform current q).2 = s := by
  cases hcarry : s.carryOut current q with
  | error failure => rw [perform_of_error hcarry]
  | ok done => simp [perform_of_ok hcarry] at h

theorem carryOut_eq_follow (h : ¬ ∃ user password, q = .login user password) (s : Server)
    (current : Option String) :
    s.carryOut current q
      = s.follow current q.isPrepare q.values (Command.read? q.statement) := by
  cases q with
  | login user password => exact absurd ⟨user, password, rfl⟩ h
  | _ => rfl

/-- A statement is carried out as what it is read as. -/
theorem carryOut_of_read? {c : Command} (hlogin : ¬ ∃ user password, q = .login user password)
    (h : Command.read? q.statement = some c) (s : Server) (current : Option String) :
    s.carryOut current q
      = if q.isPrepare then s.prepare current c else s.execute current q.values c := by
  rw [carryOut_eq_follow hlogin, h, follow]

theorem carryOut_of_read?_none (hlogin : ¬ ∃ user password, q = .login user password)
    (h : Command.read? q.statement = none) (s : Server) (current : Option String) :
    s.carryOut current q = .error syntaxError := by
  rw [carryOut_eq_follow hlogin, h, follow]

theorem carryOut_createTable (s : Server) (current : Option String) :
    s.carryOut current .createTable
      = (s.createTable current true tableName .messages).map fun after => (.done, after) := by
  rw [carryOut_of_read? (q := .createTable) (by simp) read?_createTable]
  rfl

/-- What the two prepared statements are read as. -/
def insertion : Command := .insert tableName Row.columnNames 7

def lookup : Command :=
  .select Row.columnNames tableName ["receiver_id", "message_id"] (some 1)

theorem misuse?_insertion : insertion.misuse? = none := by decide

theorem misuse?_lookup : lookup.misuse? = none := by decide

theorem carryOut_prepareInsert (s : Server) (current : Option String) :
    s.carryOut current .prepareInsert = s.prepare current insertion := by
  rw [carryOut_of_read? (q := .prepareInsert) (by simp) read?_insert]
  rfl

theorem carryOut_prepareSelect (s : Server) (current : Option String) :
    s.carryOut current .prepareSelect = s.prepare current lookup := by
  rw [carryOut_of_read? (q := .prepareSelect) (by simp) read?_select]
  rfl

theorem carryOut_insert (s : Server) (current : Option String) (cells : List Bytes) :
    s.carryOut current (.insert cells) = s.execute current cells insertion := by
  rw [carryOut_of_read? (q := (.insert cells)) (by simp) read?_insert]
  rfl

theorem carryOut_select (s : Server) (current : Option String) (receiverId messageId : Bytes) :
    s.carryOut current (.select receiverId messageId)
      = s.execute current [receiverId, messageId] lookup := by
  rw [carryOut_of_read? (q := (.select receiverId messageId)) (by simp) read?_select]
  rfl

theorem tableFor_of_some {name : String} {table : Table} {c : Command} (hc : c.misuse? = none)
    (h : s.table? (some name) = some table) :
    s.tableFor (some name) tableName c = .ok (name, table) := by
  simp [tableFor, h, hc]

theorem tableFor_of_none (h : s.table? current = none) (c : Command) :
    s.tableFor current tableName c = .error noTable := by
  cases current <;> simp only [tableFor, h] <;> rfl

/-- A row is written under the key in its cells. -/
theorem perform_insert {name : String} {table : Table} {row : Row} {key : RowKey}
    (htable : s.table? (some name) = some table) (hkey : row.key? = some key) :
    s.perform (some name) (.insert row.cells)
      = (.ok .done, s.setTable name (table.upsert key row)) := by
  refine perform_of_ok ?_
  have hfor := tableFor_of_some misuse?_insertion htable
  rw [insertion] at hfor
  rw [carryOut_insert, insertion, execute, hfor]
  simp [Row.ofValues?_cells, hkey, bind, Except.bind]

theorem perform_insert_noTable {name : String} (htable : s.table? (some name) = none)
    (cells : List Bytes) : s.perform (some name) (.insert cells) = (.error noTable, s) := by
  refine perform_of_error ?_
  rw [carryOut_insert, insertion, execute, tableFor_of_none htable]
  rfl

/-- A lookup is answered with a reply in place of the stored rows, or with the first row that fits,
where there is a table. -/
theorem perform_select (s : Server) (current : Option String) (messageId receiverId : Uuid) :
    s.perform current (.select (Cell.ofUuid receiverId) (Cell.ofUuid messageId))
      = (match s.canned, s.table? current with
        | some reply, _ => .ok (.rows reply)
        | none, some table => .ok (.rows ⟨Record.columns,
            ((table.first? messageId receiverId).map fun row => row.cells.map some).toList⟩)
        | none, none => .error noTable, s) := by
  cases hcanned : s.canned with
  | some reply =>
    refine perform_of_ok ?_
    simp only [carryOut_select, lookup, execute, hcanned]
  | none =>
    cases htable : s.table? current with
    | none =>
      refine perform_of_error ?_
      rw [carryOut_select, lookup, execute, hcanned]
      simp only [tableFor_of_none htable]
      rfl
    | some table =>
      obtain ⟨name, rfl⟩ := exists_current_of_table? htable
      refine perform_of_ok ?_
      have hfor := tableFor_of_some misuse?_lookup htable
      rw [lookup] at hfor
      rw [carryOut_select, lookup, execute, hcanned]
      simp only [hfor, ← Table.answer_eq]
      rfl

theorem prepare_of_some {name : String} {table : Table} {c : Command}
    (hon : c.table? = some tableName) (hc : c.misuse? = none)
    (h : s.table? (some name) = some table) : s.prepare (some name) c = .ok (.done, s) := by
  simp only [prepare, hon, tableFor_of_some hc h]
  rfl

theorem prepare_of_none {c : Command} (hon : c.table? = some tableName)
    (h : s.table? current = none) : s.prepare current c = .error noTable := by
  simp only [prepare, hon, tableFor_of_none h]
  rfl

theorem perform_prepare (h : q.isPrepare = true) (s : Server) (current : Option String) :
    s.perform current q = match s.table? current with
      | some _ => (.ok .done, s)
      | none => (.error noTable, s) := by
  obtain ⟨c, hon, hc, hcarry⟩ : ∃ c : Command, c.table? = some tableName ∧ c.misuse? = none
      ∧ s.carryOut current q = s.prepare current c := by
    cases q with
    | prepareInsert => exact ⟨insertion, rfl, misuse?_insertion, s.carryOut_prepareInsert current⟩
    | prepareSelect => exact ⟨lookup, rfl, misuse?_lookup, s.carryOut_prepareSelect current⟩
    | _ => simp [Request.isPrepare] at h
  cases htable : s.table? current with
  | none => exact perform_of_error (hcarry.trans (prepare_of_none hon htable))
  | some table =>
    obtain ⟨name, rfl⟩ := exists_current_of_table? htable
    exact perform_of_ok (hcarry.trans (prepare_of_some hon hc htable))

theorem tableFor_eq_ok {name keyspace : String} {table : Table} {c : Command}
    (h : s.tableFor current name c = .ok (keyspace, table)) :
    current = some keyspace ∧ s.table? current = some table := by
  cases htable : s.table? current with
  | none => cases current <;> simp [tableFor, htable] at h
  | some found =>
    obtain ⟨within, rfl⟩ := exists_current_of_table? htable
    simp only [tableFor, htable] at h
    split at h
    · simp at h
    · split at h <;> simp_all

theorem prepare_eq_ok {c : Command} {response : Response}
    (h : s.prepare current c = .ok (response, after)) : after = s := by
  rw [prepare] at h
  split at h
  · obtain ⟨-, -, hpair⟩ := map_eq_ok_iff.mp h
    exact (Prod.mk.inj hpair).2.symm
  · exact (Prod.mk.inj (Except.ok.inj h)).2.symm

def adding (s : Server) (name : String) : Server :=
  { s with keyspaces := s.keyspaces ++ [(name, none)] }

theorem isSome_keyspace?_adding (s : Server) (added name : String) :
    ((s.adding added).keyspace? name).isSome = true
      ↔ added = name ∨ (s.keyspace? name).isSome = true := by
  simp only [keyspace?, adding, List.find?_append]
  cases s.keyspaces.find? fun k => decide (k.1 = name) with
  | some k => simp
  | none => by_cases hname : added = name <;> simp [hname]

theorem keyspace?_adding_of_some {s : Server} {name : String} {content : Option Table}
    (h : s.keyspace? name = some content) (added : String) :
    (s.adding added).keyspace? name = some content := by
  obtain ⟨entry, hentry, rfl⟩ := Option.map_eq_some_iff.mp h
  rw [keyspace?, adding, List.find?_append, hentry]
  rfl

theorem createKeyspace_cases {ifNotExists : Bool} {name : String}
    {replication : List (String × String)}
    (h : s.createKeyspace ifNotExists name replication = .ok after) :
    after = s ∨ (s.keyspace? name = none ∧ after = s.adding name) := by
  rw [createKeyspace] at h
  split at h
  · simp at h
  · split at h
    · split at h <;> simp_all
    · rename_i hnone
      exact .inr ⟨hnone, (Except.ok.inj h).symm⟩

theorem createTable_cases {ifNotExists : Bool} {name : String} {definition : Definition}
    (h : s.createTable current ifNotExists name definition = .ok after) :
    after = s ∨ ∃ keyspace, current = some keyspace ∧ s.keyspace? keyspace = some none
      ∧ after = s.setTable keyspace [] := by
  cases current with
  | none => simp [createTable] at h
  | some keyspace =>
    simp only [createTable] at h
    split at h
    · simp at h
    · split at h
      · simp at h
      · split at h <;> simp_all
      · rename_i hnone
        exact .inr ⟨keyspace, rfl, hnone, (Except.ok.inj h).symm⟩

/-- All that a statement can do to the database: a keyspace or a table is added, or rows are put in
the place of those of the current table. -/
theorem execute_cases {values : List Bytes} {c : Command} {response : Response}
    (h : s.execute current values c = .ok (response, after)) :
    after = s ∨ (∃ name, s.keyspace? name = none ∧ after = s.adding name)
      ∨ ∃ name table, current = some name ∧ after = s.setTable name table := by
  cases c with
  | createKeyspace ifNotExists name replication =>
    obtain ⟨t, ht, hpair⟩ := map_eq_ok_iff.mp h
    obtain ⟨-, rfl⟩ := Prod.mk.inj hpair
    rcases createKeyspace_cases ht with rfl | ⟨hnone, rfl⟩
    · exact .inl rfl
    · exact .inr (.inl ⟨name, hnone, rfl⟩)
  | use name =>
    rw [execute] at h
    split at h <;> simp_all
  | createTable ifNotExists name definition =>
    obtain ⟨t, ht, hpair⟩ := map_eq_ok_iff.mp h
    obtain ⟨-, rfl⟩ := Prod.mk.inj hpair
    rcases createTable_cases ht with rfl | ⟨keyspace, hcurrent, -, rfl⟩
    · exact .inl rfl
    · exact .inr (.inr ⟨keyspace, [], hcurrent, rfl⟩)
  | insert name columns markers =>
    obtain ⟨⟨keyspace, table⟩, hfor, hwrite⟩ := except_bind_eq_ok.mp h
    obtain ⟨rfl, -⟩ := tableFor_eq_ok hfor
    dsimp only at hwrite
    split at hwrite
    · rename_i key row _
      obtain ⟨-, rfl⟩ := Prod.mk.inj (Except.ok.inj hwrite)
      exact .inr (.inr ⟨keyspace, table.upsert key row, rfl, rfl⟩)
    · simp at hwrite
  | select columns name restricted limit =>
    rw [execute] at h
    split at h
    · simp_all
    · obtain ⟨⟨keyspace, table⟩, -, hread⟩ := except_bind_eq_ok.mp h
      exact .inl (Prod.mk.inj (Except.ok.inj hread)).2.symm

theorem carryOut_cases {response : Response} (h : s.carryOut current q = .ok (response, after)) :
    after = s ∨ (∃ name, s.keyspace? name = none ∧ after = s.adding name)
      ∨ ∃ name table, current = some name ∧ after = s.setTable name table := by
  by_cases hlogin : ∃ user password, q = .login user password
  · obtain ⟨user, password, rfl⟩ := hlogin
    exact .inl (Prod.mk.inj (Except.ok.inj h)).2.symm
  · rw [carryOut_eq_follow hlogin] at h
    cases hread : Command.read? q.statement with
    | none => simp [hread, follow] at h
    | some c =>
      rw [hread, follow] at h
      split at h
      · exact .inl (prepare_eq_ok h)
      · exact execute_cases h

theorem perform_eq (s : Server) (current : Option String) (q : Request) :
    (s.perform current q).2 = { s with keyspaces := (s.perform current q).2.keyspaces } := by
  cases hcarry : s.carryOut current q with
  | error failure => rw [perform_of_error hcarry]
  | ok done =>
    rw [perform_of_ok hcarry]
    rcases carryOut_cases hcarry with hsame | ⟨name, -, hadded⟩ | ⟨name, table, -, hset⟩
    · rw [hsame]
    · rw [hadded, adding]
    · rw [hset, setTable]

/-- The server as if it had received other requests before. -/
def recalling (s : Server) (received : List Request) : Server := { s with received }

theorem prepare_recalling (s : Server) (received : List Request) (current : Option String)
    (c : Command) :
    (s.recalling received).prepare current c
      = (s.prepare current c).map fun (response, after) =>
        (response, after.recalling received) := by
  have hfor : ∀ name, (s.recalling received).tableFor current name c = s.tableFor current name c :=
    fun name => rfl
  simp only [prepare, hfor]
  split
  · rename_i name _
    cases s.tableFor current name c <;> rfl
  · rfl

/-- What was received before plays no part in what a statement does. -/
theorem execute_recalling (s : Server) (received : List Request) (current : Option String)
    (values : List Bytes) (c : Command) :
    (s.recalling received).execute current values c
      = (s.execute current values c).map fun (response, after) =>
          (response, after.recalling received) := by
  have hfor : ∀ name, (s.recalling received).tableFor current name c = s.tableFor current name c :=
    fun name => rfl
  have hkeyspace : ∀ name, (s.recalling received).keyspace? name = s.keyspace? name :=
    fun name => rfl
  cases c with
  | createKeyspace ifNotExists name replication =>
    simp only [execute, createKeyspace, hkeyspace]
    split
    · rfl
    · split
      · split <;> rfl
      · rfl
  | use name =>
    simp only [execute, hkeyspace]
    split <;> rfl
  | createTable ifNotExists name definition =>
    simp only [execute, createTable, hkeyspace]
    split
    · rfl
    · split
      · rfl
      · split
        · rfl
        · split <;> rfl
        · rfl
  | insert name columns markers =>
    rw [execute, execute, hfor]
    cases s.tableFor current name (.insert name columns markers) with
    | error failure => rfl
    | ok found =>
      simp only [bind, Except.bind]
      split <;> rfl
  | select columns name restricted limit =>
    have hcanned : (s.recalling received).canned = s.canned := rfl
    rw [execute, execute, hfor, hcanned]
    cases s.canned with
    | some reply => rfl
    | none => cases s.tableFor current name (.select columns name restricted limit) <;> rfl

theorem carryOut_recalling (s : Server) (received : List Request) (current : Option String)
    (q : Request) :
    (s.recalling received).carryOut current q
      = (s.carryOut current q).map fun (response, after) =>
        (response, after.recalling received) := by
  by_cases hlogin : ∃ user password, q = .login user password
  · obtain ⟨user, password, rfl⟩ := hlogin
    rfl
  · rw [carryOut_eq_follow hlogin, carryOut_eq_follow hlogin]
    cases Command.read? q.statement with
    | none => rfl
    | some c =>
      rw [follow, follow]
      split
      · exact s.prepare_recalling received current c
      · exact s.execute_recalling received current q.values c

theorem perform_recalling (s : Server) (received : List Request) (current : Option String)
    (q : Request) :
    (s.recalling received).perform current q
      = ((s.perform current q).1, (s.perform current q).2.recalling received) := by
  rw [perform, carryOut_recalling, perform]
  cases s.carryOut current q <;> rfl

/-- The keyspace that is created under a name unless it exists; none if the name makes no statement
that creates one. -/
def created? (name : String) : Option String :=
  match Command.read? (Statement.createKeyspace name) with
  | some (.createKeyspace _ created replication) =>
    if (List.lookup "class" replication).isNone then none else some created
  | _ => none

theorem perform_createKeyspace_of_some {name created : String} (h : created? name = some created)
    (s : Server) (current : Option String) :
    s.perform current (.createKeyspace name)
      = (.ok .done, if (s.keyspace? created).isSome then s else s.adding created) := by
  cases hread : Command.read? (Statement.createKeyspace name) with
  | none => simp [created?, hread] at h
  | some c =>
    obtain ⟨k, replication, rfl⟩ := of_read?_createKeyspace hread
    have hcarry := carryOut_of_read? (q := .createKeyspace name) (by simp) hread s current
    simp only [created?, hread, Option.ite_none_left_eq_some, Option.some.injEq] at h
    obtain ⟨hclass, rfl⟩ := h
    refine perform_of_ok (hcarry.trans ?_)
    simp only [Request.isPrepare, Bool.false_eq_true, if_false, execute, createKeyspace,
      if_neg hclass]
    cases s.keyspace? k <;> rfl

theorem perform_createKeyspace_of_none {name : String} (h : created? name = none) (s : Server)
    (current : Option String) :
    ∃ failure, s.perform current (.createKeyspace name) = (.error failure, s) := by
  cases hread : Command.read? (Statement.createKeyspace name) with
  | none =>
    have hcarry := carryOut_of_read?_none (q := .createKeyspace name) (by simp) hread s current
    exact ⟨syntaxError, perform_of_error hcarry⟩
  | some c =>
    obtain ⟨k, replication, rfl⟩ := of_read?_createKeyspace hread
    have hcarry := carryOut_of_read? (q := .createKeyspace name) (by simp) hread s current
    simp only [created?, hread, ite_eq_left_iff, reduceCtorEq, imp_false, not_not] at h
    simp only [Request.isPrepare, Bool.false_eq_true, if_false, execute, createKeyspace,
      if_pos h, Except.map] at hcarry
    exact ⟨_, perform_of_error hcarry⟩

theorem perform_createTable (s : Server) (current : Option String) :
    s.perform current .createTable = match current with
      | none => (.error (invalid "No keyspace has been specified"), s)
      | some name => match s.keyspace? name with
        | none => (.error (noKeyspace name), s)
        | some (some _) => (.ok .done, s)
        | some none => (.ok .done, s.setTable name []) := by
  have hcarry := s.carryOut_createTable current
  cases current with
  | none => exact perform_of_error hcarry
  | some name =>
    have hsuits : ¬ (tableName ≠ tableName || Definition.messages ≠ Definition.messages) = true := by
      simp
    simp only [createTable, if_neg hsuits] at hcarry
    rcases hkeyspace : s.keyspace? name with _ | _ | table <;> rw [hkeyspace] at hcarry <;>
      simp only [hkeyspace]
    · exact perform_of_error hcarry
    · exact perform_of_ok hcarry
    · exact perform_of_ok hcarry

theorem table?_perform_createTable {s : Server} {name : String} (h : s.keyspace? name = some none) :
    (s.perform (some name) .createTable).2.table? (some name) = some [] := by
  have hmade : (s.perform (some name) .createTable).2 = s.setTable name [] := by
    simp only [perform_createTable, h]
  rw [hmade, table?, Option.bind_some, keyspace?_setTable, if_pos rfl, h]
  rfl

/-- Whatever is taken for the name of the keyspace that is selected, it is looked for or it is
nothing. -/
theorem carryOut_use_cases (name : String) :
    (∀ (s : Server) (current : Option String), s.carryOut current (.use name) = .error syntaxError)
      ∨ ∃ selected, ∀ (s : Server) (current : Option String), s.carryOut current (.use name)
        = if (s.keyspace? selected).isSome then .ok (.done, s) else .error (noKeyspace selected) := by
  cases hread : Command.read? (Statement.use name) with
  | none => exact .inl (carryOut_of_read?_none (q := .use name) (by simp) hread)
  | some c =>
    obtain ⟨selected, rfl⟩ := of_read?_use hread
    exact .inr ⟨selected, carryOut_of_read? (q := .use name) (by simp) hread⟩

theorem perform_use_current (s : Server) (current : Option String) (name : String) :
    s.perform current (.use name) = s.perform none (.use name) := by
  rcases carryOut_use_cases name with h | ⟨selected, h⟩ <;> rw [perform, perform, h, h]

theorem perform_use_snd (s : Server) (current : Option String) (name : String) :
    (s.perform current (.use name)).2 = s := by
  rcases carryOut_use_cases name with h | ⟨selected, h⟩
  · rw [perform, h]
  · rw [perform, h]
    cases (s.keyspace? selected).isSome <;> rfl

theorem perform_select_snd (s : Server) (current : Option String) (receiverId messageId : Bytes) :
    (s.perform current (.select receiverId messageId)).2 = s := by
  rw [perform, carryOut_select, lookup, execute]
  cases s.canned with
  | some reply => rfl
  | none => cases s.tableFor current tableName _ <;> rfl

end Server

end Messaging.Cql
