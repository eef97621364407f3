import Messaging.Proofs.Cql.Growth
import Messaging.Proofs.Session.Tables

/-!
Starting up twice. Whatever is asked for by a client that starts up on a keyspace, the server is
afterwards what it would have been, had the keyspace and its table been created before; so where the
table is there already, nothing changes.
-/
namespace Messaging.Cql

/-- A request that is made to start up on a keyspace: it changes nothing, or it creates the
keyspace, or the table in it. -/
def Request.StartsUp (q : Request) (name : String) (current : Option String) : Prop :=
  q.changesNothing = true ∨ q = .createKeyspace name
    ∨ (q = .createTable ∧ (current = none ∨ current = some name))

namespace Server

/-- The keyspace that is created under a name is there, and the table in the keyspace of the
name. -/
structure Made (s : Server) (name : String) : Prop where
  keyspace : ∀ created, created? name = some created → (s.keyspace? created).isSome = true
  table : (s.table? (some name)).isSome = true

theorem Made.mono {s s' : Server} {name : String} (h : s.Made name) (hgrows : s.Grows s') :
    s'.Made name :=
  ⟨fun created hcreated => hgrows.keyspace created (h.keyspace created hcreated),
    hgrows.table name h.table⟩

/-- The server once a keyspace and its table are there, each created if it was not. -/
def ensuring (s : Server) (name : String) : Server := (s.ensuringKeyspace name).ensuringTable name

theorem ensuringKeyspace_of_made {s : Server} {name : String}
    (h : ∀ created, created? name = some created → (s.keyspace? created).isSome = true) :
    s.ensuringKeyspace name = s := by
  rw [ensuringKeyspace]
  split
  · rename_i created hcreated
    rw [if_pos (h created hcreated)]
  · rfl

theorem ensuringTable_of_table {s : Server} {name : String}
    (h : (s.table? (some name)).isSome = true) : s.ensuringTable name = s := by
  obtain ⟨table, htable⟩ := Option.isSome_iff_exists.mp h
  rw [ensuringTable, keyspace?_of_table? htable]

theorem ensuring_of_made {s : Server} {name : String} (h : s.Made name) : s.ensuring name = s := by
  rw [ensuring, ensuringKeyspace_of_made h.keyspace, ensuringTable_of_table h.table]

theorem ensuring_ensuringKeyspace (s : Server) (name : String) :
    (s.ensuringKeyspace name).ensuring name = s.ensuring name := by
  rw [ensuring, ensuringKeyspace_of_made fun created hcreated =>
    (s.isSome_keyspace?_ensuringKeyspace name created).mpr (.inl hcreated), ensuring]

/-- A keyspace more does not matter to a table in another keyspace. -/
theorem setTable_adding {s : Server} {name added : String} (h : added ≠ name) (table : Table) :
    (s.adding added).setTable name table = (s.setTable name table).adding added := by
  simp [adding, setTable, h]

theorem ensuring_ensuringTable (s : Server) (name : String) :
    (s.ensuringTable name).ensuring name = s.ensuring name := by
  rcases hkeyspace : s.keyspace? name with _ | _ | table
  · rw [show s.ensuringTable name = s by rw [ensuringTable, hkeyspace]]
  · have htable : s.ensuringTable name = s.setTable name [] := by rw [ensuringTable, hkeyspace]
    have hthere : ((s.setTable name []).table? (some name)).isSome = true := by
      simp [table?, keyspace?_setTable, hkeyspace]
    rw [htable, ensuring, ensuring, ensuringKeyspace, ensuringKeyspace]
    cases hcreated : created? name with
    | none => rw [ensuringTable_of_table hthere, htable]
    | some created =>
      dsimp only
      rw [isSome_keyspace?_setTable]
      split
      · rw [ensuringTable_of_table hthere, htable]
      · rename_i habsent
        -- the keyspace of the name is there, so that it is another that is created
        have hne : created ≠ name := by
          rintro rfl
          simp [hkeyspace] at habsent
        have hafter := ((s.setTable name []).grows_adding created).table name hthere
        rw [ensuringTable_of_table hafter, ensuringTable, keyspace?_adding_of_some hkeyspace,
          setTable_adding hne]
  · rw [show s.ensuringTable name = s by rw [ensuringTable, hkeyspace]]

theorem ensuring_recalling (s : Server) (received : List Request) (name : String) :
    (s.recalling received).ensuring name = (s.ensuring name).recalling received := by
  rw [ensuring, ← perform_createKeyspace_snd _ none, perform_recalling, ← perform_createTable_snd,
    perform_recalling, perform_createKeyspace_snd, perform_createTable_snd, ensuring]

/-- Whether the schema is made ready before or after, the one server is as the other but for what it
has received; and nothing has gone. -/
structure Settles (s : Server) (name : String) (s' : Server) : Prop where
  ensuring : ∃ received, s'.ensuring name = (s.ensuring name).recalling received
  grows : s.Grows s'

variable {name : String} {s s' s'' : Server}

theorem Settles.refl (name : String) (s : Server) : s.Settles name s :=
  ⟨⟨(s.ensuring name).received, rfl⟩, .refl s⟩

theorem Settles.trans (h : s.Settles name s') (h' : s'.Settles name s'') : s.Settles name s'' := by
  obtain ⟨received, hensuring⟩ := h.ensuring
  obtain ⟨received', hensuring'⟩ := h'.ensuring
  refine ⟨⟨received', ?_⟩, h.grows.trans h'.grows⟩
  rw [hensuring', hensuring]
  rfl

/-- Where the schema has been made ready, nothing changes at all. -/
theorem Settles.keyspaces_eq (h : s.Settles name s') (hmade : s.Made name) :
    s'.keyspaces = s.keyspaces := by
  obtain ⟨received, hensuring⟩ := h.ensuring
  rw [ensuring_of_made hmade, ensuring_of_made (hmade.mono h.grows)] at hensuring
  rw [hensuring]
  rfl

theorem settles_noting (name : String) (s : Server) (q : Request) : s.Settles name (s.noting q) :=
  ⟨⟨_, s.ensuring_recalling (s.received ++ [q]) name⟩, fun _ => id, fun _ => id⟩

theorem settles_perform {q : Request} {current : Option String} (h : q.StartsUp name current)
    (s : Server) : s.Settles name (s.perform current q).2 := by
  have hgrows := s.grows_perform current q
  rcases h with hnothing | rfl | ⟨rfl, hcurrent⟩
  · rw [perform_changesNothing hnothing]
    exact .refl name s
  · rw [perform_createKeyspace_snd] at hgrows ⊢
    exact ⟨⟨_, s.ensuring_ensuringKeyspace name⟩, hgrows⟩
  · rcases hcurrent with rfl | rfl
    · rw [perform_createTable]
      exact .refl name s
    · rw [perform_createTable_snd] at hgrows ⊢
      exact ⟨⟨_, s.ensuring_ensuringTable name⟩, hgrows⟩

theorem settles_receive {q : Request} {current : Option String} (h : q.StartsUp name current)
    (s : Server) : s.Settles name (s.receive current q).2 := by
  cases hfails : s.fails q with
  | some cause =>
    rw [receive_of_fails hfails]
    exact settles_noting name s q
  | none =>
    rw [receive_of_carried hfails]
    exact (settles_noting name s q).trans (settles_perform h _)

end Server

theorem startsUp_of_mem_stages {settings : DatabaseSettings} {q : Request}
    {current : Option String} (hq : q ∈ stages settings)
    (hcurrent : current = none ∨ current = some settings.keyspace) :
    q.StartsUp settings.keyspace current
      ∧ (q.selects current = none ∨ q.selects current = some settings.keyspace) := by
  rw [stages, schemaStages] at hq
  split at hq <;>
    simp only [List.cons_append, List.nil_append, List.mem_cons, List.not_mem_nil, or_false] at hq
  · rcases hq with rfl | rfl | rfl | rfl | rfl
    · exact ⟨.inr (.inl rfl), hcurrent⟩
    · exact ⟨.inl rfl, .inr rfl⟩
    · exact ⟨.inr (.inr ⟨rfl, hcurrent⟩), hcurrent⟩
    · exact ⟨.inl rfl, hcurrent⟩
    · exact ⟨.inl rfl, hcurrent⟩
  · rcases hq with rfl | rfl | rfl
    · exact ⟨.inl rfl, .inr rfl⟩
    · exact ⟨.inl rfl, hcurrent⟩
    · exact ⟨.inl rfl, hcurrent⟩

theorem settles_connect (name : String) (settings : DatabaseSettings) (s : Server) :
    s.Settles name (connect settings s).server := by
  have hlogin : s.Settles name (s.receive none (.login settings.user settings.password)).2 :=
    Server.settles_receive (.inl rfl) s
  rcases connect_server settings s with hsame | hreceived
  · rw [hsame]
    exact .refl name s
  · rwa [hreceived]

end Messaging.Cql
