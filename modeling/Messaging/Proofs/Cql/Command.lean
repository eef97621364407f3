import Messaging.Cql.Server
import Messaging.Proofs.Cql.Lexis

/-!
What the statements that are sent ask for. Three of them are always the same. Of the other two no
name makes anything else than they are: whatever stands for the name in the statement that creates a
keyspace, the statement creates a keyspace or is none, and likewise for the one that selects it.
-/
namespace Messaging.Cql

theorem read?_createTable : Command.read? Statement.createTable
    = some (.createTable true tableName .messages) := by
  decide +kernel

theorem read?_insert : Command.read? Statement.insert
    = some (.insert tableName Row.columnNames 7) := by
  decide +kernel

theorem read?_select : Command.read? Statement.select
    = some (.select Row.columnNames tableName ["receiver_id", "message_id"] (some 1)) := by
  decide +kernel

namespace Command

open Lexis

/-- What stands before the name in the statement that creates a keyspace. -/
def creationLead : List Token :=
  [.keyword "create", .keyword "keyspace", .keyword "if", .keyword "not", .identifier "exists"]

theorem readFrom_creationLead :
    readFrom .between "CREATE KEYSPACE IF NOT EXISTS ".toList = some (.between, creationLead) := by
  decide +kernel

theorem readFrom_use : readFrom .between "USE \"".toList
    = some (.quotedName [], [.keyword "use"]) := by
  decide +kernel

theorem of_ofTokens?_creationLead {rest : List Token} {c : Command}
    (h : ofTokens? (creationLead ++ rest) = some c) :
    ∃ name replication, c = .createKeyspace true name replication := by
  have hread : ofTokens? (creationLead ++ rest) = createKeyspace? (creationLead.drop 2 ++ rest) :=
    rfl
  have hlead : ifNotExists (creationLead.drop 2 ++ rest) = (true, rest) := by
    simp [creationLead, ifNotExists, after?, List.isPrefixOf?]
  rw [hread, createKeyspace?, hlead] at h
  cases rest with
  | nil => simp at h
  | cons named rest =>
    simp only [Option.bind_eq_bind, Option.bind_eq_some_iff, Option.ite_none_right_eq_some,
      Option.some.injEq, Prod.exists] at h
    obtain ⟨name, -, _, -, replication, _, -, -, rfl⟩ := h
    exact ⟨name, replication, rfl⟩

theorem of_ofTokens?_use {rest : List Token} {c : Command}
    (h : ofTokens? (.keyword "use" :: rest) = some c) : ∃ name, c = .use name := by
  have hread : ofTokens? (.keyword "use" :: rest) = use? rest := rfl
  rw [hread] at h
  cases rest with
  | nil => simp [use?] at h
  | cons named rest =>
    simp only [use?, Option.bind_eq_bind, Option.bind_eq_some_iff, Option.ite_none_right_eq_some,
      Option.some.injEq] at h
    obtain ⟨name, -, -, rfl⟩ := h
    exact ⟨name, rfl⟩

theorem exists_ofTokens?_of_read? {lead rest : String} {t : State} {out : List Token} {c : Command}
    (hlead : readFrom .between lead.toList = some (t, out)) (h : read? (lead ++ rest) = some c) :
    ∃ more, ofTokens? (out ++ more) = some c := by
  rw [read?] at h
  obtain ⟨parts, hparts, hc⟩ := Option.bind_eq_some_iff.mp h
  obtain ⟨more, rfl⟩ := prefix_of_tokens? hlead hparts
  exact ⟨more, hc⟩

end Command

/-- Whatever the name, the statement creates a keyspace unless it exists, or it is none. -/
theorem of_read?_createKeyspace {name : String} {c : Command}
    (h : Command.read? (Statement.createKeyspace name) = some c) :
    ∃ created replication, c = .createKeyspace true created replication := by
  obtain ⟨rest, hrest⟩ : ∃ rest, Statement.createKeyspace name
      = "CREATE KEYSPACE IF NOT EXISTS " ++ rest := ⟨_, String.append_assoc⟩
  rw [hrest] at h
  obtain ⟨more, hmore⟩ := Command.exists_ofTokens?_of_read? Command.readFrom_creationLead h
  exact Command.of_ofTokens?_creationLead hmore

theorem of_read?_use {name : String} {c : Command}
    (h : Command.read? (Statement.use name) = some c) : ∃ selected, c = .use selected := by
  rw [Statement.use, String.append_assoc] at h
  obtain ⟨more, hmore⟩ := Command.exists_ofTokens?_of_read? Command.readFrom_use h
  exact Command.of_ofTokens?_use hmore

end Messaging.Cql
