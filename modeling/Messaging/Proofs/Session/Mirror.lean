import Messaging.Proofs.Cql.Growth
import Messaging.Proofs.Session.Fetching
import Messaging.Proofs.Session.Tables

/-!
The store in memory is the store in the database. As long as every saved message has its time in UTC
and in whole milliseconds, the rows of the one are those of the other, row by row in the same order,
and so every run is answered the same over either. A time that is finer would be two rows in memory
and one in the database.
-/
namespace Messaging

section Keys

variable {m n : Message}

theorem Message.rowKey_eq_iff (hm : m.InMillis) (hn : n.InMillis) :
    m.rowKey 1 = n.rowKey 1 ↔ m.rowKey 1000000 = n.rowKey 1000000 := by
  have hm' := hm.2
  have hn' := hn.2
  simp only [rowKey, RowKey.mk.injEq, Int.ediv_one]
  constructor <;> (rintro ⟨hreceiver, hid, hmoment⟩; exact ⟨hreceiver, hid, by omega⟩)

theorem Message.before_rowKey (hm : m.InMillis) (hn : n.InMillis) :
    (m.rowKey 1).before (n.rowKey 1) = (m.rowKey 1000000).before (n.rowKey 1000000) := by
  have hm' := hm.2
  have hn' := hn.2
  rw [Bool.eq_iff_iff, RowKey.before_iff, RowKey.before_iff]
  simp only [rowKey, Int.ediv_one]
  omega

end Keys

namespace Cql

def storedRow (entry : RowKey × Message) : RowKey × Row :=
  (storedKey entry.2, (Record.ofMessage entry.2).row)

/-- The database holds the rows that are in memory, and neither store meets any failure. -/
structure Mirrors (mem : MemoryStore) (r : Repository) : Prop where
  working : mem.failing = none
  carried : ∀ q, r.server.fails q = none
  honest : r.Honest
  table : r.table? = some (mem.rows.map storedRow)
  keyed : ∀ entry ∈ mem.rows, entry.1 = MemoryStore.key entry.2 ∧ entry.2.InMillis

namespace Mirrors

variable {mem : MemoryStore} {r : Repository} {m : Message}

/-- To write in memory and then to look at the table is to write in the table. -/
theorem map_upsert (h : Mirrors mem r) (hm : m.InMillis) :
    (mem.rows.upsert (MemoryStore.key m) m).map storedRow
      = Rows.upsert (storedKey m) (Record.ofMessage m).row (mem.rows.map storedRow) := by
  refine Rows.map_upsert fun entry hentry => ?_
  obtain ⟨hkey, hn⟩ := h.keyed entry hentry
  simp only [storedRow, hkey, MemoryStore.key_eq_rowKey, storedKey_eq_rowKey]
  exact ⟨Message.rowKey_eq_iff hm hn, Message.before_rowKey hm hn⟩

theorem save (h : Mirrors mem r) (hm : m.InMillis) :
    (mem.save m).result = (r.save m).result ∧ Mirrors (mem.save m).state (r.save m).state := by
  obtain ⟨hresult, htable⟩ := Repository.save_of_carried (h.carried _) h.table
  rw [hresult]
  simp only [MemoryStore.save, h.working]
  refine ⟨trivial, rfl, fun q => ?_, (Repository.canned_save r m).trans h.honest, ?_, ?_⟩
  · rw [Repository.fails_save]
    exact h.carried q
  · rw [htable, h.map_upsert hm]
  · intro entry hentry
    rcases Rows.mem_upsert hentry with rfl | hold
    · exact ⟨rfl, hm⟩
    · exact h.keyed entry hold

theorem first? (h : Mirrors mem r) (messageId receiverId : Uuid) :
    Rows.first? messageId receiverId (mem.rows.map storedRow)
      = (mem.rows.first? messageId receiverId).map fun m => (Record.ofMessage m).row := by
  refine Rows.first?_map fun entry hentry => ⟨?_, rfl⟩
  rw [(h.keyed entry hentry).1, Bool.eq_iff_iff]
  exact isOf_storedKey.trans MemoryStore.isOf_key.symm

theorem inMillis_of_first? (h : Mirrors mem r) {messageId receiverId : Uuid}
    (hfirst : mem.rows.first? messageId receiverId = some m) : m.InMillis := by
  rw [Rows.first?_eq_map, Option.map_eq_some_iff] at hfirst
  obtain ⟨entry, hentry, rfl⟩ := hfirst
  exact (h.keyed entry (List.mem_of_find?_eq_some hentry)).2

theorem lookup (h : Mirrors mem r) (messageId receiverId : Uuid) :
    (mem.lookup messageId receiverId).result = (r.lookup messageId receiverId).result
      ∧ Mirrors (mem.lookup messageId receiverId).state (r.lookup messageId receiverId).state := by
  have hanswers : r.AnswersLookup messageId receiverId := ⟨h.honest, h.carried _⟩
  have hfirst := h.first? messageId receiverId
  constructor
  · simp only [MemoryStore.lookup, h.working]
    cases hmem : mem.rows.first? messageId receiverId with
    | none =>
      rw [hmem, Option.map_none, Rows.first?_eq_map, Option.map_eq_none_iff] at hfirst
      rw [Repository.result_lookup_none hanswers h.table hfirst]
    | some m =>
      obtain ⟨hoffset, hmillis⟩ := h.inMillis_of_first? hmem
      rw [hmem, Option.map_some] at hfirst
      rw [Repository.result_lookup_some hanswers h.table hfirst
        (Timestamp.ofUnixMillis?_unixMillis_of_utc hoffset hmillis)]
  · rw [MemoryStore.rows_lookup]
    refine ⟨h.working, fun q => ?_, ?_, ?_, h.keyed⟩
    · rw [Repository.server_lookup]
      exact h.carried q
    · rw [Repository.Honest, Repository.server_lookup]
      exact h.honest
    · rw [Repository.table?_lookup, h.table]

end Mirrors

/-- The database does as the memory does, without interference and in milliseconds. -/
theorem simulates_mirrors :
    Session.Simulates Mirrors Message.InMillis (Empty.elim : Empty → Option ServiceError)
      (Empty.elim : Empty → Repository.Control) where
  save h hm := h.save hm
  lookup messageId receiverId h := h.lookup messageId receiverId
  rowCount := by
    intro mem r h
    change mem.rows.length = (r.table?.getD []).length
    rw [h.table, Option.getD_some, List.length_map]
  control i := i.elim

/-- A database that has been started up on, and whose keyspace has no rows, is like an empty
memory. -/
theorem mirrors_of_initStore {settings : DatabaseSettings} {server : Server} {r : Repository}
    (hfails : ∀ q, server.fails q = none) (hcanned : server.canned = none)
    (hrows : server.rows settings.keyspace = [])
    (h : (initStore settings (.listening server)).1 = .ok r) : Mirrors .empty r := by
  have htable := ((orderlyStart settings server).ready r h).2.2.2
  obtain ⟨-, rfl⟩ := initStore_eq_ok_iff.mp h
  have hrowsAfter : (start settings server).server.rows settings.keyspace = [] := by
    rw [← hrows]
    exact view_start (fun s => s.rows settings.keyspace)
      (fun s => Server.rows_receive rfl s none settings.keyspace)
      (fun q hq s current => Server.rows_receive (writesNothing_of_mem_stages hq) s current _)
      server
  refine ⟨rfl, fun q => ?_, ?_, ?_, by simp [MemoryStore.empty]⟩
  · rw [view_start Server.fails (fun s => (s.receive_settings none _).1)
      (fun q _ s current => (s.receive_settings current q).1) server, hfails]
  · rw [Repository.Honest, view_start Server.canned (fun s => (s.receive_settings none _).2)
      (fun q _ s current => (s.receive_settings current q).2) server, hcanned]
  · obtain ⟨table, hsome⟩ := Option.isSome_iff_exists.mp htable
    rw [hsome]
    rw [Server.rows] at hrowsAfter
    rw [Repository.table?] at hsome
    rw [hsome, Option.getD_some] at hrowsAfter
    rw [hrowsAfter]
    rfl

end Cql

namespace Session

/-- What the step saves has its time in whole milliseconds, and what it sends is sent by a clock in
UTC. -/
def Step.InMillis {κ : Type} : Step κ → Prop
  | .save m => m.InMillis
  | .send moment _ => moment.now.offset = .utc
  | .request reading _ => reading.moment.now.offset = .utc
  | _ => True

section Runs

variable {σ κ κ' : Type}

theorem inMillis_of_saveAsked? {st : Step κ} (h : st.InMillis) (f : κ → κ') {s : Service σ}
    {m : Message} (hm : saveAsked? s (st.map f) = some m) : m.InMillis := by
  cases st with
  | save n =>
    obtain rfl : n = m := Option.some.inj hm
    exact h
  | send moment new =>
    rw [← Option.some.inj hm]
    exact new.inMillis_toMessage _ h
  | request reading r =>
    simp only [Step.map, saveAsked?, sent?, Option.map_map, Option.map_eq_some_iff] at hm
    obtain ⟨new, -, rfl⟩ := hm
    exact new.inMillis_toMessage _ h
  | _ => simp [Step.map, saveAsked?, sent?] at hm

variable [MessageStore σ] [Controlled σ κ']

theorem inMillis_of_mem_savesAsked {steps : List (Step κ)} (h : ∀ st ∈ steps, st.InMillis)
    (f : κ → κ') (s : Service σ) :
    ∀ m ∈ savesAsked s (steps.map (Step.map f)), m.InMillis := by
  induction steps generalizing s with
  | nil => simp [savesAsked]
  | cons st steps ih =>
    rw [List.forall_mem_cons] at h
    intro m hm
    simp only [List.map_cons, savesAsked, List.mem_append, Option.mem_toList] at hm
    rcases hm with hfirst | hlater
    · exact inMillis_of_saveAsked? h.1 f hfirst
    · exact ih h.2 _ m hlater

end Runs

/-- A run over the memory and the same run over a database that has just been started up on give the
same answers, and at every point the same counters and the same number of rows. -/
theorem memory_mirrors_database {settings : DatabaseSettings} {server : Cql.Server}
    {repository : Cql.Repository} (hfails : ∀ q, server.fails q = none)
    (hcanned : server.canned = none) (hempty : server.rows settings.keyspace = [])
    (hstart : (Cql.initStore settings (.listening server)).1 = .ok repository) (node : NodeId)
    (sequence : Nat) (steps : List (Step Empty)) (hmillis : ∀ st ∈ steps, st.InMillis) :
    let memory := Service.new MemoryStore.empty node sequence
    let database := Service.new repository node sequence
    (run memory (steps.map (Step.map Empty.elim))).map Outcome.answer
        = (run database (steps.map (Step.map Empty.elim))).map Outcome.answer
      ∧ ∀ earlier, earlier <+: steps →
        let inMemory := after memory (earlier.map (Step.map Empty.elim))
        let inDatabase := after database (earlier.map (Step.map Empty.elim))
        inMemory.counters = inDatabase.counters
          ∧ MessageStore.rowCount inMemory.store = MessageStore.rowCount inDatabase.store := by
  intro memory database
  have halike : Alike Cql.Mirrors memory database :=
    ⟨Cql.mirrors_of_initStore hfails hcanned hempty hstart, rfl, rfl⟩
  have hagree : ∀ part, part <+: steps →
      Agree Cql.Mirrors memory database (part.map (Step.map Empty.elim))
        (part.map (Step.map Empty.elim)) := by
    intro part hpart
    exact Cql.simulates_mirrors.agree halike part
      (inMillis_of_mem_savesAsked (fun st hst => hmillis st (hpart.subset hst)) _ memory)
  refine ⟨(hagree steps (List.prefix_refl steps)).answers, fun earlier hearlier => ?_⟩
  obtain ⟨-, hsaves, hlookups, hafter⟩ := hagree earlier hearlier
  refine ⟨?_, Cql.simulates_mirrors.rowCount hafter.store⟩
  rw [counters_after_eq_tally, counters_after_eq_tally, hsaves, hlookups]
  rfl

def sampleDatabase : DatabaseSettings := ⟨"localhost", 9042, "", "", "chat", true⟩

def bareServer : Cql.Server := ⟨[], none, fun _ => none, none, []⟩

/-- A message is submitted, another is saved and saved again, and both are looked for. -/
def sampleSteps : List (Step Empty) :=
  [.request sampleReading samplePost, .save Cql.Repository.afterwards,
    .save { Cql.Repository.afterwards with body := "once more" }, .lookup .nil .nil,
    .get .nil (Uuid.random .nil), .rowCount]

theorem sample_mirrored : ∃ repository,
    (Cql.initStore sampleDatabase (.listening bareServer)).1 = .ok repository
      ∧ (run (Service.new MemoryStore.empty sampleService.node 0)
            (sampleSteps.map (Step.map Empty.elim))).map Outcome.answer
        = (run (Service.new repository sampleService.node 0)
            (sampleSteps.map (Step.map Empty.elim))).map Outcome.answer
      ∧ MessageStore.rowCount (after (Service.new repository sampleService.node 0)
          (sampleSteps.map (Step.map Empty.elim))).store = 2 := by
  have hstart : (Cql.initStore sampleDatabase (.listening bareServer)).1
      = .ok ⟨(Cql.start sampleDatabase bareServer).server, "chat"⟩ :=
    Cql.initStore_eq_ok_iff.mpr
      ⟨Cql.start_of_plain (by decide) (by decide) rfl fun _ _ => rfl, rfl⟩
  have hmillis : ∀ st ∈ sampleSteps, st.InMillis := by
    have hsaved : Cql.Repository.afterwards.InMillis := ⟨rfl, by decide⟩
    simp only [sampleSteps, List.forall_mem_cons]
    exact ⟨rfl, hsaved, ⟨rfl, hsaved.2⟩, trivial, trivial, trivial, by simp⟩
  obtain ⟨hanswers, hpoints⟩ := memory_mirrors_database (fun _ => rfl) rfl rfl hstart
    sampleService.node 0 sampleSteps hmillis
  refine ⟨_, hstart, hanswers, ?_⟩
  rw [← (hpoints sampleSteps (List.prefix_refl _)).2]
  decide +kernel

end Session

end Messaging
