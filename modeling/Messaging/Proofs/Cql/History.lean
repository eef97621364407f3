import Messaging.Proofs.Cql.Repository

/-!
What a history of saves leaves in the database. Which message a lookup finds is told by the history
alone: of the messages that were accepted under the looked-up identifiers, the one that prevails.
-/
namespace Messaging

namespace Cql

/-- The table is in order, and the first row of these identifiers is what the saved messages leave
of them: no row if there is no such message, and else that of the one that prevails. -/
structure Table.Holds (table : Table) (saved : List Message) (messageId receiverId : Uuid) :
    Prop where
  sorted : Rows.Sorted table
  noRow : table.firstKeyed? messageId receiverId = none →
    ∀ m ∈ saved, ¬ m.IsOf messageId receiverId
  firstRow : ∀ entry, table.firstKeyed? messageId receiverId = some entry →
    ∃ m, m.Prevails saved messageId receiverId ∧ entry = (storedKey m, (Record.ofMessage m).row)

namespace Table

variable {table : Table} {saved : List Message} {messageId receiverId : Uuid}

theorem holds_nil : Holds [] [] messageId receiverId :=
  ⟨Rows.sorted_nil, by simp, by simp [Rows.firstKeyed?]⟩

theorem Holds.upsert_of_not {m : Message} (h : Holds table saved messageId receiverId)
    (hof : ¬ m.IsOf messageId receiverId) :
    Holds (table.upsert (storedKey m) (Record.ofMessage m).row) (saved ++ [m]) messageId
      receiverId := by
  have hfirst := Rows.firstKeyed?_upsert_of_not (mt isOf_storedKey.mp hof)
    (Record.ofMessage m).row table
  refine ⟨Rows.sorted_upsert h.sorted _ _, ?_, ?_⟩
  · intro hnone n hn
    rw [hfirst] at hnone
    rcases List.mem_append.mp hn with hn | hn
    · exact h.noRow hnone n hn
    · rw [List.mem_singleton.mp hn]
      exact hof
  · intro entry hentry
    rw [hfirst] at hentry
    obtain ⟨n, hprevails, rfl⟩ := h.firstRow entry hentry
    exact ⟨n, hprevails.append fun hm => absurd hm hof, rfl⟩

theorem Holds.upsert_of {m : Message} (h : Holds table saved messageId receiverId)
    (hof : m.IsOf messageId receiverId) :
    Holds (table.upsert (storedKey m) (Record.ofMessage m).row) (saved ++ [m]) messageId
      receiverId := by
  have hfirst := Rows.firstKeyed?_upsert h.sorted (isOf_storedKey.mpr hof)
    (Record.ofMessage m).row
  refine ⟨Rows.sorted_upsert h.sorted _ _, ?_, ?_⟩
  · intro hnone
    rw [hfirst] at hnone
    cases hold : table.firstKeyed? messageId receiverId with
    | none => simp [hold] at hnone
    | some entry => simp only [hold] at hnone; split_ifs at hnone
  · intro entry hentry
    rw [hfirst] at hentry
    cases hold : table.firstKeyed? messageId receiverId with
    | none =>
      simp only [hold, Option.some.injEq] at hentry
      exact ⟨m, Message.prevails_append_self hof fun n hn hnOf =>
        absurd hnOf (h.noRow hold n hn), hentry.symm⟩
    | some old =>
      obtain ⟨n, hprevails, rfl⟩ := h.firstRow old hold
      simp only [hold, moment_storedKey] at hentry
      split_ifs at hentry with hearlier
      · exact ⟨n, hprevails.append fun _ => hearlier, (Option.some.inj hentry).symm⟩
      · refine ⟨m, Message.prevails_append_self hof fun o ho hoOf => ?_,
          (Option.some.inj hentry).symm⟩
        have hle := hprevails.millis_le ho hoOf
        omega

theorem Holds.upsert (h : Holds table saved messageId receiverId) (m : Message) :
    Holds (table.upsert (storedKey m) (Record.ofMessage m).row) (saved ++ [m]) messageId
      receiverId := by
  by_cases hof : m.IsOf messageId receiverId
  · exact h.upsert_of hof
  · exact h.upsert_of_not hof

end Table

namespace Repository

def saveAll (r : Repository) (history : List Message) : Repository :=
  history.foldl (fun r m => (r.save m).state) r

/-- The messages of a sequence of saves that the database accepted, in the order of saving. -/
def accepted (r : Repository) : List Message → List Message
  | [] => []
  | m :: history =>
    if (r.save m).result.isOk then m :: (r.save m).state.accepted history
    else (r.save m).state.accepted history

theorem saveAll_cons (r : Repository) (m : Message) (history : List Message) :
    r.saveAll (m :: history) = (r.save m).state.saveAll history := rfl

theorem accepted_cons_ok {r : Repository} {m saved : Message}
    (h : (r.save m).result = .ok saved) (history : List Message) :
    r.accepted (m :: history) = m :: (r.save m).state.accepted history := by
  rw [accepted, h]
  rfl

theorem accepted_cons_error {r : Repository} {m : Message} {e : ServiceError}
    (h : (r.save m).result = .error e) (history : List Message) :
    r.accepted (m :: history) = (r.save m).state.accepted history := by
  rw [accepted, h]
  rfl

theorem answersLookup_saveAll {r : Repository} {messageId receiverId : Uuid}
    (h : r.AnswersLookup messageId receiverId) (history : List Message) :
    (r.saveAll history).AnswersLookup messageId receiverId := by
  induction history generalizing r with
  | nil => exact h
  | cons m history ih =>
    rw [saveAll_cons]
    apply ih
    rw [AnswersLookup, canned_save, fails_save]
    exact h

/-- Whatever the table held before a sequence of saves, it holds what the accepted ones leave. -/
theorem table?_saveAll {r : Repository} {messageId receiverId : Uuid} {table : Table}
    {saved : List Message} (htable : r.table? = some table)
    (hholds : table.Holds saved messageId receiverId) (history : List Message) :
    ∃ after, (r.saveAll history).table? = some after
      ∧ Table.Holds after (saved ++ r.accepted history) messageId receiverId := by
  induction history generalizing r table saved with
  | nil => exact ⟨table, htable, by simpa [accepted] using hholds⟩
  | cons m history ih =>
    rw [saveAll_cons]
    rcases r.save_cases m with ⟨old, hold, hresult, hnew⟩ | ⟨cause, hresult, hsame⟩
    · obtain rfl : old = table := Option.some.inj (hold.symm.trans htable)
      obtain ⟨after, hafter, hleft⟩ := ih hnew (hholds.upsert m)
      refine ⟨after, hafter, ?_⟩
      rw [accepted_cons_ok hresult]
      simpa using hleft
    · obtain ⟨after, hafter, hleft⟩ := ih (hsame.trans htable) hholds
      exact ⟨after, hafter, by rwa [accepted_cons_error hresult]⟩

/-- Nothing makes the save of a message fail. -/
def Accepts (r : Repository) (m : Message) : Bool :=
  (r.server.fails (.insert (Record.ofMessage m).cells)).isNone

theorem accepted_eq_filter {r : Repository} (htable : r.table?.isSome = true)
    (history : List Message) : r.accepted history = history.filter r.Accepts := by
  induction history generalizing r with
  | nil => rfl
  | cons m history ih =>
    have hafter : (r.save m).state.Accepts = r.Accepts := by
      funext n
      rw [Accepts, fails_save, Accepts]
    have hrest := ih (table?_save_isSome htable m)
    rw [hafter] at hrest
    cases hfails : r.server.fails (.insert (Record.ofMessage m).cells) with
    | some cause =>
      have hrefused : ¬ r.Accepts m = true := by simp [Accepts, hfails]
      rw [accepted_cons_error (save_of_fails hfails).1, hrest, List.filter_cons_of_neg hrefused]
    | none =>
      have haccepted : r.Accepts m = true := by simp [Accepts, hfails]
      obtain ⟨table, htable⟩ := Option.isSome_iff_exists.mp htable
      rw [accepted_cons_ok (save_of_carried hfails htable).1, hrest,
        List.filter_cons_of_pos haccepted]

/-- What `CREATE TABLE` makes in a keyspace is an empty table. The saves into an empty table that are
accepted are those that are not made to fail. A lookup after them finds nothing exactly when no
accepted message has the identifiers, and else the one that prevails, with its time in UTC and taken
down to the millisecond. -/
theorem lookup_saveAll {r : Repository} {messageId receiverId : Uuid} (history : List Message)
    (hempty : r.table? = some []) (hanswers : r.AnswersLookup messageId receiverId)
    (hdates : ∀ m ∈ r.accepted history, m.createdAt.HasUtcDate) :
    (∀ (s : Server) (name : String), s.keyspace? name = some none →
        (s.perform (some name) .createTable).2.table? (some name) = some [])
      ∧ r.accepted history = history.filter r.Accepts
      ∧ (((r.saveAll history).lookup messageId receiverId).result = .ok none
        ↔ ∀ m ∈ r.accepted history, ¬ m.IsOf messageId receiverId)
      ∧ ((∃ m ∈ r.accepted history, m.IsOf messageId receiverId) →
        ∃ (m : Message) (time : Timestamp), m.Prevails (r.accepted history) messageId receiverId
          ∧ time.offset = .utc ∧ time.unixNanos = m.createdAt.unixNanos / 1000000 * 1000000
          ∧ ((r.saveAll history).lookup messageId receiverId).result
            = .ok (some { m with createdAt := time })) := by
  refine ⟨fun s name => Server.table?_perform_createTable,
    accepted_eq_filter (by rw [hempty]; rfl) history, ?_⟩
  have hanswersAfter := answersLookup_saveAll hanswers history
  obtain ⟨table, htable, hholds⟩ := table?_saveAll hempty Table.holds_nil history
  rw [List.nil_append] at hholds
  -- the first row decides, and the invariant tells which message it is of
  cases hfirst : table.firstKeyed? messageId receiverId with
  | none =>
    have hno := hholds.noRow hfirst
    have hresult := result_lookup_none hanswersAfter htable hfirst
    refine ⟨⟨fun _ => hno, fun _ => hresult⟩, ?_⟩
    rintro ⟨m, hm, hof⟩
    exact absurd hof (hno m hm)
  | some entry =>
    obtain ⟨m, hprevails, rfl⟩ := hholds.firstRow entry hfirst
    obtain ⟨time, htime⟩ := (hdates m hprevails.mem).ofUnixMillis?_unixMillis
    obtain ⟨hoffset, hnanos⟩ := Timestamp.utc_of_ofUnixMillis? htime
    rw [Timestamp.unixMillis_eq_unixNanos_div] at hnanos
    have hresult := result_lookup_some hanswersAfter htable
      (by rw [Rows.first?_eq_map, hfirst, Option.map_some]) htime
    refine ⟨⟨fun hnone => ?_, fun hno => absurd hprevails.1 (hno m hprevails.mem)⟩, fun _ => ?_⟩
    · rw [hresult] at hnone
      simp at hnone
    · exact ⟨m, time, hprevails, hoffset, hnanos, hresult⟩

/-- A store whose table has no rows yet, on a server that carries out every request. -/
def fresh : Repository := ⟨⟨[("chat", some [])], none, fun _ => none, none, []⟩, "chat"⟩

def lastDay : Date := ⟨1969, 12, 31, by decide, by decide, by decide⟩

def firstDay : Date := ⟨1970, 1, 1, by decide, by decide, by decide⟩

def sample (body : String) (createdAt : Timestamp) : Message :=
  ⟨.nil, .nil, .nil, body, createdAt, .text, false⟩

def inUtc : Message := sample "in UTC" ⟨lastDay, ⟨23, 59, 59, 999100000⟩, .utc⟩

def aheadOfUtc : Message :=
  sample "ahead of UTC" ⟨firstDay, ⟨1, 59, 59, 999900000⟩, ⟨7200, by decide⟩⟩

def afterwards : Message := sample "afterwards" ⟨firstDay, ⟨0, 0, 0, 0⟩, .utc⟩

/-- Two messages in the last millisecond before 1970 are one row, which holds the second of them,
and is found before that of a later millisecond. -/
theorem lookup_same_millisecond :
    ((fresh.saveAll [inUtc, aheadOfUtc, afterwards]).lookup .nil .nil).result
      = .ok (some { aheadOfUtc with
          createdAt := ⟨lastDay, ⟨23, 59, 59, 999000000⟩, .utc⟩ }) := by
  have haccepted : fresh.accepted [inUtc, aheadOfUtc, afterwards]
      = [inUtc] ++ aheadOfUtc :: [afterwards] := accepted_eq_filter rfl _
  have hdates : ∀ m ∈ fresh.accepted [inUtc, aheadOfUtc, afterwards], m.createdAt.HasUtcDate := by
    rw [haccepted]
    simp only [List.cons_append, List.nil_append, List.forall_mem_cons]
    exact ⟨Timestamp.hasUtcDate_of_utc rfl, ⟨lastDay, by decide⟩, Timestamp.hasUtcDate_of_utc rfl,
      by simp⟩
  have hmatch : ∃ m ∈ fresh.accepted [inUtc, aheadOfUtc, afterwards], m.IsOf .nil .nil :=
    ⟨inUtc, by simp [haccepted], by decide⟩
  obtain ⟨m, time, hprevails, hoffset, hnanos, hresult⟩ :=
    (lookup_saveAll [inUtc, aheadOfUtc, afterwards] rfl ⟨rfl, rfl⟩ hdates).2.2.2 hmatch
  have hahead : aheadOfUtc.Prevails (fresh.accepted [inUtc, aheadOfUtc, afterwards]) .nil .nil :=
    ⟨by decide, [inUtc], [afterwards], haccepted, by decide, by decide⟩
  obtain rfl : m = aheadOfUtc := hprevails.unique hahead
  have htime : time = ⟨lastDay, ⟨23, 59, 59, 999000000⟩, .utc⟩ :=
    Timestamp.eq_of_unixNanos hoffset (hnanos.trans (by decide))
  rw [hresult, htime]

end Repository

end Cql

end Messaging
