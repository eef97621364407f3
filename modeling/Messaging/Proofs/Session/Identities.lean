import Messaging.Proofs.Session.Writes
import Messaging.Proofs.Uuid.Fields

/-!
Identifiers that a service makes along a run. Each carries the moment at which it was made, and the
clock sequence, which goes on by one for each, tells apart those of one moment. So no two of them are
the same, and no message that is sent replaces the row of another.
-/
namespace Messaging

namespace Uuid

theorem timeBased_congr {a b : Nat} (h : a % clockSequences = b % clockSequences) (ticks : Nat)
    (node : NodeId) : timeBased ticks a node = timeBased ticks b node := by
  simp only [timeBased, h]

theorem timeBased_ne {t t' a b : Nat} (ht : t < moments) (ht' : t' < moments)
    (h : t = t' → a % clockSequences ≠ b % clockSequences) (node : NodeId) :
    timeBased t a node ≠ timeBased t' b node := by
  intro heq
  have htime := congrArg timeField heq
  have hsequence := congrArg sequenceField heq
  rw [timeField_timeBased _ _ ht, timeField_timeBased _ _ ht'] at htime
  rw [sequenceField_timeBased, sequenceField_timeBased] at hsequence
  exact h htime hsequence

end Uuid

namespace Session

/-- Clock readings that fit in identifiers, do not go back, and do not repeat more often than there
are clock sequences. -/
structure Paced (ticks : List Nat) : Prop where
  inRange : ∀ t ∈ ticks, t < Uuid.moments
  sorted : ticks.Pairwise (· ≤ ·)
  spread : ∀ t, ticks.count t ≤ Uuid.clockSequences

theorem Paced.sub_lt {ticks : List Nat} (h : Paced ticks) {i j : Nat} (hij : i < j)
    (hj : j < ticks.length) (heq : ticks[i] = ticks[j]) : j - i < Uuid.clockSequences := by
  have hsorted := List.pairwise_iff_getElem.mp h.sorted
  have hblock : (ticks.drop i).take (j + 1 - i) = List.replicate (j + 1 - i) ticks[i] := by
    refine List.eq_replicate_iff.mpr ⟨by simp; omega, fun t ht => ?_⟩
    obtain ⟨k, hk, rfl⟩ := List.mem_iff_getElem.mp ht
    rw [List.length_take, List.length_drop] at hk
    rw [List.getElem_take, List.getElem_drop]
    have hlow : ticks[i] ≤ ticks[i + k] := by
      rcases Nat.eq_zero_or_pos k with rfl | hpos
      · exact le_refl _
      · exact hsorted i (i + k) (by omega) (by omega) (by omega)
    have hhigh : ticks[i + k] ≤ ticks[j] := by
      rcases Nat.lt_or_ge (i + k) j with hlt | hge
      · exact hsorted (i + k) j (by omega) hj hlt
      · exact le_of_eq (getElem_congr_idx (by omega))
    omega
  have hsublist : ((ticks.drop i).take (j + 1 - i)).Sublist ticks :=
    (List.take_sublist _ _).trans (List.drop_sublist _ _)
  have hcount := hsublist.count_le ticks[i]
  rw [hblock, List.count_replicate_self] at hcount
  have hspread := h.spread ticks[i]
  omega

section Sends

variable {σ κ : Type}

/-- The clock readings by which the identifiers of a run are made, in order. -/
def sendTicks (steps : List (Step κ)) : List Nat :=
  steps.filterMap fun st => (sent? st).map fun call => call.1.ticks

def sentMessage? (s : Service σ) (st : Step κ) : Option Message :=
  (sent? st).map fun (moment, new) => new.toMessage (s.nextId moment) moment.now

variable [MessageStore σ] [Controlled σ κ]

/-- The messages that a run sends, in order, whether they are saved or not. -/
def sentMessages (s : Service σ) : List (Step κ) → List Message
  | [] => []
  | st :: steps => (sentMessage? s st).toList ++ sentMessages (step s st).service steps

def sentIds (s : Service σ) (steps : List (Step κ)) : List Uuid :=
  (sentMessages s steps).map Message.messageId

theorem sentMessages_append (s : Service σ) (steps more : List (Step κ)) :
    sentMessages s (steps ++ more) = sentMessages s steps ++ sentMessages (after s steps) more := by
  induction steps generalizing s with
  | nil => rfl
  | cons st steps ih =>
    rw [List.cons_append, sentMessages, sentMessages, ih, after_cons, List.append_assoc]

theorem sendTicks_cons_of_sent {st : Step κ} {moment : Moment} {new : NewMessage}
    (h : sent? st = some (moment, new)) (steps : List (Step κ)) :
    sendTicks (st :: steps) = moment.ticks :: sendTicks steps := by
  simp [sendTicks, h]

theorem sentIds_cons_of_sent {st : Step κ} {moment : Moment} {new : NewMessage}
    (h : sent? st = some (moment, new)) (s : Service σ) (steps : List (Step κ)) :
    sentIds s (st :: steps) = s.nextId moment :: sentIds (step s st).service steps := by
  simp [sentIds, sentMessages, sentMessage?, h, NewMessage.toMessage]

theorem sentIds_cons_of_none {st : Step κ} (h : sent? st = none) (s : Service σ)
    (steps : List (Step κ)) :
    sentIds s (st :: steps) = sentIds (step s st).service steps := by
  simp [sentIds, sentMessages, sentMessage?, h]

theorem identity_step_of_none {st : Step κ} (h : sent? st = none) (s : Service σ) :
    (step s st).service.sequence = s.sequence ∧ (step s st).service.node = s.node := by
  cases hgot : got? st with
  | none =>
    rw [service_step_of_none h hgot]
    exact ⟨rfl, rfl⟩
  | some call =>
    rw [service_step_of_got hgot]
    exact ⟨rfl, rfl⟩

/-- Each identifier is made of the reading of its send, and the clock sequence goes on by one. -/
theorem sentIds_eq (s : Service σ) (steps : List (Step κ)) :
    sentIds s steps
      = (sendTicks steps).mapIdx fun i t => Uuid.timeBased t (s.sequence + i) s.node := by
  induction steps generalizing s with
  | nil => rfl
  | cons st steps ih =>
    cases hsent : sent? st with
    | none =>
      obtain ⟨hsequence, hnode⟩ := identity_step_of_none hsent s
      rw [sentIds_cons_of_none hsent, ih, hsequence, hnode]
      simp [sendTicks, hsent]
    | some call =>
      obtain ⟨moment, new⟩ := call
      have hnext : ∀ i, ((s.sequence + 1) % Uuid.clockSequences + i) % Uuid.clockSequences
          = (s.sequence + (i + 1)) % Uuid.clockSequences := by
        intro i
        rw [Nat.mod_add_mod, Nat.add_assoc, Nat.add_comm 1 i]
      have hids : ∀ i t, Uuid.timeBased t ((step s st).service.sequence + i) (step s st).service.node
          = Uuid.timeBased t (s.sequence + (i + 1)) s.node := by
        intro i t
        rw [service_step_of_sent hsent]
        exact Uuid.timeBased_congr (hnext i) t s.node
      rw [sentIds_cons_of_sent hsent, sendTicks_cons_of_sent hsent, List.mapIdx_cons, ih]
      simp only [hids]
      rfl

theorem nodup_sentIds {s : Service σ} {steps : List (Step κ)} (h : Paced (sendTicks steps)) :
    (sentIds s steps).Nodup := by
  rw [sentIds_eq, List.Nodup, List.pairwise_iff_getElem]
  intro i j hi hj hij
  rw [List.length_mapIdx] at hi hj
  rw [List.getElem_mapIdx, List.getElem_mapIdx]
  refine Uuid.timeBased_ne (h.inRange _ (List.getElem_mem hi)) (h.inRange _ (List.getElem_mem hj))
    (fun heq => ?_) s.node
  have hclose := h.sub_lt hij hj heq
  rw [Uuid.clockSequences] at hclose ⊢
  omega

theorem mem_savesAsked {s : Service σ} {steps : List (Step κ)} {m : Message}
    (h : m ∈ savesAsked s steps) : m ∈ sentMessages s steps ∨ Step.save m ∈ steps := by
  induction steps generalizing s with
  | nil => simp [savesAsked] at h
  | cons st steps ih =>
    rw [savesAsked, List.mem_append, Option.mem_toList] at h
    rw [sentMessages, List.mem_append, Option.mem_toList, List.mem_cons]
    rcases h with hfirst | hrest
    · cases st with
      | save n =>
        exact .inr (.inl (congrArg Step.save (Option.some.inj hfirst).symm))
      | _ => exact .inl (.inl hfirst)
    · exact (ih hrest).imp .inr .inr

end Sends

variable {σ κ : Type} [MessageStore σ] [Controlled σ κ] [TableStore σ κ]

theorem mem_rows_after {s : Service σ} {steps : List (Step κ)} {entry : RowKey × RowStore.Row σ}
    (hentry : entry ∈ TableStore.rows s.store)
    (h : ∀ m ∈ savesAsked s steps, entry.1 ≠ m.rowKey (TableStore.unit σ)) :
    entry ∈ TableStore.rows (after s steps).store := by
  induction steps generalizing s with
  | nil => exact hentry
  | cons st steps ih =>
    rw [savesAsked, List.forall_mem_append] at h
    refine ih ?_ h.2
    rcases rows_step s st with hsame | ⟨m, hasked, hwritten⟩
    · rwa [hsame]
    · rw [hwritten]
      exact Rows.mem_upsert_of_mem hentry (h.1 m (by rw [hasked]; exact List.mem_singleton_self m))

structure SendsIdentified (s : Service σ) (steps : List (Step κ)) : Prop where
  forms : ∀ u ∈ sentIds s steps,
    u.version = 1 ∧ u.isRfc4122 = true ∧ u.nodeField = s.node.bytes
  times : (sentIds s steps).map Uuid.timeField = sendTicks steps
  ordered : (sentIds s steps).Pairwise fun u v => u.timeField ≤ v.timeField
  distinct : (sentIds s steps).Nodup
  keys : ((sentMessages s steps).map fun m => m.rowKey (TableStore.unit σ)).Nodup
  /-- What was sent and saved is still there at the end, unless something else is saved under its
  key that was not sent. -/
  kept : ∀ earlier st later m, steps = earlier ++ st :: later →
    saveAnswer? (after s earlier) st = some (.ok m) →
    (∀ n, Step.save n ∈ later →
      m.rowKey (TableStore.unit σ) ≠ n.rowKey (TableStore.unit σ)) →
    (m.rowKey (TableStore.unit σ), RowStore.row m) ∈ TableStore.rows (after s steps).store

theorem mem_rows_of_saved {s : Service σ} {earlier later : List (Step κ)} {st : Step κ} {m : Message}
    (hpaced : Paced (sendTicks (earlier ++ st :: later)))
    (hsaved : saveAnswer? (after s earlier) st = some (.ok m))
    (hothers : ∀ n, Step.save n ∈ later →
      m.rowKey (TableStore.unit σ) ≠ n.rowKey (TableStore.unit σ)) :
    (m.rowKey (TableStore.unit σ), RowStore.row m)
      ∈ TableStore.rows (after s (earlier ++ st :: later)).store := by
  set t := after s earlier with ht
  obtain ⟨⟨moment, new⟩, hsent, hresult⟩ := Option.map_eq_some_iff.mp hsaved
  have hm : m = new.toMessage (t.nextId moment) moment.now :=
    @RowStore.result_save σ κ _ _ _ _ _ _ hresult
  have hmessage : sentMessage? t st = some m := by
    rw [sentMessage?, hsent, hm]
    rfl
  have hwritten : (m.rowKey (TableStore.unit σ), RowStore.row m)
      ∈ TableStore.rows (step t st).service.store := by
    rw [service_step_of_sent hsent]
    change _ ∈ TableStore.rows (MessageStore.save t.store _).state
    rw [TableStore.rows_save hresult, ← hm]
    exact Rows.mem_upsert_self _ _ _
  rw [after_append, after_cons, ← ht]
  refine mem_rows_after hwritten fun n hn => ?_
  rcases mem_savesAsked hn with hlater | hdirect
  · have hnodup := nodup_sentIds (s := s) hpaced
    rw [sentIds, sentMessages_append, ← ht, sentMessages, hmessage, Option.toList_some,
      List.singleton_append, List.map_append, List.map_cons] at hnodup
    have hfirst := (List.nodup_cons.mp hnodup.of_append_right).1
    intro hkey
    have hid : m.messageId = n.messageId := congrArg RowKey.messageId hkey
    exact hfirst (hid ▸ List.mem_map_of_mem hlater)
  · exact hothers n hdirect

theorem sendsIdentified_of_paced (s : Service σ) {steps : List (Step κ)}
    (h : Paced (sendTicks steps)) : SendsIdentified s steps := by
  have hnodup := nodup_sentIds (s := s) h
  have htimes : (sentIds s steps).map Uuid.timeField = sendTicks steps := by
    rw [sentIds_eq]
    refine List.ext_getElem (by simp) fun i _ hi => ?_
    rw [List.getElem_map, List.getElem_mapIdx]
    exact Uuid.timeField_timeBased _ _ (h.inRange _ (List.getElem_mem hi))
  exact {
    forms := by
      intro u hu
      rw [sentIds_eq, List.mem_mapIdx] at hu
      obtain ⟨i, hi, rfl⟩ := hu
      simp
    times := htimes
    ordered := by
      have hsorted := h.sorted
      rw [← htimes, List.pairwise_map] at hsorted
      exact hsorted
    distinct := hnodup
    keys := by
      have hids : sentIds s steps
          = ((sentMessages s steps).map fun m => m.rowKey (TableStore.unit σ)).map
              RowKey.messageId := by
        rw [sentIds, List.map_map]
        rfl
      exact (hids ▸ hnodup).of_map
    kept := by
      rintro earlier st later m rfl hsaved hothers
      exact mem_rows_of_saved h hsaved hothers }

/-- Over this store, what a service sends is identified, as long as its clock keeps a pace. -/
def IdentifiesSends (σ : Type) {κ : Type} [MessageStore σ] [Controlled σ κ] [TableStore σ κ] :
    Prop :=
  ∀ (s : Service σ) (steps : List (Step κ)), Paced (sendTicks steps) → SendsIdentified s steps

/-- It is so in memory and in the database. -/
theorem sends_identified : IdentifiesSends MemoryStore ∧ IdentifiesSends Cql.Repository :=
  ⟨fun s _ => sendsIdentified_of_paced s, fun s _ => sendsIdentified_of_paced s⟩

def sendAt (ticks : Nat) : Step Cql.Repository.Control :=
  .send ⟨ticks, Cql.Repository.inUtc.createdAt⟩ ⟨.nil, .nil, "told", .text⟩

/-- Two messages are sent in one moment, of which the second is not saved, and one in the next. -/
def crowdedSends : List (Step Cql.Repository.Control) :=
  [sendAt 5, .control (.fail fun _ => some .emptyPlan), sendAt 5,
    .control (.fail fun _ => none), sendAt 6]

theorem crowded_identified :
    Paced (sendTicks crowdedSends) ∧ (sentIds sampleService crowdedSends).length = 3
      ∧ (sentIds sampleService crowdedSends).Nodup
      ∧ ∃ m, saveAnswer? sampleService (sendAt 5) = some (.ok m)
        ∧ (m.rowKey 1000000, (Cql.Record.ofMessage m).row)
          ∈ TableStore.rows (after sampleService crowdedSends).store := by
  have hpaced : Paced (sendTicks crowdedSends) :=
    ⟨by decide, by decide, fun _ => List.count_le_length.trans (by decide)⟩
  have hsends := sends_identified.2 sampleService crowdedSends hpaced
  have hsaved : saveAnswer? sampleService (sendAt 5)
      = some (.ok (NewMessage.toMessage ⟨.nil, .nil, "told", .text⟩
          (.timeBased 5 0 sampleService.node) Cql.Repository.inUtc.createdAt)) :=
    congrArg some (Cql.Repository.save_of_carried rfl rfl).1
  refine ⟨hpaced, by rw [sentIds_eq]; rfl, hsends.distinct, _, hsaved, ?_⟩
  exact hsends.kept [] (sendAt 5) _ _ rfl hsaved fun n hn => by
    simp [sendAt] at hn

end Session

end Messaging
