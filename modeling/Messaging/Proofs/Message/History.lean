import Mathlib
import Messaging.Message

/-!
Histories of saved messages. Of the messages that were saved under one receiver and identifier, one
prevails: of those with the least millisecond, the one that was saved last.
-/
namespace Messaging

namespace Message

def millis (m : Message) : Int := m.createdAt.unixNanos / 1000000

def IsOf (m : Message) (messageId receiverId : Uuid) : Prop :=
  m.receiverId = receiverId ∧ m.messageId = messageId

instance (m : Message) (messageId receiverId : Uuid) : Decidable (m.IsOf messageId receiverId) :=
  inferInstanceAs (Decidable (_ ∧ _))

/-- Of the saved messages with these identifiers, this one has the least millisecond, and was saved
last of those that have it. -/
def Prevails (saved : List Message) (messageId receiverId : Uuid) (m : Message) : Prop :=
  m.IsOf messageId receiverId ∧ ∃ earlier later, saved = earlier ++ m :: later
    ∧ (∀ n ∈ earlier, n.IsOf messageId receiverId → m.millis ≤ n.millis)
    ∧ ∀ n ∈ later, n.IsOf messageId receiverId → m.millis < n.millis

variable {saved : List Message} {messageId receiverId : Uuid} {m n : Message}

theorem Prevails.mem (h : Prevails saved messageId receiverId m) : m ∈ saved := by
  obtain ⟨-, earlier, later, rfl, -, -⟩ := h
  simp

theorem Prevails.millis_le (h : Prevails saved messageId receiverId m) (hn : n ∈ saved)
    (hof : n.IsOf messageId receiverId) : m.millis ≤ n.millis := by
  obtain ⟨-, earlier, later, rfl, hearlier, hlater⟩ := h
  simp only [List.mem_append, List.mem_cons] at hn
  rcases hn with hn | rfl | hn
  · exact hearlier n hn hof
  · exact le_rfl
  · exact (hlater n hn hof).le

theorem Prevails.unique (hm : Prevails saved messageId receiverId m)
    (hn : Prevails saved messageId receiverId n) : m = n := by
  have hmn := hm.millis_le hn.mem hn.1
  have hnm := hn.millis_le hm.mem hm.1
  obtain ⟨hmOf, before, after, rfl, -, hafter⟩ := hm
  obtain ⟨hnOf, earlier, later, hsaved, -, hlater⟩ := hn
  -- whichever of the two stands first would be strictly earlier than the other
  rcases List.append_eq_append_iff.mp hsaved with ⟨mid, -, hrest⟩ | ⟨mid, -, hrest⟩
  · cases mid with
    | nil => exact (List.cons.inj hrest).1
    | cons first mid =>
      have hmem : n ∈ after := by simp [(List.cons.inj hrest).2]
      have hlt := hafter n hmem hnOf
      omega
  · cases mid with
    | nil => exact (List.cons.inj hrest).1.symm
    | cons first mid =>
      have hmem : m ∈ later := by simp [(List.cons.inj hrest).2]
      have hlt := hlater m hmem hmOf
      omega

/-- A message that is saved later prevails no less if it is another one or has a later
millisecond. -/
theorem Prevails.append (h : Prevails saved messageId receiverId m)
    (hn : n.IsOf messageId receiverId → m.millis < n.millis) :
    Prevails (saved ++ [n]) messageId receiverId m := by
  obtain ⟨hof, earlier, later, rfl, hearlier, hlater⟩ := h
  refine ⟨hof, earlier, later ++ [n], by simp, hearlier, ?_⟩
  intro o ho hoOf
  rcases List.mem_append.mp ho with ho | ho
  · exact hlater o ho hoOf
  · rw [List.mem_singleton] at ho
    subst ho
    exact hn hoOf

/-- The message that is saved last prevails over all that have no earlier millisecond. -/
theorem prevails_append_self (hof : m.IsOf messageId receiverId)
    (h : ∀ n ∈ saved, n.IsOf messageId receiverId → m.millis ≤ n.millis) :
    Prevails (saved ++ [m]) messageId receiverId m :=
  ⟨hof, saved, [], rfl, h, by simp⟩

end Message

end Messaging
