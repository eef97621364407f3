import Mathlib
import Messaging.Endpoint
import Messaging.Proofs.Text.Utf8

/-!
Places by the segments of the path. A message's place is a path of three segments after the first
slash, of which the first is `messages` and the last is not empty.
-/
namespace Messaging

namespace Endpoint

theorem after?_eq_some_iff {lead bs rest : Bytes} :
    after? lead bs = some rest ↔ bs = lead ++ rest := by
  induction lead generalizing bs with
  | nil => simp [after?]
  | cons l lead ih =>
    cases bs with
    | nil => simp [after?]
    | cons b bs =>
      by_cases hb : b = l
      · simp [after?, hb, ih]
      · simp [after?, hb]

/-- What stands between the slashes of a path, and before the first and after the last. -/
def segments (path : String) : List Bytes := (Utf8.ofString path).splitOn slash

theorem segments_eq_iff {path : String} {parts : List Bytes} (hparts : ∀ p ∈ parts, slash ∉ p)
    (hne : parts ≠ []) :
    segments path = parts ↔ Utf8.ofString path = [slash].intercalate parts := by
  constructor
  · intro h
    rw [← h, segments, List.intercalate_splitOn]
  · intro h
    rw [segments, h, List.splitOn_intercalate slash hparts hne]

theorem slash_notMem_of_mem_segments {path : String} {p : Bytes} (h : p ∈ segments path) :
    slash ∉ p := by
  rw [segments] at h
  generalize Utf8.ofString path = bs at h
  induction bs generalizing p with
  | nil =>
    rw [List.splitOn_nil, List.mem_singleton] at h
    simp [h]
  | cons b bs ih =>
    rw [List.splitOn_cons_eq_if_modifyHead] at h
    by_cases hb : b = slash
    · rw [if_pos (by simpa using hb)] at h
      rcases List.mem_cons.mp h with rfl | hrest
      · simp
      · exact ih hrest
    · rw [if_neg (by simpa using hb)] at h
      cases hparts : bs.splitOn slash with
      | nil => exact absurd hparts (List.splitOn_ne_nil slash bs)
      | cons first parts =>
        rw [hparts, List.modifyHead_cons] at h
        rcases List.mem_cons.mp h with rfl | hrest
        · have hfirst : slash ∉ first := ih (by rw [hparts]; exact List.mem_cons_self)
          simp [hfirst, Ne.symm hb]
        · exact ih (by rw [hparts]; exact List.mem_cons_of_mem _ hrest)

def messagesLead : Bytes := Utf8.ofString "/messages/"

theorem ofPath?_lead {path : String} {rest : Bytes}
    (h : Utf8.ofString path = messagesLead ++ rest) :
    ofPath? path =
      match rest.dropWhile (· ≠ slash) with
      | [] => none
      | _ :: messageId =>
        if messageId.isEmpty || messageId.contains slash then none
        else some (.message (rest.takeWhile (· ≠ slash)) messageId) := by
  have hlead : messagesLead <+: Utf8.ofString path := ⟨rest, h.symm⟩
  have hlivez : path ≠ "/livez" := by
    rintro rfl
    revert hlead
    decide
  have hmessages : path ≠ "/messages" := by
    rintro rfl
    revert hlead
    decide
  have hafter : after? (Utf8.ofString "/messages/") (Utf8.ofString path) = some rest :=
    after?_eq_some_iff.mpr h
  cases hdrop : rest.dropWhile (· ≠ slash) with
  | nil => simp only [ofPath?, if_neg hlivez, if_neg hmessages, hafter, hdrop]
  | cons b messageId => simp only [ofPath?, if_neg hlivez, if_neg hmessages, hafter, hdrop]

theorem ofPath?_of_message {path : String} {receiverId messageId : Bytes}
    (h : Utf8.ofString path = messagesLead ++ (receiverId ++ slash :: messageId))
    (hreceiver : slash ∉ receiverId) (hmessage : slash ∉ messageId) (hne : messageId ≠ []) :
    ofPath? path = some (.message receiverId messageId) := by
  have hall : ∀ b ∈ receiverId, decide (b ≠ slash) = true := by
    intro b hb
    exact decide_eq_true fun hslash => hreceiver (hslash ▸ hb)
  have hdrop : (receiverId ++ slash :: messageId).dropWhile (· ≠ slash) = slash :: messageId := by
    rw [List.dropWhile_append_of_pos hall]
    simp
  have htake : (receiverId ++ slash :: messageId).takeWhile (· ≠ slash) = receiverId := by
    rw [List.takeWhile_append_of_pos hall]
    simp
  rw [ofPath?_lead h, hdrop, htake]
  simp [hne, hmessage]

theorem message_of_ofPath? {path : String} {receiverId messageId : Bytes}
    (h : ofPath? path = some (.message receiverId messageId)) :
    Utf8.ofString path = messagesLead ++ (receiverId ++ slash :: messageId)
      ∧ slash ∉ receiverId ∧ slash ∉ messageId ∧ messageId ≠ [] := by
  by_cases hlivez : path = "/livez"
  · simp [ofPath?, hlivez] at h
  by_cases hmessages : path = "/messages"
  · simp [ofPath?, hmessages] at h
  cases hafter : after? (Utf8.ofString "/messages/") (Utf8.ofString path) with
  | none => simp [ofPath?, hlivez, hmessages, hafter] at h
  | some rest =>
    have hpath : Utf8.ofString path = messagesLead ++ rest := after?_eq_some_iff.mp hafter
    rw [ofPath?_lead hpath] at h
    cases hdrop : rest.dropWhile (· ≠ slash) with
    | nil =>
      simp only [hdrop] at h
      exact absurd h (by simp)
    | cons b tail =>
      have hhead := List.head?_dropWhile_not (fun b => decide (b ≠ slash)) rest
      rw [hdrop, List.head?_cons] at hhead
      have hb : b = slash := by simpa using hhead
      have hrest : rest = rest.takeWhile (· ≠ slash) ++ slash :: tail := by
        rw [hb] at hdrop
        rw [← hdrop, List.takeWhile_append_dropWhile]
      simp only [hdrop] at h
      split_ifs at h with hbad
      simp only [Option.some.injEq, message.injEq] at h
      obtain ⟨rfl, rfl⟩ := h
      simp only [Bool.or_eq_true, List.isEmpty_iff, List.contains_iff_mem, not_or] at hbad
      refine ⟨by rw [← hrest, hpath], ?_, hbad.2, hbad.1⟩
      intro hslash
      have hkept := List.mem_takeWhile_imp hslash
      simp at hkept

/-- A path names a message exactly if it has three segments after its first slash, `messages` and
two more of which the last is not empty. -/
theorem ofPath?_eq_message_iff {path : String} {receiverId messageId : Bytes} :
    ofPath? path = some (.message receiverId messageId)
      ↔ segments path = [[], Utf8.ofString "messages", receiverId, messageId]
        ∧ messageId ≠ [] := by
  have hmessages : slash ∉ Utf8.ofString "messages" := by decide
  have hjoin : [slash].intercalate [[], Utf8.ofString "messages", receiverId, messageId]
      = messagesLead ++ (receiverId ++ slash :: messageId) := by
    have hlead : messagesLead = slash :: (Utf8.ofString "messages" ++ [slash]) := by decide
    simp [List.intercalate, hlead]
  constructor
  · intro h
    obtain ⟨hpath, hreceiver, hmessage, hne⟩ := message_of_ofPath? h
    refine ⟨(segments_eq_iff ?_ (by simp)).mpr (by rw [hpath, hjoin]), hne⟩
    simp [hmessages, hreceiver, hmessage]
  · rintro ⟨hsegments, hne⟩
    have hfree : ∀ p ∈ segments path, slash ∉ p := fun p => slash_notMem_of_mem_segments
    rw [hsegments] at hfree
    have hreceiver : slash ∉ receiverId := hfree receiverId (by simp)
    have hmessage : slash ∉ messageId := hfree messageId (by simp)
    refine ofPath?_of_message ?_ hreceiver hmessage hne
    rw [← hjoin, ← hsegments, segments, List.intercalate_splitOn]

/-- A path that is neither the sign of life nor that of all messages names one message or nothing. -/
theorem ofPath?_of_ne {path : String} {endpoint : Endpoint} (hlivez : path ≠ "/livez")
    (hmessages : path ≠ "/messages") (h : ofPath? path = some endpoint) :
    ∃ receiverId messageId, endpoint = .message receiverId messageId := by
  cases hafter : after? (Utf8.ofString "/messages/") (Utf8.ofString path) with
  | none => simp [ofPath?, hlivez, hmessages, hafter] at h
  | some rest =>
    rw [ofPath?_lead (after?_eq_some_iff.mp hafter)] at h
    split at h
    · simp at h
    · split_ifs at h
      exact ⟨_, _, (Option.some.inj h).symm⟩

theorem ofPath?_eq_messages_iff {path : String} :
    ofPath? path = some .messages ↔ path = "/messages" := by
  constructor
  · intro h
    by_contra hmessages
    by_cases hlivez : path = "/livez"
    · simp [ofPath?, hlivez] at h
    · obtain ⟨receiverId, messageId, hmessage⟩ := ofPath?_of_ne hlivez hmessages h
      simp at hmessage
  · rintro rfl
    rfl

theorem ofPath?_eq_livez_iff {path : String} : ofPath? path = some .livez ↔ path = "/livez" := by
  constructor
  · intro h
    by_contra hlivez
    by_cases hmessages : path = "/messages"
    · simp [ofPath?, hmessages] at h
    · obtain ⟨receiverId, messageId, hmessage⟩ := ofPath?_of_ne hlivez hmessages h
      simp at hmessage
  · rintro rfl
    rfl

end Endpoint

end Messaging
