import Messaging.Proofs.Api.Layers
import Messaging.Session

/-!
The calls of the service that a step makes, directly or by a request: it sends one submission, or
gets one message, or does neither.
-/
namespace Messaging.Session

variable {σ κ : Type}

def sent? : Step κ → Option (Moment × NewMessage)
  | .send moment new => some (moment, new)
  | .request reading r => (Api.submitted? r).map fun new => (reading.moment, new)
  | _ => none

/-- The message that a step gets, and the receiver in whose partition it is. -/
def got? : Step κ → Option (Uuid × Uuid)
  | .get messageId receiverId => some (messageId, receiverId)
  | .request _ r => Api.requested? r
  | _ => none

theorem sent?_of_submitted {r : Http.Request} {new : NewMessage}
    (h : Api.submitted? r = some new) (reading : Api.Reading) :
    sent? (.request reading r : Step κ) = some (reading.moment, new) := by
  rw [sent?, h, Option.map_some]

theorem got?_of_sent? {st : Step κ} (h : (sent? st).isSome = true) : got? st = none := by
  cases st with
  | request reading r =>
    simp only [sent?, Option.isSome_map] at h
    obtain ⟨new, hnew⟩ := Option.isSome_iff_exists.mp h
    have hmethod := (Api.submitted?_eq_some_iff.mp hnew).1
    simp [got?, Api.requested?, hmethod]
  | _ => simp [sent?, got?] at h ⊢

variable [MessageStore σ] [Controlled σ κ]

theorem service_step_of_sent {st : Step κ} {moment : Moment} {new : NewMessage}
    (h : sent? st = some (moment, new)) (s : Service σ) :
    (step s st).service = (s.send moment new).state := by
  cases st with
  | send m n =>
    simp only [sent?, Option.some.injEq, Prod.mk.injEq] at h
    obtain ⟨rfl, rfl⟩ := h
    rfl
  | request reading r =>
    simp only [sent?, Option.map_eq_some_iff, Prod.mk.injEq] at h
    obtain ⟨n, hsubmitted, rfl, rfl⟩ := h
    exact (Api.handle_of_submitted hsubmitted s reading).1
  | _ => simp [sent?] at h

theorem service_step_of_got {st : Step κ} {messageId receiverId : Uuid}
    (h : got? st = some (messageId, receiverId)) (s : Service σ) :
    (step s st).service = (s.get messageId receiverId).state := by
  cases st with
  | get m r =>
    simp only [got?, Option.some.injEq, Prod.mk.injEq] at h
    obtain ⟨rfl, rfl⟩ := h
    rfl
  | request reading r => exact (Api.handle_of_requested h s reading).1
  | _ => simp [got?] at h

theorem service_request_of_none {reading : Api.Reading} {r : Http.Request}
    (hsent : sent? (.request reading r : Step κ) = none)
    (hgot : got? (.request reading r : Step κ) = none) (s : Service σ) :
    (step s (.request reading r : Step κ)).service = s :=
  (Api.handle_service s reading r).trans
    (Api.service_serve_of_none (by simpa [sent?] using hsent) hgot s reading.moment)

theorem service_step_of_none {st : Step κ} (hsent : sent? st = none) (hgot : got? st = none)
    (s : Service σ) : (step s st).service = { s with store := (step s st).service.store } := by
  cases st with
  | request reading r => rw [service_request_of_none hsent hgot]
  | send moment new => simp [sent?] at hsent
  | get messageId receiverId => simp [got?] at hgot
  | _ => rfl

theorem after_append (s : Service σ) (steps more : List (Step κ)) :
    after s (steps ++ more) = after (after s steps) more := List.foldl_append

end Messaging.Session
