import Messaging.Proofs.Session.Fetching
import Messaging.Proofs.Uuid.Fields

/-!
Every answer bears one identifier of its request. Nothing that serves a request gives the answer such
a header, so the one that is added at the end is the only one: the first that the request bears, as
it is, or one that is made of chance for this request.
-/
namespace Messaging.Api

open Http

theorem headerValues_handle {σ : Type} [MessageStore σ] (s : Service σ) (reading : Reading)
    (r : Request) :
    headerValues requestIdHeader (handle s reading r).response.headers
      = [requestId r reading.chance] := by
  have hserved := Unidentified.serve s reading.moment r
  rw [Unidentified, headerValues] at hserved
  simp [handle_eq, headerValues, Response.addHeader, hserved]

/-- The answer bears one identifier: the first that the request bears, byte for byte, and if it
bears none, one of version 4 that has all of its other bits from the chance of this request. -/
structure Identified (reading : Reading) (r : Request) (response : Response) : Prop where
  kept : ∀ id more, headerValues requestIdHeader r.headers = id :: more →
    headerValues requestIdHeader response.headers = [id]
  made : headerValues requestIdHeader r.headers = [] → ∃ u : Uuid,
    headerValues requestIdHeader response.headers = [Utf8.ofString u.toText]
      ∧ u.version = 4 ∧ u.isRfc4122 = true ∧ u.SameChance reading.chance

theorem identified_handle {σ : Type} [MessageStore σ] (s : Service σ) (reading : Reading)
    (r : Request) : Identified reading r (handle s reading r).response where
  kept id more h := by
    rw [headerValues_handle, requestId, Request.header?, header?_eq_head?, h, List.head?_cons,
      Option.getD_some]
  made h := by
    refine ⟨.random reading.chance, ?_, by simp, by simp, Uuid.sameChance_random _⟩
    rw [headerValues_handle, requestId, Request.header?, header?_eq_head?, h, List.head?_nil,
      Option.getD_none]

/-- Identifiers that were made for two requests are the same only if both were made of the same
chance. -/
theorem Identified.sameChance {reading reading' : Reading} {r r' : Request}
    {response response' : Response} (h : Identified reading r response)
    (h' : Identified reading' r' response') (hnone : headerValues requestIdHeader r.headers = [])
    (hnone' : headerValues requestIdHeader r'.headers = [])
    (hsame : headerValues requestIdHeader response.headers
      = headerValues requestIdHeader response'.headers) :
    reading.chance.SameChance reading'.chance := by
  obtain ⟨u, hu, -, -, hchance⟩ := h.made hnone
  obtain ⟨v, hv, -, -, hchance'⟩ := h'.made hnone'
  rw [hu, hv, List.singleton_inj] at hsame
  have hread : (Uuid.read u.toText) = Uuid.read v.toText :=
    congrArg Uuid.read (Utf8.ofString_injective hsame)
  rw [Uuid.read_toText, Uuid.read_toText, Except.ok.injEq] at hread
  exact hchance.symm.trans (hread ▸ hchance')

/-- Whatever the store, every answer to every request is identified, and identifiers are made
afresh: two requests that bear none have the same only by the same chance. -/
theorem every_answer_identified :
    (∀ {σ : Type} [MessageStore σ] (s : Service σ) (reading : Reading) (r : Request),
      Identified reading r (handle s reading r).response)
    ∧ ∀ {σ τ : Type} [MessageStore σ] [MessageStore τ] (s : Service σ) (t : Service τ)
      (reading reading' : Reading) (r r' : Request),
      headerValues requestIdHeader r.headers = [] → headerValues requestIdHeader r'.headers = [] →
      headerValues requestIdHeader (handle s reading r).response.headers
        = headerValues requestIdHeader (handle t reading' r').response.headers →
      reading.chance.SameChance reading'.chance :=
  ⟨identified_handle, fun s t reading reading' r r' =>
    (identified_handle s reading r).sameChance (identified_handle t reading' r')⟩

/-- A request that is not served, with two identifiers of which the first is no text. -/
def twiceIdentified : Request :=
  ⟨"PATCH", "/nowhere", [⟨"x-request-id", [0xFF, 0x41]⟩, ⟨"x-request-id", [0x42]⟩], []⟩

/-- The first of two identifiers comes back, also where nothing is served; a message that bears none
is given one, and the same once more by a chance that differs in the version only. -/
theorem sample_identified :
    headerValues requestIdHeader
        (handle Session.sampleService Session.sampleReading twiceIdentified).response.headers
        = [[0xFF, 0x41]]
      ∧ (∃ u : Uuid, headerValues requestIdHeader
          (handle Session.sampleService Session.sampleReading Session.samplePost).response.headers
          = [Utf8.ofString u.toText] ∧ u.version = 4)
      ∧ Uuid.SameChance .nil (.random .nil) := by
  have hnone : headerValues requestIdHeader Session.samplePost.headers = [] := by decide
  have hkept := (every_answer_identified.1 Session.sampleService Session.sampleReading
    twiceIdentified).kept [0xFF, 0x41] [[0x42]] (by decide)
  obtain ⟨u, hu, hversion, -⟩ := (every_answer_identified.1 Session.sampleService
    Session.sampleReading Session.samplePost).made hnone
  have hsame := every_answer_identified.2 Session.sampleService Session.sampleService
    Session.sampleReading { Session.sampleReading with chance := .random .nil }
    Session.samplePost Session.samplePost hnone hnone (by
      rw [headerValues_handle, headerValues_handle]
      decide +kernel)
  exact ⟨hkept, ⟨u, hu, hversion⟩, hsame⟩

end Messaging.Api
