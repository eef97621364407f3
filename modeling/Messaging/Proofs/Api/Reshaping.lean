import Messaging.Proofs.Api.Spelling
import Messaging.Proofs.Message.Acceptance

/-!
Objects in requests. What a request stores is told by the four members of a submission in its
object, each of which must occur once: in which order they come, what blanks stand between them and
what other members there are is of no account, and so nobody can tell the service an identifier, a
time or that a message has been read. What an object may not be is too long.
-/
namespace Messaging.Api

open Http Json

/-- The request posts a text of allowed length that is told to be JSON. -/
structure PostsJson (r : Request) : Prop where
  method : r.method = "POST"
  path : r.path = "/messages"
  isTaken : IsTakenForJson r
  length : r.body.length ≤ 2097152

section Storing

variable {σ : Type} [MessageStore σ]

/-- The request leads to one call, which saves what was submitted under an identifier and a time of
the service. -/
structure Stores (s : Service σ) (reading : Reading) (r : Request) (new : NewMessage) : Prop where
  calls : storeCalls s reading r
    = [.save (new.toMessage (s.nextId reading.moment) reading.moment.now)]
  store : (handle s reading r).service.store = (MessageStore.save s.store
    (new.toMessage (s.nextId reading.moment) reading.moment.now)).state

structure StoresNothing (s : Service σ) (reading : Reading) (r : Request) : Prop where
  calls : storeCalls s reading r = []
  service : (handle s reading r).service = s

variable {r : Request}

theorem PostsJson.stores (h : PostsJson r) {new : NewMessage}
    (hjson : NewMessage.ofJson r.body = .ok new) (s : Service σ) (reading : Reading) :
    Stores s reading r new := by
  have hsubmission : submission r = .ok new :=
    submission_eq_ok_iff.mpr ⟨isTakenForJson_iff.mp h.isTaken, h.length, hjson⟩
  have hsubmitted := submitted?_eq_some_iff.mpr ⟨h.method, h.path, hsubmission⟩
  refine ⟨storeCalls_of_submitted hsubmitted s reading, ?_⟩
  rw [(handle_of_submitted hsubmitted s reading).1]
  rfl

theorem PostsJson.storesNothing (h : PostsJson r) {f : Fault}
    (hjson : NewMessage.ofJson r.body = .error f) (s : Service σ) (reading : Reading) :
    StoresNothing s reading r := by
  have hrefused := refused_of_submission h.method h.path
    (submission_of_fault h.isTaken h.length hjson) s reading
  exact ⟨hrefused.calls, hrefused.service⟩

theorem PostsJson.alike {r' : Request} (h : PostsJson r) (h' : PostsJson r')
    (hjson : ∀ new, NewMessage.ofJson r'.body = .ok new ↔ NewMessage.ofJson r.body = .ok new)
    (s s' : Service σ) (reading reading' : Reading) :
    (StoresNothing s reading r ∧ StoresNothing s' reading' r')
      ∨ ∃ new, Stores s reading r new ∧ Stores s' reading' r' new := by
  cases hread : NewMessage.ofJson r.body with
  | ok new => exact .inr ⟨new, h.stores hread s reading, h'.stores ((hjson new).mpr hread) s' reading'⟩
  | error f =>
    cases hread' : NewMessage.ofJson r'.body with
    | ok new =>
      have hsame := (hjson new).mp hread'
      rw [hread] at hsame
      cases hsame
    | error f' => exact .inl ⟨h.storesNothing hread s reading, h'.storesNothing hread' s' reading'⟩

end Storing

/-- The documents are objects with the same members, but for their order, blanks, and members that
no submission has. -/
def ReshapedText (document document' : Bytes) : Prop :=
  ∃ entries entries', WritesObject entries document ∧ WritesObject entries' document'
    ∧ Spelled entries ∧ Spelled entries' ∧ Reshaped entries entries'

theorem ReshapedText.ofJson_iff {document document' : Bytes} (h : ReshapedText document document')
    (new : NewMessage) :
    NewMessage.ofJson document' = .ok new ↔ NewMessage.ofJson document = .ok new := by
  obtain ⟨entries, entries', hwrites, hwrites', hspelled, hspelled', hreshaped⟩ := h
  rw [NewMessage.ofJson_eq_ok_iff hwrites hspelled, NewMessage.ofJson_eq_ok_iff hwrites' hspelled',
    hreshaped.submits_iff]

/-- An object is a submission exactly if the four members of one occur in it once, and it is the
submission of their values. Nothing else in it, nor its order or blanks, changes whether it is one
or which, nor what is stored of it. -/
theorem objects_submitted :
    (∀ document, IsObjectText document → ∃ entries, WritesObject entries document)
      ∧ (∀ entries document, WritesObject entries document → Spelled entries → ∀ new,
        NewMessage.ofJson document = .ok new ↔ Submits entries new)
      ∧ (∀ document document', ReshapedText document document' → ∀ new,
        NewMessage.ofJson document' = .ok new ↔ NewMessage.ofJson document = .ok new)
      ∧ ∀ (σ : Type) [MessageStore σ] (s s' : Service σ) (reading reading' : Reading)
        (r r' : Request), PostsJson r → PostsJson r' → ReshapedText r.body r'.body →
          (StoresNothing s reading r ∧ StoresNothing s' reading' r')
            ∨ ∃ new, Stores s reading r new ∧ Stores s' reading' r' new :=
  ⟨fun _ => exists_writesObject, fun _ _ h hnames _ => NewMessage.ofJson_eq_ok_iff h hnames,
    fun _ _ h => h.ofJson_iff,
    fun _ _ s s' reading reading' _ _ h h' hreshaped =>
      h.alike h' hreshaped.ofJson_iff s s' reading reading'⟩

theorem reshapedText_textObject {w w' : Bytes} (hw : IsBlanks w) (hw' : IsBlanks w')
    {texts texts' : List (String × String)} (more : List (String × String))
    (h : texts'.Perm (texts ++ more))
    (hmore : ∀ p ∈ more, ∀ m ∈ NewMessage.shape.members, p.1 ≠ m.name) :
    ReshapedText (textObject w texts) (textObject w' texts') := by
  have hspells : ∀ p : String × String,
      StringLiteral.Spells (Entry.written p.1 (isValue_string p.2)).name p.1 := fun p =>
    StringLiteral.spells_flatMap_escapeByte p.1
  have hspelled : ∀ texts : List (String × String),
      Spelled (texts.map fun p => .written p.1 (isValue_string p.2)) := fun texts =>
    List.forall_mem_map.mpr fun p _ => ⟨p.1, hspells p⟩
  refine ⟨_, _, writesObject_textObject hw texts, writesObject_textObject hw' texts',
    hspelled texts, hspelled texts', more.map fun p => .written p.1 (isValue_string p.2), ?_,
    List.forall_mem_map.mpr fun p hp m hm hname => ?_⟩
  · rw [← List.map_append]
    exact h.map _
  · exact hmore p hp m hm ((hspells p).unique hname)

/-- The texts of the sample submission the other way round, after some that no submission has. -/
def presumptuousTexts : List (String × String) :=
  [("hasRead", "yes"), ("messageId", "mine"), ("hasRead", "no")]
    ++ (sampleTexts letteredId.toText bracedSpelling).reverse

def presumptuousPost : Request :=
  withBody Session.samplePost (textObject [0x20] presumptuousTexts)

/-- What a client says of the identifier of a message, or that it has been read, is of no account. -/
theorem presumptuousPost_stored :
    (∃ new, Stores Session.sampleService Session.sampleReading
          (spacedPost 0 letteredId.toText bracedSpelling) new
        ∧ Stores Session.sampleService Session.sampleReading presumptuousPost new)
      ∧ ∃ entries new, WritesObject entries presumptuousPost.body ∧ Submits entries new := by
  have hreshaped : ReshapedText (spacedPost 0 letteredId.toText bracedSpelling).body
      presumptuousPost.body :=
    reshapedText_textObject (isBlanks_replicate 0) (isBlanks_replicate 1)
      [("hasRead", "yes"), ("messageId", "mine"), ("hasRead", "no")] (by decide +kernel) (by decide)
  have hposts : PostsJson (spacedPost 0 letteredId.toText bracedSpelling) :=
    ⟨rfl, rfl, isTakenForJson_iff.mpr (by decide +kernel), by decide +kernel⟩
  have hposts' : PostsJson presumptuousPost :=
    ⟨rfl, rfl, isTakenForJson_iff.mpr (by decide +kernel), by decide +kernel⟩
  constructor
  · obtain ⟨hnothing, -⟩ | hstores := objects_submitted.2.2.2 Cql.Repository Session.sampleService
      Session.sampleService Session.sampleReading Session.sampleReading _ _ hposts hposts' hreshaped
    · have hcalls : (storeCalls Session.sampleService Session.sampleReading
          (spacedPost 0 letteredId.toText bracedSpelling)).isEmpty = false := by
        decide +kernel
      rw [hnothing.calls] at hcalls
      cases hcalls
    · exact hstores
  · obtain ⟨-, entries, -, hwrites, -, hspelled, -⟩ := hreshaped
    cases hjson : NewMessage.ofJson presumptuousPost.body with
    | ok new =>
      exact ⟨entries, new, hwrites, (objects_submitted.2.1 _ _ hwrites hspelled new).mp hjson⟩
    | error f =>
      have hread : (NewMessage.ofJson presumptuousPost.body).toOption.isSome = true := by
        decide +kernel
      rw [hjson] at hread
      cases hread

/-- Blanks may tell: too many of them make a body too long, and nothing is stored of it. -/
theorem blanks_tell_where_too_long :
    ¬ ∀ (s : Service MemoryStore) (reading : Reading) (r : Request) (body : Bytes),
      r.method = "POST" → r.path = "/messages" → IsTakenForJson r → ReshapedText r.body body →
        storeCalls s reading (withBody r body) = storeCalls s reading r := by
  intro h
  have htype : IsTakenForJson (spacedPost 0 letteredId.toText letteredId.toText) :=
    isTakenForJson_iff.mpr (by decide +kernel)
  have hreshaped : ReshapedText (spacedPost 0 letteredId.toText letteredId.toText).body
      (spacedPost 2097152 letteredId.toText letteredId.toText).body :=
    reshapedText_textObject (isBlanks_replicate 0) (isBlanks_replicate _) [] (by simp) (by simp)
  have hcalls := h (.new .empty Session.sampleService.node 0) Session.sampleReading
    (spacedPost 0 letteredId.toText letteredId.toText) _ rfl rfl htype hreshaped
  have htooLarge :
      2097152 < (spacedPost 2097152 letteredId.toText letteredId.toText).body.length := by
    have hlength : (spacedPost 0 letteredId.toText letteredId.toText).body.length = 134 := by
      decide +kernel
    rw [length_spacedPost, hlength]
    decide
  have hrefused := refused_of_submission rfl rfl
    (submission_of_tooLarge (r := spacedPost 2097152 letteredId.toText letteredId.toText) htype
      htooLarge)
    (.new .empty Session.sampleService.node 0 : Service MemoryStore) Session.sampleReading
  have hsome : (storeCalls (.new .empty Session.sampleService.node 0 : Service MemoryStore)
      Session.sampleReading (spacedPost 0 letteredId.toText letteredId.toText)).isEmpty
        = false := by
    decide +kernel
  rw [← hcalls] at hsome
  exact absurd (hrefused.calls ▸ hsome) (by decide)

end Messaging.Api
