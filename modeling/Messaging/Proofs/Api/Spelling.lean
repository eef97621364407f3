import Messaging.Proofs.Api.Submission
import Messaging.Proofs.Message.Members

/-!
Spellings of identifiers in requests. In a path as in a body an identifier may be spelled in any of
its ways, and the request is served as if it had been spelled as its text; answers show nothing but
texts. What a body may not be is too long, and a longer spelling may make it so.
-/
namespace Messaging

open Json

/-- The text of a value is a string that spells the identifier. -/
def SpellsValue (v : Bytes) (u : Uuid) : Prop :=
  ∃ contents s, v = 0x22 :: (contents ++ [0x22])
    ∧ alone StringLiteral.read (contents ++ [0x22]) = .ok s ∧ Uuid.Spells s u

def SameIdentifier (v v' : Bytes) : Prop := v = v' ∨ ∃ u, SpellsValue v u ∧ SpellsValue v' u

/-- The members of a submission that are identifiers. -/
def Member.IsParty (m : Member) : Prop := m = .senderId ∨ m = .receiverId

/-- The entries are the same, but for the spelling of an identifier in them. -/
def Entry.Respelled (e e' : Entry) : Prop :=
  e.name = e'.name ∧ (e.value = e'.value
    ∨ ∃ m : Member, m.IsParty ∧ e.nameText = .ok m.name ∧ SameIdentifier e.value e'.value)

/-- The documents are the same, but for blanks and the spellings of the sender and the receiver. A
submission that is a list has these first. -/
inductive Respelled : (document document' : Bytes) → Prop
  | object {entries entries' : List Entry} {document document' : Bytes} :
    List.Forall₂ Entry.Respelled entries entries' → WritesObject entries document →
    WritesObject entries' document' → Respelled document document'
  | list {sender sender' receiver receiver' : Element} {more : List Element}
    {document document' : Bytes} : SameIdentifier sender.text sender'.text →
    SameIdentifier receiver.text receiver'.text →
    WritesList (sender :: receiver :: more) document →
    WritesList (sender' :: receiver' :: more) document' → Respelled document document'

theorem spellsValue_string {s : String} {u : Uuid} (h : Uuid.Spells s u) :
    SpellsValue (string s) u :=
  ⟨_, s, rfl, alone_flatMap_escapeByte s, h⟩

def textObject (w : Bytes) (texts : List (String × String)) : Bytes :=
  w ++ object (texts.map fun p => member p.1 (string p.2))

theorem writesObject_textObject {w : Bytes} (hw : IsBlanks w) (texts : List (String × String)) :
    WritesObject (texts.map fun p => .written p.1 (isValue_string p.2)) (textObject w texts) :=
  @writesObject_object _ Prod.fst (fun p => string p.2) (fun p => isValue_string p.2) w hw texts

theorem respelled_textObject {w w' : Bytes} (hw : IsBlanks w) (hw' : IsBlanks w')
    {texts texts' : List (String × String)}
    (h : List.Forall₂ (fun p p' => p = p' ∨ ∃ (m : Member) (u : Uuid), m.IsParty ∧ p.1 = m.name
      ∧ p'.1 = m.name ∧ Uuid.Spells p.2 u ∧ Uuid.Spells p'.2 u) texts texts') :
    Respelled (textObject w texts) (textObject w' texts') := by
  refine .object ?_ (writesObject_textObject hw texts) (writesObject_textObject hw' texts')
  rw [List.forall₂_map_left_iff, List.forall₂_map_right_iff]
  refine h.imp ?_
  rintro ⟨name, text⟩ ⟨name', text'⟩ (hsame | ⟨m, u, hm, hname, hname', hspells, hspells'⟩)
  · rw [hsame]
    exact ⟨rfl, .inl rfl⟩
  · dsimp only at hname hname' hspells hspells'
    subst hname hname'
    exact ⟨rfl, .inr ⟨m, hm, Entry.nameText_written _ _,
      .inr ⟨u, spellsValue_string hspells, spellsValue_string hspells'⟩⟩⟩

theorem alone_of_spellsValue {v : Bytes} {u : Uuid} (h : SpellsValue v u) (wanted : String) :
    alone (readSpelled wanted Uuid.ofDocumentText) v = .ok u := by
  obtain ⟨contents, s, rfl, hread, hspells⟩ := h
  have hspell : Uuid.ofDocumentText s = .ok u := by
    rw [Uuid.ofDocumentText, Uuid.read_eq_ok_iff.mpr hspells]
    rfl
  exact alone_readSpelled ((alone_readText wanted _).trans hread) hspell

theorem alone_congr {m : Member} (hm : m.IsParty) {v v' : Bytes} (h : SameIdentifier v v') :
    alone (readMember m) v = alone (readMember m) v' := by
  rcases h with rfl | ⟨u, hv, hv'⟩
  · rfl
  · rcases hm with rfl | rfl <;>
      exact (alone_of_spellsValue hv _).trans (alone_of_spellsValue hv' _).symm

theorem ofName?_of_isParty {m : Member} (h : m.IsParty) :
    Member.ofName? NewMessage.shape.members m.name = some m := by
  rcases h with rfl | rfl <;> decide

theorem take_congr {e e' : Entry} (h : e.Respelled e') (d : Draft) :
    d.take NewMessage.shape e = d.take NewMessage.shape e' := by
  obtain ⟨hname, hvalue⟩ := h
  have hnameText : e.nameText = e'.nameText := by rw [Entry.nameText, hname, Entry.nameText]
  rcases hvalue with hvalue | ⟨m, hm, hparty, hsame⟩
  · obtain rfl : e = e' := by
      cases e
      cases e'
      simp_all
    rfl
  · rw [Draft.take, Draft.take, ← hnameText, hparty, ok_bind, ok_bind, Draft.takeNamed,
      Draft.takeNamed, ofName?_of_isParty hm]
    simp only [Entry.valueOf, alone_congr hm hsame]

/-- Respelled documents hold the same submission, or have the same fault, if maybe not in the same
place. -/
theorem Respelled.unplaced_ofJson {document document' : Bytes} (h : Respelled document document') :
    unplaced (NewMessage.ofJson document) = unplaced (NewMessage.ofJson document') := by
  rw [NewMessage.ofJson, NewMessage.ofJson]
  cases h with
  | @object entries entries' _ _ hentries hdocument hdocument' =>
    have htake : ∀ d, entries.foldlM (Draft.take NewMessage.shape) d
        = entries'.foldlM (Draft.take NewMessage.shape) d := by
      clear hdocument hdocument'
      induction hentries with
      | nil => exact fun d => rfl
      | cons hentry _ ih =>
        intro d
        rw [List.foldlM_cons, List.foldlM_cons, take_congr hentry d]
        exact congrArg _ (funext ih)
    rw [unplaced_readDocument_object hdocument, unplaced_readDocument_object hdocument', recordOf,
      recordOf, htake]
  | list hsender hreceiver hdocument hdocument' =>
    rw [unplaced_readDocument_list hdocument, unplaced_readDocument_list hdocument',
      recordOfElements, recordOfElements]
    simp only [NewMessage.shape, Draft.takeElements, Element.valueOf,
      alone_congr (.inl rfl) hsender, alone_congr (.inr rfl) hreceiver]

namespace Api

open Http

def withBody (r : Request) (body : Bytes) : Request := { r with body }

def placed (text : String) (line column : Nat) : Bytes :=
  Utf8.ofString (text ++ " at line " ++ toString line ++ " column " ++ toString column)

/-- The answers are the same, but that their texts may end in other lines and columns. -/
structure SameButForPlace (response response' : Response) : Prop where
  status : response.status = response'.status
  headers : response.headers = response'.headers
  body : response.body = response'.body ∨ ∃ text line column line' column',
    response.body = placed text line column ∧ response'.body = placed text line' column'

theorem SameButForPlace.refl (response : Response) : SameButForPlace response response :=
  ⟨rfl, rfl, .inl rfl⟩

theorem exists_messageWithPath (f : Fault) : ∃ text : String, ∀ (f' : Fault) (document : Bytes),
    f'.unplaced = f.unplaced → ∃ line column : Nat, f'.messageWithPath document
      = text ++ " at line " ++ toString line ++ " column " ++ toString column := by
  refine ⟨(if (pathText f.path).isEmpty then "" else pathText f.path ++ ": ") ++ f.problem.message,
    fun f' document h => ?_⟩
  obtain ⟨hproblem, hpath⟩ := Fault.unplaced_eq_iff.mp h
  set place := Fault.position (document.take (document.length - f'.rest.length)) with hplace
  refine ⟨place.1, place.2, ?_⟩
  rw [Fault.messageWithPath, Fault.message, hproblem, hpath, ← hplace]
  simp only [String.append_assoc]

theorem sameButForPlace_text (status : Status) (lead : String) {f f' : Fault}
    (h : f.unplaced = f'.unplaced) (document document' : Bytes) :
    SameButForPlace (.text status (lead ++ f.messageWithPath document))
      (.text status (lead ++ f'.messageWithPath document')) := by
  obtain ⟨text, htext⟩ := exists_messageWithPath f
  obtain ⟨line, column, hplace⟩ := htext f document rfl
  obtain ⟨line', column', hplace'⟩ := htext f' document' h.symm
  refine ⟨rfl, rfl, .inr ⟨lead ++ text, line, column, line', column', ?_, ?_⟩⟩
  · rw [hplace, placed]
    simp only [String.append_assoc]
    rfl
  · rw [hplace', placed]
    simp only [String.append_assoc]
    rfl

theorem sameButForPlace_faultResponse {f f' : Fault} (h : f.unplaced = f'.unplaced)
    (r r' : Request) : SameButForPlace (faultResponse r f) (faultResponse r' f') := by
  rw [faultResponse, faultResponse, ← (Fault.unplaced_eq_iff.mp h).1]
  cases f.problem <;> exact sameButForPlace_text _ _ h _ _

/-- Respelling a body of allowed length changes nothing of what is submitted, and little of how it
is refused. -/
theorem submission_withBody {r : Request} {body : Bytes} (h : Respelled r.body body)
    (hlength : r.body.length ≤ 2097152) (hlength' : body.length ≤ 2097152) :
    submission (withBody r body) = submission r
      ∨ ∃ response response', submission (withBody r body) = .error response
        ∧ submission r = .error response' ∧ SameButForPlace response response' := by
  by_cases htype : IsTakenForJson r
  · have htype' : IsTakenForJson (withBody r body) := htype
    rcases ok_or_error_of_unplaced_eq h.unplaced_ofJson with
      ⟨new, hread, hread'⟩ | ⟨f, f', hread, hread', hsame⟩
    · have hsubmission : submission r = .ok new :=
        submission_eq_ok_iff.mpr ⟨isTakenForJson_iff.mp htype, hlength, hread⟩
      have hsubmission' : submission (withBody r body) = .ok new :=
        submission_eq_ok_iff.mpr ⟨isTakenForJson_iff.mp htype', hlength', hread'⟩
      exact .inl (hsubmission'.trans hsubmission.symm)
    · exact .inr ⟨_, _, submission_of_fault htype' hlength' hread',
        submission_of_fault htype hlength hread, sameButForPlace_faultResponse hsame.symm _ _⟩
  · have htype' : ¬ IsTakenForJson (withBody r body) := htype
    rw [submission_of_not_isTakenForJson htype, submission_of_not_isTakenForJson htype']
    exact .inl rfl

variable {σ : Type} [MessageStore σ]

theorem SameButForPlace.addHeader {response response' : Response}
    (h : SameButForPlace response response') (name : String) (value : Bytes) :
    SameButForPlace (response.addHeader name value) (response'.addHeader name value) where
  status := h.status
  headers := by rw [Response.addHeader, Response.addHeader, h.headers]
  body := h.body

theorem handle_withBody {r : Request} {body : Bytes}
    (h : submission (withBody r body) = submission r) (s : Service σ) (reading : Reading) :
    handle s reading (withBody r body) = handle s reading r := by
  have hsubmit : submit s reading.moment (withBody r body) = submit s reading.moment r := by
    rw [submit, submit, h]
  have hserve : serve s reading.moment (withBody r body) = serve s reading.moment r := by
    simp only [serve, hsubmit]
    rfl
  simp only [handle_eq, hserve]
  rfl

theorem serve_withBody_of_ne {r : Request} (h : r.path ≠ "/messages") (body : Bytes)
    (s : Service σ) (moment : Moment) : serve s moment (withBody r body) = serve s moment r := by
  have hplace : Endpoint.ofPath? (withBody r body).path = Endpoint.ofPath? r.path := rfl
  simp only [serve, hplace]
  cases hendpoint : Endpoint.ofPath? r.path with
  | none => rfl
  | some endpoint =>
    cases endpoint with
    | messages => exact absurd (Endpoint.ofPath?_eq_messages_iff.mp hendpoint) h
    | livez => rfl
    | message receiverId messageId => rfl

theorem handle_withBody_refused {r : Request} {body : Bytes} {response response' : Response}
    (hmethod : r.method = "POST") (h : submission (withBody r body) = .error response)
    (h' : submission r = .error response') (hsame : SameButForPlace response response')
    (s : Service σ) (reading : Reading) :
    (handle s reading (withBody r body)).service = (handle s reading r).service
      ∧ SameButForPlace (handle s reading (withBody r body)).response
        (handle s reading r).response := by
  have hserve : (serve s reading.moment (withBody r body)).service
        = (serve s reading.moment r).service
      ∧ SameButForPlace (serve s reading.moment (withBody r body)).response
        (serve s reading.moment r).response := by
    by_cases hpath : r.path = "/messages"
    · have hplace : Endpoint.ofPath? r.path = some .messages :=
        Endpoint.ofPath?_eq_messages_iff.mpr hpath
      have hplace' : Endpoint.ofPath? (withBody r body).path = some .messages := hplace
      have hmethod' : (withBody r body).method = "POST" := hmethod
      simpa [serve, hplace, hplace', hmethod, hmethod', Endpoint.accepts, submit, h, h'] using hsame
    · rw [serve_withBody_of_ne hpath]
      exact ⟨rfl, .refl _⟩
  rw [handle_eq, handle_eq]
  exact ⟨hserve.1, hserve.2.addHeader _ _⟩

/-- An answer with a message shows its identifiers as their texts. -/
def ShowsMessage (body : Bytes) : Prop :=
  ∃ (m : Message) (createdAt : String), body = Json.object [
    Json.member "messageId" (Json.string m.messageId.toText),
    Json.member "senderId" (Json.string m.senderId.toText),
    Json.member "receiverId" (Json.string m.receiverId.toText),
    Json.member "msgBody" (Json.string m.body),
    Json.member "createdAt" (Json.string createdAt),
    Json.member "msgType" (Json.string m.type.name),
    Json.member "hasRead" (Json.flag m.hasRead)]

theorem showsMessage_of_toJson {m : Message} {body : Bytes} (h : m.toJson = .ok body) :
    ShowsMessage body := by
  rw [Message.toJson] at h
  cases hwrite : Timestamp.Rfc3339.write m.createdAt with
  | error e =>
    rw [hwrite] at h
    simp [Except.map] at h
  | ok createdAt =>
    rw [hwrite] at h
    exact ⟨m, createdAt, (Except.ok.inj h).symm⟩

theorem showsMessage_of_answerTo {r : Request} {chance : Uuid}
    {result : Except ServiceError Message} (hmethod : r.method ≠ "HEAD")
    (hstatus : (answerTo r chance result).status = .created
      ∨ (answerTo r chance result).status = .ok) :
    ShowsMessage (answerTo r chance result).body := by
  cases result with
  | error e =>
    rw [status_answerTo_of_error] at hstatus
    cases e <;> simp [ServiceError.status] at hstatus
  | ok m =>
    cases hbody : m.toJson with
    | ok body =>
      rw [(answerTo_of_ok hmethod hbody chance).2]
      exact showsMessage_of_toJson hbody
    | error e =>
      simp [answerTo, hmethod, resultResponse, messageResponse, hbody, Response.text,
        Response.withBody, Response.addHeader] at hstatus

theorem requested?_of_ok {s : Service σ} {reading : Reading} {r : Request} (hmethod : r.method = "GET")
    (hlivez : r.path ≠ "/livez") (h : (handle s reading r).response.status = .ok) :
    requested? r ≠ none := by
  intro hrequested
  rw [status_handle] at h
  cases hplace : Endpoint.ofPath? r.path with
  | none => simp [serve, hplace, Response.empty] at h
  | some endpoint =>
    by_cases haccepts : endpoint.accepts r.method = true
    · rw [(serve_of_accepts hplace haccepts s reading.moment).2] at h
      cases endpoint with
      | livez => exact hlivez (Endpoint.ofPath?_eq_livez_iff.mp hplace)
      | messages => simp [Endpoint.accepts, hmethod] at haccepts
      | message receiverText messageText =>
        obtain ⟨response, events, hstatus, -, hfetch⟩ :=
          fetch_of_none (uuidOf?_eq_none_of_requested hrequested (.inl hmethod) hplace)
        rw [servedAt, hfetch, hstatus] at h
        simp at h
    · simp [serve, hplace, haccepts, Response.empty, Response.addHeader] at h

/-- How a request is served does not depend on how it spells identifiers. -/
structure IgnoresSpelling (σ : Type) [MessageStore σ] : Prop where
  /-- A message is fetched by any path that spells its receiver and itself. -/
  fetched : ∀ (s : Service σ) (reading reading' : Reading) (r r' : Request) (p q : String)
    (receiverId messageId : Uuid), r.method = "GET" → r'.method = "GET" →
    r.path = "/messages/" ++ p ++ "/" ++ q → SpellsInPath (Utf8.ofString p) receiverId →
    SpellsInPath (Utf8.ofString q) messageId → r'.path = messagePath receiverId messageId →
    (handle s reading r).response.status = (handle s reading' r').response.status
      ∧ (handle s reading r).response.body = (handle s reading' r').response.body
      ∧ (handle s reading r).service = (handle s reading' r').service
  /-- What is respelled and still of allowed length is stored the same and answered the same, but
  that the place of a fault in it may be another. -/
  submitted : ∀ (s : Service σ) (reading : Reading) (r : Request) (body : Bytes),
    r.method = "POST" → Respelled r.body body → r.body.length ≤ 2097152 → body.length ≤ 2097152 →
    (handle s reading (withBody r body)).service = (handle s reading r).service
      ∧ SameButForPlace (handle s reading (withBody r body)).response
        (handle s reading r).response
      ∧ (submitted? r ≠ none → handle s reading (withBody r body) = handle s reading r)
  /-- An answer that tells a message shows its identifiers as their texts. -/
  shown : ∀ (s : Service σ) (reading : Reading) (r : Request),
    (handle s reading r).response.status = .created
      ∨ r.method = "GET" ∧ r.path ≠ "/livez" ∧ (handle s reading r).response.status = .ok →
    ShowsMessage (handle s reading r).response.body

theorem ignoresSpelling (σ : Type) [MessageStore σ] : IgnoresSpelling σ where
  fetched s reading reading' r r' p q receiverId messageId hr hr' hpath hp hq hpath' := by
    have hbytes : Utf8.ofString r.path = Endpoint.messagesLead
        ++ (Utf8.ofString p ++ Endpoint.slash :: Utf8.ofString q) := by
      rw [hpath, Utf8.ofString_append, Utf8.ofString_append, Utf8.ofString_append]
      simp only [List.append_assoc]
      rfl
    have hrequested := requested?_of_spellsInPath (.inl hr) hbytes hp hq
    have hrequested' := requested?_messagePath (.inl hr') hpath'
    obtain ⟨hservice, hresponse⟩ := handle_of_requested hrequested s reading
    obtain ⟨hservice', hresponse'⟩ := handle_of_requested hrequested' s reading'
    rw [hservice, hservice', hresponse, hresponse']
    simp [answerTo, hr, hr', Response.addHeader]
  submitted s reading r body hmethod hrespelled hlength hlength' := by
    rcases submission_withBody hrespelled hlength hlength' with
      hsame | ⟨response, response', hrefused, hrefused', hsame⟩
    · have hhandle := handle_withBody hsame s reading
      rw [hhandle]
      exact ⟨rfl, .refl _, fun _ => rfl⟩
    · obtain ⟨hservice, hresponse⟩ := handle_withBody_refused hmethod hrefused hrefused' hsame s
        reading
      refine ⟨hservice, hresponse, fun hsome => ?_⟩
      obtain ⟨new, hnew⟩ := Option.ne_none_iff_exists'.mp hsome
      have hsubmission := (submitted?_eq_some_iff.mp hnew).2.2
      rw [hrefused'] at hsubmission
      exact absurd hsubmission (by simp)
  shown s reading r h := by
    rcases h with hcreated | ⟨hmethod, hlivez, hok⟩
    · obtain ⟨new, m, body, hsubmitted, hsend, hbody⟩ :=
        submitted?_of_created ((status_handle s reading r).symm.trans hcreated)
      have hhead : r.method ≠ "HEAD" := by simp [(submitted?_eq_some_iff.mp hsubmitted).1]
      rw [(handle_of_submitted hsubmitted s reading).2] at hcreated ⊢
      exact showsMessage_of_answerTo hhead (.inl hcreated)
    · obtain ⟨⟨messageId, receiverId⟩, hrequested⟩ :=
        Option.ne_none_iff_exists'.mp (requested?_of_ok hmethod hlivez hok)
      have hhead : r.method ≠ "HEAD" := by simp [hmethod]
      rw [(handle_of_requested hrequested s reading).2] at hok ⊢
      exact showsMessage_of_answerTo hhead (.inr hok)

/-- Identifiers may be spelled in any way: the texts that are read as an identifier are its
spellings, in a document as in a path; whichever of them a request uses is of no account, and
answers show its text, which is read as it. -/
theorem spelling_of_no_account :
    (∀ (s : String) (u : Uuid), Uuid.read s = .ok u ↔ Uuid.Spells s u)
      ∧ (∀ u : Uuid, Uuid.Canonical u.toText ∧ Uuid.read u.toText = .ok u)
      ∧ (∀ (s : String) (u : Uuid), Uuid.Spells s u → SpellsValue (Json.string s) u)
      ∧ ∀ (σ : Type) [MessageStore σ], IgnoresSpelling σ :=
  ⟨fun _ _ => Uuid.read_eq_ok_iff, fun u => ⟨u.canonical_toText, u.read_toText⟩,
    fun _ _ => spellsValue_string, ignoresSpelling⟩

def letteredId : Uuid :=
  ⟨[0xAB, 0xCD, 0xEF, 0, 0, 0, 0, 0, 0, 0, 0, 0, 0, 0, 0, 0x0A], rfl⟩

def bracedSpelling : String := "\x7bABCDEF00-0000-0000-0000-00000000000a\x7d"

def namedSpelling : String := "urn:uuid:abcdef00-0000-0000-0000-00000000000A"

def sampleTexts (sender receiver : String) : List (String × String) :=
  [("senderId", sender), ("receiverId", receiver), ("msgBody", "a"), ("msgType", "Text")]

def spacedPost (blanks : Nat) (sender receiver : String) : Request :=
  withBody Session.samplePost
    (textObject (List.replicate blanks 0x20) (sampleTexts sender receiver))

/-- A path to the message that the sample service first saves, with escaped braces. -/
def bracedGet : Request :=
  ⟨"GET", "/messages/" ++ "%7BABCDEF00-0000-0000-0000-00000000000a%7d" ++ "/"
    ++ "00000000000010008000000000000000", [], []⟩

theorem isBlanks_replicate (n : Nat) : IsBlanks (List.replicate n 0x20) := by
  intro b hb
  rw [List.eq_of_mem_replicate hb]
  decide

theorem respelled_spacedPost (blanks blanks' : Nat) {sender sender' receiver receiver' : String}
    {u v : Uuid} (hsender : Uuid.Spells sender u) (hsender' : Uuid.Spells sender' u)
    (hreceiver : Uuid.Spells receiver v) (hreceiver' : Uuid.Spells receiver' v) :
    Respelled (spacedPost blanks sender receiver).body
      (spacedPost blanks' sender' receiver').body := by
  refine respelled_textObject (isBlanks_replicate blanks) (isBlanks_replicate blanks') ?_
  exact .cons (.inr ⟨.senderId, u, .inl rfl, rfl, rfl, hsender, hsender'⟩)
    (.cons (.inr ⟨.receiverId, v, .inr rfl, rfl, rfl, hreceiver, hreceiver'⟩)
      (.cons (.inl rfl) (.cons (.inl rfl) .nil)))

/-- A message is submitted and fetched in spellings that are wrapped and of either case, and all
goes as it does with texts. -/
theorem braced_served :
    handle Session.sampleService Session.sampleReading (spacedPost 2 namedSpelling bracedSpelling)
        = handle Session.sampleService Session.sampleReading
          (spacedPost 0 letteredId.toText letteredId.toText)
      ∧ (handle Session.sampleService Session.sampleReading
          (spacedPost 0 letteredId.toText letteredId.toText)).response.status = .created
      ∧ (handle (handle Session.sampleService Session.sampleReading
          (spacedPost 2 namedSpelling bracedSpelling)).service Session.sampleReading
          bracedGet).response.status = .ok := by
  have hignores := spelling_of_no_account.2.2.2 Cql.Repository
  have hnamed : Uuid.Spells namedSpelling letteredId := by decide +kernel
  have hbraced : Uuid.Spells bracedSpelling letteredId := by decide +kernel
  have hrespelled := respelled_spacedPost 0 2 letteredId.spells_toText hnamed
    letteredId.spells_toText hbraced
  obtain ⟨-, -, hsaved⟩ := hignores.submitted Session.sampleService Session.sampleReading
    (spacedPost 0 letteredId.toText letteredId.toText) _ rfl hrespelled (by decide +kernel)
    (by decide +kernel)
  have hsubmitted : (submitted? (spacedPost 0 letteredId.toText letteredId.toText)).isSome = true := by
    decide +kernel
  refine ⟨hsaved (Option.isSome_iff_ne_none.mp hsubmitted), by decide +kernel, ?_⟩
  have hreceiver : SpellsInPath (Utf8.ofString "%7BABCDEF00-0000-0000-0000-00000000000a%7d")
      letteredId := by
    have hinner := @Percent.escapes_self (Utf8.ofString "ABCDEF00-0000-0000-0000-00000000000a")
      (by decide +kernel)
    have hclose := @Percent.Escapes.escaped 0x37 0x64 7 13 [] [] (by decide) (by decide) .nil
    have hescapes := @Percent.Escapes.escaped 0x37 0x42 7 11 _ _ (by decide) (by decide)
      (hinner.append hclose)
    exact ⟨bracedSpelling, hbraced, hescapes⟩
  have hmessage : SpellsInPath (Utf8.ofString "00000000000010008000000000000000")
      (Session.sampleService.nextId Session.sampleReading.moment) :=
    ⟨_, by decide +kernel, Percent.escapes_self (by decide +kernel)⟩
  obtain ⟨hstatus, -⟩ := hignores.fetched
    (handle Session.sampleService Session.sampleReading
      (spacedPost 2 namedSpelling bracedSpelling)).service
    Session.sampleReading Session.sampleReading bracedGet
    ⟨"GET", messagePath letteredId (Session.sampleService.nextId Session.sampleReading.moment),
      [], []⟩ _ _ letteredId _ rfl rfl rfl hreceiver hmessage rfl
  rw [hstatus]
  decide +kernel

theorem length_spacedPost (blanks : Nat) (sender receiver : String) :
    (spacedPost blanks sender receiver).body.length
      = blanks + (spacedPost 0 sender receiver).body.length := by
  simp [spacedPost, withBody, textObject]

theorem handle_spacedPost {blanks : Nat} {sender receiver : String} {u v : Uuid}
    (hsender : Uuid.Spells sender u) (hreceiver : Uuid.Spells receiver v)
    (hlength : (spacedPost blanks sender receiver).body.length ≤ 2097152)
    (hsubmitted : submitted? (spacedPost 0 sender receiver) ≠ none) (s : Service σ)
    (reading : Reading) :
    handle s reading (spacedPost blanks sender receiver)
      = handle s reading (spacedPost 0 sender receiver) := by
  have hrespelled := respelled_spacedPost 0 blanks hsender hsender hreceiver hreceiver
  have hlength' : (spacedPost 0 sender receiver).body.length ≤ 2097152 := by
    rw [length_spacedPost] at hlength
    exact Nat.le_trans (Nat.le_add_left _ _) hlength
  obtain ⟨-, -, hsaved⟩ := (ignoresSpelling σ).submitted s reading _ _ rfl hrespelled hlength'
    hlength
  exact hsaved hsubmitted

/-- Where a request is refused, the spelling may tell: the longer one of two can make a body too
long, and the place of a fault is further on after it. -/
theorem spelling_tells_where_refused :
    (¬ ∀ (s : Service MemoryStore) (reading : Reading) (r : Request) (body : Bytes),
      r.method = "POST" → Respelled r.body body →
        (handle s reading (withBody r body)).response.status
          = (handle s reading r).response.status)
    ∧ ¬ ∀ (s : Service MemoryStore) (reading : Reading) (r : Request) (body : Bytes),
      r.method = "POST" → Respelled r.body body → r.body.length ≤ 2097152 →
        body.length ≤ 2097152 → (handle s reading (withBody r body)).response.body
          = (handle s reading r).response.body := by
  have hbraced : Uuid.Spells bracedSpelling letteredId := by decide +kernel
  have htext := letteredId.spells_toText
  constructor
  · -- a body that just fits, and with two braces more does not
    intro h
    have hsubmitted : submitted? (spacedPost 0 letteredId.toText letteredId.toText) ≠ none :=
      Option.isSome_iff_ne_none.mp (by decide +kernel)
    have hlength : (spacedPost 0 letteredId.toText letteredId.toText).body.length = 134 := by
      decide +kernel
    have hlength' : (spacedPost 0 bracedSpelling letteredId.toText).body.length = 136 := by
      decide +kernel
    have hstatus := h (.new .empty Session.sampleService.node 0) Session.sampleReading
      (spacedPost (2097152 - 134) letteredId.toText letteredId.toText)
      (spacedPost (2097152 - 134) bracedSpelling letteredId.toText).body rfl
      (respelled_spacedPost _ _ htext hbraced htext htext)
    rw [handle_spacedPost htext htext (by rw [length_spacedPost, hlength]) hsubmitted] at hstatus
    have htype : IsTakenForJson (spacedPost (2097152 - 134) bracedSpelling letteredId.toText) :=
      isTakenForJson_iff.mpr (by decide +kernel)
    have htooLarge :
        2097152 < (spacedPost (2097152 - 134) bracedSpelling letteredId.toText).body.length := by
      rw [length_spacedPost, hlength']
      decide
    have hrefused := refused_of_submission rfl rfl (submission_of_tooLarge htype htooLarge)
      (.new .empty Session.sampleService.node 0 : Service MemoryStore) Session.sampleReading
    have hresponse : (handle (.new .empty Session.sampleService.node 0 : Service MemoryStore)
        Session.sampleReading (withBody (spacedPost (2097152 - 134) letteredId.toText
          letteredId.toText) (spacedPost (2097152 - 134) bracedSpelling
            letteredId.toText).body)).response.status = .payloadTooLarge := by
      have hsame : withBody (spacedPost (2097152 - 134) letteredId.toText letteredId.toText)
          (spacedPost (2097152 - 134) bracedSpelling letteredId.toText).body
          = spacedPost (2097152 - 134) bracedSpelling letteredId.toText := rfl
      rw [hsame]
      exact congrArg Response.status hrefused.response
    rw [hresponse] at hstatus
    exact absurd hstatus (by decide +kernel)
  · -- an object that is no submission, for want of its other members
    intro h
    have hbody := h (.new .empty Session.sampleService.node 0) Session.sampleReading
      (withBody Session.samplePost (textObject [] [("senderId", letteredId.toText)]))
      (textObject [] [("senderId", bracedSpelling)]) rfl
      (respelled_textObject (isBlanks_replicate 0) (isBlanks_replicate 0)
        (.cons (.inr ⟨.senderId, letteredId, .inl rfl, rfl, rfl, htext, hbraced⟩) .nil))
      (by decide +kernel) (by decide +kernel)
    exact absurd hbody (by decide +kernel)

end Api

end Messaging
