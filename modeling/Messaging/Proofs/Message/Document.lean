import Messaging.Message.Writing
import Messaging.Proofs.Message.Members
import Messaging.Proofs.Timestamp.Rfc3339
import Messaging.Proofs.Uuid.Spelling

/-!
Messages through documents. A message is written as an object of its members, each once; such an
object makes a draft that knows each of them, so that the message is read back as it was.
-/
namespace Messaging

open Json

namespace Draft

def setAll (d : Draft) (value : (m : Member) → m.Value) (ms : List Member) : Draft :=
  ms.foldl (fun d m => d.set m (value m)) d

theorem setAll_cons (d : Draft) (value : (m : Member) → m.Value) (m : Member) (ms : List Member) :
    d.setAll value (m :: ms) = (d.set m (value m)).setAll value ms := rfl

theorem setAll_of_mem {d : Draft} {value : (m : Member) → m.Value} {ms : List Member} {k : Member}
    (h : k ∈ ms ∨ d k = some (value k)) : d.setAll value ms k = some (value k) := by
  induction ms generalizing d with
  | nil => simpa [setAll] using h
  | cons m ms ih =>
    rw [setAll_cons]
    apply ih
    by_cases hk : k = m
    · subst hk
      exact .inr (set_self d k (value k))
    · rw [set_of_ne d (value m) hk]
      simpa [hk] using h

end Draft

namespace Json

theorem alone_readText_string (wanted s : String) : alone (readText wanted) (string s) = .ok s :=
  (alone_readText wanted _).trans (alone_flatMap_escapeByte s)

theorem alone_readFlag_flag (value : Bool) : alone readFlag (flag value) = .ok value := by
  cases value <;> rfl

theorem alone_readType_name (t : MessageType) : alone readType (string t.name) = .ok t := by
  have hspell : MessageType.ofDocumentName t.name = .ok t := by
    rw [MessageType.ofDocumentName, MessageType.ofName?_name]
  have hread := alone_readSpelled (alone_readText_string "" t.name) hspell
  rw [string] at hread ⊢
  rw [alone, readType, skipBlanks_cons (by decide)]
  exact hread

section Members

variable {α : Type} {shape : Shape α} {value : (m : Member) → m.Value} {written : Member → Bytes}

def writeMembers (written : Member → Bytes) (ms : List Member) : List Bytes :=
  ms.map fun m => member m.name (written m)

/-- Members that have been written, each once, are taken into a draft that knows them all. -/
theorem foldlM_take_written (hvalue : ∀ m, IsValue (written m))
    (hread : ∀ m, alone (readMember m) (written m) = .ok (value m)) {ms : List Member}
    (hname : ∀ m ∈ ms, Member.ofName? shape.members m.name = some m) (hnodup : ms.Nodup)
    {d : Draft} (hnew : ∀ m ∈ ms, d m = none) :
    (ms.map fun m => Entry.written m.name (hvalue m)).foldlM (Draft.take shape) d
      = .ok (d.setAll value ms) := by
  induction ms generalizing d with
  | nil => rfl
  | cons m ms ih =>
    rw [List.forall_mem_cons] at hname hnew
    rw [List.nodup_cons] at hnodup
    have hrestNew : ∀ k ∈ ms, d.set m (value m) k = none := by
      intro k hk
      have hkm : k ≠ m := fun h => hnodup.1 (h ▸ hk)
      rw [Draft.set_of_ne d (value m) hkm]
      exact hnew.2 k hk
    have htake : d.take shape (.written m.name (hvalue m)) = .ok (d.set m (value m)) := by
      rw [Draft.take, Entry.nameText_written, ok_bind, Draft.takeNamed, hname.1]
      simp only [hnew.1, Option.isSome_none, Bool.false_eq_true, if_false, Entry.valueOf,
        Entry.written, hread]
      rfl
    rw [List.map_cons, List.foldlM_cons, htake, ok_bind, ih hname.2 hnodup.2 hrestNew,
      Draft.setAll_cons]

theorem readDocument_object (hvalue : ∀ m, IsValue (written m))
    (hread : ∀ m, alone (readMember m) (written m) = .ok (value m)) {ms : List Member}
    (hname : ∀ m ∈ ms, Member.ofName? shape.members m.name = some m) (hnodup : ms.Nodup) {x : α}
    (hbuild : shape.build? (Draft.empty.setAll value ms) = some x) :
    readDocument shape (object (writeMembers written ms)) = .ok x := by
  have hnone : IsBlanks [] := by simp [IsBlanks]
  have hwrites := @writesObject_object Member Member.name written hvalue [] hnone ms
  have htake := foldlM_take_written hvalue hread hname hnodup
    fun m _ => Draft.empty_apply m
  refine unplaced_eq_ok_iff.mp ((unplaced_readDocument_object hwrites).trans ?_)
  rw [recordOf, htake, ok_bind, Draft.finish, buildRecord, hbuild]
  rfl

end Members

end Json

namespace Message

def memberValue (m : Message) : (k : Member) → k.Value
  | .messageId => m.messageId
  | .senderId => m.senderId
  | .receiverId => m.receiverId
  | .body => m.body
  | .createdAt => m.createdAt
  | .type => m.type
  | .hasRead => m.hasRead

/-- What each member is written as, where the text of the time is given. -/
def memberBytes (m : Message) (createdAt : String) : Member → Bytes
  | .messageId => Json.string m.messageId.toText
  | .senderId => Json.string m.senderId.toText
  | .receiverId => Json.string m.receiverId.toText
  | .body => Json.string m.body
  | .createdAt => Json.string createdAt
  | .type => Json.string m.type.name
  | .hasRead => Json.flag m.hasRead

theorem jsonObject_eq (m : Message) (createdAt : String) :
    m.jsonObject createdAt
      = Json.object (writeMembers (m.memberBytes createdAt) shape.members) := rfl

theorem isValue_memberBytes (m : Message) (createdAt : String) (k : Member) :
    IsValue (m.memberBytes createdAt k) := by
  cases k with
  | hasRead => exact isValue_flag m.hasRead
  | _ => exact isValue_string _

theorem alone_memberBytes {m : Message} {createdAt : String}
    (h : Timestamp.Rfc3339.write m.createdAt = .ok createdAt) (k : Member) :
    alone (readMember k) (m.memberBytes createdAt k) = .ok (m.memberValue k) := by
  have huuid : ∀ u : Uuid, Uuid.ofDocumentText u.toText = .ok u := by
    intro u
    rw [Uuid.ofDocumentText, Uuid.read_toText]
    rfl
  have htime : Timestamp.ofDocumentText createdAt = .ok m.createdAt := by
    rw [Timestamp.ofDocumentText, Timestamp.Rfc3339.read_of_write h]
    rfl
  cases k with
  | messageId => exact alone_readSpelled (alone_readText_string _ _) (huuid m.messageId)
  | senderId => exact alone_readSpelled (alone_readText_string _ _) (huuid m.senderId)
  | receiverId => exact alone_readSpelled (alone_readText_string _ _) (huuid m.receiverId)
  | body => exact alone_readText_string _ m.body
  | createdAt => exact alone_readSpelled (alone_readText_string _ _) htime
  | type => exact alone_readType_name m.type
  | hasRead => exact alone_readFlag_flag m.hasRead

/-- A message is read back from the document that it is written as. -/
theorem ofJson_of_toJson {m : Message} {document : Bytes} (h : m.toJson = .ok document) :
    ofJson document = .ok m := by
  rw [toJson] at h
  cases hwrite : Timestamp.Rfc3339.write m.createdAt with
  | error e => simp [hwrite, Except.map] at h
  | ok createdAt =>
    rw [hwrite, Except.map] at h
    rw [← Except.ok.inj h, jsonObject_eq, ofJson]
    have hknown : ∀ k, Draft.empty.setAll m.memberValue shape.members k = some (m.memberValue k) :=
      fun k => Draft.setAll_of_mem (.inl (by cases k <;> decide))
    refine readDocument_object (m.isValue_memberBytes createdAt) (alone_memberBytes hwrite)
      (by decide) (by decide) ?_
    simp only [shape] at hknown ⊢
    simp [hknown, memberValue]

theorem exists_toJson {m : Message} (h : m.createdAt.OfClock) :
    ∃ document, m.toJson = .ok document := by
  obtain ⟨createdAt, hwrite⟩ := Timestamp.Rfc3339.exists_write h
  exact ⟨m.jsonObject createdAt, by rw [toJson, hwrite, Except.map]⟩

end Message

end Messaging
