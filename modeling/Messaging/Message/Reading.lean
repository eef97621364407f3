import Messaging.Json.Skip
import Messaging.Json.Value
import Messaging.Message.Member
import Messaging.Timestamp.Rfc3339
import Messaging.Uuid.Text

/-!
Reading message records from JSON. A record is an object, in which members may stand in any order
and members of other names are passed over, or a list of its members in order. It is read from
the bytes of a document, where each fault has its place, or from a value that has been read
before.
-/
namespace Messaging

open Json

def Member.wanted : Member → String
  | .messageId | .senderId | .receiverId => "a formatted UUID string"
  | .body => "a string"
  | .createdAt => "an RFC3339-formatted `OffsetDateTime`"
  | .type => "string or map"
  | .hasRead => "a boolean"

namespace MessageType

def ofDocumentName (s : String) : Except Misfit MessageType :=
  match ofName? s with
  | some t => .ok t
  | none => .error (.unknownVariant s (all.map name))

end MessageType

namespace Uuid

/-- The identifier that a string of a document spells. -/
def ofDocumentText (s : String) : Except Misfit Uuid :=
  (Uuid.read s).mapError fun e => .refused ("UUID parsing failed: " ++ e.message)

end Uuid

namespace Timestamp

/-- The timestamp that a string of a document spells. -/
def ofDocumentText (s : String) : Except Misfit Timestamp :=
  (Rfc3339.read (Utf8.ofString s)).mapError fun e => .refused e.message

end Timestamp

namespace Json

def readText (wanted : String) (bs : Bytes) : Except Fault (String × Bytes) :=
  match skipBlanks bs with
  | 0x22 :: rest => StringLiteral.read rest
  | bs => .error (notA wanted bs)

/-- Reads a string that must spell something; if it does not, the fault is after the string. -/
def readSpelled {α : Type} (wanted : String) (spell : String → Except Misfit α) (bs : Bytes) :
    Except Fault (α × Bytes) := do
  let (s, rest) ← readText wanted bs
  match spell s with
  | .ok v => return (v, rest)
  | .error kind => throw (.misfit kind rest)

def readFlag (bs : Bytes) : Except Fault (Bool × Bytes) :=
  match skipBlanks bs with
  | 0x74 :: rest => do return (true, ← word trueTail rest)
  | 0x66 :: rest => do return (false, ← word falseTail rest)
  | bs => .error (notA Member.hasRead.wanted bs)

/-- Reads `null`, the value of a name that carries nothing else. -/
def readUnit (bs : Bytes) : Except Fault Bytes :=
  match skipBlanks bs with
  | 0x6E :: rest => word nullTail rest
  | bs => .error (notA "unit" bs)

/-- Reads a message type after the brace of its long form, an object with the type's name as only
key and `null` as value. -/
def readLongType (bs : Bytes) : Except Fault (MessageType × Bytes) :=
  match skipBlanks bs with
  | [] => .error (.unfinished .value)
  | b :: rest =>
    if b = 0x7D then .error (.breachAt .expectedValue (b :: rest))
    else if b ≠ 0x22 then .error (.breachAt .keyMustBeString (b :: rest))
    else do
      let (type, rest) ← readSpelled "" MessageType.ofDocumentName (b :: rest)
      let rest ← colon rest
      let rest ← under (.member type.name) (readUnit rest)
      match skipBlanks rest with
      | [] => throw (.unfinished .object)
      | b :: rest =>
        if b = 0x7D then return (type, rest) else throw (.breach .expectedValue (b :: rest))

def readType (bs : Bytes) : Except Fault (MessageType × Bytes) :=
  match skipBlanks bs with
  | [] => .error (.unfinished .value)
  | b :: rest =>
    if b = 0x22 then readSpelled "" MessageType.ofDocumentName (b :: rest)
    else if b = 0x7B then readLongType rest
    else .error (.breachAt .expectedValue (b :: rest))

def readMember : (m : Member) → Bytes → Except Fault (m.Value × Bytes)
  | .messageId => readSpelled Member.messageId.wanted Uuid.ofDocumentText
  | .senderId => readSpelled Member.senderId.wanted Uuid.ofDocumentText
  | .receiverId => readSpelled Member.receiverId.wanted Uuid.ofDocumentText
  | .body => readText Member.body.wanted
  | .createdAt => readSpelled Member.createdAt.wanted Timestamp.ofDocumentText
  | .type => readType
  | .hasRead => readFlag

def pastObjectEnd (bs : Bytes) : Bytes :=
  match skipBlanks bs with
  | 0x7D :: rest => rest
  | bs => bs

def readNamed {α : Type} (shape : Shape α) (room : Nat) (d : Draft) (name : String) (bs : Bytes) :
    Except Fault (Draft × Bytes) :=
  match Member.ofName? shape.members name with
  | none =>
    (under (.member name) (do skipValue room (← colon bs))).map fun rest => (d, rest)
  | some m =>
    if (d m).isSome then .error (.misfit (.repeated m.name) (pastObjectEnd bs))
    else
      (under (.member name) (do readMember m (← colon bs))).map fun (v, rest) => (d.set m v, rest)

/-- Reads members from a name on; at most `room` of them can be left. -/
def readMembers {α : Type} (shape : Shape α) : (room : Nat) → Draft → Bytes →
    Except Fault (Draft × Bytes)
  | 0, _, _ => .error (.unfinished .object)
  | room + 1, d, bs => do
    match skipBlanks bs with
    | [] => throw (.unfinished .value)
    | b :: rest =>
      if b = 0x7D then throw (.breachAt .trailingComma (b :: rest))
      if b ≠ 0x22 then throw (.breachAt .keyMustBeString (b :: rest))
      let (name, rest) ← StringLiteral.read rest
      let (d, rest) ← readNamed shape (room + 1) d name rest
      match skipBlanks rest with
      | [] => throw (.unfinished .object)
      | b :: rest =>
        if b = 0x7D then return (d, rest)
        else if b = 0x2C then readMembers shape room d rest
        else throw (.breachAt .expectedObjectCommaOrEnd (b :: rest))

def lengthWanted {α : Type} (shape : Shape α) : String :=
  shape.name ++ " with " ++ toString shape.members.length ++ " elements"

/-- The record of a draft, or the first member that it lacks. -/
def buildRecord {α : Type} (shape : Shape α) (d : Draft) : Except Misfit α :=
  match shape.build? d with
  | some x => .ok x
  | none => .error (.missing ((shape.firstMissing? d).elim "" Member.name))

/-- Reads a record that is written as an object, after its brace. -/
def readObject {α : Type} (shape : Shape α) (bs : Bytes) : Except Fault (α × Bytes) := do
  let (d, rest) ←
    match skipBlanks bs with
    | [] => throw (.unfinished .object)
    | b :: rest =>
      if b = 0x7D then pure (Draft.empty, rest)
      else if b = 0x22 then readMembers shape (bs.length + 1) .empty (b :: rest)
      else throw (.breachAt .keyMustBeString (b :: rest))
  match buildRecord shape d with
  | .ok x => return (x, rest)
  | .error kind => throw (.misfit kind rest)

def beforeElement (index : Nat) (bs : Bytes) : Except Fault Bytes :=
  match skipBlanks bs with
  | [] => .error (.unfinished .list)
  | b :: rest =>
    if index = 0 then .ok (b :: rest)
    else if b = 0x2C then
      match skipBlanks rest with
      | [] => .error (.unfinished .value)
      | b :: rest =>
        if b = 0x5D then .error (.breachAt .trailingComma (b :: rest)) else .ok (b :: rest)
    else .error (.breachAt .expectedListCommaOrEnd (b :: rest))

def listEnd (bs : Bytes) : Except Fault Bytes :=
  match skipBlanks bs with
  | [] => .error (.unfinished .list)
  | b :: rest =>
    if b = 0x5D then .ok rest
    else if b = 0x2C then
      match skipBlanks rest with
      | [] => .error (.breachAt .trailingCharacters [])
      | b :: rest =>
        .error (.breachAt (if b = 0x5D then .trailingComma else .trailingCharacters) (b :: rest))
    else .error (.breachAt .trailingCharacters (b :: rest))

/-- Reads the elements from the one numbered `index` on, one for each member. -/
def readElements {α : Type} (shape : Shape α) : (index : Nat) → List Member → Draft → Bytes →
    Except Fault (Draft × Bytes)
  | _, [], d, bs => do return (d, ← listEnd bs)
  | index, m :: ms, d, bs => do
    if let 0x5D :: rest := skipBlanks bs then
      throw (.misfit (.length index (lengthWanted shape)) rest)
    let (v, rest) ← under (.element index) (do readMember m (← beforeElement index bs))
    readElements shape (index + 1) ms (d.set m v) rest

def readRecord {α : Type} (shape : Shape α) (bs : Bytes) : Except Fault (α × Bytes) :=
  match skipBlanks bs with
  | [] => .error (.unfinished .value)
  | b :: rest =>
    if b = 0x7B then readObject shape rest
    else if b = 0x5B then do
      let (d, rest) ← readElements shape 0 shape.members .empty rest
      match buildRecord shape d with
      | .ok x => return (x, rest)
      | .error kind => throw (.misfit kind rest)
    else .error (notA shape.name (b :: rest))

/-- Reads a document that holds one record and nothing else but blanks. -/
def readDocument {α : Type} (shape : Shape α) (document : Bytes) : Except Fault α := do
  let (x, rest) ← readRecord shape document
  match skipBlanks rest with
  | [] => return x
  | rest => throw (.breachAt .trailingCharacters rest)

namespace Value

def asText (wanted : String) : Value → Except Misfit String
  | .text s => .ok s
  | v => .error (v.notA wanted)

def asSpelled {α : Type} (wanted : String) (spell : String → Except Misfit α) (v : Value) :
    Except Misfit α := do spell (← v.asText wanted)

def asType : Value → Except Misfit MessageType
  | .text s => MessageType.ofDocumentName s
  | .object [(name, content)] => do
    let type ← MessageType.ofDocumentName name
    match content with
    | .null => return type
    | v => throw (v.notA "unit")
  | .object _ => .error .notSingleKey
  | v => .error (v.notA Member.type.wanted)

def asFlag : Value → Except Misfit Bool
  | .flag value => .ok value
  | v => .error (v.notA Member.hasRead.wanted)

def asMember (v : Value) : (m : Member) → Except Misfit m.Value
  | .messageId => v.asSpelled Member.messageId.wanted Uuid.ofDocumentText
  | .senderId => v.asSpelled Member.senderId.wanted Uuid.ofDocumentText
  | .receiverId => v.asSpelled Member.receiverId.wanted Uuid.ofDocumentText
  | .body => v.asText Member.body.wanted
  | .createdAt => v.asSpelled Member.createdAt.wanted Timestamp.ofDocumentText
  | .type => v.asType
  | .hasRead => v.asFlag

def gatherNamed {α : Type} (shape : Shape α) : List (String × Value) → Draft → Except Misfit Draft
  | [], d => .ok d
  | (name, v) :: more, d =>
    match Member.ofName? shape.members name with
    | none => gatherNamed shape more d
    | some m => do gatherNamed shape more (d.set m (← v.asMember m))

def gatherElements {α : Type} (shape : Shape α) (total : Nat) : List Member → List Value → Draft →
    Except Misfit Draft
  | [], [], d => .ok d
  | [], _ :: _, _ => .error (.length total "fewer elements in array")
  | left, [], _ => .error (.length (shape.members.length - left.length) (lengthWanted shape))
  | m :: ms, v :: vs, d => do gatherElements shape total ms vs (d.set m (← v.asMember m))

def asRecord {α : Type} (shape : Shape α) : Value → Except Misfit α
  | .object members => do buildRecord shape (← gatherNamed shape members .empty)
  | .list elements => do
    buildRecord shape (← gatherElements shape elements.length shape.members elements .empty)
  | v => .error (v.notA shape.name)

end Value

end Json

/-- Reads the JSON text of a `NewMessage`; members of other names are passed over. -/
def NewMessage.ofJson (document : Bytes) : Except Json.Fault NewMessage :=
  readDocument NewMessage.shape document

def Message.ofJson (document : Bytes) : Except Json.Fault Message :=
  readDocument Message.shape document

def NewMessage.ofValue (v : Json.Value) : Except Json.Misfit NewMessage :=
  v.asRecord NewMessage.shape

def Message.ofValue (v : Json.Value) : Except Json.Misfit Message :=
  v.asRecord Message.shape

end Messaging
