/-!
Bytes and the characters they spell. A character is read by an automaton over single bytes: a
lead byte says how many bytes follow and in which range the first of them lies, so that overlong
forms, surrogates and values past U+10FFFF are never assembled.
-/
namespace Messaging

/-- A run of bytes, as a document, a request or a column holds it. -/
abbrev Bytes := List UInt8

namespace Utf8

def encode (cs : List Char) : Bytes := cs.flatMap String.utf8EncodeChar

def ofString (s : String) : Bytes := encode s.toList

@[simp] theorem encode_nil : encode [] = [] := rfl

@[simp] theorem encode_cons (c : Char) (cs : List Char) :
    encode (c :: cs) = String.utf8EncodeChar c ++ encode cs := rfl

@[simp] theorem encode_append (cs ds : List Char) : encode (cs ++ ds) = encode cs ++ encode ds :=
  List.flatMap_append

structure Begun where
  /-- How many bytes are still to come. -/
  missing : Nat
  /-- The value that the bytes so far give. -/
  value : Nat
  /-- The least next byte that may follow. -/
  low : UInt8
  /-- The greatest next byte that may follow. -/
  high : UInt8
  deriving DecidableEq, Repr

/-- What a byte in first place begins, if any character begins with it. -/
def Begun.ofLead? (b : UInt8) : Option Begun :=
  if b < 0x80 then some ⟨0, b.toNat, 0x80, 0xBF⟩
  else if b < 0xC2 then none
  else if b < 0xE0 then some ⟨1, b.toNat - 0xC0, 0x80, 0xBF⟩
  else if b = 0xE0 then some ⟨2, 0, 0xA0, 0xBF⟩
  else if b = 0xED then some ⟨2, 0xD, 0x80, 0x9F⟩
  else if b < 0xF0 then some ⟨2, b.toNat - 0xE0, 0x80, 0xBF⟩
  else if b = 0xF0 then some ⟨3, 0, 0x90, 0xBF⟩
  else if b < 0xF4 then some ⟨3, b.toNat - 0xF0, 0x80, 0xBF⟩
  else if b = 0xF4 then some ⟨3, 4, 0x80, 0x8F⟩
  else none

/-- The character with one more byte, if that byte may follow. -/
def Begun.push? (p : Begun) (b : UInt8) : Option Begun :=
  if p.low ≤ b ∧ b ≤ p.high then some ⟨p.missing - 1, p.value * 64 + b.toNat % 64, 0x80, 0xBF⟩
  else none

abbrev State := Option Begun

/-- The bytes of the character that is being read, and the characters read before it, last
first. -/
def decodeFrom : State → List Char → Bytes → Option (List Char)
  | none, done, [] => some done.reverse
  | some _, _, [] => none
  | none, done, b :: rest =>
    match Begun.ofLead? b with
    | none => none
    | some p =>
      if p.missing = 0 then decodeFrom none (Char.ofNat p.value :: done) rest
      else decodeFrom (some p) done rest
  | some p, done, b :: rest =>
    match p.push? b with
    | none => none
    | some q =>
      if q.missing = 0 then decodeFrom none (Char.ofNat q.value :: done) rest
      else decodeFrom (some q) done rest

def decode? (bs : Bytes) : Option (List Char) := decodeFrom none [] bs

def toString? (bs : Bytes) : Option String := (decode? bs).map String.ofList

/-- How many of the bytes are read before the first that cannot be part of a text: `settled` of
them are whole characters, and `begun` more belong to the character in hand. -/
def validLengthFrom : State → (settled begun : Nat) → Bytes → Nat
  | _, settled, _, [] => settled
  | none, settled, _, b :: rest =>
    match Begun.ofLead? b with
    | none => settled
    | some p =>
      if p.missing = 0 then validLengthFrom none (settled + 1) 0 rest
      else validLengthFrom (some p) settled 1 rest
  | some p, settled, begun, b :: rest =>
    match p.push? b with
    | none => settled
    | some q =>
      if q.missing = 0 then validLengthFrom none (settled + begun + 1) 0 rest
      else validLengthFrom (some q) settled (begun + 1) rest

/-- The number of bytes before the first ill-formed character. -/
def validLength (bs : Bytes) : Nat := validLengthFrom none 0 0 bs

def replacement : Char := '\uFFFD'

/-- Reads on over bytes that spell no text: each longest beginning of a character that is not
continued becomes one replacement character, and so does each byte that begins none. -/
def decodeLossyFrom : State → List Char → Bytes → List Char
  | none, done, [] => done.reverse
  | some _, done, [] => (replacement :: done).reverse
  | none, done, b :: rest =>
    match Begun.ofLead? b with
    | none => decodeLossyFrom none (replacement :: done) rest
    | some p =>
      if p.missing = 0 then decodeLossyFrom none (Char.ofNat p.value :: done) rest
      else decodeLossyFrom (some p) done rest
  | some p, done, b :: rest =>
    match p.push? b with
    | some q =>
      if q.missing = 0 then decodeLossyFrom none (Char.ofNat q.value :: done) rest
      else decodeLossyFrom (some q) done rest
    | none =>
      match Begun.ofLead? b with
      | none => decodeLossyFrom none (replacement :: replacement :: done) rest
      | some q =>
        if q.missing = 0 then
          decodeLossyFrom none (Char.ofNat q.value :: replacement :: done) rest
        else decodeLossyFrom (some q) (replacement :: done) rest

/-- The text that the bytes spell, with U+FFFD for what spells none. -/
def toStringLossy (bs : Bytes) : String := String.ofList (decodeLossyFrom none [] bs)

end Utf8

end Messaging
