import Messaging.Text.Hex
import Messaging.Uuid

/-!
The text of an identifier. It is written as five groups of lower-case hexadecimal digits; it is
read in either case as the five groups, alone or in braces or after `urn:uuid:`, or as 32 digits
without hyphens.
-/
namespace Messaging.Uuid

def groupLengths : List Nat := [8, 4, 4, 4, 12]

def chars (u : Uuid) : List Char :=
  let digits := u.bytes.flatMap Hex.ofByte
  digits.take 8 ++ '-' :: (digits.drop 8).take 4 ++ '-' :: (digits.drop 12).take 4
    ++ '-' :: (digits.drop 16).take 4 ++ '-' :: digits.drop 20

def toText (u : Uuid) : String := String.ofList u.chars

instance : ToString Uuid := ⟨toText⟩

def toPlainText (u : Uuid) : String := Hex.ofBytes u.bytes

inductive TextError
  /-- The count of bytes fits no form. -/
  | length (found : Nat)
  /-- A character, at a place counted in bytes, is neither hexadecimal digit nor hyphen. -/
  | character (found : Char) (index : Nat)
  /-- The hyphens do not make five groups. -/
  | groupCount (found : Nat)
  /-- A group does not have its length. -/
  | groupLength (group expected found : Nat)
  deriving DecidableEq, Repr

def TextError.message : TextError → String
  | .length found => s!"invalid length: found {found}"
  | .character found index => s!"invalid character: found `{found}` at {index}"
  | .groupCount found => s!"invalid group count: expected 5, found {found}"
  | .groupLength group expected found =>
    s!"invalid group length in group {group}: expected {expected}, found {found}"

/-- The characters inside braces or after `urn:uuid:`, with the number of bytes before them; none
if the text is not wrapped so. -/
def unwrap? (cs : List Char) : Option (List Char × Nat) :=
  let name := ['u', 'r', 'n', ':', 'u', 'u', 'i', 'd', ':']
  if cs.head? = some '\x7b' ∧ 2 ≤ cs.length ∧ cs.getLast? = some '\x7d' then
    some ((cs.drop 1).dropLast, 1)
  else if (cs.take name.length).map Char.toLower = name then some (cs.drop name.length, name.length)
  else none

/-- The first character, from a place on, that is neither hexadecimal digit nor hyphen. -/
def firstStranger? (index : Nat) : List Char → Option TextError
  | [] => none
  | c :: cs =>
    if c = '-' ∨ (Hex.valueOfChar? c).isSome then firstStranger? (index + c.utf8Size) cs
    else some (.character c index)

def groups : List Char → List (List Char)
  | [] => [[]]
  | c :: cs =>
    if c = '-' then [] :: groups cs
    else match groups cs with
      | [] => [[c]]
      | g :: gs => (c :: g) :: gs

/-- The first of five groups, from the numbered one on, that has not its length. The found length
of the last group is that of the whole text less the place where the group would start. -/
def firstMisfit? (total : Nat) : (group : Nat) → (expected : List Nat) → List (List Char) →
    Option TextError
  | group, expected :: more, g :: gs =>
    if g.length = expected then firstMisfit? total (group + 1) more gs
    else some (.groupLength group expected (if group = 4 then total - 24 else g.length))
  | _, _, _ => none

def ofDigits (total : Nat) (digits : List Char) : Except TextError Uuid :=
  match (Hex.toBytes? digits).bind ofBytes? with
  | some u => .ok u
  | none => .error (.length total)

/-- The identifier that a text spells, or the first reason why it spells none. -/
def read (s : String) : Except TextError Uuid :=
  let cs := s.toList
  let total := s.utf8ByteSize
  if total = 0 ∨ 45 < total then .error (.length total)
  else
    let inner := (unwrap? cs).getD (cs, 0)
    match firstStranger? inner.2 inner.1 with
    | some e => .error e
    | none =>
      let gs := groups inner.1
      if gs.length = 1 ∧ (unwrap? cs).isNone ∧ total ≠ 36 then ofDigits total inner.1
      else if gs.length ≠ 5 then .error (.groupCount gs.length)
      else match firstMisfit? total 0 groupLengths gs with
        | some e => .error e
        | none => ofDigits total gs.flatten

end Messaging.Uuid
