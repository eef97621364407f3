import Messaging.Json.Skip

/-!
A JSON value as a whole. The members of an object stand in the order of their names, each name
once; of members with the same name the last counts.
-/
namespace Messaging.Json

inductive Value
  | null
  | flag (value : Bool)
  | integer (value : Int)
  | float (negative : Bool) (size : Binary64)
  | text (value : String)
  | list (elements : List Value)
  | object (members : List (String × Value))

def Value.found : Value → Found
  | .null => .null
  | .flag value => .flag value
  | .integer value => .integer value
  | .float negative size => .float negative size
  | .text value => .text value
  | .list _ => .sequence
  | .object _ => .map

def Value.notA (wanted : String) (v : Value) : Misfit := .kind v.found wanted

namespace Value

/-- Members in the order of their names, with one more, which replaces the one of its name. -/
def insertMember (name : String) (v : Value) : List (String × Value) → List (String × Value)
  | [] => [(name, v)]
  | (key, w) :: more =>
    if name = key then (name, v) :: more
    else if name < key then (name, v) :: (key, w) :: more
    else (key, w) :: insertMember name v more

def readScalar (b : UInt8) (rest : Bytes) : Except Fault (Value × Bytes) :=
  let number (r : Except Fault (Found × Bytes)) : Except Fault (Value × Bytes) :=
    r.map fun
      | (.integer value, rest) => (.integer value, rest)
      | (.float negative size, rest) => (.float negative size, rest)
      | (_, rest) => (.null, rest)
  if b = 0x6E then (word nullTail rest).map fun rest => (.null, rest)
  else if b = 0x74 then (word trueTail rest).map fun rest => (.flag true, rest)
  else if b = 0x66 then (word falseTail rest).map fun rest => (.flag false, rest)
  else if b = 0x2D then number (Numeral.read true rest)
  else if Decimal.isDigit b then number (Numeral.read false (b :: rest))
  else if b = 0x22 then (StringLiteral.read rest).map fun (s, rest) => (.text s, rest)
  else .error (.breachAt .expectedValue (b :: rest))

mutual

/-- Reads a value; `room` is at least the number of bytes. -/
def readFrom : (room : Nat) → Bytes → Except Fault (Value × Bytes)
  | 0, _ => .error (.unfinished .value)
  | room + 1, bs =>
    match skipBlanks bs with
    | [] => .error (.unfinished .value)
    | b :: rest =>
      if b = 0x5B then
        match skipBlanks rest with
        | 0x5D :: rest => .ok (.list [], rest)
        | rest => readListFrom room [] rest
      else if b = 0x7B then
        match skipBlanks rest with
        | 0x7D :: rest => .ok (.object [], rest)
        | rest => readObjectFrom room [] rest
      else readScalar b rest

/-- Reads the elements of a list from one on; `done` holds those before it, last first. -/
def readListFrom : (room : Nat) → (done : List Value) → Bytes → Except Fault (Value × Bytes)
  | 0, _, _ => .error (.unfinished .list)
  | room + 1, done, bs =>
    match readFrom room bs with
    | .error f => .error f
    | .ok (v, rest) =>
      match skipBlanks rest with
      | [] => .error (.unfinished .list)
      | b :: rest =>
        if b = 0x5D then .ok (.list (v :: done).reverse, rest)
        else if b = 0x2C then readListFrom room (v :: done) rest
        else .error (.breachAt .expectedListCommaOrEnd (b :: rest))

/-- Reads the members of an object from one on; `done` holds those before it. -/
def readObjectFrom : (room : Nat) → (done : List (String × Value)) → Bytes →
    Except Fault (Value × Bytes)
  | 0, _, _ => .error (.unfinished .object)
  | room + 1, done, bs =>
    match skipBlanks bs with
    | [] => .error (.unfinished .object)
    | b :: rest =>
      if b ≠ 0x22 then .error (.breachAt .keyMustBeString (b :: rest))
      else match (do let (name, rest) ← StringLiteral.read rest; return (name, ← colon rest)) with
        | .error f => .error f
        | .ok (name, rest) =>
          match readFrom room rest with
          | .error f => .error f
          | .ok (v, rest) =>
            let done := insertMember name v done
            match skipBlanks rest with
            | [] => .error (.unfinished .object)
            | b :: rest =>
              if b = 0x7D then .ok (.object done, rest)
              else if b = 0x2C then readObjectFrom room done rest
              else .error (.breachAt .expectedObjectCommaOrEnd (b :: rest))

end

def read (document : Bytes) : Except Fault Value :=
  match readFrom (document.length + 1) document with
  | .error f => .error f
  | .ok (v, rest) =>
    match skipBlanks rest with
    | [] => .ok v
    | rest => .error (.breachAt .trailingCharacters rest)

def member? (name : String) : Value → Option Value
  | .object members => (members.find? fun m => m.1 = name).map Prod.snd
  | _ => none

end Value

end Messaging.Json
