import Messaging.Number.BigEndian
import Messaging.Timestamp
import Messaging.Uuid

/-!
The cells of a row: how the values of a message are written as bytes, and read back by the type
of their column. A cell may be null, which is no value of any type here.
-/
namespace Messaging.Cql

/-- The types of columns that a message is read from, and all others. -/
inductive ColumnType
  | uuid
  | text
  | ascii
  | timestamp
  | boolean
  | other (name : String)
  deriving DecidableEq, Repr

structure Column where
  name : String
  type : ColumnType
  deriving DecidableEq, Repr

/-- A cell, where none is null. -/
abbrev Cell := Option Bytes

namespace Cell

def ofUuid (u : Uuid) : Bytes := u.bytes

def ofText (s : String) : Bytes := Utf8.ofString s

/-- A CQL `timestamp`: whole milliseconds since 1970, rounded down, in eight bytes. -/
def ofTimestamp (ts : Timestamp) : Bytes := BigEndian.ofInt64 ts.unixMillis

/-- A CQL `boolean` is one byte. -/
def ofFlag (b : Bool) : Bytes := [if b then 1 else 0]

inductive Fault
  | null
  | length
  | notText
  | range
  deriving DecidableEq, Repr

def Fault.message : Fault → String
  | .null => "expected a non-null value"
  | .length => "the value has a wrong length"
  | .notText => "the value is no text of its column's type"
  | .range => "the value is out of range"

def toUuid (bs : Bytes) : Except Fault Uuid :=
  match Uuid.ofBytes? bs with
  | some u => .ok u
  | none => .error .length

/-- The text in a cell. A column of ASCII text holds bytes below 128 only. -/
def toText (type : ColumnType) (bs : Bytes) : Except Fault String :=
  if type = .ascii && !bs.all (· < 0x80) then .error .notText
  else match Utf8.toString? bs with
    | some s => .ok s
    | none => .error .notText

/-- The time in a cell, told in UTC. -/
def toTimestamp (bs : Bytes) : Except Fault Timestamp :=
  if bs.length ≠ 8 then .error .length
  else match Timestamp.ofUnixMillis? (BigEndian.int64Value bs) with
    | some ts => .ok ts
    | none => .error .range

/-- The `boolean` in a cell: every byte but zero is true. -/
def toFlag : Bytes → Except Fault Bool
  | [b] => .ok (b ≠ 0)
  | _ => .error .length

end Cell

end Messaging.Cql
