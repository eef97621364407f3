import Messaging.Cql.Cell
import Messaging.Message
import Messaging.ServiceError

/-!
Messages as rows of the table of messages. The type stands in a row as its name, and the time to
the millisecond. Rows are read by the names of their columns, in whatever order these come.
-/
namespace Messaging.Cql

/-- The `MessageRecord`: a row of `messages`, with `created_at` in whole milliseconds. -/
structure Record where
  messageId : Uuid
  senderId : Uuid
  receiverId : Uuid
  body : String
  createdAt : Timestamp
  typeName : String
  hasRead : Bool
  deriving DecidableEq

namespace Record

def ofMessage (m : Message) : Record where
  messageId := m.messageId
  senderId := m.senderId
  receiverId := m.receiverId
  body := m.body
  createdAt := m.createdAt.truncateToMillis
  typeName := m.type.name
  hasRead := m.hasRead

/-- The message of a record, unless its `msg_type` is unknown. -/
def toMessage (r : Record) : Except RowFault Message :=
  match MessageType.ofName? r.typeName with
  | none => .error (.unknownType r.typeName)
  | some type =>
    .ok {
      messageId := r.messageId
      senderId := r.senderId
      receiverId := r.receiverId
      body := r.body
      createdAt := r.createdAt
      type := type
      hasRead := r.hasRead }

/-- The columns of `messages`, in the order of its statements. -/
inductive Name
  | messageId
  | senderId
  | receiverId
  | body
  | createdAt
  | typeName
  | hasRead
  deriving DecidableEq, Repr

namespace Name

def all : List Name := [.messageId, .senderId, .receiverId, .body, .createdAt, .typeName, .hasRead]

def text : Name → String
  | .messageId => "message_id"
  | .senderId => "sender_id"
  | .receiverId => "receiver_id"
  | .body => "msg_body"
  | .createdAt => "created_at"
  | .typeName => "msg_type"
  | .hasRead => "has_read"

def ofText? (s : String) : Option Name := all.find? fun n => n.text = s

def type : Name → ColumnType
  | .messageId | .senderId | .receiverId => .uuid
  | .body | .typeName => .text
  | .createdAt => .timestamp
  | .hasRead => .boolean

/-- A column can be read as this one if it has a column of this type. -/
def admits (n : Name) (t : ColumnType) : Bool := t = n.type || (n.type = .text && t = .ascii)

end Name

def columns : List Column := Name.all.map fun n => ⟨n.text, n.type⟩

def cells (r : Record) : List Bytes :=
  [Cell.ofUuid r.messageId, Cell.ofUuid r.senderId, Cell.ofUuid r.receiverId, Cell.ofText r.body,
    Cell.ofTimestamp r.createdAt, Cell.ofText r.typeName, Cell.ofFlag r.hasRead]

inductive Fault
  /-- A column that no record has. -/
  | unknownColumn (name : String)
  /-- A column that stands twice. -/
  | repeatedColumn (name : String)
  /-- A column that a record needs is not there. -/
  | missingColumn (name : String)
  /-- A column has a type that it cannot be read from. -/
  | columnType (name : String)
  /-- A cell is no value of its column. -/
  | cell (name : String) (fault : Cell.Fault)
  deriving DecidableEq, Repr

def Fault.message : Fault → String
  | .unknownColumn name => "unknown column " ++ name
  | .repeatedColumn name => "column " ++ name ++ " occurs more than once"
  | .missingColumn name => "column " ++ name ++ " is missing"
  | .columnType name => "column " ++ name ++ " has a type that does not fit"
  | .cell name fault => "column " ++ name ++ ": " ++ fault.message

/-- The columns that have been matched to those of a record, in the order in which they come. -/
def matchColumns : List Column → Except Fault (List (Name × ColumnType))
  | [] => .ok []
  | c :: cs => do
    match Name.ofText? c.name with
    | none => throw (.unknownColumn c.name)
    | some n =>
      if !n.admits c.type then throw (.columnType c.name)
      let more ← matchColumns cs
      if more.any fun m => m.1 = n then throw (.repeatedColumn c.name)
      return (n, c.type) :: more

/-- The check of a reply's columns by name and type: they must be exactly those of a record, in any
order. -/
def checkColumns (columns : List Column) : Except Fault (List (Name × ColumnType)) := do
  let matched ← matchColumns columns
  match Name.all.find? fun n => !matched.any fun m => m.1 = n with
  | some n => throw (.missingColumn n.text)
  | none => return matched

def cellOf (n : Name) : List (Name × ColumnType) → List Cell → Except Fault (ColumnType × Bytes)
  | (m, t) :: more, cell :: cells =>
    if m = n then
      match cell with
      | some bs => .ok (t, bs)
      | none => .error (.cell n.text .null)
    else cellOf n more cells
  | _, _ => .error (.cell n.text .null)

def readCell {α : Type} (matched : List (Name × ColumnType)) (row : List Cell) (n : Name)
    (reader : ColumnType → Bytes → Except Cell.Fault α) : Except Fault α := do
  let (t, bs) ← cellOf n matched row
  (reader t bs).mapError (.cell n.text)

def ofRow (matched : List (Name × ColumnType)) (row : List Cell) : Except Fault Record := do
  return {
    messageId := ← readCell matched row .messageId fun _ => Cell.toUuid
    senderId := ← readCell matched row .senderId fun _ => Cell.toUuid
    receiverId := ← readCell matched row .receiverId fun _ => Cell.toUuid
    body := ← readCell matched row .body Cell.toText
    createdAt := ← readCell matched row .createdAt fun _ => Cell.toTimestamp
    typeName := ← readCell matched row .typeName Cell.toText
    hasRead := ← readCell matched row .hasRead fun _ => Cell.toFlag }

end Record

structure ResultSet where
  columns : List Column
  rows : List (List Cell)
  deriving DecidableEq

namespace ResultSet

/-- The record in the first row, if there is a row. The columns are checked in any case. -/
def firstRecord (r : ResultSet) : Except Record.Fault (Option Record) := do
  let matched ← Record.checkColumns r.columns
  match r.rows with
  | [] => return none
  | row :: _ => return some (← Record.ofRow matched row)

def firstMessage (r : ResultSet) : Except RowFault (Option Message) :=
  match r.firstRecord with
  | .error f => .error (.undecodable f.message)
  | .ok none => .ok none
  | .ok (some record) => record.toMessage.map some

end ResultSet

end Messaging.Cql
