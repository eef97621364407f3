import Messaging.Cql.Command
import Messaging.Cql.Record
import Messaging.Cql.Statement
import Messaging.Store.Rows

/-!
The database, as far as it is used: keyspaces, the table of messages in each, and the requests
that a client can make. What a request does is read from its statement, in which the values that it
binds stand as markers. A row is written under its primary key, and rows are kept in the order of
the key. A request may be made to fail from outside.
-/
namespace Messaging.Cql

inductive Request
  | login (user password : String)
  | createKeyspace (name : String)
  | use (name : String)
  | createTable
  | prepareInsert
  | prepareSelect
  /-- Executes the prepared `INSERT` with the seven cells of a row. -/
  | insert (cells : List Bytes)
  /-- Executes the prepared `SELECT` with a receiver and a message. -/
  | select (receiverId messageId : Bytes)
  deriving DecidableEq

namespace Request

/-- The text that the database reads; a login has none. -/
def statement : Request → String
  | .login _ _ => ""
  | .createKeyspace name => Statement.createKeyspace name
  | .use name => Statement.use name
  | .createTable => Statement.createTable
  | .prepareInsert | .insert _ => Statement.insert
  | .prepareSelect | .select _ _ => Statement.select

/-- The values that are bound to the markers of the statement, in order. -/
def values : Request → List Bytes
  | .insert cells => cells
  | .select receiverId messageId => [receiverId, messageId]
  | _ => []

/-- The statement is to be prepared, and not carried out. -/
def isPrepare : Request → Bool
  | .prepareInsert | .prepareSelect => true
  | _ => false

/-- The consistency level that is told along with a request: `ONE` for the two prepared statements,
and for all else the session's own. Whatever it is, the one server here answers. -/
def consistency : Request → String
  | .insert _ | .select _ _ => "ONE"
  | _ => "LOCAL_QUORUM"

end Request

def tableName : String := "messages"

/-- The definition of the one table that a keyspace has room for here, `messages`. -/
def Definition.messages : Definition where
  columns := Record.columns
  key := { partition := ["receiver_id"], clustering := ["message_id", "created_at"] }

/-- A row of the table, with one cell for each column, in their order. -/
structure Row where
  cells : List Bytes
  complete : cells.length = Definition.messages.columns.length
  deriving DecidableEq

abbrev Table := Rows Row

def keyCells (key : RowKey) : List (String × Bytes) :=
  Definition.messages.key.columns.zip
    [Cell.ofUuid key.receiverId, Cell.ofUuid key.messageId, BigEndian.ofInt64 key.moment]

namespace Row

def columnNames : List String := Definition.messages.columns.map Column.name

/-- The row that has these values in these columns; none unless every column has one. -/
def ofValues? (names : List String) (values : List Bytes) : Option Row :=
  let cells := columnNames.filterMap fun name => List.lookup name (names.zip values)
  if h : cells.length = Definition.messages.columns.length then some ⟨cells, h⟩ else none

def cell? (row : Row) (column : String) : Option Bytes :=
  List.lookup column (columnNames.zip row.cells)

/-- What a row is kept under: its cells in the columns of the primary key. -/
def key? (row : Row) : Option RowKey :=
  match Definition.messages.key.columns.map row.cell? with
  | [some receiverId, some messageId, some moment] => do
    let receiverId ← Uuid.ofBytes? receiverId
    let messageId ← Uuid.ofBytes? messageId
    if moment.length = 8 then some ⟨receiverId, messageId, BigEndian.int64Value moment⟩ else none
  | _ => none

end Row

/-- The rows that `WHERE` leaves, in the clustering order. -/
def Table.matching (table : Table) (restricted : List String) (values : List Bytes) : List Row :=
  (table.filter fun entry =>
    (restricted.zip values).all fun (column, value) =>
      List.lookup column (keyCells entry.1) = some value).map Prod.snd

def Table.answer (table : Table) (columns restricted : List String) (limit : Option Nat)
    (values : List Bytes) : ResultSet where
  columns := columns.filterMap fun name => Definition.messages.columns.find? fun c => c.name = name
  rows :=
    let found := table.matching restricted values
    (limit.elim found found.take).map fun row => columns.map row.cell?

/-- `WHERE` restricts all columns of the partition key, and of the clustering columns none but the
first ones. -/
def PrimaryKey.locates (key : PrimaryKey) (restricted : List String) : Bool :=
  (List.range (key.clustering.length + 1)).any fun n =>
    restricted.isPerm (key.partition ++ key.clustering.take n)

def Command.table? : Command → Option String
  | .insert table _ _ | .select _ table _ _ => some table
  | _ => none

/-- What is wrong with a statement on the table, if anything. -/
def Command.misuse? : Command → Option String
  | .insert _ columns markers =>
    if columns.length ≠ markers then some "Unmatched column names/values"
    else if columns.isPerm Row.columnNames then none
    else some "the columns are not those of the table"
  | .select columns _ restricted _ =>
    if !columns.all Row.columnNames.contains then some "Undefined column name"
    else if Definition.messages.key.locates restricted then none
    else some "Cannot execute this query as it might involve data filtering"
  | _ => none

structure Server where
  /-- The keyspaces, each with its table of messages if it has one. -/
  keyspaces : List (String × Option Table)
  /-- The user and password that a login needs, if one is asked for. -/
  credentials : Option (String × String)
  /-- The requests that fail, and why. -/
  fails : Request → Option Failure
  /-- What every lookup is answered with, in place of the stored rows. -/
  canned : Option ResultSet
  /-- The requests that were received, in order. -/
  received : List Request

namespace Server

def keyspace? (s : Server) (name : String) : Option (Option Table) :=
  (s.keyspaces.find? fun k => k.1 = name).map Prod.snd

def table? (s : Server) (current : Option String) : Option Table :=
  (current.bind s.keyspace?).join

def setTable (s : Server) (name : String) (table : Table) : Server :=
  { s with
    keyspaces := s.keyspaces.map fun k => if k.1 = name then (k.1, some table) else k }

inductive Response
  | done
  | rows (r : ResultSet)

def invalid (reason : String) : Failure := .refused ⟨invalidCode, reason⟩

def syntaxError : Failure := .refused ⟨syntaxErrorCode, "no viable alternative at input"⟩

def alreadyExists (name : String) : Failure := .refused ⟨alreadyExistsCode, name⟩

def noKeyspace (name : String) : Failure := invalid s!"Keyspace '{name}' does not exist"

def unconfigured (table : String) : Failure := invalid ("unconfigured table " ++ table)

def noTable : Failure := unconfigured tableName

/-- The table that a statement is on, and its keyspace, if it is there and the statement suits
it. -/
def tableFor (s : Server) (current : Option String) (name : String) (c : Command) :
    Except Failure (String × Table) :=
  match current, s.table? current with
  | some keyspace, some table =>
    if name ≠ tableName then .error (unconfigured name)
    else match c.misuse? with
      | some reason => .error (invalid reason)
      | none => .ok (keyspace, table)
  | _, _ => .error (unconfigured name)

def createKeyspace (s : Server) (ifNotExists : Bool) (name : String)
    (replication : List (String × String)) : Except Failure Server :=
  if (List.lookup "class" replication).isNone then
    .error (invalid "Missing mandatory replication strategy class")
  else match s.keyspace? name with
    | some _ => if ifNotExists then .ok s else .error (alreadyExists name)
    | none => .ok { s with keyspaces := s.keyspaces ++ [(name, none)] }

def createTable (s : Server) (current : Option String) (ifNotExists : Bool) (name : String)
    (definition : Definition) : Except Failure Server :=
  match current with
  | none => .error (invalid "No keyspace has been specified")
  | some keyspace =>
    if name ≠ tableName || definition ≠ .messages then
      .error (invalid "there is no room for another table")
    else match s.keyspace? keyspace with
      | none => .error (noKeyspace keyspace)
      | some (some _) => if ifNotExists then .ok s else .error (alreadyExists name)
      | some none => .ok (s.setTable keyspace [])

/-- Executes a statement in the current keyspace, with the values of its markers. -/
def execute (s : Server) (current : Option String) (values : List Bytes) (c : Command) :
    Except Failure (Response × Server) :=
  match c with
  | .createKeyspace ifNotExists name replication =>
    (s.createKeyspace ifNotExists name replication).map fun s => (.done, s)
  | .use name => if (s.keyspace? name).isSome then .ok (.done, s) else .error (noKeyspace name)
  | .createTable ifNotExists name definition =>
    (s.createTable current ifNotExists name definition).map fun s => (.done, s)
  | .insert name columns _ => do
    let (keyspace, table) ← s.tableFor current name c
    match (Row.ofValues? columns values).bind fun row => row.key?.map fun key => (key, row) with
    | some (key, row) => .ok (.done, s.setTable keyspace (table.upsert key row))
    | none => .error (invalid "malformed values")
  | .select columns name restricted limit =>
    match s.canned with
    | some reply => .ok (.rows reply, s)
    | none => do
      let (_, table) ← s.tableFor current name c
      return (.rows (table.answer columns restricted limit values), s)

def prepare (s : Server) (current : Option String) (c : Command) :
    Except Failure (Response × Server) :=
  match c.table? with
  | some name => (s.tableFor current name c).map fun _ => (.done, s)
  | none => .ok (.done, s)

def follow (s : Server) (current : Option String) (prepared : Bool) (values : List Bytes) :
    Option Command → Except Failure (Response × Server)
  | none => .error syntaxError
  | some c => if prepared then s.prepare current c else s.execute current values c

def carryOut (s : Server) (current : Option String) (r : Request) :
    Except Failure (Response × Server) :=
  match r with
  | .login _ _ => .ok (.done, s)
  | _ => s.follow current r.isPrepare r.values (Command.read? r.statement)

/-- The answer to a request, and the server after it. A request that is refused changes nothing. -/
def perform (s : Server) (current : Option String) (r : Request) :
    Except Failure Response × Server :=
  match s.carryOut current r with
  | .ok (response, after) => (.ok response, after)
  | .error failure => (.error failure, s)

/-- Receives a request, which fails if it is made to, and is carried out otherwise. That a request
which is made to fail has no effect is taken for granted here: an `INSERT` that is answered too late
may well have been applied. -/
def receive (s : Server) (current : Option String) (r : Request) :
    Except Failure Response × Server :=
  let s := { s with received := s.received ++ [r] }
  match s.fails r with
  | some failure => (.error failure, s)
  | none => s.perform current r

end Server

end Messaging.Cql
