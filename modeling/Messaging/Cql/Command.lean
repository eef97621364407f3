import Messaging.Cql.Cell
import Messaging.Cql.Lexis
import Messaging.Text.Decimal

/-!
What statements of CQL ask for, as far as they are sent here: `CREATE KEYSPACE`, `USE`,
`CREATE TABLE`, and `INSERT` and `SELECT` with a marker for every value. A statement that is read
as none of these is taken for a syntax error.
-/
namespace Messaging.Cql

/-- The columns of a `PRIMARY KEY`: by the first the rows are parted, by the others they are
ordered. -/
structure PrimaryKey where
  partition : List String
  clustering : List String
  deriving DecidableEq, Repr

def PrimaryKey.columns (key : PrimaryKey) : List String := key.partition ++ key.clustering

structure Definition where
  columns : List Column
  key : PrimaryKey
  deriving DecidableEq, Repr

inductive Command
  | createKeyspace (ifNotExists : Bool) (name : String) (replication : List (String × String))
  | use (name : String)
  | createTable (ifNotExists : Bool) (name : String) (definition : Definition)
  /-- The columns that values are bound to, and the number of markers for them. -/
  | insert (table : String) (columns : List String) (markers : Nat)
  /-- The columns that are asked for, and those that have to be equal to the bound values. -/
  | select (columns : List String) (table : String) (restricted : List String) (limit : Option Nat)
  deriving DecidableEq, Repr

namespace Command

def names? (stop : Token) : List Token → Option (List String × List Token)
  | first :: next :: rest => do
    let name ← first.name?
    if next = stop then return ([name], rest)
    else if next = .symbol ',' then
      let (more, rest) ← names? stop rest
      return (name :: more, rest)
    else none
  | _ => none

def markers? : List Token → Option (Nat × List Token)
  | mark :: next :: rest =>
    if mark ≠ .symbol '?' then none
    else if next = .symbol ')' then some (1, rest)
    else if next = .symbol ',' then (markers? rest).map fun (n, rest) => (n + 1, rest)
    else none
  | _ => none

def entries? : List Token → Option (List (String × String) × List Token)
  | key :: colon :: value :: next :: rest => do
    let entry := (← key.literal?, ← value.literal?)
    if colon ≠ .symbol ':' then none
    else if next = .symbol '\x7d' then return ([entry], rest)
    else if next = .symbol ',' then
      let (more, rest) ← entries? rest
      return (entry :: more, rest)
    else none
  | _ => none

def restrictions? : List Token → Option (List String × List Token)
  | column :: .symbol '=' :: .symbol '?' :: rest => do
    let name ← column.name?
    match rest with
    | .keyword "and" :: rest =>
      let (more, rest) ← restrictions? rest
      return (name :: more, rest)
    | _ => return ([name], rest)
  | _ => none

def columnType? : Token → Option ColumnType
  | .identifier "uuid" => some .uuid
  | .identifier "text" => some .text
  | .identifier "ascii" => some .ascii
  | .identifier "timestamp" => some .timestamp
  | .identifier "boolean" => some .boolean
  | .identifier name => some (.other name)
  | _ => none

/-- The columns of a primary key, from its opening bracket on; the first column alone is the
partition's, unless those of the partition are in brackets of their own. -/
def primaryKey? : List Token → Option (PrimaryKey × List Token)
  | .symbol '(' :: .symbol '(' :: rest => do
    let (partition, rest) ← names? (.symbol ')') rest
    match rest with
    | .symbol ',' :: rest =>
      let (clustering, rest) ← names? (.symbol ')') rest
      return (⟨partition, clustering⟩, rest)
    | .symbol ')' :: rest => return (⟨partition, []⟩, rest)
    | _ => none
  | .symbol '(' :: rest => do
    let (columns, rest) ← names? (.symbol ')') rest
    return (⟨columns.take 1, columns.drop 1⟩, rest)
  | _ => none

/-- The columns of a table and its primary key, which comes last, up to the closing bracket. -/
def definition? : List Token → Option (Definition × List Token)
  | .keyword "primary" :: .identifier "key" :: rest => do
    let (key, rest) ← primaryKey? rest
    match rest with
    | .symbol ')' :: rest => return (⟨[], key⟩, rest)
    | _ => none
  | name :: type :: .symbol ',' :: rest => do
    let column : Column := ⟨← name.name?, ← columnType? type⟩
    let (definition, rest) ← definition? rest
    return ({ definition with columns := column :: definition.columns }, rest)
  | _ => none

def after? (parts tokens : List Token) : Option (List Token) := parts.isPrefixOf? tokens

/-- Whether a creation is made to depend on what exists, and what is after that. -/
def ifNotExists (tokens : List Token) : Bool × List Token :=
  match after? [.keyword "if", .keyword "not", .identifier "exists"] tokens with
  | some rest => (true, rest)
  | none => (false, tokens)

def isEnd (tokens : List Token) : Bool := tokens.all fun t => t = .symbol ';'

def createKeyspace? (tokens : List Token) : Option Command :=
  let (ifNotExists, tokens) := ifNotExists tokens
  match tokens with
  | named :: rest => do
    let name ← named.name?
    let rest ← after? [.keyword "with", .identifier "replication", .symbol '=', .symbol '\x7b'] rest
    let (replication, rest) ← entries? rest
    if isEnd rest then some (.createKeyspace ifNotExists name replication) else none
  | [] => none

def createTable? (tokens : List Token) : Option Command :=
  let (ifNotExists, tokens) := ifNotExists tokens
  match tokens with
  | named :: .symbol '(' :: rest => do
    let name ← named.name?
    let (definition, rest) ← definition? rest
    if isEnd rest then some (.createTable ifNotExists name definition) else none
  | _ => none

def use? : List Token → Option Command
  | named :: rest => do
    let name ← named.name?
    if isEnd rest then some (.use name) else none
  | [] => none

def insert? : List Token → Option Command
  | .keyword "into" :: named :: .symbol '(' :: rest => do
    let name ← named.name?
    let (columns, rest) ← names? (.symbol ')') rest
    let rest ← after? [.identifier "values", .symbol '('] rest
    let (markers, rest) ← markers? rest
    if isEnd rest then some (.insert name columns markers) else none
  | _ => none

def count? : Token → Option Nat
  | .constant spelled =>
    let digits := Utf8.ofString spelled
    if digits.all Decimal.isDigit && Decimal.value digits ≠ 0 then some (Decimal.value digits)
    else none
  | _ => none

def select? (tokens : List Token) : Option Command := do
  let (columns, rest) ← names? (.keyword "from") tokens
  match rest with
  | named :: .keyword "where" :: rest =>
    let name ← named.name?
    let (restricted, rest) ← restrictions? rest
    match rest with
    | .keyword "limit" :: counted :: rest =>
      let count ← count? counted
      if isEnd rest then some (.select columns name restricted (some count)) else none
    | _ => if isEnd rest then some (.select columns name restricted none) else none
  | _ => none

def ofTokens? : List Token → Option Command
  | .keyword "create" :: .keyword "keyspace" :: rest => createKeyspace? rest
  | .keyword "create" :: .keyword "table" :: rest => createTable? rest
  | .keyword "use" :: rest => use? rest
  | .keyword "insert" :: rest => insert? rest
  | .keyword "select" :: rest => select? rest
  | _ => none

/-- What a statement asks for; none for a syntax error. -/
@[irreducible] def read? (statement : String) : Option Command :=
  (Lexis.tokens? statement).bind ofTokens?

end Command

end Messaging.Cql
