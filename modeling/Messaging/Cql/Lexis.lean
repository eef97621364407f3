/-!
The lexical rules of CQL. A statement is read from left to right: words are identifiers and
keywords, and their case does not count; names between double quotes keep their case; texts stand
between quotes or pairs of dollar signs; white space and comments stand between the parts. A
constant with hyphens in it, and an operator of two characters, is told in pieces.
-/
namespace Messaging.Cql

inductive Token
  /-- A word that can name something, folded to lower case. -/
  | identifier (name : String)
  /-- A reserved word, folded to lower case. It names nothing. -/
  | keyword (name : String)
  /-- A name between double quotes, as it is. -/
  | quotedName (name : String)
  | text (value : String)
  /-- A number, or whatever else begins with a digit. -/
  | constant (spelled : String)
  | symbol (c : Char)
  deriving DecidableEq, Repr

/-- The reserved words of CQL, which name nothing unless they are quoted. `EXISTS`, `KEY`, `TEXT`,
`VALUES` and others are keywords too, but can name things. -/
def reservedWords : List String :=
  ["add", "allow", "alter", "and", "apply", "asc", "authorize", "batch", "begin", "by",
    "columnfamily", "create", "default", "delete", "desc", "describe", "drop", "entries",
    "execute", "from", "full", "grant", "if", "in", "index", "infinity", "insert", "into", "is",
    "keyspace", "limit", "materialized", "mbean", "mbeans", "modify", "nan", "norecursive", "not",
    "null", "of", "on", "or", "order", "primary", "rename", "replace", "revoke", "schema",
    "select", "set", "table", "to", "token", "truncate", "unlogged", "unset", "update", "use",
    "using", "view", "where", "with"]

def isReserved (word : String) : Bool := reservedWords.contains word

namespace Token

/-- The part that an unquoted word is, folded to lower case. -/
def ofWord (word : String) : Token := if isReserved word then .keyword word else .identifier word

/-- What a token names, if it can name anything. -/
def name? : Token → Option String
  | .identifier name | .quotedName name => some name
  | _ => none

def literal? : Token → Option String
  | .text value | .constant value => some value
  | _ => none

end Token

namespace Lexis

/-- Where in a statement a reader stands; what it has read of a part is kept last first. -/
inductive State
  | between
  | word (read : List Char)
  | constant (read : List Char)
  | quotedName (read : List Char)
  /-- After a double quote in a quoted name, which ends the name unless another follows. -/
  | quotedNameMark (read : List Char)
  | text (read : List Char)
  /-- After a quote in a text, which ends the text unless another follows. -/
  | textMark (read : List Char)
  /-- After the first of two dollar signs that open a text. -/
  | dollar
  | dollarText (read : List Char)
  | dollarTextMark (read : List Char)
  /-- After a hyphen; two begin a comment. -/
  | hyphen
  /-- After a slash; with a slash or a star it begins a comment. -/
  | slash
  | lineComment
  | comment
  /-- After a star in a comment. -/
  | commentStar
  deriving DecidableEq, Repr

def quote : Char := '\x27'

def isBlank (c : Char) : Bool := c = ' ' || c = '\t' || c = '\n' || c = '\r'

/-- The character may stand in a word, though not in its first place unless it is a letter. -/
def isWordChar (c : Char) : Bool := c.isAlphanum || c = '_'

def isConstantChar (c : Char) : Bool := c.isAlphanum || c = '.'

def isSymbol (c : Char) : Bool := "=<>!()[]\x7b\x7d,;:.*+%?".toList.contains c

def spelled (read : List Char) : String := String.ofList read.reverse

def wordOf (read : List Char) : Token := .ofWord (String.ofList (read.reverse.map Char.toLower))

def start (c : Char) : Option (State × List Token) :=
  if isBlank c then some (.between, [])
  else if c.isAlpha then some (.word [c], [])
  else if c.isDigit then some (.constant [c], [])
  else if c = '"' then some (.quotedName [], [])
  else if c = quote then some (.text [], [])
  else if c = '$' then some (.dollar, [])
  else if c = '-' then some (.hyphen, [])
  else if c = '/' then some (.slash, [])
  else if isSymbol c then some (.between, [.symbol c])
  else none

def startAfter (ended : Token) (c : Char) : Option (State × List Token) :=
  (start c).map fun (s, out) => (s, ended :: out)

/-- Reads one character, and gives the parts that it ends. -/
def step : State → Char → Option (State × List Token)
  | .between, c => start c
  | .word read, c =>
    if isWordChar c then some (.word (c :: read), []) else startAfter (wordOf read) c
  | .constant read, c =>
    if isConstantChar c then some (.constant (c :: read), [])
    else startAfter (.constant (spelled read)) c
  | .quotedName read, c =>
    if c = '"' then some (.quotedNameMark read, []) else some (.quotedName (c :: read), [])
  | .quotedNameMark read, c =>
    if c = '"' then some (.quotedName (c :: read), [])
    else startAfter (.quotedName (spelled read)) c
  | .text read, c => if c = quote then some (.textMark read, []) else some (.text (c :: read), [])
  | .textMark read, c =>
    if c = quote then some (.text (c :: read), []) else startAfter (.text (spelled read)) c
  | .dollar, c => if c = '$' then some (.dollarText [], []) else none
  | .dollarText read, c =>
    if c = '$' then some (.dollarTextMark read, []) else some (.dollarText (c :: read), [])
  | .dollarTextMark read, c =>
    if c = '$' then some (.between, [.text (spelled read)])
    else some (.dollarText (c :: '$' :: read), [])
  | .hyphen, c => if c = '-' then some (.lineComment, []) else startAfter (.symbol '-') c
  | .slash, c =>
    if c = '/' then some (.lineComment, [])
    else if c = '*' then some (.comment, [])
    else startAfter (.symbol '/') c
  | .lineComment, c => some (if c = '\n' || c = '\r' then .between else .lineComment, [])
  | .comment, c => some (if c = '*' then .commentStar else .comment, [])
  | .commentStar, c =>
    some (if c = '/' then .between else if c = '*' then .commentStar else .comment, [])

/-- What the end of the statement ends; none if it stands inside a part that is still open. -/
def finish : State → Option (List Token)
  | .between | .lineComment => some []
  | .word read => some [wordOf read]
  | .constant read => some [.constant (spelled read)]
  | .quotedNameMark read => some [.quotedName (spelled read)]
  | .textMark read => some [.text (spelled read)]
  | .hyphen => some [.symbol '-']
  | .slash => some [.symbol '/']
  | .quotedName _ | .text _ | .dollar | .dollarText _ | .dollarTextMark _ | .comment
  | .commentStar => none

/-- Reads characters from a place on, and gives the place after them and the parts they end. -/
def readFrom : State → List Char → Option (State × List Token)
  | s, [] => some (s, [])
  | s, c :: cs => do
    let (s, out) ← step s c
    let (s, more) ← readFrom s cs
    return (s, out ++ more)

/-- The parts of a statement; none if it cannot be parted. -/
def tokens? (statement : String) : Option (List Token) := do
  let (s, out) ← readFrom .between statement.toList
  return out ++ (← finish s)

end Lexis

end Messaging.Cql
