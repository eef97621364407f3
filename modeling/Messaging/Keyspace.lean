/-!
Names of keyspaces. A name stands unquoted in the statement that creates the keyspace, so it has
to be a plain identifier; unquoted identifiers are folded to lower case, and so is the name.
-/
namespace Messaging.Keyspace

def maxLength : Nat := 48

def isNameChar (c : Char) : Bool := c.isAlphanum || c = '_'

/-- A letter, then letters, digits and underscores, 48 characters at most. -/
def isName (s : String) : Bool :=
  s.toList.head?.any Char.isAlpha && s.toList.length ≤ maxLength && s.toList.all isNameChar

/-- A character of an identifier with its case folded. -/
def foldChar (c : Char) : Char := c.toLower

/-- `parse_keyspace`: a plain name in lower case; none for any other text. -/
def read? (s : String) : Option String :=
  if isName s then some (String.ofList (s.toList.map foldChar)) else none

end Messaging.Keyspace
