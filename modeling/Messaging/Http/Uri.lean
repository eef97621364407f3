import Messaging.Text.Utf8

/-!
Targets and addresses: `scheme://authority/path?query#fragment`, a path alone, an authority alone,
or `*`. Only their form is checked, and only the path is taken out.
-/
namespace Messaging.Http.Uri

inductive Fault
  | empty
  | character
  | authority
  | format
  | schemeTooLong
  | tooLong
  deriving DecidableEq, Repr

def Fault.message : Fault → String
  | .empty => "empty string"
  | .character => "invalid uri character"
  | .authority => "invalid authority"
  | .format => "invalid format"
  | .schemeTooLong => "scheme too long"
  | .tooLong => "uri too long"

def isAlphanumeric (b : UInt8) : Bool :=
  (0x30 ≤ b && b ≤ 0x39) || (0x41 ≤ b && b ≤ 0x5A) || (0x61 ≤ b && b ≤ 0x7A)

/-- The byte may stand in an authority, or end it. -/
def isAuthorityByte (b : UInt8) : Bool :=
  isAlphanumeric b ||
    [0x21, 0x23, 0x24, 0x26, 0x27, 0x28, 0x29, 0x2A, 0x2B, 0x2C, 0x2D, 0x2E, 0x2F, 0x3A, 0x3B, 0x3D,
      0x3F, 0x40, 0x5B, 0x5D, 0x5F, 0x7E].contains b

def isSchemeByte (b : UInt8) : Bool := isAlphanumeric b || [0x2B, 0x2D, 0x2E].contains b

def isPathByte (b : UInt8) : Bool :=
  b = 0x21 || (0x24 ≤ b && b ≤ 0x3B) || b = 0x3D || (0x40 ≤ b && b ≤ 0x5F)
    || (0x61 ≤ b && b ≤ 0x7A) || b = 0x7C || 0x7E ≤ b || [0x22, 0x7B, 0x7D].contains b

def isQueryByte (b : UInt8) : Bool :=
  b = 0x21 || (0x24 ≤ b && b ≤ 0x3B) || b = 0x3D || 0x3F ≤ b

structure AuthorityState where
  /-- Colons since the last at sign or closing bracket. -/
  colons : Nat
  opened : Bool
  closed : Bool
  /-- A per cent sign since the last at sign or closing bracket. -/
  percent : Bool
  /-- The byte before was an at sign. -/
  endsInAt : Bool

def AuthorityState.step (s : AuthorityState) (b : UInt8) : Except Fault AuthorityState :=
  let s := { s with endsInAt := b = 0x40 }
  if b = 0x3A then
    if 8 ≤ s.colons then .error .authority else .ok { s with colons := s.colons + 1 }
  else if b = 0x5B then
    if s.percent || s.opened then .error .authority else .ok { s with opened := true }
  else if b = 0x5D then
    if !s.opened || s.closed then .error .authority
    else .ok { s with closed := true, colons := 0, percent := false }
  else if b = 0x40 then .ok { s with colons := 0, percent := false }
  else if b = 0x25 then .ok { s with percent := true }
  else if isAuthorityByte b then .ok s
  else .error .character

def endsAuthority (b : UInt8) : Bool := b = 0x2F || b = 0x3F || b = 0x23

def takeAuthority (bs : Bytes) : Except Fault (Bytes × Bytes) := do
  let authority := bs.takeWhile fun b => !endsAuthority b
  let s ← authority.foldlM AuthorityState.step ⟨0, false, false, false, false⟩
  if s.opened != s.closed || 1 < s.colons || s.endsInAt || s.percent then throw .authority
  return (authority, bs.dropWhile fun b => !endsAuthority b)

/-- The path of a target from its path on. Query and fragment must be well formed as far as they
are read: a fragment is not. -/
def takePath (bs : Bytes) : Except Fault Bytes :=
  let ends (b : UInt8) : Bool := b = 0x3F || b = 0x23
  let path := bs.takeWhile fun b => !ends b
  if !path.all isPathByte then .error .character
  else
    let wellFormed :=
      match bs.dropWhile fun b => !ends b with
      | 0x3F :: query => (query.takeWhile (· ≠ 0x23)).all isQueryByte
      | _ => true
    let kept := bs.takeWhile (· ≠ 0x23)
    if !wellFormed || (Utf8.decode? kept).isNone then .error .character else .ok path

/-- What follows the scheme and `://`, if the bytes start with them. -/
def afterScheme? (bs : Bytes) : Except Fault (Option Bytes) :=
  let scheme := bs.takeWhile isSchemeByte
  match bs.dropWhile isSchemeByte with
  | 0x3A :: 0x2F :: 0x2F :: rest =>
    if bs.length ≤ 3 then .ok none
    else if 64 < scheme.length then .error .schemeTooLong
    else .ok (some rest)
  | _ => .ok none

/-- The path of a target or address. It is empty for an authority alone, and `/` where an address
has none. -/
def path (bs : Bytes) : Except Fault Bytes :=
  if 65534 < bs.length then .error .tooLong
  else match bs with
    | [] => .error .empty
    | [0x2A] => .ok [0x2A]
    | 0x2F :: _ => takePath bs
    | _ => do
      match ← afterScheme? bs with
      | none =>
        let (_, rest) ← takeAuthority bs
        if rest.isEmpty then return []
        else if bs.length = 1 then throw .character
        else throw .format
      | some rest =>
        let (authority, rest) ← takeAuthority rest
        if authority.isEmpty then throw .format
        let path ← takePath rest
        return if path.isEmpty then [0x2F] else path

end Messaging.Http.Uri
