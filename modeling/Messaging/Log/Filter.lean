import Messaging.Log
import Messaging.Number.Bounded
import Messaging.Text.WhiteSpace

/-!
Which events and spans a log takes. A filter is a list of directives, each a level for the parts
of the server whose name starts with some text, or for what is said inside a span; among those
that fit the longest name decides.
-/
namespace Messaging.Log

/-- A level for some of what is said; without a level nothing of it is taken. -/
structure Directive where
  /-- How the name of the speaking part starts. -/
  target : Option String
  /-- The span that the directive is about. -/
  span : Option String
  /-- Conditions on the span's fields, which are not told apart further. -/
  hasFields : Bool
  level : Option Level
  deriving DecidableEq, Repr

namespace Directive

/-- A level by its name in any case, or by its number; nothing means errors only. The outer
option tells whether it is a level at all. -/
def level? (s : String) : Option (Option Level) :=
  let ofRank : Nat → Option (Option Level)
    | 0 => some none
    | 1 => some (some .error)
    | 2 => some (some .warn)
    | 3 => some (some .info)
    | 4 => some (some .debug)
    | 5 => some (some .trace)
    | _ => none
  match Bounded.readUnsigned Bounded.greatestUInt64 (Utf8.ofString s) with
  | .ok n => ofRank n
  | .error _ =>
    match s.toLower with
    | "" | "error" => some (some .error)
    | "warn" => some (some .warn)
    | "info" => some (some .info)
    | "debug" => some (some .debug)
    | "trace" => some (some .trace)
    | "off" => some none
    | _ => none

/-- The level after an equals sign; nothing there means all levels. -/
def levelAfterEquals? (s : String) : Option (Option Level) :=
  if s.isEmpty then some (some .trace) else level? s

def isNameStart (c : Char) : Bool :=
  c = '-' || c = ':' || c = '_' || c.isAlphanum || 0x80 ≤ c.toNat

/-- The characters without white space at either end. -/
def trim (cs : List Char) : List Char :=
  ((cs.dropWhile Text.isWhiteSpace).reverse.dropWhile Text.isWhiteSpace).reverse

/-- The rest of a directive after the bracket of a span: the span's name, conditions in braces,
the closing bracket, and a level. -/
def afterBracket? (target : Option String) (cs : List Char) : Option Directive :=
  let name := cs.takeWhile fun c => c ≠ ']' && c ≠ '\x7b'
  let span := if name.isEmpty then none else some (String.ofList name)
  let (hasFields, rest) :=
    match cs.dropWhile fun c => c ≠ ']' && c ≠ '\x7b' with
    | '\x7b' :: fields => (true, (fields.dropWhile (· ≠ '\x7d')).drop 1)
    | rest => (false, rest)
  match rest with
  | [']'] => some ⟨target, span, hasFields, some .trace⟩
  | ']' :: '=' :: level =>
    (levelAfterEquals? (String.ofList level)).map fun l => ⟨target, span, hasFields, l⟩
  | _ => none

/-- The directive that a text spells: a level, a name, a name and a level, or one about a
span. -/
def read? (s : String) : Option Directive :=
  let cs := trim s.toList
  match cs with
  | [] => none
  | '[' :: rest => afterBracket? none rest
  | c :: _ =>
    if !isNameStart c then none
    else
      let name := String.ofList (cs.takeWhile fun c => c ≠ '=' && c ≠ '[')
      match cs.dropWhile fun c => c ≠ '=' && c ≠ '[' with
      | [] =>
        match level? name with
        | some l => some ⟨none, none, false, l⟩
        | none => some ⟨some name, none, false, some .trace⟩
      | '=' :: level =>
        (levelAfterEquals? (String.ofList level)).map fun l => ⟨some name, none, false, l⟩
      | _ :: rest => afterBracket? (some name) rest

def isPlain (d : Directive) : Bool := d.span.isNone && !d.hasFields

def fits (d : Directive) (target : String) : Bool := d.target.all fun t => t.isPrefixOf target

def takes (d : Directive) (l : Level) : Bool := d.level.any fun most => l.rank ≤ most.rank

end Directive

abbrev Filter := List Directive

namespace Filter

/-- The filter that a text spells, its directives separated by commas; none if one of them is
malformed. A text without directives takes errors only. -/
def read? (s : String) : Option Filter := do
  let parts := (s.splitOn ",").filter fun part => !part.isEmpty
  let directives ← parts.mapM Directive.read?
  return if directives.isEmpty then [⟨none, none, false, some .error⟩] else directives

def standard : Filter := [⟨none, none, false, some .info⟩]

/-- The filter of `RUST_LOG`: one that is not set or malformed counts as the standard one. -/
def ofSetting (value : Option String) : Filter := (value.bind read?).getD standard

/-- Of two directives that fit, the one that decides: that of the longer name, and of equally long
ones the later. -/
def moreSpecific (chosen : Option Directive) (d : Directive) : Option Directive :=
  let size (d : Directive) : Nat := d.target.elim 0 fun t => t.length + 1
  match chosen with
  | none => some d
  | some c => if size c ≤ size d then some d else some c

/-- The plain directive that decides about a speaking part. -/
def deciding? (f : Filter) (target : String) : Option Directive :=
  (f.filter fun d => d.isPlain && d.fits target).foldl moreSpecific none

/-- What a speaking part says at a level is taken, wherever it is said. -/
def takesPlain (f : Filter) (target : String) (l : Level) : Bool :=
  (f.deciding? target).any fun d => d.takes l

/-- A span is kept: its level is taken, or a directive is about it. -/
def keepsSpan (f : Filter) (s : Span) : Bool :=
  f.takesPlain s.target s.level
    || f.any fun d => !d.isPlain && !d.hasFields && d.span.all (· = s.name) && d.fits s.target

/-- What is said at a level inside a span is taken for the span's sake. -/
def takesInside (f : Filter) (l : Level) (s : Span) : Bool :=
  f.any fun d =>
    !d.isPlain && !d.hasFields && d.span.all (· = s.name) && d.fits s.target && d.takes l

/-- The event as the log takes it, without the spans that are not kept; none if it is not
taken. -/
def take? (f : Filter) (e : Event) : Option Event :=
  if f.takesPlain e.target e.level || e.spans.any (f.takesInside e.level) then
    some { e with spans := e.spans.filter f.keepsSpan }
  else none

end Filter

end Messaging.Log
