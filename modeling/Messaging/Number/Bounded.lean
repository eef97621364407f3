import Messaging.Text.Decimal

/-!
Whole numbers within bounds, read from their digits. A text is read from the left; the first
byte that is no digit, or the first digit that takes the number out of its bounds, decides.
-/
namespace Messaging.Bounded

inductive Fault
  | empty
  | invalidDigit
  | tooLarge
  | tooSmall
  deriving DecidableEq, Repr

def Fault.message : Fault → String
  | .empty => "cannot parse integer from empty string"
  | .invalidDigit => "invalid digit found in string"
  | .tooLarge => "number too large to fit in target type"
  | .tooSmall => "number too small to fit in target type"

/-- Reads digits after a number, and keeps what they give at most `greatest`. -/
def digits (greatest : Nat) : (n : Nat) → Bytes → Option (Except Unit Nat)
  | n, [] => some (.ok n)
  | n, b :: rest =>
    if Decimal.isDigit b then
      let grown := n * 10 + Decimal.digitValue b
      if grown ≤ greatest then digits greatest grown rest else some (.error ())
    else none

def magnitude (greatest : Nat) (outside : Fault) : Bytes → Except Fault Nat
  | [] => .error .invalidDigit
  | b :: rest =>
    match digits greatest 0 (b :: rest) with
    | none => .error .invalidDigit
    | some (.error ()) => .error outside
    | some (.ok n) => .ok n

/-- Reads a number without sign or with a plus. -/
def readUnsigned (greatest : Nat) : Bytes → Except Fault Nat
  | [] => .error .empty
  | b :: rest => magnitude greatest .tooLarge (if b = 0x2B then rest else b :: rest)

/-- Reads a number without sign or with either sign. -/
def readSigned (lowest greatest : Nat) : Bytes → Except Fault Int
  | [] => .error .empty
  | b :: rest =>
    if b = 0x2D then (magnitude lowest .tooSmall rest).map fun n => -(n : Int)
    else
      (magnitude greatest .tooLarge (if b = 0x2B then rest else b :: rest)).map fun n => (n : Int)

def greatestInt64 : Nat := 9223372036854775807

def greatestUInt64 : Nat := 18446744073709551615

end Messaging.Bounded
