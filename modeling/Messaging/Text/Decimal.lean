import Messaging.Text.Utf8

/-!
Decimal digits: reading runs of them and writing numbers with a fixed count of places.
-/
namespace Messaging.Decimal

def isDigit (b : UInt8) : Bool := 0x30 ≤ b ∧ b ≤ 0x39

def digitValue (b : UInt8) : Nat := b.toNat - 0x30

/-- The number that a run of digits spells, after a number `n` already read. -/
def valueFrom (n : Nat) (digits : Bytes) : Nat :=
  digits.foldl (fun value b => value * 10 + digitValue b) n

def value (digits : Bytes) : Nat := valueFrom 0 digits

@[simp] theorem valueFrom_nil (n : Nat) : valueFrom n [] = n := List.foldl_nil

@[simp] theorem valueFrom_cons (n : Nat) (b : UInt8) (digits : Bytes) :
    valueFrom n (b :: digits) = valueFrom (n * 10 + digitValue b) digits :=
  List.foldl_cons

def padded : (width : Nat) → (n : Nat) → List Char
  | 0, _ => []
  | width + 1, n => padded width (n / 10) ++ [Char.ofNat (0x30 + n % 10)]

def ofInt (n : Int) : String := if n < 0 then "-" ++ toString n.natAbs else toString n.natAbs

end Messaging.Decimal
