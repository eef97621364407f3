import Messaging.Text.Utf8

/-!
Hexadecimal digits and bytes written as pairs of them.
-/
namespace Messaging.Hex

/-- The value of a hexadecimal digit in either case, given as the byte that spells it. -/
def value? (b : UInt8) : Option Nat :=
  if 0x30 ≤ b ∧ b ≤ 0x39 then some (b.toNat - 0x30)
  else if 0x41 ≤ b ∧ b ≤ 0x46 then some (b.toNat - 0x37)
  else if 0x61 ≤ b ∧ b ≤ 0x66 then some (b.toNat - 0x57)
  else none

def digit (n : Nat) : Char :=
  if n < 10 then Char.ofNat (0x30 + n) else Char.ofNat (0x57 + n)

def ofByte (b : UInt8) : List Char := [digit (b.toNat / 16), digit (b.toNat % 16)]

def ofBytes (bs : Bytes) : String := String.ofList (bs.flatMap ofByte)

def valueOfChar? (c : Char) : Option Nat :=
  if c.toNat < 0x80 then value? c.toNat.toUInt8 else none

/-- Pairs of digits as bytes; none if a digit is missing or is none. -/
def toBytes? : List Char → Option Bytes
  | [] => some []
  | [_] => none
  | c :: d :: rest => do
    let high ← valueOfChar? c
    let low ← valueOfChar? d
    let bytes ← toBytes? rest
    return (high * 16 + low).toUInt8 :: bytes

def ofNat (n : Nat) : String := String.ofList (Nat.toDigits 16 n)

end Messaging.Hex
