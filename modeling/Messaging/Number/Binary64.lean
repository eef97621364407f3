/-!
Non-negative numbers of the binary64 format, as exact pairs `significand · 2 ^ exponent`, with
rounding to the nearest of them. A quotient rounds once; a tie goes to the even significand.
-/
namespace Messaging

/-- A finite non-negative number of the binary64 format. -/
structure Binary64 where
  /-- A whole number below 2 ^ 53. -/
  significand : Nat
  /-- The power of two it is multiplied by, at least -1074. -/
  exponent : Int
  deriving DecidableEq, Repr

namespace Binary64

def zero : Binary64 := ⟨0, -1074⟩

def numerator (x : Binary64) : Nat := x.significand * Nat.pow 2 x.exponent.toNat

def denominator (x : Binary64) : Nat := Nat.pow 2 (-x.exponent).toNat

/-- The whole number nearest to `num / den`, the even one of two that are as near. -/
def roundRatio (num den : Nat) : Nat :=
  let quotient := num / den
  let remainder := num % den
  if 2 * remainder < den then quotient
  else if 2 * remainder = den ∧ quotient % 2 = 0 then quotient
  else quotient + 1

/-- The greatest significand in use is below this, 2 ^ 53. -/
def significandBound : Nat := 0x20000000000000

/-- The exponent of the grid on which `num / den` is rounded: as small as leaves a significand
below the bound, and never under -1074. -/
def gridExponent (num den : Nat) : Int :=
  let estimate : Int := max ((Nat.log2 num : Int) - (Nat.log2 den : Int) - 53) (-1074)
  let quotient := num * Nat.pow 2 (-estimate).toNat / (den * Nat.pow 2 estimate.toNat)
  if quotient < significandBound then estimate else estimate + 1

/-- The number of the format nearest to `num / den`; none if that lies past the greatest. -/
def nearest? (num den : Nat) : Option Binary64 :=
  if num = 0 then some zero
  else
    let exponent := gridExponent num den
    let significand :=
      roundRatio (num * Nat.pow 2 (-exponent).toNat) (den * Nat.pow 2 exponent.toNat)
    let rounded : Binary64 :=
      if significand = significandBound then ⟨significandBound / 2, exponent + 1⟩
      else ⟨significand, exponent⟩
    if rounded.exponent ≤ 971 then some rounded else none

def mul? (x y : Binary64) : Option Binary64 :=
  nearest? (x.numerator * y.numerator) (x.denominator * y.denominator)

def div? (x y : Binary64) : Option Binary64 :=
  nearest? (x.numerator * y.denominator) (x.denominator * y.numerator)

def powerOfTen? (k : Nat) : Option Binary64 := nearest? (Nat.pow 10 k) 1

def greatestPowerOfTen : Nat := 308

/-- Divides by 10 ^ 308 until the power of ten that is left lies within the format; zero stays
zero. Each division rounds. -/
def scaleDown (x : Binary64) : (steps : Nat) → (power : Nat) → Option Binary64
  | 0, _ => some x
  | steps + 1, power =>
    if x.significand = 0 then some x
    else if power ≤ greatestPowerOfTen then do x.div? (← powerOfTen? power)
    else do
      let y ← x.div? (← powerOfTen? greatestPowerOfTen)
      y.scaleDown steps (power - greatestPowerOfTen)

/-- The value given to `significand · 10 ^ exponent`: the significand is rounded first, and then
its product with, or quotient by, a rounded power of ten. None if the value is past the greatest
number. -/
def ofDecimal? (significand : Nat) (exponent : Int) : Option Binary64 := do
  let x ← nearest? significand 1
  if 0 ≤ exponent then
    if x.significand = 0 then some zero
    else if greatestPowerOfTen < exponent.toNat then none
    else x.mul? (← powerOfTen? exponent.toNat)
  else
    x.scaleDown (exponent.natAbs / greatestPowerOfTen + 2) exponent.natAbs

end Binary64

end Messaging
