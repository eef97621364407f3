import Messaging.Number.Binary64

/-!
The shortest decimal text of a binary64 number: the fewest digits that no other number of the
format is nearer to. It is written positionally where its leading digit stands between 10 ^ -5
and 10 ^ 15, and with an exponent otherwise.
-/
namespace Messaging.Binary64

/-- Digits `d₁d₂…dₙ` and the power of ten of the first of them. -/
structure Shortest where
  /-- The digits as one whole number. -/
  digits : Nat
  /-- The power of ten that the leading digit counts. -/
  leading : Int
  deriving DecidableEq, Repr

def leadingPower (num den : Nat) : Int :=
  if den ≤ num then ((Nat.toDigits 10 (num / den)).length : Int) - 1
  else
    let places := (Nat.toDigits 10 (den / num)).length
    if num * Nat.pow 10 (places - 1) = den then -((places - 1 : Nat) : Int) else -(places : Int)

/-- `digits · 10 ^ power` rounds to `x`: it lies between the midpoints to the two neighbours, and
on one of them only if the significand of `x` is even. -/
def reads (x : Binary64) (digits : Nat) (power : Int) : Bool :=
  let boundary := x.significand = significandBound / 2 ∧ -1074 < x.exponent
  let below := 4 * x.significand - (if boundary then 1 else 2)
  let above := 4 * x.significand + 2
  let scale := Nat.pow 2 x.exponent.toNat * Nat.pow 10 (-power).toNat
  let value := 4 * digits * Nat.pow 10 power.toNat * x.denominator
  if x.significand % 2 = 0 then below * scale ≤ value && value ≤ above * scale
  else below * scale < value && value < above * scale

/-- The nearer of the two neighbours of `x` with `count` digits that rounds to `x`. -/
def withDigits? (x : Binary64) (leading : Int) (count : Nat) : Option Nat :=
  let power := leading - (count : Int) + 1
  let num := x.numerator * Nat.pow 10 (-power).toNat
  let den := x.denominator * Nat.pow 10 power.toNat
  let down := num / den
  let nearer := roundRatio num den
  let farther := if nearer = down then down + 1 else down
  if x.reads nearer power then some nearer
  else if x.reads farther power then some farther
  else none

def stripZeros : (places : Nat) → (n : Nat) → Nat
  | 0, n => n
  | places + 1, n => if n ≠ 0 ∧ n % 10 = 0 then stripZeros places (n / 10) else n

/-- The shortest digits of a positive number; seventeen always suffice. -/
def shortest (x : Binary64) : Shortest :=
  let leading := leadingPower x.numerator x.denominator
  let choice (count : Nat) : Option Shortest :=
    (x.withDigits? leading count).map fun digits =>
      ⟨stripZeros 18 digits, if digits = Nat.pow 10 count then leading + 1 else leading⟩
  ((List.range 17).findSome? fun count => choice (count + 1)).getD ⟨x.significand, 0⟩

def toText (x : Binary64) : String :=
  if x.significand = 0 then "0.0"
  else
    let s := x.shortest
    let ds := Nat.toDigits 10 s.digits
    let zeros (n : Nat) : List Char := List.replicate n '0'
    if s.leading < -5 ∨ 15 < s.leading then
      let power := Nat.toDigits 10 s.leading.natAbs
      String.ofList (ds.take 1 ++ (if ds.length = 1 then [] else '.' :: ds.drop 1)
        ++ ['e', if s.leading < 0 then '-' else '+'] ++ zeros (2 - power.length) ++ power)
    else if s.leading < 0 then
      String.ofList (['0', '.'] ++ zeros (s.leading.natAbs - 1) ++ ds)
    else
      let whole := s.leading.toNat + 1
      if ds.length ≤ whole then String.ofList (ds ++ zeros (whole - ds.length) ++ ['.', '0'])
      else String.ofList (ds.take whole ++ ['.'] ++ ds.drop whole)

end Messaging.Binary64
