import Messaging.Text.Utf8

/-!
Whole numbers as bytes, the most significant first, unsigned or in two's complement.
-/
namespace Messaging.BigEndian

/-- The number whose digits in base 256 are the bytes. -/
def value (bs : Bytes) : Nat := bs.foldl (fun n b => n * 256 + b.toNat) 0

/-- The last `count` digits of a number in base 256. -/
def ofNat : (count n : Nat) → Bytes
  | 0, _ => []
  | count + 1, n => ofNat count (n / 256) ++ [(n % 256).toUInt8]

@[simp] theorem length_ofNat (count n : Nat) : (ofNat count n).length = count := by
  induction count generalizing n with
  | zero => rfl
  | succ count ih => simp [ofNat, ih]

def ofInt64 (n : Int) : Bytes := ofNat 8 (n % 18446744073709551616).toNat

@[simp] theorem length_ofInt64 (n : Int) : (ofInt64 n).length = 8 := length_ofNat 8 _

def int64Value (bs : Bytes) : Int :=
  if value bs < 9223372036854775808 then value bs else (value bs : Int) - 18446744073709551616

end Messaging.BigEndian
