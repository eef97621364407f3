import Mathlib
import Messaging.Number.BigEndian

/-!
Big-endian bytes and the numbers they stand for determine each other: within the range of so many
bytes, writing and reading are inverse, and bytes of one length are ordered as their values are.
-/
namespace Messaging.BigEndian

theorem value_append_byte (bs : Bytes) (b : UInt8) :
    value (bs ++ [b]) = value bs * 256 + b.toNat := by
  simp [value, List.foldl_append]

theorem value_ofNat (count n : Nat) : value (ofNat count n) = n % 256 ^ count := by
  induction count generalizing n with
  | zero => simp [ofNat, value, Nat.mod_one]
  | succ count ih =>
    calc value (ofNat (count + 1) n)
        = value (ofNat count (n / 256)) * 256 + n % 256 := by simp [ofNat, value_append_byte]
      _ = n % 256 + 256 * (n / 256 % 256 ^ count) := by rw [ih]; ring
      _ = n % 256 ^ (count + 1) := by rw [pow_succ', Nat.mod_mul]

theorem value_injective {as bs : Bytes} (hlen : as.length = bs.length)
    (hvalue : value as = value bs) : as = bs := by
  induction as using List.reverseRecOn generalizing bs with
  | nil => exact (List.length_eq_zero_iff.mp hlen.symm).symm
  | append_singleton as a ih =>
    cases bs using List.reverseRecOn with
    | nil => simp at hlen
    | append_singleton bs b =>
      rw [value_append_byte, value_append_byte] at hvalue
      have ha := a.toNat_lt
      have hb := b.toNat_lt
      have hrest : as = bs := ih (by simpa using hlen) (by omega)
      have hlast : a = b := UInt8.toNat_inj.mp (by omega)
      rw [hrest, hlast]

/-- A signed number of 64 bits is read back as it was written. -/
theorem int64Value_ofInt64 {n : Int} (hlow : -9223372036854775808 ≤ n)
    (hhigh : n < 9223372036854775808) : int64Value (ofInt64 n) = n := by
  have hvalue : value (ofInt64 n) = (n % 18446744073709551616).toNat := by
    rw [ofInt64, value_ofNat]
    exact Nat.mod_eq_of_lt (by norm_num; omega)
  rw [int64Value, hvalue]
  split <;> omega

end Messaging.BigEndian
