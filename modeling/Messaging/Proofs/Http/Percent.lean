import Mathlib
import Messaging.Http.Percent

/-!
Escapes of bytes in a path. Any byte may be escaped, with digits in either case, and those that are
no per cent signs may stand for themselves; however that is done, the same bytes are read.
-/
namespace Messaging.Http.Percent

/-- The bytes are written as the segment, in which some of them are escaped. -/
inductive Escapes : (bs segment : Bytes) → Prop
  | nil : Escapes [] []
  | plain {b : UInt8} {bs segment : Bytes} : b ≠ 0x25 → Escapes bs segment →
    Escapes (b :: bs) (b :: segment)
  | escaped {c d : UInt8} {high low : Nat} {bs segment : Bytes} : Hex.value? c = some high →
    Hex.value? d = some low → Escapes bs segment →
    Escapes ((high * 16 + low).toUInt8 :: bs) (0x25 :: c :: d :: segment)

theorem Escapes.decode {bs segment : Bytes} (h : Escapes bs segment) :
    decode segment = bs := by
  induction h with
  | nil => exact decode_nil
  | plain hb _ ih => rw [decode_cons hb, ih]
  | escaped hc hd _ ih => simp only [Percent.decode, hc, hd, ih]

theorem escapes_self {bs : Bytes} (h : 0x25 ∉ bs) : Escapes bs bs := by
  induction bs with
  | nil => exact .nil
  | cons b bs ih =>
    rw [List.mem_cons, not_or] at h
    exact .plain (Ne.symm h.1) (ih h.2)

theorem Escapes.append {bs segment bs' segment' : Bytes} (h : Escapes bs segment)
    (h' : Escapes bs' segment') : Escapes (bs ++ bs') (segment ++ segment') := by
  induction h with
  | nil => exact h'
  | plain hb _ ih => exact .plain hb ih
  | escaped hc hd _ ih => exact .escaped hc hd ih

theorem Escapes.notMem {bs segment : Bytes} (h : Escapes bs segment) {b : UInt8} (hb : b ∉ bs)
    (hdigit : Hex.value? b = none) (hsign : b ≠ 0x25) : b ∉ segment := by
  induction h with
  | nil => simp
  | plain _ _ ih =>
    rw [List.mem_cons, not_or] at hb ⊢
    exact ⟨hb.1, ih hb.2⟩
  | escaped hc hd _ ih =>
    rw [List.mem_cons, not_or] at hb
    simp only [List.mem_cons, not_or]
    refine ⟨hsign, ?_, ?_, ih hb.2⟩
    · rintro rfl
      simp [hdigit] at hc
    · rintro rfl
      simp [hdigit] at hd

end Messaging.Http.Percent
