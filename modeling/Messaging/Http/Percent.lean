import Messaging.Text.Hex

/-!
Percent escapes in a path. A per cent sign and two hexadecimal digits stand for one byte; a sign
that is not followed so stands for itself.
-/
namespace Messaging.Http.Percent

def decode : Bytes → Bytes
  | 0x25 :: c :: d :: rest =>
    match Hex.value? c, Hex.value? d with
    | some high, some low => (high * 16 + low).toUInt8 :: decode rest
    | _, _ => 0x25 :: decode (c :: d :: rest)
  | b :: rest => b :: decode rest
  | [] => []

@[simp] theorem decode_nil : decode [] = [] := by simp [decode]

theorem decode_cons {b : UInt8} (h : b ≠ 0x25) (rest : Bytes) :
    decode (b :: rest) = b :: decode rest := by
  rw [decode]
  intro c d rest' hb
  simp_all

/-- The text that escaped bytes spell; none if they spell no text. -/
def decodeText? (bs : Bytes) : Option String := Utf8.toString? (decode bs)

end Messaging.Http.Percent
