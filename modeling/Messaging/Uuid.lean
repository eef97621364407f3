import Messaging.Text.Utf8

/-!
Universally unique identifiers: sixteen bytes, of which a few bits name the version and the
variant.
-/
namespace Messaging

/-- Sixteen bytes that identify something. -/
structure Uuid where
  bytes : Bytes
  length_bytes : bytes.length = 16

attribute [simp] Uuid.length_bytes

instance : DecidableEq Uuid := fun u v =>
  if h : u.bytes = v.bytes then .isTrue (by cases u; cases v; cases h; rfl)
  else .isFalse fun e => h (e ▸ rfl)

namespace Uuid

def ofBytes? (bs : Bytes) : Option Uuid :=
  if h : bs.length = 16 then some ⟨bs, h⟩ else none

@[simp] theorem ofBytes?_bytes (u : Uuid) : ofBytes? u.bytes = some u := by
  simp [ofBytes?]

def nil : Uuid := ⟨List.replicate 16 0, by simp⟩

instance : Inhabited Uuid := ⟨nil⟩

/-- The version, in the high half of the seventh byte. -/
def version (u : Uuid) : Nat := (u.bytes.getD 6 0).toNat / 16

/-- The variant bits are those of RFC 4122. -/
def isRfc4122 (u : Uuid) : Bool := (u.bytes.getD 8 0).toNat / 64 = 2

end Uuid

end Messaging
