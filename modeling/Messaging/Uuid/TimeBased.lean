import Messaging.Number.BigEndian
import Messaging.Uuid

/-!
Identifiers that carry their time and maker (version 1) and identifiers made of chance (version
4). The sixty bits of the time are counted in 100 ns from the start of the Gregorian calendar and
are laid out in three fields, the least significant first, with the version above the last.
-/
namespace Messaging

/-- Six bytes that tell one maker of identifiers from another. -/
structure NodeId where
  bytes : Bytes
  length_bytes : bytes.length = 6

namespace NodeId

def ofBytes? (bs : Bytes) : Option NodeId :=
  if h : bs.length = 6 then some ⟨bs, h⟩ else none

end NodeId

/-- The moments, in 100 ns, from 1582-10-15 to 1970-01-01. -/
def gregorianEpochTicks : Nat := 0x01B21DD213814000

namespace Uuid

def clockSequences : Nat := 16384

/-- The UUID of version 1 of a moment, a clock sequence and a node. -/
def timeBased (ticks sequence : Nat) (node : NodeId) : Uuid where
  bytes :=
    BigEndian.ofNat 4 (ticks % 0x100000000)
      ++ BigEndian.ofNat 2 (ticks / 0x100000000 % 0x10000)
      ++ BigEndian.ofNat 2 (0x1000 + ticks / 0x1000000000000 % 0x1000)
      ++ BigEndian.ofNat 2 (0x8000 + sequence % clockSequences)
      ++ node.bytes
  length_bytes := by simp [node.length_bytes]

def timeField (u : Uuid) : Nat :=
  BigEndian.value (u.bytes.take 4) + BigEndian.value ((u.bytes.drop 4).take 2) * 0x100000000
    + BigEndian.value ((u.bytes.drop 6).take 2) % 0x1000 * 0x1000000000000

def sequenceField (u : Uuid) : Nat :=
  BigEndian.value ((u.bytes.drop 8).take 2) % clockSequences

def nodeField (u : Uuid) : Bytes := u.bytes.drop 10

/-- A byte with its high bits replaced: those above `2 ^ low` become `high`. -/
def stamp (high low : Nat) (b : UInt8) : UInt8 :=
  (high * Nat.pow 2 low + b.toNat % Nat.pow 2 low).toUInt8

/-- The UUID of version 4 of sixteen bytes of chance. -/
def random (chance : Uuid) : Uuid where
  bytes := (chance.bytes.modify 6 (stamp 4 4)).modify 8 (stamp 2 6)
  length_bytes := by simp

end Uuid

end Messaging
