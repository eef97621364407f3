import Messaging.Proofs.Number.BigEndian
import Messaging.Uuid.TimeBased

/-!
What the bits of an identifier carry. The fields of an identifier that was made of a moment, a
clock sequence and a node give these back; an identifier that was made of chance keeps its chance in
all bits but the six of version and variant.
-/
namespace Messaging.Uuid

/-- The number of different moments that fit in an identifier, which has sixty bits for them. -/
def moments : Nat := 2 ^ 60

section TimeBased

variable (ticks sequence : Nat) (node : NodeId)

@[simp] theorem version_timeBased : (timeBased ticks sequence node).version = 1 := by
  have hbyte : (timeBased ticks sequence node).bytes.getD 6 0
      = ((0x1000 + ticks / 0x1000000000000 % 0x1000) / 256 % 256).toUInt8 := by
    simp [timeBased, BigEndian.ofNat, List.getD]
  rw [version, hbyte]
  simp
  omega

@[simp] theorem isRfc4122_timeBased : (timeBased ticks sequence node).isRfc4122 = true := by
  have hbyte : (timeBased ticks sequence node).bytes.getD 8 0
      = ((0x8000 + sequence % clockSequences) / 256 % 256).toUInt8 := by
    simp [timeBased, BigEndian.ofNat, List.getD]
  rw [isRfc4122, hbyte]
  simp [clockSequences]
  omega

@[simp] theorem nodeField_timeBased : (timeBased ticks sequence node).nodeField = node.bytes := by
  simp [timeBased, nodeField, BigEndian.ofNat]

@[simp] theorem sequenceField_timeBased :
    (timeBased ticks sequence node).sequenceField = sequence % clockSequences := by
  have hbytes : ((timeBased ticks sequence node).bytes.drop 8).take 2
      = BigEndian.ofNat 2 (0x8000 + sequence % clockSequences) := by
    simp [timeBased, BigEndian.ofNat]
  rw [sequenceField, hbytes, BigEndian.value_ofNat, clockSequences]
  omega

variable {ticks}

theorem timeField_timeBased (h : ticks < moments) :
    (timeBased ticks sequence node).timeField = ticks := by
  have hlow : (timeBased ticks sequence node).bytes.take 4
      = BigEndian.ofNat 4 (ticks % 0x100000000) := by
    simp [timeBased]
  have hmid : ((timeBased ticks sequence node).bytes.drop 4).take 2
      = BigEndian.ofNat 2 (ticks / 0x100000000 % 0x10000) := by
    simp [timeBased, BigEndian.ofNat]
  have hhigh : ((timeBased ticks sequence node).bytes.drop 6).take 2
      = BigEndian.ofNat 2 (0x1000 + ticks / 0x1000000000000 % 0x1000) := by
    simp [timeBased, BigEndian.ofNat]
  rw [timeField, hlow, hmid, hhigh]
  simp only [BigEndian.value_ofNat]
  rw [moments] at h
  omega

end TimeBased

/-- The identifiers agree in all bits but those of version and variant. -/
structure SameChance (u v : Uuid) : Prop where
  versionByte : (u.bytes.getD 6 0).toNat % 16 = (v.bytes.getD 6 0).toNat % 16
  variantByte : (u.bytes.getD 8 0).toNat % 64 = (v.bytes.getD 8 0).toNat % 64
  otherBytes : ∀ i, i ≠ 6 → i ≠ 8 → u.bytes.getD i 0 = v.bytes.getD i 0

namespace SameChance

variable {u v w : Uuid}

theorem symm (h : SameChance u v) : SameChance v u :=
  ⟨h.versionByte.symm, h.variantByte.symm, fun i h6 h8 => (h.otherBytes i h6 h8).symm⟩

theorem trans (h : SameChance u v) (h' : SameChance v w) : SameChance u w :=
  ⟨h.versionByte.trans h'.versionByte, h.variantByte.trans h'.variantByte,
    fun i h6 h8 => (h.otherBytes i h6 h8).trans (h'.otherBytes i h6 h8)⟩

end SameChance

theorem toNat_stamp {high low : Nat} (h : (high + 1) * 2 ^ low ≤ 256) (b : UInt8) :
    (stamp high low b).toNat = high * 2 ^ low + b.toNat % 2 ^ low := by
  have hlow : b.toNat % 2 ^ low < 2 ^ low := Nat.mod_lt _ (by positivity)
  have hfits : high * 2 ^ low + b.toNat % 2 ^ low < 256 := by
    rw [Nat.add_mul] at h
    omega
  exact Nat.mod_eq_of_lt hfits

section Random

variable (chance : Uuid)

theorem versionByte_random :
    ((random chance).bytes.getD 6 0).toNat = 64 + (chance.bytes.getD 6 0).toNat % 16 := by
  have hbyte : (random chance).bytes.getD 6 0 = stamp 4 4 (chance.bytes.getD 6 0) := by
    simp [random, List.getD]
  rw [hbyte, toNat_stamp (by norm_num)]
  rfl

theorem variantByte_random :
    ((random chance).bytes.getD 8 0).toNat = 128 + (chance.bytes.getD 8 0).toNat % 64 := by
  have hbyte : (random chance).bytes.getD 8 0 = stamp 2 6 (chance.bytes.getD 8 0) := by
    simp [random, List.getD]
  rw [hbyte, toNat_stamp (by norm_num)]
  rfl

@[simp] theorem version_random : (random chance).version = 4 := by
  rw [version, versionByte_random]
  omega

@[simp] theorem isRfc4122_random : (random chance).isRfc4122 = true := by
  rw [isRfc4122, variantByte_random, decide_eq_true_iff]
  omega

theorem sameChance_random : SameChance (random chance) chance where
  versionByte := by
    rw [versionByte_random]
    omega
  variantByte := by
    rw [variantByte_random]
    omega
  otherBytes i h6 h8 := by
    simp [random, List.getD, Ne.symm h6, Ne.symm h8]

end Random

end Messaging.Uuid
