import SpcNvme.Proofs.Host

/-! The check before a read or write, in arithmetic modulo 2^64, against the
range it stands for. -/

namespace SpcNvme

def InsideNamespace (nsze offset len : Nat) : Prop := 1 ≤ len ∧ offset + len ≤ nsze

structure CNvmeDevice.Identified (device : CNvmeDevice) (nsid : BitVec 32) : Prop where
  nsid_ne : nsid ≠ 0
  listed : nsid ≤ device.namespaceCount

namespace CNvmeDevice
variable {device : CNvmeDevice} {nsid : BitVec 32}

private theorem Identified.count_ne (identified : device.Identified nsid) : device.namespaceCount ≠ 0 := by
  intro none
  have listed := identified.listed
  rw [none] at listed
  apply identified.nsid_ne
  apply BitVec.eq_of_toNat_eq
  exact Nat.le_zero.mp listed

private theorem isInValidIoRange_iff (identified : device.Identified nsid) (offset : BitVec 64) (len : BitVec 32) :
    device.isInValidIoRange nsid offset len = true ↔
      (offset.toNat + len.toNat + (2 ^ 64 - 1)) % 2 ^ 64 ≤
        ((device.nsData (nsid - 1)).nsze.toNat + (2 ^ 64 - 1)) % 2 ^ 64 := by
  have short := len.isLt
  have one : (1 : BitVec 64).toNat = 1 := rfl
  have narrow : (len.setWidth 64).toNat = len.toNat := by
    rw [BitVec.toNat_setWidth]
    omega
  simp only [isInValidIoRange, getNamespaceTotalBlocks, identified.nsid_ne, identified.count_ne, or_self, if_false,
    Bool.not_eq_true', decide_eq_false_iff_not, BitVec.not_lt, BitVec.le_def, BitVec.toNat_sub, BitVec.toNat_add, narrow,
    one, gt_iff_lt]
  omega

/-- For an identified namespace the check is the range exactly if the namespace
has a block, an empty range starts at 0 or behind the end, and a range that
wraps around ends behind the end again. -/
theorem isInValidIoRange_exact_iff (identified : device.Identified nsid) (offset : BitVec 64) (len : BitVec 32) :
    (device.isInValidIoRange nsid offset len = true ↔
      InsideNamespace (device.nsData (nsid - 1)).nsze.toNat offset.toNat len.toNat) ↔
    (device.nsData (nsid - 1)).nsze ≠ 0 ∧
      (len = 0 → offset = 0 ∨ (device.nsData (nsid - 1)).nsze.toNat < offset.toNat) ∧
      (2 ^ 64 < offset.toNat + len.toNat →
        2 ^ 64 + (device.nsData (nsid - 1)).nsze.toNat < offset.toNat + len.toNat) := by
  have blocks := (device.nsData (nsid - 1)).nsze.isLt
  have wide := offset.isLt
  have short := len.isLt
  have noBlock : (device.nsData (nsid - 1)).nsze = 0 ↔ (device.nsData (nsid - 1)).nsze.toNat = 0 := BitVec.toNat_eq
  have noOffset : offset = 0 ↔ offset.toNat = 0 := BitVec.toNat_eq
  have noLength : len = 0 ↔ len.toNat = 0 := BitVec.toNat_eq
  rw [isInValidIoRange_iff identified, Ne, noBlock, noOffset, noLength, InsideNamespace]
  generalize (device.nsData (nsid - 1)).nsze.toNat = nsze at blocks ⊢
  by_cases empty : nsze = 0
  · omega
  · have last : (nsze + (2 ^ 64 - 1)) % 2 ^ 64 = nsze - 1 := by omega
    rw [last]
    by_cases none : len.toNat = 0
    · by_cases start : offset.toNat = 0
      · omega
      · omega
    · by_cases wraps : 2 ^ 64 < offset.toNat + len.toNat
      · omega
      · omega

def sampleDevice : CNvmeDevice := (Host.sampleHost (.init none)).device

private theorem sampleDevice_identified : sampleDevice.Identified 1 := ⟨by decide, by decide⟩

/-- The last block of a hundred. -/
theorem isInValidIoRange_exact_last :
    (sampleDevice.isInValidIoRange 1 99 1 = true ↔
      InsideNamespace (sampleDevice.nsData (1 - 1)).nsze.toNat (99 : BitVec 64).toNat (1 : BitVec 32).toNat) := by
  apply (isInValidIoRange_exact_iff sampleDevice_identified 99 1).mpr
  decide

/-- An empty range that starts inside is let through, and so is a range of two
blocks that starts at the last address. -/
theorem isInValidIoRange_admits :
    ¬ (sampleDevice.isInValidIoRange 1 1 0 = true ↔ InsideNamespace 100 1 0) ∧
    ¬ (sampleDevice.isInValidIoRange 1 0xFFFFFFFFFFFFFFFF 2 = true ↔ InsideNamespace 100 (2 ^ 64 - 1) 2) := by
  have empty : sampleDevice.isInValidIoRange 1 1 0 = true := by decide +kernel
  have wrapped : sampleDevice.isInValidIoRange 1 0xFFFFFFFFFFFFFFFF 2 = true := by decide +kernel
  rw [empty, wrapped]
  simp [InsideNamespace]

end CNvmeDevice

end SpcNvme
