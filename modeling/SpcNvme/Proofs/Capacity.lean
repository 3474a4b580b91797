import SpcNvme.Proofs.NamespaceMap
import SpcNvme.ReplyBytes

/-! The capacity a unit reports. Both commands tell the same block size and the same
last block, and it is the last one that reads and writes are let through to. -/

namespace SpcNvme

open Access

def readCapacityData (buffer : Nat → BitVec 8) : Nat × Nat :=
  (BigEndian.value (load buffer 0 4), BigEndian.value (load buffer 4 4))

def readCapacityDataEx (buffer : Nat → BitVec 8) : Nat × Nat :=
  (BigEndian.value (load buffer 0 8), BigEndian.value (load buffer 8 4))

private theorem value_load_reverseBytes {buffer : Nat → BitVec 8} {start size width : Nat} {number : BitVec width}
    (holds : Access.Holds buffer start (reverseBytes size number)) (small : number.toNat < 256 ^ size) :
    BigEndian.value (load buffer start size) = number.toNat := by
  rw [load_of_holds holds (BigEndian.length_bytes ..), reverseBytes, BigEndian.value_bytes_of_lt small]

theorem readCapacity10Filled_fills (device : CNvmeDevice) (srbext : SrbExt) :
    (readCapacity10Filled device srbext).Fills (readCapacity10Writes device srbext) := by
  simp only [readCapacity10Filled, readCapacity10Writes]
  split
  · exact FilledReply.unfilled_fills _ _
  · split
    · exact FilledReply.unfilled_fills _ _
    · split
      · exact FilledReply.unfilled_fills _ _
      · split
        · exact FilledReply.unfilled_fills _ _
        · refine ⟨rfl, ?_⟩
          intro span
          simp only [FilledReply.spans, List.map_cons, List.map_nil, zeroBytes, reverseBytes, BigEndian.length_bytes,
            List.length_replicate, List.mem_cons, List.not_mem_nil, or_false]
          tauto

theorem readCapacity16Filled_fills (device : CNvmeDevice) (srbext : SrbExt) :
    (readCapacity16Filled device srbext).Fills (readCapacity16Writes device srbext) := by
  simp only [readCapacity16Filled, readCapacity16Writes]
  split
  · exact FilledReply.unfilled_fills _ _
  · split
    · exact FilledReply.unfilled_fills _ _
    · split
      · exact FilledReply.unfilled_fills _ _
      · refine ⟨rfl, ?_⟩
        simp [FilledReply.spans, reverseBytes]

namespace CNvmeDevice
variable {device : CNvmeDevice} {srbext : SrbExt}

/-- A unit the driver answers for, with room for the reply. -/
structure ReportsCapacity (device : CNvmeDevice) (srbext : SrbExt) (size : BitVec 32) : Prop where
  listed : srbext.lun.setWidth 32 < device.namespaceCount
  working : device.isWorking = true
  room : size ≤ srbext.dataBufLen

def blockShift (data : NvmeIdentifyNamespaceData) : Nat := (data.lbads data.lbaFormatIndex).toNat

def blockSizeOf (data : NvmeIdentifyNamespaceData) : BitVec 32 := BitVec.ofNat 32 (2 ^ (blockShift data % 32))

private theorem toNat_blockSizeOf {data : NvmeIdentifyNamespaceData} (small : blockShift data ≤ 31) :
    (blockSizeOf data).toNat = 2 ^ blockShift data := by
  rw [blockSizeOf, Nat.mod_eq_of_lt (Nat.lt_succ_of_le small), BitVec.toNat_ofNat]
  exact Nat.mod_eq_of_lt (Nat.pow_lt_pow_right (by omega) (Nat.lt_succ_of_le small))

theorem ReportsCapacity.answers {size : BitVec 32} (reports : device.ReportsCapacity srbext size) :
    device.AnswersWith srbext.lun (device.nsData (srbext.lun.setWidth 32)) := by
  have counted : device.namespaceCount ≠ 0 := by
    intro none
    have listed := reports.listed
    rw [none] at listed
    exact Nat.not_lt_zero _ listed
  exact (answersWith_iff counted _ _).mpr rfl

/-- The three guards of both commands let a reply succeed only where a capacity can be reported. -/
theorem reportsCapacity_of_guarded {size missing : BitVec 32} {done : FilledReply}
    (success : (if srbext.lun.setWidth 32 ≥ device.namespaceCount then FilledReply.unfilled .invalidLun 0
      else if !device.isWorking then .unfilled .noDevice 0
      else if srbext.dataBufLen < size then .unfilled .dataOverrun missing
      else done).reply.status = .success) :
    device.ReportsCapacity srbext size ∧ done.reply.status = .success := by
  split at success
  · cases success
  · next listed =>
    split at success
    · cases success
    · next working =>
      split at success
      · cases success
      · next room =>
        exact ⟨⟨BitVec.not_le.mp listed, by simpa using working, BitVec.not_lt.mp room⟩, success⟩

private theorem reportsCapacity_of_success10 (success : (readCapacity10Filled device srbext).reply.status = .success) :
    device.ReportsCapacity srbext ScsiSize.readCapacityData ∧
    ¬ (device.nsData (srbext.lun.setWidth 32)).nsze > 0xFFFFFFFF := by
  obtain ⟨reports, success⟩ := reportsCapacity_of_guarded success
  simp only [reports.answers.totalBlocks, Option.getD_some] at success
  split at success
  · cases success
  · next small => exact ⟨reports, small⟩

private theorem reportsCapacity_of_success16 (success : (readCapacity16Filled device srbext).reply.status = .success) :
    device.ReportsCapacity srbext ScsiSize.readCapacityDataEx :=
  (reportsCapacity_of_guarded success).1

private theorem ReportsCapacity.readCapacity10_eq (reports : device.ReportsCapacity srbext ScsiSize.readCapacityData)
    (small : ¬ (device.nsData (srbext.lun.setWidth 32)).nsze > 0xFFFFFFFF) :
    readCapacity10Filled device srbext = ⟨.sized .success ScsiSize.readCapacityData,
      [(4, zeroBytes 4), (0, zeroBytes 4), (4, reverseBytes 4 (blockSizeOf (device.nsData (srbext.lun.setWidth 32)))),
        (0, reverseBytes 4 ((device.nsData (srbext.lun.setWidth 32)).nsze - 1))]⟩ := by
  have listed : ¬ srbext.lun.setWidth 32 ≥ device.namespaceCount := BitVec.not_le.mpr reports.listed
  have room : ¬ srbext.dataBufLen < ScsiSize.readCapacityData := BitVec.not_lt.mpr reports.room
  simp only [readCapacity10Filled, if_neg listed, reports.working, Bool.not_true, Bool.false_eq_true, if_false,
    if_neg room, reports.answers.totalBlocks, reports.answers.blockSize, Option.getD_some, if_neg small]
  rfl

private theorem ReportsCapacity.readCapacity16_eq (reports : device.ReportsCapacity srbext ScsiSize.readCapacityDataEx) :
    readCapacity16Filled device srbext = ⟨.sized .success ScsiSize.readCapacityDataEx,
      [(8, reverseBytes 4 (blockSizeOf (device.nsData (srbext.lun.setWidth 32)))),
        (0, reverseBytes 8 ((device.nsData (srbext.lun.setWidth 32)).nsze - 1))]⟩ := by
  have listed : ¬ srbext.lun.setWidth 32 ≥ device.namespaceCount := BitVec.not_le.mpr reports.listed
  have room : ¬ srbext.dataBufLen < ScsiSize.readCapacityDataEx := BitVec.not_lt.mpr reports.room
  simp only [readCapacity16Filled, if_neg listed, reports.working, Bool.not_true, Bool.false_eq_true, if_false,
    if_neg room, reports.answers.totalBlocks, reports.answers.blockSize, Option.getD_some]
  rfl

private theorem toNat_lastBlock {nsze : BitVec 64} (notEmpty : nsze ≠ 0) : (nsze - 1).toNat = nsze.toNat - 1 := by
  have one : (1 : BitVec 64).toNat = 1 := rfl
  have positive : nsze.toNat ≠ 0 := fun zero => notEmpty (BitVec.eq_of_toNat_eq zero)
  have small := nsze.isLt
  rw [BitVec.toNat_sub, one]
  omega

private theorem readCapacity10_data (reports : device.ReportsCapacity srbext ScsiSize.readCapacityData)
    (notEmpty : (device.nsData (srbext.lun.setWidth 32)).nsze ≠ 0)
    (small : ¬ (device.nsData (srbext.lun.setWidth 32)).nsze > 0xFFFFFFFF) (before : Nat → BitVec 8) :
    readCapacityData ((readCapacity10Filled device srbext).buffer before) =
      ((device.nsData (srbext.lun.setWidth 32)).nsze.toNat - 1,
        (blockSizeOf (device.nsData (srbext.lun.setWidth 32))).toNat) := by
  have limit : (device.nsData (srbext.lun.setWidth 32)).nsze.toNat ≤ 0xFFFFFFFF := BitVec.not_lt.mp small
  rw [reports.readCapacity10_eq small, readCapacityData]
  simp only [FilledReply.buffer, List.foldl_cons, List.foldl_nil]
  rw [value_load_reverseBytes (holds_store _ _ _) (by rw [toNat_lastBlock notEmpty]; omega), toNat_lastBlock notEmpty,
    value_load_reverseBytes ((holds_store _ _ _).store (.inr (Nat.le_refl 4))) (BitVec.isLt _)]

private theorem readCapacity16_data (reports : device.ReportsCapacity srbext ScsiSize.readCapacityDataEx)
    (notEmpty : (device.nsData (srbext.lun.setWidth 32)).nsze ≠ 0) (before : Nat → BitVec 8) :
    readCapacityDataEx ((readCapacity16Filled device srbext).buffer before) =
      ((device.nsData (srbext.lun.setWidth 32)).nsze.toNat - 1,
        (blockSizeOf (device.nsData (srbext.lun.setWidth 32))).toNat) := by
  rw [reports.readCapacity16_eq, readCapacityDataEx]
  simp only [FilledReply.buffer, List.foldl_cons, List.foldl_nil]
  rw [value_load_reverseBytes (holds_store _ _ _) (BitVec.isLt _), toNat_lastBlock notEmpty,
    value_load_reverseBytes ((holds_store _ _ _).store (.inr (Nat.le_refl 8))) (BitVec.isLt _)]

private theorem AnswersWith.range_one_iff {lun : BitVec 8} {data : NvmeIdentifyNamespaceData}
    (answers : device.AnswersWith lun data) (notEmpty : data.nsze ≠ 0) (offset : BitVec 64) :
    device.isInValidIoRange (lun.setWidth 32 + 1) offset 1 = true ↔ offset.toNat ≤ data.nsze.toNat - 1 := by
  have same : offset + (1 : BitVec 32).setWidth 64 - 1 = offset := BitVec.add_sub_cancel offset 1
  rw [answers.range, same, Bool.not_eq_true', decide_eq_false_iff_not, gt_iff_lt, BitVec.not_lt, BitVec.le_def,
    toNat_lastBlock notEmpty]

/-- Where the shorter command succeeds, the longer one with room for its reply does
and both tell the same. What the longer one tells is the block size, and the last
block that a request of one block may name. -/
theorem readCapacity_agree (device : CNvmeDevice) {ten sixteen : SrbExt} (sameUnit : ten.lun = sixteen.lun)
    (notEmpty : (device.nsData (sixteen.lun.setWidth 32)).nsze ≠ 0) (before other : Nat → BitVec 8) :
    ((readCapacity10Filled device ten).reply.status = .success → 12 ≤ sixteen.dataBufLen.toNat →
      (readCapacity16Filled device sixteen).reply.status = .success ∧
      readCapacityData ((readCapacity10Filled device ten).buffer before) =
        readCapacityDataEx ((readCapacity16Filled device sixteen).buffer other)) ∧
    ((readCapacity16Filled device sixteen).reply.status = .success →
      (∀ offset, device.isInValidIoRange (sixteen.lun.setWidth 32 + 1) offset 1 = true ↔
        offset.toNat ≤ (readCapacityDataEx ((readCapacity16Filled device sixteen).buffer other)).1) ∧
      (blockShift (device.nsData (sixteen.lun.setWidth 32)) ≤ 31 →
        (readCapacityDataEx ((readCapacity16Filled device sixteen).buffer other)).2 =
          2 ^ blockShift (device.nsData (sixteen.lun.setWidth 32)))) := by
  constructor
  · intro success room
    obtain ⟨reports, small⟩ := reportsCapacity_of_success10 success
    rw [← sameUnit] at notEmpty
    have also : device.ReportsCapacity sixteen ScsiSize.readCapacityDataEx :=
      ⟨sameUnit ▸ reports.listed, reports.working, BitVec.le_def.mpr room⟩
    have shorter := readCapacity10_data reports notEmpty small before
    rw [sameUnit] at notEmpty shorter
    refine ⟨by rw [also.readCapacity16_eq]; rfl, ?_⟩
    rw [shorter, readCapacity16_data also notEmpty]
  · intro success
    have reports := reportsCapacity_of_success16 success
    rw [readCapacity16_data reports notEmpty]
    exact ⟨reports.answers.range_one_iff notEmpty, toNat_blockSizeOf⟩

def capacitySrb : Srb := { sampleSrb with dataTransferLength := 12 }

def capacityDevice : CNvmeDevice := (Host.sampleHost (.init none)).device

theorem readCapacity_agree_hundred :
    (capacityDevice.nsData 0).nsze ≠ 0 ∧
    readCapacityData ((readCapacity10Filled capacityDevice (.init (some capacitySrb))).buffer fun _ => 0) =
      readCapacityDataEx ((readCapacity16Filled capacityDevice (.init (some capacitySrb))).buffer fun _ => 0) :=
  ⟨by decide, ((readCapacity_agree capacityDevice rfl (by decide) (fun _ => 0) fun _ => 0).1
    (by decide) (by decide)).2⟩

end CNvmeDevice

end SpcNvme
