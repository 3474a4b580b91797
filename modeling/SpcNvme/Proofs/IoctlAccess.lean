import SpcNvme.IoctlAccess

/-! Which firmware requests are handled and completed without touching a byte
outside their data buffer. -/

namespace SpcNvme

open Access

/-- Everything the driver touches for a request is in its data buffer: on its way
in, and in the completion, if the request comes to that. -/
structure TouchesInside (srb : Srb) (frmw : FirmwareUpdates) (status : NvmeCommandStatus) : Prop where
  started : AllInside srb.startIoIoctlAccesses srb.dataTransferLength.toNat
  completed : srb.getsFirmwareInfo = true →
    AllInside (completeFirmwareInfoAccesses srb.ioControl frmw status) srb.dataTransferLength.toNat

namespace FirmwareUpdates

/-- Where a reply ends for this many slots: behind the last of them, or else
behind the flag of the first one or the last field. -/
def slotsEnd (frmw : FirmwareUpdates) (fieldsEnd infoSize slotSize : Nat) : Nat :=
  if frmw.slotCount.toNat = 0 then (if frmw.slot1ReadOnly then infoSize + 2 else fieldsEnd)
  else infoSize + slotSize * frmw.slotCount.toNat

def layoutEnd (frmw : FirmwareUpdates) : FirmwareInfoVersion → Nat
  | .v1 => frmw.slotsEnd 12 StorageFirmware.infoSize StorageFirmware.slotInfoSize
  | .v2 => frmw.slotsEnd 24 StorageFirmware.infoV2Size StorageFirmware.slotInfoV2Size

def replyEnd (frmw : FirmwareUpdates) (bufLen : Nat) : Nat :=
  frmw.layoutEnd
    (if StorageFirmware.infoV2Size + StorageFirmware.slotInfoV2Size * frmw.slotCount.toNat ≤ bufLen then .v2 else .v1)

end FirmwareUpdates

/-- The header fits as far as it is read, and the stated offset leaves room for the
reply wherever one is filled in. -/
structure IoctlFits (srb : Srb) (frmw : FirmwareUpdates) (status : NvmeCommandStatus) : Prop where
  header : 20 ≤ srb.dataTransferLength.toNat
  returnCode : srb.isFirmware = true → srb.dataTransferLength.toNat < 52 → 24 ≤ srb.dataTransferLength.toNat
  reply : srb.getsFirmwareInfo = true → srb.ioControl.request.dataBufferOffset ≠ 0 →
    StorageFirmware.infoSize + StorageFirmware.slotInfoSize * frmw.slotCount.toNat ≤
      srb.ioControl.request.dataBufferLength.toNat →
    nvmeStatus2FirmwareStatus status = .success →
    srb.ioControl.request.dataBufferOffset.toNat + frmw.replyEnd srb.ioControl.request.dataBufferLength.toNat ≤
      srb.dataTransferLength.toNat

private theorem slots_inside_iff {frmw : FirmwareUpdates} {infoSize slotSize base limit : Nat} {slotFields : List Span}
    (whole : ∀ start, AllInside (recordAt start slotFields) limit ↔ start + slotSize ≤ limit) :
    AllInside (recordAt base (frmw.slots infoSize slotSize slotFields)) limit ↔
      (frmw.slotCount.toNat = 0 ∨ base + infoSize + slotSize * frmw.slotCount.toNat ≤ limit) ∧
        (frmw.slot1ReadOnly = true → base + infoSize + 2 ≤ limit) := by
  have array := array_inside_iff whole (base + infoSize) frmw.slotCount.toNat
  simp only [Nat.add_assoc] at array
  rw [FirmwareUpdates.slots, recordAt_append, allInside_append, recordAt_flatMap]
  simp only [recordAt_recordAt, Nat.add_assoc, array]
  cases frmw.slot1ReadOnly with
  | false => simp
  | true => simp [Span.inside_mk, Nat.add_assoc]

private theorem info_inside_iff {frmw : FirmwareUpdates} {fields slotFields : List Span} {fieldsEnd infoSize slotSize base limit : Nat}
    (info : AllInside (recordAt base fields) limit ↔ base + fieldsEnd ≤ limit) (before : fieldsEnd ≤ infoSize)
    (flag : 2 ≤ slotSize) (whole : ∀ start, AllInside (recordAt start slotFields) limit ↔ start + slotSize ≤ limit) :
    AllInside (recordAt base (fields ++ frmw.slots infoSize slotSize slotFields)) limit ↔
      base + frmw.slotsEnd fieldsEnd infoSize slotSize ≤ limit := by
  rw [recordAt_append, allInside_append, info, slots_inside_iff whole, FirmwareUpdates.slotsEnd]
  by_cases empty : frmw.slotCount.toNat = 0
  · cases frmw.slot1ReadOnly with
    | false => simp [empty]
    | true =>
      simp only [empty, true_or, true_and, forall_const, if_true]
      omega
  · have first := Nat.mul_le_mul_left slotSize (Nat.one_le_iff_ne_zero.mpr empty)
    simp only [empty, false_or, if_false]
    omega

private theorem fill_inside_iff (version : FirmwareInfoVersion) (frmw : FirmwareUpdates) (base limit : Nat) :
    AllInside (recordAt base (version.fill frmw)) limit ↔ base + frmw.layoutEnd version ≤ limit := by
  cases version with
  | v1 =>
    apply info_inside_iff
    · simp only [recordAt_cons, recordAt_nil, allInside_cons, allInside_nil, and_true, Span.inside_mk]
      omega
    · decide
    · decide
    · intro start
      simp only [recordAt_cons, recordAt_nil, allInside_cons, allInside_nil, and_true, Span.inside_mk,
        StorageFirmware.slotInfoSize]
      omega
  | v2 =>
    apply info_inside_iff
    · simp only [recordAt_cons, recordAt_nil, allInside_cons, allInside_nil, and_true, Span.inside_mk]
      omega
    · decide
    · decide
    · intro start
      simp only [recordAt_cons, recordAt_nil, allInside_cons, allInside_nil, and_true, Span.inside_mk,
        StorageFirmware.slotInfoV2Size]
      omega

private theorem short_iff (srb : Srb) : srb.dataTransferLength < Ioctl.srbIoControlSize + Ioctl.firmwareRequestBlockSize ↔
    srb.dataTransferLength.toNat < 52 := BitVec.lt_def

private theorem ioctlScsiMiniportFirmware_inside_iff (srb : Srb) :
    AllInside srb.ioctlScsiMiniportFirmwareAccesses srb.dataTransferLength.toNat ↔
      (srb.dataTransferLength.toNat < 52 → 24 ≤ srb.dataTransferLength.toNat) := by
  simp only [Srb.ioctlScsiMiniportFirmwareAccesses, short_iff]
  split
  all_goals
    simp only [Ioctl.returnCodeField, Ioctl.functionField, allInside_cons, allInside_nil, and_true, Span.inside_mk]
    omega

/-- The way in reads the control code and the signature, and a firmware request
that is too short is answered in the header. -/
theorem startIoIoctl_inside_iff (srb : Srb) :
    AllInside srb.startIoIoctlAccesses srb.dataTransferLength.toNat ↔
      20 ≤ srb.dataTransferLength.toNat ∧
        (srb.isFirmware = true → srb.dataTransferLength.toNat < 52 → 24 ≤ srb.dataTransferLength.toNat) := by
  have code : Ioctl.controlCodeField.Inside srb.dataTransferLength.toNat ↔ 20 ≤ srb.dataTransferLength.toNat := by
    rw [Ioctl.controlCodeField, Span.inside_mk]
    omega
  have signature : 20 ≤ srb.dataTransferLength.toNat → Ioctl.signatureField.Inside srb.dataTransferLength.toNat := by
    intro enough
    exact .inr (Nat.le_trans (by decide) enough)
  rw [Srb.startIoIoctlAccesses, allInside_cons, code]
  refine and_congr_right ?_
  intro enough
  by_cases firmware : srb.ioControl.controlCode = Ioctl.scsiMiniportFirmware
  · rw [if_pos firmware, allInside_cons, and_iff_right (signature enough)]
    cases named : srb.ioControl.signatureIsFirmware with
    | false => simp [Srb.isFirmware, named]
    | true =>
      have own : srb.isFirmware = true := by simp [Srb.isFirmware, firmware, named]
      simp only [own, if_true, forall_const]
      exact ioctlScsiMiniportFirmware_inside_iff srb
  · simp [Srb.isFirmware, firmware]

private theorem firmwareInfoResult_filled (ioctl : SrbIoControl) (slotCount : BitVec 3) (status : NvmeCommandStatus) :
    (firmwareInfoResult ioctl slotCount status).2.2 =
      if ioctl.request.dataBufferOffset ≠ 0 ∧
          StorageFirmware.infoSize + StorageFirmware.slotInfoSize * slotCount.toNat ≤ ioctl.request.dataBufferLength.toNat ∧
          nvmeStatus2FirmwareStatus status = .success then
        some (if StorageFirmware.infoV2Size + StorageFirmware.slotInfoV2Size * slotCount.toNat ≤
          ioctl.request.dataBufferLength.toNat then .v2 else .v1)
      else none := by
  simp only [firmwareInfoResult]
  by_cases absent : ioctl.request.dataBufferOffset = 0
  · simp [absent]
  · by_cases small : ioctl.request.dataBufferLength.toNat <
        StorageFirmware.infoSize + StorageFirmware.slotInfoSize * slotCount.toNat
    · simp [small, Nat.not_le_of_lt small]
    · simp only [absent, small, if_false, ne_eq, not_false_eq_true, Nat.le_of_not_lt small, true_and]
      cases nvmeStatus2FirmwareStatus status with
      | success =>
        simp only [if_true]
        split <;> rfl
      | _ => rfl

private theorem completeFirmwareInfo_inside_iff {srb : Srb} (large : 52 ≤ srb.dataTransferLength.toNat) (frmw : FirmwareUpdates)
    (status : NvmeCommandStatus) :
    AllInside (completeFirmwareInfoAccesses srb.ioControl frmw status) srb.dataTransferLength.toNat ↔
      (srb.ioControl.request.dataBufferOffset ≠ 0 →
        StorageFirmware.infoSize + StorageFirmware.slotInfoSize * frmw.slotCount.toNat ≤
          srb.ioControl.request.dataBufferLength.toNat →
        nvmeStatus2FirmwareStatus status = .success →
        srb.ioControl.request.dataBufferOffset.toNat + frmw.replyEnd srb.ioControl.request.dataBufferLength.toNat ≤
          srb.dataTransferLength.toNat) := by
  have request : AllInside [Ioctl.dataBufferOffsetField, Ioctl.dataBufferLengthField] srb.dataTransferLength.toNat := by
    simp only [Ioctl.dataBufferOffsetField, Ioctl.dataBufferLengthField, allInside_cons, allInside_nil, and_true,
      Span.inside_mk]
    omega
  have returnCode : AllInside [Ioctl.returnCodeField] srb.dataTransferLength.toNat := by
    simp only [Ioctl.returnCodeField, allInside_cons, allInside_nil, and_true, Span.inside_mk]
    omega
  simp only [completeFirmwareInfoAccesses, allInside_append, request, returnCode, true_and, and_true,
    firmwareInfoResult_filled]
  split
  · next filled =>
    split at filled
    · cases filled
    · next unfilled =>
      refine iff_of_true (allInside_nil _) ?_
      intro present enough success
      exact absurd ⟨present, enough, success⟩ unfilled
  · next version filled =>
    split at filled
    · next fills =>
      rw [← Option.some.inj filled, fill_inside_iff]
      simp only [fills, forall_const, ne_eq, not_false_eq_true]
      exact Iff.rfl
    · cases filled

/-- A request and its completion stay in the data buffer exactly if the header
fits as far as it is read and the reply fits behind the offset it states. -/
theorem touchesInside_iff (srb : Srb) (frmw : FirmwareUpdates) (status : NvmeCommandStatus) :
    TouchesInside srb frmw status ↔ IoctlFits srb frmw status := by
  have large : srb.getsFirmwareInfo = true → 52 ≤ srb.dataTransferLength.toNat := by
    intro gets
    simp only [Srb.getsFirmwareInfo, Bool.and_eq_true, Bool.not_eq_true', decide_eq_false_iff_not, short_iff] at gets
    exact Nat.le_of_not_lt gets.1.2
  constructor
  · intro touches
    obtain ⟨header, returnCode⟩ := (startIoIoctl_inside_iff srb).mp touches.started
    refine ⟨header, returnCode, ?_⟩
    intro gets
    exact (completeFirmwareInfo_inside_iff (large gets) frmw status).mp (touches.completed gets)
  · intro fits
    refine ⟨(startIoIoctl_inside_iff srb).mpr ⟨fits.header, fits.returnCode⟩, ?_⟩
    intro gets
    exact (completeFirmwareInfo_inside_iff (large gets) frmw status).mpr (fits.reply gets)

def offsetAtEnd : Srb :=
  { sampleIoctl with ioControl := { sampleIoctl.ioControl with request := ⟨0x01, 0x100, 0x80⟩ } }

theorem offsetAtEnd_leaves_buffer : ¬ TouchesInside offsetAtEnd ⟨1, false⟩ ⟨false, 0, 0⟩ := by
  intro touches
  have large : 52 ≤ offsetAtEnd.dataTransferLength.toNat := by decide
  have reply := (completeFirmwareInfo_inside_iff large ⟨1, false⟩ ⟨false, 0, 0⟩).mp (touches.completed rfl)
  exact absurd (reply (by decide) (by decide) rfl) (by decide)

end SpcNvme
