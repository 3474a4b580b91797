import SpcNvme.Proofs.CacheModes
import SpcNvme.Proofs.Host
import SpcNvme.ReplyWrites

/-! Which requests the answering handlers answer without writing outside the data
buffer and the sense buffer, and without a transfer length beyond the buffer. -/

namespace SpcNvme

open Access

def SrbExt.carrying (srbext : SrbExt) (srb : Srb) : SrbExt := { srbext with srb := some srb }

/-- The writes of an answer, and of its completion, stay in the buffers of the
request, and so does the transfer length it leaves. -/
structure AnswersInside (srb : Srb) (answer : BufferReply) : Prop where
  data : AllInside answer.writes srb.dataTransferLength.toNat
  sense : AllInside (srb.senseWrites answer.reply.status) srb.senseInfoBufferLength.toNat
  length : (answer.reply.transferLength.getD srb.dataTransferLength).toNat ≤ srb.dataTransferLength.toNat

def RepliesInside (srb : Srb) (outcome : Option BufferReply) : Prop :=
  ∃ answer, outcome = some answer ∧ AnswersInside srb answer

/-- There is no sense buffer, or it holds the fields up to the last one set. -/
def SenseFits (srb : Srb) : Prop :=
  srb.senseInfoBuffer = false ∨ srb.senseInfoBufferLength = 0 ∨ 14 ≤ srb.senseInfoBufferLength.toNat

/-- Vital product data: the serial number needs its whole size, three pages need
their allocation, and an unknown page is answered with sense data. -/
def VpdFits (srb : Srb) (allocated : Bool) : Prop :=
  match (Cdb.byte srb.cdb 2).toNat with
  | 0x00 => True
  | 0x80 => 260 ≤ srb.dataTransferLength.toNat
  | 0x83 | 0xB0 | 0xB1 => allocated = true
  | _ => SenseFits srb

/-- Standard inquiry data either does not fit its first 36 bytes, or reaches the field behind them. -/
def InquiryFits (srb : Srb) (allocated : Bool) : Prop :=
  if (Cdb.byte srb.cdb 1).getLsbD 0 then VpdFits srb allocated
  else if Cdb.byte srb.cdb 2 > 0 then SenseFits srb
  else srb.dataTransferLength.toNat < 36 ∨ 57 ≤ srb.dataTransferLength.toNat

def ReplyFits (device : CNvmeDevice) (srb : Srb) (allocated : Bool) : ReplyCommand → Prop
  | .inquiry6 => InquiryFits srb allocated
  | .modeSense6 => 4 ≤ srb.dataTransferLength.toNat
  | .readCapacity10 =>
      srb.lun.setWidth 32 < device.namespaceCount → device.isWorking = true → 8 ≤ srb.dataTransferLength.toNat
  | .readCapacity16 =>
      srb.lun.setWidth 32 < device.namespaceCount → device.isWorking = true → 12 ≤ srb.dataTransferLength.toNat

variable {srb : Srb} {device : CNvmeDevice}

private theorem repliesInside_none : ¬ RepliesInside srb none := by
  rintro ⟨answer, missing, _⟩
  cases missing

private theorem repliesInside_some (answer : BufferReply) : RepliesInside srb (some answer) ↔ AnswersInside srb answer := by
  unfold RepliesInside
  simp

private theorem senseWrites_of_ne_error {status : SrbStatus} (other : status ≠ .error) : srb.senseWrites status = [] := by
  cases status with
  | error => exact absurd rfl other
  | _ => rfl

private theorem senseWrites_error_inside_iff :
    AllInside (srb.senseWrites .error) srb.senseInfoBufferLength.toNat ↔ SenseFits srb := by
  unfold SenseFits Srb.senseWrites
  cases present : srb.senseInfoBuffer with
  | false => simp
  | true =>
    by_cases empty : srb.senseInfoBufferLength = 0
    · simp [empty]
    · have positive : srb.senseInfoBufferLength.toNat ≠ 0 := by
        intro zero
        apply empty
        exact BitVec.eq_of_toNat_eq zero
      have absent : (srb.senseInfoBufferLength == 0) = false := by simpa using empty
      simp only [absent, Bool.not_true, Bool.or_self, Bool.false_eq_true, if_false, senseDataFields, allInside_cons,
        allInside_nil, and_true, Span.inside_mk, Bool.true_eq_false, empty, false_or]
      omega

private theorem answersInside_sized_iff {status : SrbStatus} (other : status ≠ .error) (retSize : BitVec 32) (writes : List Span) :
    AnswersInside srb ⟨.sized status retSize, writes⟩ ↔
      AllInside writes srb.dataTransferLength.toNat ∧ retSize.toNat ≤ srb.dataTransferLength.toNat := by
  constructor
  · intro answers
    exact ⟨answers.data, answers.length⟩
  · intro fits
    refine ⟨fits.1, ?_, fits.2⟩
    show AllInside (srb.senseWrites status) _
    rw [senseWrites_of_ne_error other]
    exact allInside_nil _

private theorem answersInside_error_iff : AnswersInside srb (.unwritten .error 0) ↔ SenseFits srb := by
  rw [← senseWrites_error_inside_iff]
  constructor
  · exact AnswersInside.sense
  · intro sense
    exact ⟨allInside_nil _, sense, Nat.zero_le _⟩

private theorem answersInside_copied (bufSize : BitVec 32) :
    AnswersInside srb (.copied srb.dataTransferLength bufSize) := by
  have size := ulongMin_toNat srb.dataTransferLength bufSize
  rw [BufferReply.copied, answersInside_sized_iff (by decide), allInside_cons, Span.inside_mk]
  refine ⟨⟨.inr ?_, allInside_nil _⟩, ?_⟩
  · omega
  · omega

private theorem handleInquiryVPDWrites_inside_iff (srbext : SrbExt) (allocated : Bool) :
    RepliesInside srb (handleInquiryVPDWrites device (srbext.carrying srb) allocated) ↔ VpdFits srb allocated := by
  have length : (srbext.carrying srb).dataBufLen = srb.dataTransferLength := rfl
  have cdb : (srbext.carrying srb).cdb = srb.cdb := rfl
  have page : ∀ bufSize, RepliesInside srb (if allocated then some (.copied srb.dataTransferLength bufSize) else none) ↔
      allocated = true := by
    intro bufSize
    cases allocated with
    | false => simp [repliesInside_none]
    | true => simp [repliesInside_some, answersInside_copied]
  have size : (255 + ScsiSize.vpdSerialNumberPage + 1 : BitVec 32).toNat = 260 := rfl
  have serialNumber : RepliesInside srb (if 255 + ScsiSize.vpdSerialNumberPage + 1 < srb.dataTransferLength then
        some (.unwritten .insufficientResources (255 + ScsiSize.vpdSerialNumberPage + 1))
      else some ⟨.sized .success (255 + ScsiSize.vpdSerialNumberPage + 1),
        ⟨0, srb.dataTransferLength.toNat⟩ :: vpdSerialNumberFields ++ [⟨4, 255⟩]⟩) ↔
      260 ≤ srb.dataTransferLength.toNat := by
    split
    · next larger =>
      rw [BitVec.lt_def, size] at larger
      rw [repliesInside_some, BufferReply.unwritten, answersInside_sized_iff (fun same => by cases same), size]
      exact and_iff_right (allInside_nil _)
    · rw [repliesInside_some, answersInside_sized_iff (fun same => by cases same), size]
      simp only [vpdSerialNumberFields, allInside_append, allInside_cons, allInside_nil, and_true, Span.inside_mk]
      omega
  simp only [handleInquiryVPDWrites, VpdFits, length, cdb]
  generalize (Cdb.byte srb.cdb 2).toNat = code
  split
  · cases allocated with
    | false =>
      simp only [Bool.false_eq_true, if_false, repliesInside_some, iff_true]
      exact (answersInside_sized_iff (fun same => by cases same) 0 []).mpr ⟨allInside_nil _, Nat.zero_le _⟩
    | true =>
      simp only [if_true, repliesInside_some, iff_true]
      exact answersInside_copied _
  · exact serialNumber
  · exact page _
  · exact page _
  · exact page _
  · simp_all only [repliesInside_some, answersInside_error_iff]

private theorem inquiry6Writes_inside_iff (srbext : SrbExt) (allocated : Bool) :
    RepliesInside srb (inquiry6Writes device (srbext.carrying srb) allocated) ↔ InquiryFits srb allocated := by
  have length : (srbext.carrying srb).dataBufLen = srb.dataTransferLength := rfl
  have cdb : (srbext.carrying srb).cdb = srb.cdb := rfl
  have least : ScsiSize.inquiryDataBuffer.toNat = 36 := rfl
  simp only [inquiry6Writes, InquiryFits, length, cdb]
  split
  · exact handleInquiryVPDWrites_inside_iff srbext allocated
  · split
    · exact (repliesInside_some _).trans answersInside_error_iff
    · split
      · next enough =>
        rw [ge_iff_le, BitVec.le_def, least] at enough
        rw [repliesInside_some, answersInside_sized_iff (fun same => by cases same)]
        simp only [inquiryDataFields, allInside_cons, allInside_nil, and_true, Span.inside_mk]
        omega
      · next short =>
        rw [ge_iff_le, BitVec.le_def, least] at short
        rw [repliesInside_some, BufferReply.unwritten, answersInside_sized_iff (fun same => by cases same)]
        simp only [allInside_nil, true_and]
        have zero : (0 : BitVec 32).toNat = 0 := rfl
        omega

namespace ModeReply

structure Counts (reply : ModeReply) (total : Nat) : Prop where
  returned : reply.retSize.toNat = modeHeaderSize + reply.pages.length
  left : reply.retSize.toNat + reply.bufSize.toNat = total

variable {reply : ModeReply} {total : Nat}

theorem header_counts {dataBufLen : BitVec 32} (fits : modeHeaderSize ≤ dataBufLen.toNat) :
    (header dataBufLen).Counts dataBufLen.toNat where
  returned := rfl
  left := by
    have four : (header dataBufLen).retSize.toNat = modeHeaderSize := rfl
    rw [header_bufSize fits, four]
    omega

theorem Counts.copy (counts : reply.Counts total) (bounded : total < 2 ^ 32) {page : List (BitVec 8)}
    (short : page.length < 2 ^ 32) : (reply.copyToCdbBuffer page).Counts total := by
  have size : (BitVec.ofNat 32 page.length).toNat = page.length := by
    rw [BitVec.toNat_ofNat]
    omega
  have copied := ulongMin_toNat (BitVec.ofNat 32 page.length) reply.bufSize
  rw [size] at copied
  have returned := counts.returned
  have left := counts.left
  constructor
  · simp only [copyToCdbBuffer, BitVec.toNat_add, List.length_append, List.length_take]
    omega
  · simp only [copyToCdbBuffer, BitVec.toNat_add, BitVec.toNat_sub]
    omega

private theorem Counts.answersInside (counts : reply.Counts srb.dataTransferLength.toNat) {status : SrbStatus}
    (other : status ≠ .error) :
    AnswersInside srb ⟨.sized (reply.result status).status (reply.result status).retSize,
      [⟨0, (reply.result status).written.length⟩]⟩ := by
  have returned := counts.returned
  have left := counts.left
  have written : (reply.result status).written.length = modeHeaderSize + reply.pages.length := by
    simp [result, bytes, modeHeaderSize]
    omega
  have retSize : (reply.result status).retSize = reply.retSize := rfl
  refine (answersInside_sized_iff other _ _).mpr ?_
  rw [allInside_cons, Span.inside_mk, written, retSize]
  refine ⟨⟨.inr ?_, allInside_nil _⟩, ?_⟩
  · omega
  · omega

end ModeReply

private theorem modeSense6Writes_inside_iff (srbext : SrbExt) (flags : CacheFlags) :
    RepliesInside srb (some (modeSense6Writes (srbext.carrying srb) flags)) ↔ 4 ≤ srb.dataTransferLength.toNat := by
  have length : (srbext.carrying srb).dataBufLen = srb.dataTransferLength := rfl
  have cdb : (srbext.carrying srb).cdb = srb.cdb := rfl
  have buffer : (srbext.carrying srb).dataBuf = srb.dataBuffer := rfl
  have bounded := srb.dataTransferLength.isLt
  have four : ScsiSize.modeParameterHeader.toNat = 4 := rfl
  have success : SrbStatus.success ≠ .error := fun same => by cases same
  rw [repliesInside_some, modeSense6Writes]
  simp only [modeSense6, length, cdb, buffer, copyWhileRoom_eq]
  split
  · rw [answersInside_sized_iff (fun same => by cases same), four]
    exact and_iff_right (by simp)
  · next answered =>
    rw [not_or, BitVec.lt_def, four, Nat.not_lt] at answered
    have enough : 4 ≤ srb.dataTransferLength.toNat := answered.1
    have header := ModeReply.header_counts enough
    have short : ∀ page : List (BitVec 8), page.length = 12 → page.length < 2 ^ 32 := by
      intro page twelve
      omega
    have caching := short (fillModePageCaching flags) rfl
    have control := short fillModePageControl rfl
    have infoException := short fillModePageInfoException rfl
    refine iff_of_true ?_ enough
    split
    · exact (header.copy bounded caching).answersInside success
    · split
      · exact (header.copy bounded control).answersInside success
      · split
        · exact (header.copy bounded infoException).answersInside success
        · split
          · have all := ((header.copy bounded caching).copy bounded control).copy bounded infoException
            exact all.answersInside success
          · exact header.answersInside fun same => by cases same

private theorem repliesInside_unwritten {status : SrbStatus} (other : status ≠ .error) :
    RepliesInside srb (some (.unwritten status 0)) :=
  (repliesInside_some _).mpr ((answersInside_sized_iff other 0 []).mpr ⟨allInside_nil _, Nat.zero_le _⟩)

/-- Both capacity handlers answer only for a unit that exists on a working device. -/
theorem capacity_guard {working : Bool} {answer : BufferReply} {need : Prop}
    (rest : RepliesInside srb (some answer) ↔ need) {lun count : BitVec 32} :
    RepliesInside srb (some (if lun ≥ count then .unwritten .invalidLun 0
      else if !working then .unwritten .noDevice 0 else answer)) ↔ (lun < count → working = true → need) := by
  by_cases missing : lun ≥ count
  · have outside : ¬ lun < count := BitVec.not_lt.mpr missing
    simp only [missing, if_true, outside, false_implies, iff_true]
    exact repliesInside_unwritten fun same => by cases same
  · have inside : lun < count := BitVec.not_le.mp missing
    cases working with
    | false =>
      simp only [missing, if_false, Bool.not_false, if_true, Bool.false_eq_true, false_implies, implies_true, iff_true]
      exact repliesInside_unwritten fun same => by cases same
    | true =>
      simp only [missing, if_false, Bool.not_true, Bool.false_eq_true, inside, forall_const]
      exact rest

private theorem overrun_inside_iff {size : BitVec 32} {answer : BufferReply}
    (fits : size.toNat ≤ srb.dataTransferLength.toNat → RepliesInside srb (some answer)) :
    RepliesInside srb (some (if srb.dataTransferLength < size then .unwritten .dataOverrun size else answer)) ↔
      size.toNat ≤ srb.dataTransferLength.toNat := by
  split
  · rw [repliesInside_some, BufferReply.unwritten, answersInside_sized_iff (fun same => by cases same)]
    exact and_iff_right (allInside_nil _)
  · next enough =>
    rw [BitVec.lt_def, Nat.not_lt] at enough
    exact iff_of_true (fits enough) enough

private theorem repliesInside_fields {size : BitVec 32} {fields : List Span} (within : AllInside fields size.toNat)
    (enough : size.toNat ≤ srb.dataTransferLength.toNat) : RepliesInside srb (some ⟨.sized .success size, fields⟩) := by
  rw [repliesInside_some, answersInside_sized_iff (fun same => by cases same)]
  exact ⟨within.mono enough, enough⟩

private theorem readCapacity10Writes_inside_iff (srbext : SrbExt) :
    RepliesInside srb (some (readCapacity10Writes device (srbext.carrying srb))) ↔
      (srb.lun.setWidth 32 < device.namespaceCount → device.isWorking = true → 8 ≤ srb.dataTransferLength.toNat) := by
  apply capacity_guard
  apply overrun_inside_iff
  intro enough
  simp only
  split
  · exact repliesInside_unwritten fun same => by cases same
  · exact repliesInside_fields (by decide) enough

private theorem readCapacity16Writes_inside_iff (srbext : SrbExt) :
    RepliesInside srb (some (readCapacity16Writes device (srbext.carrying srb))) ↔
      (srb.lun.setWidth 32 < device.namespaceCount → device.isWorking = true → 12 ≤ srb.dataTransferLength.toNat) := by
  apply capacity_guard
  apply overrun_inside_iff
  exact repliesInside_fields (by decide)

/-! The replies are those of the handlers without their writes. -/

private theorem pageCode_toNat (byte : BitVec 8) : (byte &&& 0x3F).toNat = (byte.setWidth 6).toNat := by
  have mask : (0x3F : BitVec 8).toNat = 2 ^ 6 - 1 := rfl
  rw [BitVec.toNat_and, mask, Nat.and_two_pow_sub_one_eq_mod, BitVec.toNat_setWidth]

private theorem inquiry6Writes_reply (device : CNvmeDevice) (srbext : SrbExt) :
    (inquiry6Writes device srbext true).map BufferReply.reply = some (scsiInquiry6 device srbext) := by
  unfold inquiry6Writes scsiInquiry6
  split
  · unfold handleInquiryVPDWrites handleInquiryVPD
    generalize (Cdb.byte srbext.cdb 2).toNat = code
    split
    · rfl
    · simp only
      split <;> rfl
    · rfl
    · rfl
    · rfl
    · simp_all only [Option.map_some, BufferReply.unwritten]
  · split
    · rfl
    · split <;> rfl

private theorem readCapacity10Writes_reply (device : CNvmeDevice) (srbext : SrbExt) :
    (readCapacity10Writes device srbext).reply = scsiReadCapacity10 device srbext := by
  simp only [readCapacity10Writes, scsiReadCapacity10, apply_ite BufferReply.reply]
  rfl

private theorem readCapacity16Writes_reply (device : CNvmeDevice) (srbext : SrbExt) :
    (readCapacity16Writes device srbext).reply = scsiReadCapacity16 device srbext := by
  simp only [readCapacity16Writes, scsiReadCapacity16, apply_ite BufferReply.reply]
  rfl

private theorem ModeReply.copyWhileRoom_sizes (reply : ModeReply) (page : List (BitVec 8)) :
    ((reply.copyWhileRoom page).bufSize, (reply.copyWhileRoom page).retSize) =
      SpcNvme.copyWhileRoom (reply.bufSize, reply.retSize) (BitVec.ofNat 32 page.length) := by
  simp only [ModeReply.copyWhileRoom, SpcNvme.copyWhileRoom]
  split <;> rfl

private theorem modeSense6Writes_reply (srbext : SrbExt) (flags : CacheFlags) :
    (modeSense6Writes srbext flags).reply = scsiModeSense6 srbext := by
  unfold modeSense6Writes modeSense6 scsiModeSense6
  split
  · rfl
  · rw [pageCode_toNat]
    generalize (Cdb.byte srbext.cdb 2).setWidth 6 = code
    by_cases caching : code = modePageCaching
    · rw [caching]
      rfl
    by_cases control : code = modePageControl
    · rw [control]
      rfl
    by_cases infoException : code = modePageFaultReporting
    · rw [infoException]
      rfl
    by_cases all : code = modeSenseReturnAll
    · let header := ModeReply.header srbext.dataBufLen
      let first := header.copyWhileRoom (fillModePageCaching flags)
      have one := header.copyWhileRoom_sizes (fillModePageCaching flags)
      have two := first.copyWhileRoom_sizes fillModePageControl
      have three := (first.copyWhileRoom fillModePageControl).copyWhileRoom_sizes fillModePageInfoException
      rw [two, one] at three
      rw [all]
      exact congrArg (DataReply.sized .success) (congrArg Prod.snd three)
    simp only [caching, control, infoException, all, if_false]
    split
    · next same => exact absurd (BitVec.eq_of_toNat_eq same) caching
    · next same => exact absurd (BitVec.eq_of_toNat_eq same) control
    · next same => exact absurd (BitVec.eq_of_toNat_eq same) infoException
    · next same => exact absurd (BitVec.eq_of_toNat_eq same) all
    · rfl

def ReplyCommand.dataReply (command : ReplyCommand) (device : CNvmeDevice) (srbext : SrbExt) : DataReply :=
  match command with
  | inquiry6 => scsiInquiry6 device srbext
  | modeSense6 => scsiModeSense6 srbext
  | readCapacity10 => scsiReadCapacity10 device srbext
  | readCapacity16 => scsiReadCapacity16 device srbext

theorem handler_reply (command : ReplyCommand) (device : CNvmeDevice) (flags : CacheFlags) (srbext : SrbExt) :
    (command.handler device flags true srbext).map BufferReply.reply = some (command.dataReply device srbext) := by
  cases command with
  | inquiry6 => exact inquiry6Writes_reply device srbext
  | modeSense6 => exact congrArg some (modeSense6Writes_reply srbext flags)
  | readCapacity10 => exact congrArg some (readCapacity10Writes_reply device srbext)
  | readCapacity16 => exact congrArg some (readCapacity16Writes_reply device srbext)

/-- Every handler, for every request, device and page allocation. -/
theorem handler_inside_iff (command : ReplyCommand) (device : CNvmeDevice) (flags : CacheFlags) (allocated : Bool)
    (srbext : SrbExt) (srb : Srb) :
    RepliesInside srb (command.handler device flags allocated (srbext.carrying srb)) ↔
      ReplyFits device srb allocated command := by
  cases command with
  | inquiry6 => exact inquiry6Writes_inside_iff srbext allocated
  | modeSense6 => exact modeSense6Writes_inside_iff srbext flags
  | readCapacity10 => exact readCapacity10Writes_inside_iff srbext
  | readCapacity16 => exact readCapacity16Writes_inside_iff srbext

def serialNumberInquiry : Srb := { sampleSrb with cdb := [0x12, 0x01, 0x80, 0, 64, 0], dataTransferLength := 64 }

theorem serialNumber_leaves_buffer :
    ¬ RepliesInside serialNumberInquiry (ReplyCommand.inquiry6.handler (Host.sampleHost (.init none)).device
      ⟨true, false⟩ true ((SrbExt.init none).carrying serialNumberInquiry)) := by
  intro replies
  have room : 260 ≤ serialNumberInquiry.dataTransferLength.toNat := (inquiry6Writes_inside_iff _ true).mp replies
  exact absurd room (by decide)

end SpcNvme
