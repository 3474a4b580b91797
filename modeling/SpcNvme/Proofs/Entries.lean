import SpcNvme.Pool
import SpcNvme.Proofs.Notification

/-! How the entry points end, said once. `HwStartIo` answers the request, submits
the command it built, or completes the request whose command was refused; the
invariants of the adapter are read off from these ways. -/

namespace SpcNvme

structure SrbExt.Answers (before after : SrbExt) : Prop where
  rest : after = { before with srb := after.srb }
  tag : after.srb.map Srb.queueTag = before.srb.map Srb.queueTag

theorem SrbExt.Answers.refl (srbext : SrbExt) : srbext.Answers srbext := ⟨rfl, rfl⟩

/-- The request asks for the firmware slots, in a buffer that holds the question. -/
structure SrbExt.FirmwareRequest (srbext : SrbExt) : Prop where
  function : srbext.funcCode = SrbFunction.ioControl
  long : ¬ srbext.dataBufLen < Ioctl.srbIoControlSize + Ioctl.firmwareRequestBlockSize
  asks : ∃ srb, srbext.srb = some srb ∧ srb.ioControl.controlCode = Ioctl.scsiMiniportFirmware ∧
    srb.ioControl.signatureIsFirmware = true ∧ srb.ioControl.request.function = Ioctl.firmwareFunctionGetInfo

namespace Host

def builtReadWrite (host : Host) (memory : Memory) (address : Nat) (offset : BitVec 64) (len : BitVec 32) (isWrite : Bool) :
    Host :=
  host.putSrbExt address (buiildCmdReadWrite memory (host.heap.srbext address) offset len isWrite)

def builtFirmware (host : Host) (memory : Memory) (address logpage : Nat) : Host :=
  host.putSrbExt address (host.firmwareGetInfoCmd memory (host.heap.srbext address) logpage)

def cmdOf (host : Host) (address : Nat) : NvmeCommand := (host.heap.srbext address).nvmeCmd

structure SubmitsNothing (host : Host) (address : Nat) : Prop where
  transfers : host.transfers address = false
  other : ¬ (host.heap.srbext address).FirmwareRequest

inductive StartIoEnd (host : Host) (memory : Memory) (address processor logpage : Nat) : Host → Prop where
  | answered {srbext : SrbExt} {status : SrbStatus} (plain : host.SubmitsNothing address)
      (answers : (host.heap.srbext address).Answers srbext) (final : status ≠ .pending) :
      StartIoEnd host memory address processor logpage ((host.putSrbExt address srbext).completeSrb address status)
  | sentIo (offset : BitVec 64) (len : BitVec 32) (isWrite : Bool) {queue : CNvmeQueue}
      (transfers : host.transfers address = true)
      (accepts : (host.builtReadWrite memory address offset len isWrite).AcceptsIo processor
        ((host.builtReadWrite memory address offset len isWrite).cmdOf address) queue) :
      StartIoEnd host memory address processor logpage
        ((host.builtReadWrite memory address offset len isWrite).acceptedIo address processor queue)
  | refusedIo (offset : BitVec 64) (len : BitVec 32) (isWrite : Bool) {after : Host} {status : SrbStatus}
      (transfers : host.transfers address = true)
      (refuses : ∀ queue, ¬ (host.builtReadWrite memory address offset len isWrite).AcceptsIo processor
        ((host.builtReadWrite memory address offset len isWrite).cmdOf address) queue)
      (same : after = host.builtReadWrite memory address offset len isWrite ∨
        after = { host.builtReadWrite memory address offset len isWrite with
          heap := (host.builtReadWrite memory address offset len isWrite).indexedHeap address processor })
      (final : status ≠ .pending) :
      StartIoEnd host memory address processor logpage (after.completeSrb address status)
  | sentAdm {queue : CNvmeQueue} (request : (host.heap.srbext address).FirmwareRequest)
      (accepts : (host.builtFirmware memory address logpage).AcceptsAdm
        ((host.builtFirmware memory address logpage).cmdOf address) queue) :
      StartIoEnd host memory address processor logpage
        ((host.builtFirmware memory address logpage).acceptedAdm address queue)
  | refusedAdm (request : (host.heap.srbext address).FirmwareRequest)
      (refuses : ∀ queue, ¬ (host.builtFirmware memory address logpage).AcceptsAdm
        ((host.builtFirmware memory address logpage).cmdOf address) queue) :
      StartIoEnd host memory address processor logpage
        ((host.builtFirmware memory address logpage).completeSrb address .internalError)

section
variable {host after : Host} {memory : Memory} {address processor logpage : Nat} {status : SrbStatus}

/-- A handler left the request pending, or `HwStartIo` completes it. -/
def Ends (host : Host) (memory : Memory) (address processor logpage : Nat) (status : SrbStatus) (after : Host) : Prop :=
  host.StartIoEnd memory address processor logpage (if status ≠ .pending then after.completeSrb address status else after)

theorem putSrbExt_self (host : Host) (address : Nat) : host.putSrbExt address (host.heap.srbext address) = host := by
  simp [putSrbExt, Heap.put]

private theorem ends_answered (plain : host.SubmitsNothing address) (final : status ≠ .pending) :
    host.Ends memory address processor logpage status host := by
  have answered : host.StartIoEnd memory address processor logpage
      ((host.putSrbExt address (host.heap.srbext address)).completeSrb address status) := .answered plain (.refl _) final
  rw [putSrbExt_self] at answered
  rwa [Ends, if_pos final]

private theorem reply_ends {answer : DataReply} (plain : host.SubmitsNothing address) (final : answer.status ≠ .pending)
    (returned : some (host.reply address answer) = some (status, after)) :
    host.Ends memory address processor logpage status after := by
  unfold reply at returned
  split at returned
  · cases returned
    exact ends_answered plain final
  · cases returned
    rw [Ends, if_pos final]
    refine .answered plain ⟨rfl, ?_⟩ final
    simp [SrbExt.setTransferLength, Function.comp_def]

private theorem scsiReadWrite_ends {offset : BitVec 64} {len : BitVec 32} {isWrite : Bool}
    (range : host.transfers address =
      host.device.isInValidIoRange ((host.heap.srbext address).lun.setWidth 32 + 1) offset len)
    (other : ¬ (host.heap.srbext address).FirmwareRequest)
    (returned : host.scsiReadWrite memory address processor offset len isWrite = some (status, after)) :
    host.Ends memory address processor logpage status after := by
  simp only [scsiReadWrite, ← range] at returned
  split at returned
  · next outside =>
    cases returned
    exact ends_answered ⟨by simpa using outside, other⟩ (by simp)
  · next inside =>
    have transfers : host.transfers address = true := by simpa using inside
    have built : host.putSrbExt address (buiildCmdReadWrite memory (host.heap.srbext address) offset len isWrite) =
      host.builtReadWrite memory address offset len isWrite := rfl
    rw [built] at returned
    by_cases accepted : ∃ queue, (host.builtReadWrite memory address offset len isWrite).AcceptsIo processor
        ((host.builtReadWrite memory address offset len isWrite).cmdOf address) queue
    · obtain ⟨queue, accepts⟩ := accepted
      rw [submitIoCmd_accepts accepts] at returned
      cases returned
      exact .sentIo offset len isWrite transfers accepts
    · split at returned
      · cases returned
      · next code left submitted =>
        have refuses := fun queue accepts => accepted ⟨queue, accepts⟩
        obtain ⟨fails, same⟩ := submitIoCmd_refuses refuses submitted
        simp only [fails, Bool.not_false, if_true, Option.some.injEq, Prod.mk.injEq] at returned
        obtain ⟨rfl, rfl⟩ := returned
        have final : (if code = .deviceBusy then SrbStatus.busy else SrbStatus.error) ≠ .pending := by
          split <;> simp
        rw [Ends, if_pos final]
        exact .refusedIo offset len isWrite transfers refuses same final

theorem executeScsi_ne_ioControl : SrbFunction.executeScsi ≠ SrbFunction.ioControl := by
  simp [SrbFunction.ioControl, SrbFunction.executeScsi]

private theorem startIoScsiHandler_ends (function : (host.heap.srbext address).funcCode = SrbFunction.executeScsi)
    (returned : host.startIoScsiHandler memory address processor = some (status, after)) :
    host.Ends memory address processor logpage status after := by
  have rejects : DataReply.invalidRequest.status ≠ .pending := by simp [DataReply.invalidRequest]
  have other : ¬ (host.heap.srbext address).FirmwareRequest := by
    intro request
    exact executeScsi_ne_ioControl (function.symm.trans request.function)
  have quiet : (host.heap.srbext address).parse = none → host.SubmitsNothing address := by
    intro none
    exact ⟨by simp [transfers, none], other⟩
  have range : ∀ parse, (host.heap.srbext address).parse = some parse → host.transfers address =
      host.device.isInValidIoRange ((host.heap.srbext address).lun.setWidth 32 + 1)
        (parse (host.heap.srbext address).cdb).1 (parse (host.heap.srbext address).cdb).2 := by
    intro parse found
    simp [transfers, found, function]
  have parse : ∀ opcode, (Cdb.byte (host.heap.srbext address).cdb 0).toNat = opcode →
      (host.heap.srbext address).parse = SrbExt.handlerFor opcode := by
    intro opcode same
    rw [SrbExt.parse, same]
  simp only [startIoScsiHandler] at returned
  split at returned
  · next opcode => exact reply_ends (quiet (parse _ opcode)) (scsiModeSelect6_final _) returned
  · next opcode => exact scsiReadWrite_ends (range _ (parse _ opcode)) other returned
  · next opcode => exact scsiReadWrite_ends (range _ (parse _ opcode)) other returned
  · next opcode => exact reply_ends (quiet (parse _ opcode)) (scsiInquiry6_final _ _) returned
  · next opcode => exact reply_ends (quiet (parse _ opcode)) (scsiModeSense6_final _) returned
  · next opcode => exact reply_ends (quiet (parse _ opcode)) rejects returned
  · next opcode => exact reply_ends (quiet (parse _ opcode)) rejects returned
  · next opcode => exact reply_ends (quiet (parse _ opcode)) rejects returned
  · next opcode => exact reply_ends (quiet (parse _ opcode)) rejects returned
  · next opcode => exact reply_ends (quiet (parse _ opcode)) (scsiReadCapacity10_final _ _) returned
  · next opcode => exact scsiReadWrite_ends (range _ (parse _ opcode)) other returned
  · next opcode => exact scsiReadWrite_ends (range _ (parse _ opcode)) other returned
  · next opcode => exact reply_ends (quiet (parse _ opcode)) rejects returned
  · next opcode => exact reply_ends (quiet (parse _ opcode)) rejects returned
  · next opcode => exact reply_ends (quiet (parse _ opcode)) rejects returned
  · next opcode => exact reply_ends (quiet (parse _ opcode)) rejects returned
  · next opcode => exact scsiReadWrite_ends (range _ (parse _ opcode)) other returned
  · next opcode => exact scsiReadWrite_ends (range _ (parse _ opcode)) other returned
  · next opcode => exact scsiReadWrite_ends (range _ (parse _ opcode)) other returned
  · next opcode => exact scsiReadWrite_ends (range _ (parse _ opcode)) other returned
  · next opcode => exact reply_ends (quiet (parse _ opcode)) rejects returned
  · next opcode => exact reply_ends (quiet (parse _ opcode)) (scsiReadCapacity16_final _ _) returned
  · cases returned
    apply ends_answered (quiet _) (by simp)
    unfold SrbExt.parse SrbExt.handlerFor
    split <;> first | contradiction | rfl

private theorem firmwareGetInfo_ends (request : (host.heap.srbext address).FirmwareRequest)
    (returned : host.firmwareGetInfo memory address logpage = (status, after)) :
    host.Ends memory address processor logpage status after := by
  have built : host.putSrbExt address (host.firmwareGetInfoCmd memory (host.heap.srbext address) logpage) =
    host.builtFirmware memory address logpage := rfl
  simp only [firmwareGetInfo, built] at returned
  rcases (host.builtFirmware memory address logpage).submitAdmCmd_spec address with
    ⟨queue, accepts, submitted⟩ | ⟨refuses, failed, fails, submitted⟩
  · rw [submitted] at returned
    cases returned
    exact .sentAdm request accepts
  · rw [submitted] at returned
    simp only [fails, Bool.not_false, if_true, Prod.mk.injEq] at returned
    obtain ⟨rfl, rfl⟩ := returned
    exact .refusedAdm request refuses

private theorem startIoIoctlHandler_ends (function : (host.heap.srbext address).funcCode = SrbFunction.ioControl)
    (returned : host.startIoIoctlHandler memory address logpage = (status, after)) :
    host.Ends memory address processor logpage status after := by
  have transfers : host.transfers address = false := by
    simp only [transfers, function]
    split
    · rfl
    · simp [executeScsi_ne_ioControl.symm]
  unfold startIoIoctlHandler at returned
  split at returned
  · next missing =>
    cases returned
    refine ends_answered ⟨transfers, ?_⟩ (by simp)
    rintro ⟨_, _, srb, present, _⟩
    simp [missing] at present
  · next srb present =>
    have found : ∀ request : (host.heap.srbext address).FirmwareRequest,
        (srb.ioControl.controlCode = Ioctl.scsiMiniportFirmware ∧ srb.ioControl.signatureIsFirmware = true) ∧
          srb.ioControl.request.function = Ioctl.firmwareFunctionGetInfo := by
      rintro ⟨_, _, other, also, code, signature, asks⟩
      obtain rfl : srb = other := Option.some.inj (present.symm.trans also)
      exact ⟨⟨code, signature⟩, asks⟩
    split at returned
    · next firmware =>
      simp only [ioctlScsiMiniportFirmware] at returned
      split at returned
      · next short =>
        cases returned
        rw [Ends, if_pos (by simp)]
        refine .answered ⟨transfers, fun request => request.long short⟩ ⟨rfl, ?_⟩ (by simp)
        simp [SrbExt.setReturnCode, Function.comp_def]
      · next long =>
        split at returned
        · next asks => exact firmwareGetInfo_ends ⟨function, long, srb, present, firmware.1, firmware.2, asks⟩ returned
        · next other =>
          cases returned
          exact ends_answered ⟨transfers, fun request => other (found request).2⟩ (by simp)
    · next other =>
      cases returned
      exact ends_answered ⟨transfers, fun request => other (found request).1⟩ (by simp)

theorem hwStartIo_end (returned : host.hwStartIo memory address processor logpage = some after) :
    host.StartIoEnd memory address processor logpage after := by
  have ends : ∀ status next, host.startIo memory address processor logpage = some (status, next) →
      host.Ends memory address processor logpage status next := by
    intro status next called
    simp only [startIo] at called
    split at called
    · next function => exact startIoScsiHandler_ends function called
    · next scsi =>
      split at called
      · next function => exact startIoIoctlHandler_ends function (Option.some.inj called)
      · next ioctl =>
        cases called
        refine ends_answered ⟨?_, fun request => ioctl request.function⟩ (by simp)
        simp only [transfers]
        split
        · rfl
        · simp [scsi]
  simp only [hwStartIo] at returned
  split at returned
  · cases returned
  · next status next called =>
    cases returned
    exact ends status next called

theorem hwStartIo_firmware {queue : CNvmeQueue} (request : (host.heap.srbext address).FirmwareRequest)
    (accepts : (host.builtFirmware memory address logpage).AcceptsAdm
      ((host.builtFirmware memory address logpage).cmdOf address) queue) :
    host.hwStartIo memory address processor logpage =
      some ((host.builtFirmware memory address logpage).acceptedAdm address queue) := by
  obtain ⟨srb, present, code, signature, asks⟩ := request.asks
  have other : ¬ SrbFunction.ioControl = SrbFunction.executeScsi := executeScsi_ne_ioControl.symm
  rcases (host.builtFirmware memory address logpage).submitAdmCmd_spec address with
    ⟨found, also, submitted⟩ | ⟨refuses, _⟩
  · obtain rfl : queue = found := Option.some.inj (accepts.selected.symm.trans also.selected)
    have called : host.firmwareGetInfo memory address logpage =
        (.pending, (host.builtFirmware memory address logpage).acceptedAdm address queue) := by
      have built : host.putSrbExt address (host.firmwareGetInfoCmd memory (host.heap.srbext address) logpage) =
        host.builtFirmware memory address logpage := rfl
      simp [firmwareGetInfo, built, submitted, NtStatus.ntSuccess]
    simp [hwStartIo, startIo, request.function, other, startIoIoctlHandler, present, code, signature,
      ioctlScsiMiniportFirmware, request.long, asks, called]
  · exact absurd accepts (refuses queue)

end

end Host

/-- No extension changes its tag, and none becomes outstanding, unless it is initialised. -/
structure Heap.Ages (heap after : Heap) : Prop where
  tag : ∀ address, (after.srbext address).srb.map Srb.queueTag = (heap.srbext address).srb.map Srb.queueTag
  outstanding : ∀ address, Outstanding after address → Outstanding heap address

private theorem Srb.setScsiSenseBySrbStatus_queueTag (srb : Srb) (status : SrbStatus) :
    (srb.setScsiSenseBySrbStatus status).queueTag = srb.queueTag := by
  cases status with
  | error =>
    simp only [Srb.setScsiSenseBySrbStatus]
    split <;> rfl
  | _ => rfl

theorem nvmeToSrbStatus_final (status : NvmeCommandStatus) : nvmeToSrbStatus status ≠ .pending := by
  unfold nvmeToSrbStatus nvmeGenericToSrbStatus nvmeCmdSpecificToSrbStatus nvmeMediaErrorToSrbStatus
  repeat' split
  all_goals simp

theorem firmwareInfoResult_final (ioctl : SrbIoControl) (slotCount : BitVec 3) (status : NvmeCommandStatus) :
    (firmwareInfoResult ioctl slotCount status).2.1 ≠ .pending := by
  unfold firmwareInfoResult
  dsimp only
  repeat' split
  all_goals simp

namespace Heap.Ages
variable {heap : Heap} {address : Nat}

theorem refl (heap : Heap) : heap.Ages heap := ⟨fun _ => rfl, fun _ => id⟩

theorem trans {first second third : Heap} (left : first.Ages second) (right : second.Ages third) : first.Ages third :=
  ⟨fun address => (right.tag address).trans (left.tag address),
    fun address outstanding => left.outstanding address (right.outstanding address outstanding)⟩

theorem put {srbext : SrbExt} (tag : srbext.srb.map Srb.queueTag = (heap.srbext address).srb.map Srb.queueTag)
    (outstanding : srbext.Outstanding → (heap.srbext address).Outstanding) : heap.Ages (heap.put address srbext) := by
  constructor
  · intro other
    by_cases same : other = address
    · subst other
      simpa using tag
    · simp [same]
  · intro other kept
    by_cases same : other = address
    · subst other
      apply outstanding
      simpa [Outstanding] using kept
    · simpa [Outstanding, same] using kept

theorem completeSrb (submission : Option Nat) {status : SrbStatus} (final : status ≠ .pending) :
    heap.Ages (heap.completeSrb address submission status) := by
  suffices stored : heap.Ages (heap.put address ((heap.srbext address).completeSrb status)) from
    ⟨stored.tag, stored.outstanding⟩
  apply put
  · unfold SrbExt.completeSrb
    split
    · rfl
    · next srb present => simp [present, Srb.setScsiSenseBySrbStatus_queueTag]
  · intro kept
    exfalso
    cases present : (heap.srbext address).srb with
    | none =>
      have polled := kept.polled
      simp [SrbExt.completeSrb, present] at polled
      exact final polled
    | some srb =>
      have notified := kept.notified
      simp [SrbExt.completeSrb, present] at notified

theorem cleanUp (heap : Heap) (address : Nat) : heap.Ages (heap.cleanUp address) :=
  put rfl fun kept => ⟨kept.initOK, kept.notified, kept.polled⟩

theorem runCompletionCB (heap : Heap) (address : Nat) (submission : Option Nat) :
    heap.Ages (SpcNvme.runCompletionCB heap address submission) := by
  unfold SpcNvme.runCompletionCB
  split
  · exact refl heap
  · unfold completeFirmwareInfo
    dsimp only
    split
    · exact refl heap
    · next srb present =>
      refine trans (put ?_ ?_) (trans (cleanUp _ address) (completeSrb submission (firmwareInfoResult_final _ _ _)))
      · simp [present]
      · exact fun kept => ⟨kept.initOK, kept.notified, fun missing => by simp [present] at missing⟩
  · exact cleanUp heap address

theorem finishSrbExt (heap : Heap) (address : Nat) (submission : Option Nat) (cpl : NvmeCompletionEntry) :
    heap.Ages (SpcNvme.finishSrbExt heap address submission cpl) := by
  have copied : heap.Ages (heap.put address { heap.srbext address with nvmeCpl := cpl }) :=
    put rfl fun kept => ⟨kept.initOK, kept.notified, kept.polled⟩
  exact copied.trans ((runCompletionCB _ address submission).trans
    ((completeSrb submission (nvmeToSrbStatus_final _)).trans (cleanUp _ address)))

theorem resetUpTo (table : CCmdHistory) (heap : Heap) (count : Nat) : heap.Ages (table.resetUpTo heap count).2 := by
  induction count with
  | zero => exact refl heap
  | succ count ih =>
    simp only [CCmdHistory.resetUpTo]
    split
    · exact ih
    · exact ih.trans (completeSrb _ (by simp))

theorem accepted (queue : CNvmeQueue) (heap : Heap) (address : Nat) : heap.Ages (Host.acceptedHeap queue heap address) := by
  have released : heap.Ages (queue.releaseOld heap (heap.srbext address).nvmeCmd) := by
    unfold CNvmeQueue.releaseOld
    split
    · exact refl heap
    · exact completeSrb _ (by simp)
  exact released.trans (put rfl fun kept => ⟨kept.initOK, kept.notified, kept.polled⟩)

theorem poppedHeap (queue : CNvmeQueue) (heap : Heap) (loop : CompleteLoop) : heap.Ages (queue.poppedHeap heap loop) := by
  unfold CNvmeQueue.poppedHeap
  split
  · exact refl heap
  · exact finishSrbExt ..

end Heap.Ages

end SpcNvme
