import SpcNvme.Proofs.Transfer
import SpcNvme.Proofs.Entries

/-! What `HwStartIo` does with a request, said once for the whole dispatch: it
completes the request at once and changes nothing but its extension, or it puts
one command for it into one queue and leaves the request alone. -/

namespace SpcNvme

def Cdb.isWrite (cdb : List (BitVec 8)) : Bool :=
  match (Cdb.byte cdb 0).toNat with
  | 0x0A | 0x2A | 0xAA | 0x8A => true
  | _ => false

namespace Host
variable (host : Host) (memory : Memory) (address processor logpage : Nat)

def withReadWrite (offset : BitVec 64) (len : BitVec 32) : Host :=
  host.putSrbExt address (buiildCmdReadWrite memory (host.heap.srbext address) offset len
    (Cdb.isWrite (host.heap.srbext address).cdb))

def withFirmwareInfo : Host :=
  host.putSrbExt address (host.firmwareGetInfoCmd memory (host.heap.srbext address) logpage)

/-- The extension has no list of pages it did not have before, but for the one built
for a read or write whose range passed the check. -/
def ListFrom (record : SrbExt) : Prop :=
  record.prp2VA = (host.heap.srbext address).prp2VA ∨ ∃ offset len,
    (host.heap.srbext address).funcCode = SrbFunction.executeScsi ∧
    parseReadWriteOffsetAndLen (host.heap.srbext address).cdb = some (offset, len) ∧
    host.device.isInValidIoRange ((host.heap.srbext address).lun.setWidth 32 + 1) offset len = true ∧
    record.prp2VA = ((host.withReadWrite memory address offset len).heap.srbext address).prp2VA ∧
    record.prp2List = ((host.withReadWrite memory address offset len).heap.srbext address).prp2List

inductive Started : Host → Prop where
  | answered {record : SrbExt} {status : SrbStatus} (final : status ≠ .pending)
      (list : host.ListFrom memory address record) : Started ((host.putSrbExt address record).completeSrb address status)
  | readWrite {offset : BitVec 64} {len : BitVec 32} {queue : CNvmeQueue}
      (scsi : (host.heap.srbext address).funcCode = SrbFunction.executeScsi)
      (parsed : parseReadWriteOffsetAndLen (host.heap.srbext address).cdb = some (offset, len))
      (inRange : host.device.isInValidIoRange ((host.heap.srbext address).lun.setWidth 32 + 1) offset len = true)
      (accepts : (host.withReadWrite memory address offset len).AcceptsIo processor
        ((host.withReadWrite memory address offset len).heap.srbext address).nvmeCmd queue) :
      Started ((host.withReadWrite memory address offset len).acceptedIo address processor queue)
  | firmware {queue : CNvmeQueue}
      (ioctl : (host.heap.srbext address).funcCode = SrbFunction.ioControl)
      (accepts : (host.withFirmwareInfo memory address logpage).AcceptsAdm
        ((host.withFirmwareInfo memory address logpage).heap.srbext address).nvmeCmd queue) :
      Started ((host.withFirmwareInfo memory address logpage).acceptedAdm address queue)

/-- A handler has decided, or its request is pending. -/
inductive Dispatched : SrbStatus → Host → Prop where
  | decided {record : SrbExt} {status : SrbStatus} (final : status ≠ .pending)
      (list : host.ListFrom memory address record) : Dispatched status (host.putSrbExt address record)
  | pending {after : Host} (started : host.Started memory address processor logpage after) :
      Dispatched .pending after

end Host

section Handlers
variable {host after : Host} {memory : Memory} {address processor logpage : Nat} {status : SrbStatus}

private theorem Host.putSrbExt_putSrbExt (host : Host) (address : Nat) (first second : SrbExt) :
    (host.putSrbExt address first).putSrbExt address second = host.putSrbExt address second := by
  simp [Host.putSrbExt, Heap.put]

theorem Host.Dispatched.unchanged (final : status ≠ .pending) :
    host.Dispatched memory address processor logpage status host := by
  have decided : host.Dispatched memory address processor logpage status
      (host.putSrbExt address (host.heap.srbext address)) := .decided final (.inl rfl)
  rwa [host.putSrbExt_self] at decided

private theorem withBuffer_prp2VA (srbext : SrbExt) (memory : Memory) (cmd : NvmeCommand) (buffer : Nat) {bufSize : Nat}
    (short : bufSize ≤ pageSize) : (srbext.withBuffer memory cmd buffer bufSize).prp2VA = srbext.prp2VA := by
  have left : bufSize - getDistanceToNextPage buffer ≤ pageSize := by omega
  simp only [SrbExt.withBuffer, buildPrp, left, if_true]
  split <;> rfl

theorem firmwareGetInfoCmd_prp2VA (host : Host) (memory : Memory) (srbext : SrbExt) (logpage : Nat) :
    (host.firmwareGetInfoCmd memory srbext logpage).prp2VA = srbext.prp2VA := by
  let called : SrbExt := { srbext.resetExtBuf (some logpage) with completionCB := some .completeFirmwareInfo }
  have short : sizeofFirmwareSlotInfoLog ≤ pageSize := by simp [sizeofFirmwareSlotInfoLog, pageSize]
  simp only [Host.firmwareGetInfoCmd]
  split
  · exact withBuffer_prp2VA called memory _ logpage short
  · exact withBuffer_prp2VA called memory _ logpage short

private theorem reply_dispatched {answer : DataReply} (final : answer.status ≠ .pending)
    (returned : some (host.reply address answer) = some (status, after)) :
    host.Dispatched memory address processor logpage status after := by
  unfold Host.reply at returned
  split at returned
  · cases returned
    exact .unchanged final
  · cases returned
    exact .decided final (.inl rfl)

private theorem scsiReadWrite_dispatched {offset : BitVec 64} {len : BitVec 32}
    (scsi : (host.heap.srbext address).funcCode = SrbFunction.executeScsi)
    (parsed : parseReadWriteOffsetAndLen (host.heap.srbext address).cdb = some (offset, len))
    (returned : host.scsiReadWrite memory address processor offset len (Cdb.isWrite (host.heap.srbext address).cdb) =
      some (status, after)) :
    host.Dispatched memory address processor logpage status after := by
  let built := host.withReadWrite memory address offset len
  simp only [Host.scsiReadWrite] at returned
  split at returned
  · cases returned
    exact .unchanged (by simp)
  · next inRange =>
    have checked : host.device.isInValidIoRange ((host.heap.srbext address).lun.setWidth 32 + 1) offset len = true := by
      simpa using inRange
    split at returned
    · cases returned
    · next code next called =>
      by_cases accepts : ∃ queue, built.AcceptsIo processor (built.heap.srbext address).nvmeCmd queue
      · obtain ⟨queue, accepts⟩ := accepts
        obtain ⟨rfl, rfl⟩ : code = .success ∧ next = built.acceptedIo address processor queue := by
          have accepted : built.submitIoCmd address processor = some (code, next) := called
          rw [Host.submitIoCmd_accepts accepts, Option.some.injEq, Prod.mk.injEq] at accepted
          exact ⟨accepted.1.symm, accepted.2.symm⟩
        cases returned
        exact .pending (.readWrite scsi parsed checked accepts)
      · have refuses : ∀ queue, ¬ built.AcceptsIo processor (built.heap.srbext address).nvmeCmd queue :=
          fun queue taken => accepts ⟨queue, taken⟩
        obtain ⟨fails, kept⟩ := Host.submitIoCmd_refuses refuses called
        simp only [fails, Bool.not_false, if_true, Option.some.injEq, Prod.mk.injEq] at returned
        obtain ⟨rfl, rfl⟩ := returned
        have final : (if code = .deviceBusy then SrbStatus.busy else SrbStatus.error) ≠ .pending := by split <;> simp
        have own : host.ListFrom memory address (built.heap.srbext address) :=
          .inr ⟨offset, len, scsi, parsed, checked, rfl, rfl⟩
        rcases kept with rfl | rfl
        · have decided : host.Dispatched memory address processor logpage (if code = .deviceBusy then .busy else .error)
              (host.putSrbExt address (built.heap.srbext address)) := .decided final own
          simpa [built, Host.withReadWrite, Host.putSrbExt, Heap.put] using decided
        · have indexed : { built with heap := built.indexedHeap address processor } = host.putSrbExt address
              ((built.heap.srbext address).setIoQueueIndex (processor % built.device.registeredIoQ.toNat)) :=
            host.putSrbExt_putSrbExt address _ _
          rw [indexed]
          exact .decided final (.inr ⟨offset, len, scsi, parsed, checked, rfl, rfl⟩)

private theorem scsiReadWriteCdb_dispatched {parse : List (BitVec 8) → BitVec 64 × BitVec 32} {isWrite : Bool}
    (scsi : (host.heap.srbext address).funcCode = SrbFunction.executeScsi)
    (parsed : parseReadWriteOffsetAndLen (host.heap.srbext address).cdb = some (parse (host.heap.srbext address).cdb))
    (direction : isWrite = Cdb.isWrite (host.heap.srbext address).cdb)
    (returned : host.scsiReadWriteCdb memory address processor parse isWrite = some (status, after)) :
    host.Dispatched memory address processor logpage status after := by
  subst direction
  exact scsiReadWrite_dispatched scsi parsed returned

private theorem startIoScsiHandler_dispatched (scsi : (host.heap.srbext address).funcCode = SrbFunction.executeScsi)
    (returned : host.startIoScsiHandler memory address processor = some (status, after)) :
    host.Dispatched memory address processor logpage status after := by
  have rejects : DataReply.invalidRequest.status ≠ .pending := by simp [DataReply.invalidRequest]
  have readWrite : ∀ {parse : List (BitVec 8) → BitVec 64 × BitVec 32} {isWrite : Bool},
      parseReadWriteOffsetAndLen (host.heap.srbext address).cdb = some (parse (host.heap.srbext address).cdb) ∧
        isWrite = Cdb.isWrite (host.heap.srbext address).cdb →
      host.scsiReadWriteCdb memory address processor parse isWrite = some (status, after) →
      host.Dispatched memory address processor logpage status after :=
    fun named => scsiReadWriteCdb_dispatched scsi named.1 named.2
  simp only [Host.startIoScsiHandler] at returned
  split at returned
  · exact reply_dispatched (scsiModeSelect6_final _) returned
  · next opcode => exact readWrite (by simp [parseReadWriteOffsetAndLen, Cdb.isWrite, opcode]) returned
  · next opcode => exact readWrite (by simp [parseReadWriteOffsetAndLen, Cdb.isWrite, opcode]) returned
  · exact reply_dispatched (scsiInquiry6_final _ _) returned
  · exact reply_dispatched (scsiModeSense6_final _) returned
  · exact reply_dispatched rejects returned
  · exact reply_dispatched rejects returned
  · exact reply_dispatched rejects returned
  · exact reply_dispatched rejects returned
  · exact reply_dispatched (scsiReadCapacity10_final _ _) returned
  · next opcode => exact readWrite (by simp [parseReadWriteOffsetAndLen, Cdb.isWrite, opcode]) returned
  · next opcode => exact readWrite (by simp [parseReadWriteOffsetAndLen, Cdb.isWrite, opcode]) returned
  · exact reply_dispatched rejects returned
  · exact reply_dispatched rejects returned
  · exact reply_dispatched rejects returned
  · exact reply_dispatched rejects returned
  · next opcode => exact readWrite (by simp [parseReadWriteOffsetAndLen, Cdb.isWrite, opcode]) returned
  · next opcode => exact readWrite (by simp [parseReadWriteOffsetAndLen, Cdb.isWrite, opcode]) returned
  · next opcode => exact readWrite (by simp [parseReadWriteOffsetAndLen, Cdb.isWrite, opcode]) returned
  · next opcode => exact readWrite (by simp [parseReadWriteOffsetAndLen, Cdb.isWrite, opcode]) returned
  · exact reply_dispatched rejects returned
  · exact reply_dispatched (scsiReadCapacity16_final _ _) returned
  · cases returned
    exact .unchanged (by simp)

private theorem firmwareGetInfo_dispatched (ioctl : (host.heap.srbext address).funcCode = SrbFunction.ioControl)
    (returned : host.firmwareGetInfo memory address logpage = (status, after)) :
    host.Dispatched memory address processor logpage status after := by
  let built := host.withFirmwareInfo memory address logpage
  rcases built.submitAdmCmd_spec address with ⟨queue, accepts, called⟩ | ⟨_, code, fails, called⟩
  · have submitted : (host.putSrbExt address
        (host.firmwareGetInfoCmd memory (host.heap.srbext address) logpage)).submitAdmCmd address =
        (.success, built.acceptedAdm address queue) := called
    simp only [Host.firmwareGetInfo, submitted] at returned
    cases returned
    exact .pending (.firmware ioctl accepts)
  · have submitted : (host.putSrbExt address
        (host.firmwareGetInfoCmd memory (host.heap.srbext address) logpage)).submitAdmCmd address = (code, built) := called
    simp only [Host.firmwareGetInfo, submitted, fails, Bool.not_false, if_true, Prod.mk.injEq] at returned
    obtain ⟨rfl, rfl⟩ := returned
    exact .decided (by simp) (.inl (firmwareGetInfoCmd_prp2VA host memory (host.heap.srbext address) logpage))

private theorem startIoIoctlHandler_dispatched (ioctl : (host.heap.srbext address).funcCode = SrbFunction.ioControl)
    (returned : host.startIoIoctlHandler memory address logpage = (status, after)) :
    host.Dispatched memory address processor logpage status after := by
  unfold Host.startIoIoctlHandler at returned
  split at returned
  · cases returned
    exact .unchanged (by simp)
  · split at returned
    · simp only [Host.ioctlScsiMiniportFirmware] at returned
      split at returned
      · cases returned
        exact .decided (by simp) (.inl rfl)
      · split at returned
        · exact firmwareGetInfo_dispatched ioctl returned
        · cases returned
          exact .unchanged (by simp)
    · cases returned
      exact .unchanged (by simp)

private theorem startIo_dispatched (returned : host.startIo memory address processor logpage = some (status, after)) :
    host.Dispatched memory address processor logpage status after := by
  simp only [Host.startIo] at returned
  split at returned
  · next scsi => exact startIoScsiHandler_dispatched scsi returned
  · split at returned
    · next ioctl => exact startIoIoctlHandler_dispatched ioctl (Option.some.inj returned)
    · cases returned
      exact .unchanged (by simp)

theorem hwStartIo_started (returned : host.hwStartIo memory address processor logpage = some after) :
    host.Started memory address processor logpage after := by
  simp only [Host.hwStartIo] at returned
  split at returned
  · cases returned
  · next status next called =>
    cases startIo_dispatched called with
    | decided final list =>
      simp only [ne_eq, final, not_false_eq_true, if_true, Option.some.injEq] at returned
      exact returned ▸ .answered final list
    | pending started =>
      simp only [ne_eq, not_true_eq_false, if_false, Option.some.injEq] at returned
      exact returned ▸ started

end Handlers

end SpcNvme
