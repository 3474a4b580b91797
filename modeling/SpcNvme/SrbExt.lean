import SpcNvme.Srb
import Mathlib.Logic.Function.Basic

/-! The SRB extensions and the functions that complete them. The heap maps the
address of an extension to its content; every call of `CompleteSrb` is also
recorded in a log that no modelled function reads. -/

namespace SpcNvme

inductive CompletionCB where
  | completeFirmwareInfo
  | completeScsiReadWrite
deriving DecidableEq, Repr

/-- `SPCNVME_SRBEXT`. No modelled function reads the last two fields: `prpSize` is
the length the last `BuildPrp` was called with, and `notified` counts the
`RequestComplete` notifications since the last `Init`. -/
structure SrbExt where
  srb : Option Srb
  srbStatus : SrbStatus
  initOK : Bool
  freePrp2List : Bool
  nvmeCmd : NvmeCommand
  nvmeCpl : NvmeCompletionEntry
  prp2VA : Option Nat
  prp2List : List (BitVec 64)
  prp2PA : BitVec 64
  completionCB : Option CompletionCB
  extBuf : Option Nat
  ioQueueIndex : Nat
  subIndex : Nat
  tag : BitVec 32
  prpSize : Nat
  notified : Nat
deriving DecidableEq, Repr

namespace SrbExt

def scsiQTag (srb : Option Srb) : BitVec 32 :=
  match srb with
  | none => 0
  | some srb => srb.queueTag

def init (srb : Option Srb) : SrbExt where
  srb := srb
  srbStatus := .pending
  initOK := true
  freePrp2List := false
  nvmeCmd := .zero
  nvmeCpl := .zero
  prp2VA := none
  prp2List := []
  prp2PA := 0
  completionCB := none
  extBuf := none
  ioQueueIndex := 0
  subIndex := 0
  tag := scsiQTag srb
  prpSize := 0
  notified := 0

/-- `INVALID_LUN_ID` for an extension without an SRB. -/
def lun (srbext : SrbExt) : BitVec 8 :=
  match srbext.srb with
  | none => 0xFF
  | some srb => srb.lun

def dataBuf (srbext : SrbExt) : Nat :=
  match srbext.srb with
  | none => 0
  | some srb => srb.dataBuffer

def dataBufLen (srbext : SrbExt) : BitVec 32 :=
  match srbext.srb with
  | none => 0
  | some srb => srb.dataTransferLength

def resetExtBuf (srbext : SrbExt) (newBuffer : Option Nat) : SrbExt := { srbext with extBuf := newBuffer }

def cleanUp (srbext : SrbExt) : SrbExt := { srbext.resetExtBuf none with prp2VA := none }

/-- `CompleteSrb(UCHAR)`: an internal command has no SRB and only publishes its status. -/
def completeSrb (srbext : SrbExt) (status : SrbStatus) : SrbExt :=
  match srbext.srb with
  | none => { srbext with srbStatus := status }
  | some srb =>
      { srbext with
        srbStatus := status
        srb := some (srb.setScsiSenseBySrbStatus status)
        notified := srbext.notified + 1 }

/-- The callback of this extension calls `CompleteSrb` itself. -/
def completesItself (srbext : SrbExt) : Bool :=
  srbext.completionCB == some .completeFirmwareInfo && srbext.srb.isSome

@[simp] theorem completeSrb_srbStatus (srbext : SrbExt) (status : SrbStatus) :
    (srbext.completeSrb status).srbStatus = status := by
  unfold completeSrb
  split <;> rfl

@[simp] theorem completeSrb_completionCB (srbext : SrbExt) (status : SrbStatus) :
    (srbext.completeSrb status).completionCB = srbext.completionCB := by
  unfold completeSrb
  split <;> rfl

@[simp] theorem completeSrb_nvmeCpl (srbext : SrbExt) (status : SrbStatus) :
    (srbext.completeSrb status).nvmeCpl = srbext.nvmeCpl := by
  unfold completeSrb
  split <;> rfl

theorem completeSrb_notified (srbext : SrbExt) (status : SrbStatus) :
    (srbext.completeSrb status).notified = srbext.notified + if srbext.srb.isSome then 1 else 0 := by
  unfold completeSrb
  split
  · next missing => simp [missing]
  · next present => simp [present]

@[simp] theorem cleanUp_nvmeCpl (srbext : SrbExt) : srbext.cleanUp.nvmeCpl = srbext.nvmeCpl := rfl

@[simp] theorem cleanUp_completeSrb_cleanUp (srbext : SrbExt) (status : SrbStatus) :
    (srbext.cleanUp.completeSrb status).cleanUp = (srbext.completeSrb status).cleanUp := by
  cases present : srbext.srb with
  | none => simp [cleanUp, resetExtBuf, completeSrb, present]
  | some srb => simp [cleanUp, resetExtBuf, completeSrb, present]

end SrbExt

/-- One call of `CompleteSrb`: the extension, the status, and the completion
entry the extension held. `submission` tells which accepted command the caller
completed, by its number in submission order. -/
structure Completion where
  srbext : Nat
  submission : Option Nat
  status : SrbStatus
  nvmeCpl : NvmeCompletionEntry
deriving DecidableEq, Repr

/-- The memory shared by all queues: the SRB extensions, and `FRMW.SlotCount` of
the controller's identify data, which the firmware callback reads. -/
structure Heap where
  srbext : Nat → SrbExt
  slotCount : BitVec 3
  completions : List Completion

namespace Heap

def put (heap : Heap) (address : Nat) (srbext : SrbExt) : Heap :=
  { heap with srbext := Function.update heap.srbext address srbext }

def completeSrb (heap : Heap) (address : Nat) (submission : Option Nat) (status : SrbStatus) : Heap :=
  { heap.put address ((heap.srbext address).completeSrb status) with
    completions := heap.completions ++ [⟨address, submission, status, (heap.srbext address).nvmeCpl⟩] }

def cleanUp (heap : Heap) (address : Nat) : Heap := heap.put address (heap.srbext address).cleanUp

@[simp] theorem put_srbext (heap : Heap) (address : Nat) (srbext : SrbExt) :
    (heap.put address srbext).srbext = Function.update heap.srbext address srbext := rfl

@[simp] theorem put_completions (heap : Heap) (address : Nat) (srbext : SrbExt) :
    (heap.put address srbext).completions = heap.completions := rfl

@[simp] theorem completeSrb_srbext (heap : Heap) (address : Nat) (submission : Option Nat) (status : SrbStatus) :
    (heap.completeSrb address submission status).srbext =
      Function.update heap.srbext address ((heap.srbext address).completeSrb status) := rfl

@[simp] theorem completeSrb_completions (heap : Heap) (address : Nat) (submission : Option Nat) (status : SrbStatus) :
    (heap.completeSrb address submission status).completions =
      heap.completions ++ [⟨address, submission, status, (heap.srbext address).nvmeCpl⟩] := rfl

@[simp] theorem cleanUp_srbext (heap : Heap) (address : Nat) :
    (heap.cleanUp address).srbext = Function.update heap.srbext address (heap.srbext address).cleanUp := rfl

@[simp] theorem cleanUp_completions (heap : Heap) (address : Nat) :
    (heap.cleanUp address).completions = heap.completions := rfl

end Heap

/-- `NvmeStatus2FirmwareStatus`; `0x09` is `NVME_STATUS_INVALID_LOG_PAGE`. -/
def nvmeStatus2FirmwareStatus (status : NvmeCommandStatus) : FirmwareStatus :=
  if status.sct = 0 ∧ status.sc = 0 then .success
  else if status.sct = 1 then
    if status.sc = 0x09 then .illegalRequest else .error
  else .controllerError

namespace StorageFirmware

/-! Sizes in bytes of `STORAGE_FIRMWARE_INFO`, `STORAGE_FIRMWARE_SLOT_INFO` and
their `_V2` forms. -/

def infoSize : Nat := 16
def slotInfoSize : Nat := 16
def infoV2Size : Nat := 24
def slotInfoV2Size : Nat := 24

end StorageFirmware

/-- What `Complete_FirmwareInfo` decides before its `END` label: the firmware
status, the SRB status and the reply layout it fills in. -/
def firmwareInfoResult (ioctl : SrbIoControl) (slotCount : BitVec 3) (status : NvmeCommandStatus) :
    FirmwareStatus × SrbStatus × Option FirmwareInfoVersion :=
  let bufLen := ioctl.request.dataBufferLength.toNat
  if ioctl.request.dataBufferOffset = 0 then (.outputBufferTooSmall, .invalidParameter, none)
  else if bufLen < StorageFirmware.infoSize + StorageFirmware.slotInfoSize * slotCount.toNat then
    (.outputBufferTooSmall, .invalidParameter, none)
  else match nvmeStatus2FirmwareStatus status with
    | .success =>
        if bufLen ≥ StorageFirmware.infoV2Size + StorageFirmware.slotInfoV2Size * slotCount.toNat then
          (.success, .success, some .v2)
        else (.success, .success, some .v1)
    | failed => (failed, .internalError, none)

def completeFirmwareInfo (heap : Heap) (address : Nat) (submission : Option Nat) : Heap :=
  let srbext := heap.srbext address
  match srbext.srb with
  | none => heap -- `DataBuf()` is NULL: no caller sets this callback on an internal command
  | some srb =>
      let (fwStatus, srbStatus, filled) := firmwareInfoResult srb.ioControl heap.slotCount srbext.nvmeCpl.status
      let ioctl := { srb.ioControl with
        returnCode := some fwStatus
        firmwareInfo := filled.orElse fun _ => srb.ioControl.firmwareInfo }
      let answered := heap.put address { srbext with srb := some { srb with ioControl := ioctl } }
      (answered.cleanUp address).completeSrb address submission srbStatus

def runCompletionCB (heap : Heap) (address : Nat) (submission : Option Nat) : Heap :=
  match (heap.srbext address).completionCB with
  | none => heap
  | some .completeFirmwareInfo => completeFirmwareInfo heap address submission
  | some .completeScsiReadWrite => heap.cleanUp address

/-- What `CompleteCmd` does with the extension it popped, from the copy of the
completion entry to `CleanUp`. -/
def finishSrbExt (heap : Heap) (address : Nat) (submission : Option Nat) (cpl : NvmeCompletionEntry) : Heap :=
  let copied := heap.put address { heap.srbext address with nvmeCpl := cpl }
  let called := runCompletionCB copied address submission
  let completed := called.completeSrb address submission (nvmeToSrbStatus (called.srbext address).nvmeCpl.status)
  completed.cleanUp address

end SpcNvme
