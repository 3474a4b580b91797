import SpcNvme.Nvme

/-! The storage request block and the statuses a request can end with: how an
NVMe status becomes an SRB status, and how an SRB status becomes a SCSI status
and sense data. -/

namespace SpcNvme

/-- The `SRB_STATUS_xxx` codes the driver uses. `SRB_STATUS_AUTOSENSE_VALID` is
a flag on top of a code and is kept apart from it, in `Srb.autosenseValid`. -/
inductive SrbStatus where
  | pending
  | success
  | aborted
  | error
  | busy
  | invalidRequest
  | busReset
  | invalidLun
  | notPowered
  | invalidParameter
  | internalError
  | dataOverrun
  | noDevice
  | insufficientResources
deriving DecidableEq, Repr

inductive ScsiStatus where
  | good
  | checkCondition
  | conditionMet
  | busy
deriving DecidableEq, Repr

structure SenseData where
  errorCode : BitVec 8
  valid : Bool
  senseKey : BitVec 4
  additionalSenseLength : BitVec 8
  additionalSenseCode : BitVec 8
  additionalSenseCodeQualifier : BitVec 8
deriving DecidableEq, Repr

structure FirmwareRequestBlock where
  function : BitVec 32
  dataBufferOffset : BitVec 32
  dataBufferLength : BitVec 32
deriving DecidableEq, Repr

inductive FirmwareStatus where
  | success
  | error
  | illegalRequest
  | outputBufferTooSmall
  | controllerError
deriving DecidableEq, Repr

/-- Which of the two reply layouts `Complete_FirmwareInfo` filled in. -/
inductive FirmwareInfoVersion where
  | v1
  | v2
deriving DecidableEq, Repr

/-- The data buffer of an IOCTL request: `SRB_IO_CONTROL` followed by a
`FIRMWARE_REQUEST_BLOCK`. `signatureIsFirmware` is the outcome of the
comparison with `IOCTL_MINIPORT_SIGNATURE_FIRMWARE`. -/
structure SrbIoControl where
  controlCode : BitVec 32
  signatureIsFirmware : Bool
  request : FirmwareRequestBlock
  returnCode : Option FirmwareStatus
  firmwareInfo : Option FirmwareInfoVersion
deriving DecidableEq, Repr

/-- `STOR_PNP_ACTION`, with the actions the driver does not handle in one case. -/
inductive StorPnpAction where
  | queryCapabilities
  | removeDevice
  | surpriseRemoval
  | other
deriving DecidableEq, Repr

/-- `STORAGE_REQUEST_BLOCK`: the request StorPort delivers and the result fields
the driver fills in. -/
structure Srb where
  function : BitVec 32
  queueTag : BitVec 32
  pathId : BitVec 8
  targetId : BitVec 8
  lun : BitVec 8
  cdb : List (BitVec 8)
  dataBuffer : Nat
  dataTransferLength : BitVec 32
  ioControl : SrbIoControl
  pnpAction : StorPnpAction
  pnpAdapterRequest : Bool
  senseInfoBuffer : Bool
  senseInfoBufferLength : BitVec 8
  senseData : Option SenseData
  scsiStatus : Option ScsiStatus
  srbStatus : SrbStatus
  autosenseValid : Bool
deriving DecidableEq, Repr

def sampleSrb : Srb where
  function := 0
  queueTag := 0
  pathId := 0
  targetId := 0
  lun := 0
  cdb := []
  dataBuffer := 0
  dataTransferLength := 0
  ioControl := ⟨0, false, ⟨0, 0, 0⟩, none, none⟩
  pnpAction := .other
  pnpAdapterRequest := false
  senseInfoBuffer := false
  senseInfoBufferLength := 0
  senseData := none
  scsiStatus := none
  srbStatus := .pending
  autosenseValid := false

def sampleIoctl : Srb :=
  { sampleSrb with
    function := 0x02
    dataBuffer := 0x1000
    dataTransferLength := 0x100
    ioControl := ⟨0x1B0780, true, ⟨0x01, 0x38, 0x80⟩, none, none⟩ }

def nvmeGenericToSrbStatus (status : NvmeCommandStatus) : SrbStatus :=
  match status.sc.toNat with
  | 0x01 => .invalidRequest          -- NVME_STATUS_INVALID_COMMAND_OPCODE
  | 0x02 | 0x03 => .invalidParameter -- INVALID_FIELD_IN_COMMAND, COMMAND_ID_CONFLICT
  | 0x12 | 0x13 | 0x14 | 0x15 | 0x17 | 0x18 | 0x19 | 0x1A | 0x1C | 0x1E | 0x70 | 0x71 | 0x80 | 0x81 | 0x83
  | 0x06 | 0x0B | 0x0C | 0x0D | 0x0E | 0x0F | 0x10 | 0x11 | 0x16 | 0x04 => .internalError
  | 0x05 => .notPowered              -- ABORTED_DUE_TO_POWER_LOSS_NOTIFICATION
  | 0x07 | 0x08 | 0x09 | 0x0A | 0x1B => .aborted
  | 0x1D | 0x84 => .busy             -- SANITIZE_IN_PROGRESS, FORMAT_IN_PROGRESS
  | 0x82 => .invalidLun              -- NVM_NAMESPACE_NOT_READY
  | _ => .error

def nvmeCmdSpecificToSrbStatus (_status : NvmeCommandStatus) : SrbStatus := .error

def nvmeMediaErrorToSrbStatus (_status : NvmeCommandStatus) : SrbStatus := .error

def nvmeToSrbStatus (status : NvmeCommandStatus) : SrbStatus :=
  -- the short cut for the common case tests the bitwise and of the two fields
  if status.sct.setWidth 8 &&& status.sc = 0 then .success
  else match status.sct.toNat with
    | 0 => nvmeGenericToSrbStatus status
    | 1 => nvmeCmdSpecificToSrbStatus status
    | 2 => nvmeMediaErrorToSrbStatus status
    | _ => .internalError

/-- `SetScsiSenseBySrbStatus`, with `SrbSetSrbStatus` of the status it leaves. -/
def Srb.setScsiSenseBySrbStatus (srb : Srb) (status : SrbStatus) : Srb :=
  match status with
  | .success => { srb with scsiStatus := some .good, srbStatus := .success, autosenseValid := false }
  | .busy => { srb with scsiStatus := some .busy, srbStatus := .busy, autosenseValid := false }
  | .error =>
      if !srb.senseInfoBuffer || srb.senseInfoBufferLength == 0 then
        { srb with scsiStatus := some .conditionMet, srbStatus := .error, autosenseValid := false }
      else
        { srb with
          senseData := some {
            errorCode := 0x70
            valid := false
            senseKey := 0x05
            additionalSenseLength := srb.senseInfoBufferLength - 7
            additionalSenseCode := 0x20
            additionalSenseCodeQualifier := 0 }
          scsiStatus := some .checkCondition
          srbStatus := .error
          autosenseValid := true }
  | other => { srb with srbStatus := other, autosenseValid := false }

@[simp] theorem setScsiSenseBySrbStatus_srbStatus (srb : Srb) (status : SrbStatus) :
    (srb.setScsiSenseBySrbStatus status).srbStatus = status := by
  cases status <;> simp only [Srb.setScsiSenseBySrbStatus]
  split <;> rfl

end SpcNvme
