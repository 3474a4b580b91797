import SpcNvme.Ioctl
import SpcNvme.Lib.Access

/-! The bytes of its data buffer that a firmware request makes the driver touch, on
its way in and in its completion. Offsets count from `DataBuf`, where the
`SRB_IO_CONTROL` stands with the `FIRMWARE_REQUEST_BLOCK` behind it. -/

namespace SpcNvme

open Access

namespace Ioctl

/-! Fields of `SRB_IO_CONTROL`. -/

def signatureField : Span := ⟨4, 8⟩
def controlCodeField : Span := ⟨16, 4⟩
def returnCodeField : Span := ⟨20, 4⟩

/-! Fields of `FIRMWARE_REQUEST_BLOCK`. -/

def functionField : Span := ⟨36, 4⟩
def dataBufferOffsetField : Span := ⟨44, 4⟩
def dataBufferLengthField : Span := ⟨48, 4⟩

end Ioctl

/-- `FRMW` of the identify controller data. -/
structure FirmwareUpdates where
  slotCount : BitVec 3
  slot1ReadOnly : Bool
deriving DecidableEq, Repr

namespace FirmwareUpdates

/-- The slots of a reply: an array of the same size for each slot, and the flag of the first one. -/
def slots (frmw : FirmwareUpdates) (infoSize slotSize : Nat) (slotFields : List Span) : List Span :=
  ((List.range frmw.slotCount.toNat).flatMap fun slot => recordAt (infoSize + slotSize * slot) slotFields) ++
    if frmw.slot1ReadOnly then [⟨infoSize + 1, 1⟩] else []

end FirmwareUpdates

/-- What `FillFirmwareInfoV1` writes of its `STORAGE_FIRMWARE_INFO`: the fields in
their order, and of each slot the flag, the number and the revision. -/
def fillFirmwareInfoV1 (frmw : FirmwareUpdates) : List Span :=
  [⟨0, 4⟩, ⟨4, 4⟩, ⟨10, 1⟩, ⟨11, 1⟩, ⟨8, 1⟩, ⟨9, 1⟩] ++
    frmw.slots StorageFirmware.infoSize StorageFirmware.slotInfoSize [⟨1, 1⟩, ⟨0, 1⟩, ⟨8, 8⟩]

/-- What `FillFirmwareInfoV2` writes; a revision is zeroed before it is copied. -/
def fillFirmwareInfoV2 (frmw : FirmwareUpdates) : List Span :=
  [⟨10, 1⟩, ⟨11, 1⟩, ⟨8, 1⟩, ⟨9, 1⟩, ⟨0, 4⟩, ⟨4, 4⟩, ⟨12, 1⟩, ⟨16, 4⟩, ⟨20, 4⟩] ++
    frmw.slots StorageFirmware.infoV2Size StorageFirmware.slotInfoV2Size [⟨1, 1⟩, ⟨0, 1⟩, ⟨8, 16⟩, ⟨8, 8⟩]

def FirmwareInfoVersion.fill (version : FirmwareInfoVersion) (frmw : FirmwareUpdates) : List Span :=
  match version with
  | v1 => fillFirmwareInfoV1 frmw
  | v2 => fillFirmwareInfoV2 frmw

/-- `Complete_FirmwareInfo`: it reads the offset and the length, fills the reply
where it has one, and sets the return code. -/
def completeFirmwareInfoAccesses (ioctl : SrbIoControl) (frmw : FirmwareUpdates) (status : NvmeCommandStatus) : List Span :=
  let filled := match (firmwareInfoResult ioctl frmw.slotCount status).2.2 with
    | none => []
    | some version => recordAt ioctl.request.dataBufferOffset.toNat (version.fill frmw)
  [Ioctl.dataBufferOffsetField, Ioctl.dataBufferLengthField] ++ filled ++ [Ioctl.returnCodeField]

namespace Srb

/-- `IoctlScsiMiniport_Firmware`. -/
def ioctlScsiMiniportFirmwareAccesses (srb : Srb) : List Span :=
  if srb.dataTransferLength < Ioctl.srbIoControlSize + Ioctl.firmwareRequestBlockSize then [Ioctl.returnCodeField]
  else [Ioctl.functionField]

/-- `StartIo_IoctlHandler`; of the signature it reads at most these bytes. -/
def startIoIoctlAccesses (srb : Srb) : List Span :=
  Ioctl.controlCodeField ::
    if srb.ioControl.controlCode = Ioctl.scsiMiniportFirmware then
      Ioctl.signatureField :: if srb.ioControl.signatureIsFirmware then srb.ioctlScsiMiniportFirmwareAccesses else []
    else []

/-- The request is one for the firmware. -/
def isFirmware (srb : Srb) : Bool :=
  srb.ioControl.controlCode == Ioctl.scsiMiniportFirmware && srb.ioControl.signatureIsFirmware

/-- The request comes to `Firmware_GetInfo`, so it may be completed later. -/
def getsFirmwareInfo (srb : Srb) : Bool :=
  srb.isFirmware && !decide (srb.dataTransferLength < Ioctl.srbIoControlSize + Ioctl.firmwareRequestBlockSize) &&
    srb.ioControl.request.function == Ioctl.firmwareFunctionGetInfo

end Srb

end SpcNvme
