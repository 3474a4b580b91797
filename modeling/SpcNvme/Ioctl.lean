import SpcNvme.Device

/-! The IOCTL requests. The only group the driver implements is the firmware one,
and of that only the function that reads the firmware slots. -/

namespace SpcNvme

namespace Ioctl

/-- `IOCTL_SCSI_MINIPORT_FIRMWARE`. -/
def scsiMiniportFirmware : BitVec 32 := 0x1B0780

/-- `sizeof(SRB_IO_CONTROL)` and `sizeof(FIRMWARE_REQUEST_BLOCK)`. -/
def srbIoControlSize : BitVec 32 := 28
def firmwareRequestBlockSize : BitVec 32 := 24

def firmwareFunctionGetInfo : BitVec 32 := 0x01

end Ioctl

/-- `ioctl->ReturnCode = code`, in the data buffer of the request. -/
def SrbExt.setReturnCode (srbext : SrbExt) (code : FirmwareStatus) : SrbExt :=
  { srbext with
    srb := srbext.srb.map fun srb => { srb with ioControl := { srb.ioControl with returnCode := some code } } }

namespace Host

/-- What `Firmware_GetInfo` leaves in the extension before it submits: the log
page in the pool, the callback and the command in the layout of the version. -/
def firmwareGetInfoCmd (host : Host) (memory : Memory) (srbext : SrbExt) (logpage : Nat) : SrbExt :=
  let srbext := { srbext.resetExtBuf (some logpage) with completionCB := some .completeFirmwareInfo }
  if host.device.nvmeVerMNR > 0 then buildCmdGetFirmwareSlotsInfo memory srbext logpage
  else buildCmdGetFirmwareSlotsInfoV1 memory srbext logpage

/-- `Firmware_GetInfo`. After a failed submission the log page is freed, and the
extension keeps its address. -/
def firmwareGetInfo (host : Host) (memory : Memory) (address logpage : Nat) : SrbStatus × Host :=
  let host := host.putSrbExt address (host.firmwareGetInfoCmd memory (host.heap.srbext address) logpage)
  let (status, host) := host.submitAdmCmd address
  if !status.ntSuccess then (.internalError, host) else (.pending, host)

/-- The download and activate functions are rejected like unknown ones. -/
def ioctlScsiMiniportFirmware (host : Host) (memory : Memory) (address logpage : Nat) (ioctl : SrbIoControl) :
    SrbStatus × Host :=
  let srbext := host.heap.srbext address
  if srbext.dataBufLen < Ioctl.srbIoControlSize + Ioctl.firmwareRequestBlockSize then
    (.invalidParameter, host.putSrbExt address (srbext.setReturnCode .outputBufferTooSmall))
  else if ioctl.request.function = Ioctl.firmwareFunctionGetInfo then host.firmwareGetInfo memory address logpage
  else (.invalidRequest, host)

def startIoIoctlHandler (host : Host) (memory : Memory) (address logpage : Nat) : SrbStatus × Host :=
  match (host.heap.srbext address).srb with
  | none => (.invalidRequest, host) -- not reached: `GetSrbExt` asserts that there is a request
  | some srb =>
      if srb.ioControl.controlCode = Ioctl.scsiMiniportFirmware ∧ srb.ioControl.signatureIsFirmware = true then
        host.ioctlScsiMiniportFirmware memory address logpage srb.ioControl
      else (.invalidRequest, host)

end Host

end SpcNvme
