import SpcNvme.Device
import SpcNvme.Lib.BigEndian

/-! The SCSI commands. Reads and writes are turned into NVMe commands; the other
handlers answer from the device extension. Of those answers there are the status
and the transfer length here; what they write comes with the mode pages and the
buffer bounds. -/

namespace SpcNvme

namespace Cdb

def byte (cdb : List (BitVec 8)) (index : Nat) : BitVec 8 := cdb.getD index 0

def field (cdb : List (BitVec 8)) (start size : Nat) : List (BitVec 8) :=
  (List.range size).map fun index => byte cdb (start + index)

/-- `REVERSE_BYTES_n` of a field into a zeroed integer. -/
def reverseBytes (width : Nat) (cdb : List (BitVec 8)) (start size : Nat) : BitVec width :=
  BigEndian.toBitVec width (field cdb start size)

end Cdb

/-! The overloads of `ParseReadWriteOffsetAndLen`. -/

def parseReadWrite6 (cdb : List (BitVec 8)) : BitVec 64 × BitVec 32 :=
  let msb1 := (Cdb.byte cdb 1 &&& 0x1F).setWidth 64
  let msb0 := (Cdb.byte cdb 2).setWidth 64
  let lsb := (Cdb.byte cdb 3).setWidth 64
  let len := (Cdb.byte cdb 4).setWidth 32
  ((msb1 <<< 16) ||| (msb0 <<< 8) ||| lsb, if len = 0 then 256 else len)

def parseReadWrite10 (cdb : List (BitVec 8)) : BitVec 64 × BitVec 32 :=
  (Cdb.reverseBytes 64 cdb 2 4, Cdb.reverseBytes 32 cdb 7 2)

def parseReadWrite12 (cdb : List (BitVec 8)) : BitVec 64 × BitVec 32 :=
  (Cdb.reverseBytes 64 cdb 2 4, Cdb.reverseBytes 32 cdb 6 4)

def parseReadWrite16 (cdb : List (BitVec 8)) : BitVec 64 × BitVec 32 :=
  (Cdb.reverseBytes 64 cdb 2 8, Cdb.reverseBytes 32 cdb 10 4)

/-- The overload for any command block chooses by its operation code. -/
def parseReadWriteOffsetAndLen (cdb : List (BitVec 8)) : Option (BitVec 64 × BitVec 32) :=
  match (Cdb.byte cdb 0).toNat with
  | 0x08 | 0x0A => some (parseReadWrite6 cdb)
  | 0x28 | 0x2A => some (parseReadWrite10 cdb)
  | 0xA8 | 0xAA => some (parseReadWrite12 cdb)
  | 0x88 | 0x8A => some (parseReadWrite16 cdb)
  | _ => none

namespace SrbExt

def cdb (srbext : SrbExt) : List (BitVec 8) :=
  match srbext.srb with
  | none => []
  | some srb => srb.cdb

def setTransferLength (srbext : SrbExt) (length : BitVec 32) : SrbExt :=
  { srbext with srb := srbext.srb.map fun srb => { srb with dataTransferLength := length } }

end SrbExt

namespace Host

def scsiReadWrite (host : Host) (memory : Memory) (address processor : Nat) (offset : BitVec 64) (len : BitVec 32)
    (isWrite : Bool) : Option (SrbStatus × Host) :=
  let srbext := host.heap.srbext address
  let nsid := srbext.lun.setWidth 32 + 1
  if !host.device.isInValidIoRange nsid offset len then some (.error, host)
  else
    let host := host.putSrbExt address (buiildCmdReadWrite memory srbext offset len isWrite)
    match host.submitIoCmd address processor with
    | none => none
    | some (status, host) =>
        if !status.ntSuccess then some (if status = .deviceBusy then .busy else .error, host)
        else some (.pending, host)

/-- The eight read and write handlers: decode the command block and go on. -/
def scsiReadWriteCdb (host : Host) (memory : Memory) (address processor : Nat)
    (parse : List (BitVec 8) → BitVec 64 × BitVec 32) (isWrite : Bool) : Option (SrbStatus × Host) :=
  let (offset, len) := parse (host.heap.srbext address).cdb
  host.scsiReadWrite memory address processor offset len isWrite

def scsiRead6 (host : Host) (memory : Memory) (address processor : Nat) : Option (SrbStatus × Host) :=
  host.scsiReadWriteCdb memory address processor parseReadWrite6 false

def scsiWrite6 (host : Host) (memory : Memory) (address processor : Nat) : Option (SrbStatus × Host) :=
  host.scsiReadWriteCdb memory address processor parseReadWrite6 true

def scsiRead10 (host : Host) (memory : Memory) (address processor : Nat) : Option (SrbStatus × Host) :=
  host.scsiReadWriteCdb memory address processor parseReadWrite10 false

def scsiWrite10 (host : Host) (memory : Memory) (address processor : Nat) : Option (SrbStatus × Host) :=
  host.scsiReadWriteCdb memory address processor parseReadWrite10 true

def scsiRead12 (host : Host) (memory : Memory) (address processor : Nat) : Option (SrbStatus × Host) :=
  host.scsiReadWriteCdb memory address processor parseReadWrite12 false

def scsiWrite12 (host : Host) (memory : Memory) (address processor : Nat) : Option (SrbStatus × Host) :=
  host.scsiReadWriteCdb memory address processor parseReadWrite12 true

def scsiRead16 (host : Host) (memory : Memory) (address processor : Nat) : Option (SrbStatus × Host) :=
  host.scsiReadWriteCdb memory address processor parseReadWrite16 false

def scsiWrite16 (host : Host) (memory : Memory) (address processor : Nat) : Option (SrbStatus × Host) :=
  host.scsiReadWriteCdb memory address processor parseReadWrite16 true

end Host

/-! The handlers that answer at once. -/

/-- The status of a reply, and the transfer length it sets, if it sets one. -/
structure DataReply where
  status : SrbStatus
  transferLength : Option (BitVec 32)
deriving DecidableEq, Repr

namespace DataReply

def invalidRequest : DataReply := ⟨.invalidRequest, none⟩

def sized (status : SrbStatus) (retSize : BitVec 32) : DataReply := ⟨status, some retSize⟩

end DataReply

namespace ScsiSize

def modeParameterHeader : BitVec 32 := 4
def modeCachingPage : BitVec 32 := 12
def modeControlPage : BitVec 32 := 12
def modeInfoExceptions : BitVec 32 := 12
def readCapacityData : BitVec 32 := 8
def readCapacityDataEx : BitVec 32 := 12
def inquiryDataBuffer : BitVec 32 := 36
def vpdSupportedPages : BitVec 32 := 9
def vpdSerialNumberPage : BitVec 32 := 4
def vpdIdentificationPage : BitVec 32 := 4
def vpdIdentificationDescriptor : BitVec 32 := 4
def vpdBlockLimitsPage : BitVec 32 := 64
def vpdBlockDeviceCharacteristicsPage : BitVec 32 := 64
def vendorId : BitVec 32 := 8

end ScsiSize

def ulongMin (left right : BitVec 32) : BitVec 32 := if left < right then left else right

theorem ulongMin_toNat (left right : BitVec 32) : (ulongMin left right).toNat = min left.toNat right.toNat := by
  unfold ulongMin
  split
  · next less =>
    rw [BitVec.lt_def] at less
    omega
  · next least =>
    rw [BitVec.lt_def] at least
    omega

/-- `HandleInquiryVPD`. The serial number page takes its length from a comma
expression, so it is always 255. -/
def handleInquiryVPD (device : CNvmeDevice) (srbext : SrbExt) : DataReply :=
  match (Cdb.byte srbext.cdb 2).toNat with
  | 0x00 => .sized .success (ulongMin srbext.dataBufLen ScsiSize.vpdSupportedPages)
  | 0x80 =>
      let size := 255 + ScsiSize.vpdSerialNumberPage + 1
      .sized (if size < srbext.dataBufLen then .insufficientResources else .success) size
  | 0x83 =>
      let nqnSize := BitVec.ofNat 32 (device.ctrlIdentSUBNQN.takeWhile (· ≠ 0)).length
      let bufSize := ScsiSize.vpdIdentificationPage + ScsiSize.vpdIdentificationDescriptor + nqnSize + ScsiSize.vendorId + 1
      .sized .success (ulongMin srbext.dataBufLen bufSize)
  | 0xB0 => .sized .success (ulongMin srbext.dataBufLen ScsiSize.vpdBlockLimitsPage)
  | 0xB1 => .sized .success (ulongMin srbext.dataBufLen ScsiSize.vpdBlockDeviceCharacteristicsPage)
  | _ => .sized .error 0

def scsiInquiry6 (device : CNvmeDevice) (srbext : SrbExt) : DataReply :=
  if (Cdb.byte srbext.cdb 1).getLsbD 0 then handleInquiryVPD device srbext
  else if Cdb.byte srbext.cdb 2 > 0 then .sized .error 0
  else if srbext.dataBufLen ≥ ScsiSize.inquiryDataBuffer then .sized .success srbext.dataBufLen
  else .sized .dataOverrun 0

/-- `CopyToCdbBuffer`: the buffer size left and the size returned so far. -/
def copyToCdbBuffer (sizes : BitVec 32 × BitVec 32) (pageSize : BitVec 32) : BitVec 32 × BitVec 32 :=
  let (bufSize, retSize) := sizes
  let copied := ulongMin pageSize bufSize
  (bufSize - copied, retSize + copied)

/-- A page of the return-all reply is only copied while there is room. -/
def copyWhileRoom (sizes : BitVec 32 × BitVec 32) (pageSize : BitVec 32) : BitVec 32 × BitVec 32 :=
  if sizes.1 > 0 then copyToCdbBuffer sizes pageSize else sizes

def scsiModeSense6 (srbext : SrbExt) : DataReply :=
  if srbext.dataBufLen < ScsiSize.modeParameterHeader ∨ srbext.dataBuf = 0 then
    .sized .dataOverrun ScsiSize.modeParameterHeader
  else
    let sizes := (srbext.dataBufLen - ScsiSize.modeParameterHeader, ScsiSize.modeParameterHeader)
    match (Cdb.byte srbext.cdb 2 &&& 0x3F).toNat with
    | 0x08 => .sized .success (copyToCdbBuffer sizes ScsiSize.modeCachingPage).2
    | 0x0A => .sized .success (copyToCdbBuffer sizes ScsiSize.modeControlPage).2
    | 0x1C => .sized .success (copyToCdbBuffer sizes ScsiSize.modeInfoExceptions).2
    | 0x3F =>
        let sizes := copyWhileRoom sizes ScsiSize.modeCachingPage
        let sizes := copyWhileRoom sizes ScsiSize.modeControlPage
        .sized .success (copyWhileRoom sizes ScsiSize.modeInfoExceptions).2
    | _ => .sized .invalidRequest sizes.2

/-- `Scsi_ModeSelect6`, without the pages in the buffer and the cache flags they set. -/
def scsiModeSelect6 (srbext : SrbExt) : DataReply :=
  if (Cdb.byte srbext.cdb 1).getLsbD 4 then .sized .success 0 else .invalidRequest

def scsiReadCapacity10 (device : CNvmeDevice) (srbext : SrbExt) : DataReply :=
  let lun := srbext.lun.setWidth 32
  if lun ≥ device.namespaceCount then .sized .invalidLun 0
  else if !device.isWorking then .sized .noDevice 0
  else if srbext.dataBufLen < ScsiSize.readCapacityData then .sized .dataOverrun ScsiSize.readCapacityData
  else
    let blocks := (device.getNamespaceTotalBlocks (lun + 1)).2.getD 0
    if blocks > 0xFFFFFFFF then .sized .invalidRequest 0 else .sized .success ScsiSize.readCapacityData

def scsiReadCapacity16 (device : CNvmeDevice) (srbext : SrbExt) : DataReply :=
  let lun := srbext.lun.setWidth 32
  if lun ≥ device.namespaceCount then .sized .invalidLun 0
  else if !device.isWorking then .sized .noDevice 0
  else if srbext.dataBufLen < ScsiSize.readCapacityDataEx then .sized .dataOverrun ScsiSize.readCapacityDataEx
  else .sized .success ScsiSize.readCapacityDataEx

namespace Host

def reply (host : Host) (address : Nat) (answer : DataReply) : SrbStatus × Host :=
  match answer.transferLength with
  | none => (answer.status, host)
  | some length => (answer.status, host.putSrbExt address ((host.heap.srbext address).setTransferLength length))

/-- `StartIo_ScsiHandler`. The verify, report LUNs, security and ten-byte mode
handlers only reject the request. -/
def startIoScsiHandler (host : Host) (memory : Memory) (address processor : Nat) : Option (SrbStatus × Host) :=
  let srbext := host.heap.srbext address
  match (Cdb.byte srbext.cdb 0).toNat with
  | 0x15 => some (host.reply address (scsiModeSelect6 srbext))
  | 0x08 => host.scsiRead6 memory address processor
  | 0x0A => host.scsiWrite6 memory address processor
  | 0x12 => some (host.reply address (scsiInquiry6 host.device srbext))
  | 0x1A => some (host.reply address (scsiModeSense6 srbext))
  | 0x13 | 0x55 | 0x2F | 0x5A => some (host.reply address .invalidRequest)
  | 0x25 => some (host.reply address (scsiReadCapacity10 host.device srbext))
  | 0x28 => host.scsiRead10 memory address processor
  | 0x2A => host.scsiWrite10 memory address processor
  | 0xA0 | 0xAF | 0xA2 | 0xB5 => some (host.reply address .invalidRequest)
  | 0xA8 => host.scsiRead12 memory address processor
  | 0xAA => host.scsiWrite12 memory address processor
  | 0x88 => host.scsiRead16 memory address processor
  | 0x8A => host.scsiWrite16 memory address processor
  | 0x8F => some (host.reply address .invalidRequest)
  | 0x9E => some (host.reply address (scsiReadCapacity16 host.device srbext))
  | _ => some (.invalidRequest, host)

end Host

end SpcNvme
