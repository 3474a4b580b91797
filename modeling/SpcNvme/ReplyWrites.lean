import SpcNvme.ModePages

/-! Where the handlers that answer at once write: into the data buffer of the
request, and with `SetScsiSenseBySrbStatus` into its sense buffer. Offsets count
from the start of the buffer. -/

namespace SpcNvme

open Access

/-- A reply, and the stretches of the data buffer its handler has written. -/
structure BufferReply where
  reply : DataReply
  writes : List Span
deriving DecidableEq, Repr

namespace BufferReply

/-- A reply that leaves the data buffer alone. -/
def unwritten (status : SrbStatus) (retSize : BitVec 32) : BufferReply := ⟨.sized status retSize, []⟩

/-- A page that was built in the pool and is copied as far as it fits. -/
def copied (dataBufLen bufSize : BitVec 32) : BufferReply :=
  let retSize := ulongMin dataBufLen bufSize
  ⟨.sized .success retSize, [⟨0, retSize.toNat⟩]⟩

end BufferReply

/-- The fields of `VPD_SERIAL_NUMBER_PAGE` that are set. -/
def vpdSerialNumberFields : List Span := [⟨0, 1⟩, ⟨1, 1⟩, ⟨3, 1⟩]

/-- The fields of `INQUIRYDATA` that `BuildInquiryData` sets. `Reserved3` stands
behind the 20 bytes of `VendorSpecific`, which follow the first 36. -/
def inquiryDataFields : List Span :=
  [⟨0, 1⟩, ⟨1, 1⟩, ⟨2, 1⟩, ⟨3, 1⟩, ⟨4, 1⟩, ⟨6, 1⟩, ⟨7, 1⟩, ⟨56, 1⟩, ⟨8, 8⟩, ⟨16, 16⟩, ⟨32, 4⟩]

/-- `HandleInquiryVPD` and the functions it calls, for whether the page it
allocates was there. There is no result where a missing page is written to. -/
def handleInquiryVPDWrites (device : CNvmeDevice) (srbext : SrbExt) (allocated : Bool) : Option BufferReply :=
  let dataBufLen := srbext.dataBufLen
  match (Cdb.byte srbext.cdb 2).toNat with
  | 0x00 =>
      if allocated then some (.copied dataBufLen ScsiSize.vpdSupportedPages)
      else some (.unwritten .insufficientResources 0)
  | 0x80 =>
      let size := 255 + ScsiSize.vpdSerialNumberPage + 1
      if size < dataBufLen then some (.unwritten .insufficientResources size)
      else some ⟨.sized .success size, ⟨0, dataBufLen.toNat⟩ :: vpdSerialNumberFields ++ [⟨4, 255⟩]⟩
  | 0x83 =>
      let nqnSize := BitVec.ofNat 32 (device.ctrlIdentSUBNQN.takeWhile (· ≠ 0)).length
      let bufSize := ScsiSize.vpdIdentificationPage + ScsiSize.vpdIdentificationDescriptor + nqnSize + ScsiSize.vendorId + 1
      if allocated then some (.copied dataBufLen bufSize) else none
  | 0xB0 => if allocated then some (.copied dataBufLen ScsiSize.vpdBlockLimitsPage) else none
  | 0xB1 => if allocated then some (.copied dataBufLen ScsiSize.vpdBlockDeviceCharacteristicsPage) else none
  | _ => some (.unwritten .error 0)

def inquiry6Writes (device : CNvmeDevice) (srbext : SrbExt) (allocated : Bool) : Option BufferReply :=
  if (Cdb.byte srbext.cdb 1).getLsbD 0 then handleInquiryVPDWrites device srbext allocated
  else if Cdb.byte srbext.cdb 2 > 0 then some (.unwritten .error 0)
  else if srbext.dataBufLen ≥ ScsiSize.inquiryDataBuffer then
    some ⟨.sized .success srbext.dataBufLen, ⟨0, srbext.dataBufLen.toNat⟩ :: inquiryDataFields⟩
  else some (.unwritten .dataOverrun 0)

def modeSense6Writes (srbext : SrbExt) (flags : CacheFlags) : BufferReply :=
  let result := modeSense6 srbext flags
  ⟨.sized result.status result.retSize, [⟨0, result.written.length⟩]⟩

/-- `READ_CAPACITY_DATA` has the block address before the block size. -/
def readCapacity10Writes (device : CNvmeDevice) (srbext : SrbExt) : BufferReply :=
  let lun := srbext.lun.setWidth 32
  if lun ≥ device.namespaceCount then .unwritten .invalidLun 0
  else if !device.isWorking then .unwritten .noDevice 0
  else if srbext.dataBufLen < ScsiSize.readCapacityData then .unwritten .dataOverrun ScsiSize.readCapacityData
  else
    let blocks := (device.getNamespaceTotalBlocks (lun + 1)).2.getD 0
    if blocks > 0xFFFFFFFF then .unwritten .invalidRequest 0
    else ⟨.sized .success ScsiSize.readCapacityData, [⟨0, 4⟩, ⟨4, 4⟩]⟩

def readCapacity16Writes (device : CNvmeDevice) (srbext : SrbExt) : BufferReply :=
  let lun := srbext.lun.setWidth 32
  if lun ≥ device.namespaceCount then .unwritten .invalidLun 0
  else if !device.isWorking then .unwritten .noDevice 0
  else if srbext.dataBufLen < ScsiSize.readCapacityDataEx then .unwritten .dataOverrun ScsiSize.readCapacityDataEx
  else ⟨.sized .success ScsiSize.readCapacityDataEx, [⟨8, 4⟩, ⟨0, 8⟩]⟩

/-- The commands that are answered out of the device extension. -/
inductive ReplyCommand where
  | inquiry6
  | modeSense6
  | readCapacity10
  | readCapacity16
deriving DecidableEq, Repr

/-- The handler of a command; `allocated` and `flags` matter to one of them each. -/
def ReplyCommand.handler (command : ReplyCommand) (device : CNvmeDevice) (flags : CacheFlags) (allocated : Bool)
    (srbext : SrbExt) : Option BufferReply :=
  match command with
  | inquiry6 => inquiry6Writes device srbext allocated
  | modeSense6 => some (modeSense6Writes srbext flags)
  | readCapacity10 => some (readCapacity10Writes device srbext)
  | readCapacity16 => some (readCapacity16Writes device srbext)

/-- The fields of `SENSE_DATA` in the order they are set, after it is zeroed. -/
def senseDataFields : List Span := [⟨0, 1⟩, ⟨0, 1⟩, ⟨7, 1⟩, ⟨13, 1⟩, ⟨2, 1⟩, ⟨12, 1⟩]

/-- Where `SetScsiSenseBySrbStatus` writes in the sense buffer. -/
def Srb.senseWrites (srb : Srb) (status : SrbStatus) : List Span :=
  match status with
  | .error =>
      if !srb.senseInfoBuffer || srb.senseInfoBufferLength == 0 then []
      else ⟨0, srb.senseInfoBufferLength.toNat⟩ :: senseDataFields
  | _ => []

end SpcNvme
