import SpcNvme.ReplyWrites

/-! What the handlers that answer at once put in the data buffer, byte for byte:
the capacity of a unit, and the vital product data pages. A page is built in pool
memory, which holds what its last owner left there. -/

namespace SpcNvme

open Access

/-- A reply, and what its handler copies to the data buffer, in this order. -/
structure FilledReply where
  reply : DataReply
  stores : List (Nat × List (BitVec 8))

namespace FilledReply

def unfilled (status : SrbStatus) (retSize : BitVec 32) : FilledReply := ⟨.sized status retSize, []⟩

/-- A page of so many bytes, copied as far as it fits. -/
def copied (dataBufLen bufSize : BitVec 32) (page : Nat → BitVec 8) : FilledReply :=
  let retSize := ulongMin dataBufLen bufSize
  ⟨.sized .success retSize, [(0, load page 0 retSize.toNat)]⟩

/-- The data buffer when the handler has returned. -/
def buffer (filled : FilledReply) (before : Nat → BitVec 8) : Nat → BitVec 8 :=
  filled.stores.foldl (fun buffer piece => store buffer piece.1 piece.2) before

def spans (filled : FilledReply) : List Span := filled.stores.map fun piece => ⟨piece.1, piece.2.length⟩

/-- The bytes stand where the handler is known to write, under the same reply. -/
structure Fills (filled : FilledReply) (footprint : BufferReply) : Prop where
  reply : filled.reply = footprint.reply
  spans : ∀ span, span ∈ filled.spans ↔ span ∈ footprint.writes

theorem unfilled_fills (status : SrbStatus) (retSize : BitVec 32) :
    (unfilled status retSize).Fills (.unwritten status retSize) :=
  ⟨rfl, fun _ => Iff.rfl⟩

theorem copied_fills (dataBufLen bufSize : BitVec 32) (page : Nat → BitVec 8) :
    (copied dataBufLen bufSize page).Fills (.copied dataBufLen bufSize) := by
  refine ⟨rfl, ?_⟩
  simp [copied, spans, BufferReply.copied]

end FilledReply

/-- `REVERSE_BYTES_2`, `REVERSE_BYTES_4` and `REVERSE_BYTES_8`: so many of the low
bytes of a number, the highest of them first. -/
def reverseBytes (size : Nat) {width : Nat} (number : BitVec width) : List (BitVec 8) := BigEndian.bytes size number.toNat

def zeroBytes (size : Nat) : List (BitVec 8) := List.replicate size 0

/-- `Scsi_ReadCapacity10`. The block address is at 0 and the block size at 4. -/
def readCapacity10Filled (device : CNvmeDevice) (srbext : SrbExt) : FilledReply :=
  let lun := srbext.lun.setWidth 32
  if lun ≥ device.namespaceCount then .unfilled .invalidLun 0
  else if !device.isWorking then .unfilled .noDevice 0
  else if srbext.dataBufLen < ScsiSize.readCapacityData then .unfilled .dataOverrun ScsiSize.readCapacityData
  else
    let blocks := (device.getNamespaceTotalBlocks (lun + 1)).2.getD 0
    let blockSize := (device.getNamespaceBlockSize (lun + 1)).2.getD 0
    if blocks > 0xFFFFFFFF then .unfilled .invalidRequest 0
    else
      let blocks := blocks - 1
      ⟨.sized .success ScsiSize.readCapacityData,
        [(4, zeroBytes 4), (0, zeroBytes 4), (4, reverseBytes 4 blockSize), (0, reverseBytes 4 blocks)]⟩

/-- `Scsi_ReadCapacity16`. The block address is at 0 and the block size at 8. -/
def readCapacity16Filled (device : CNvmeDevice) (srbext : SrbExt) : FilledReply :=
  let lun := srbext.lun.setWidth 32
  if lun ≥ device.namespaceCount then .unfilled .invalidLun 0
  else if !device.isWorking then .unfilled .noDevice 0
  else if srbext.dataBufLen < ScsiSize.readCapacityDataEx then .unfilled .dataOverrun ScsiSize.readCapacityDataEx
  else
    let blockSize := (device.getNamespaceBlockSize (lun + 1)).2.getD 0
    let blocks := (device.getNamespaceTotalBlocks (lun + 1)).2.getD 0
    let blocks := blocks - 1
    ⟨.sized .success ScsiSize.readCapacityDataEx, [(8, reverseBytes 4 blockSize), (0, reverseBytes 8 blocks)]⟩

/-! Vital product data. -/

/-- Assignment to a bit field: the other bits of the byte stay. -/
def storeBits (page : Nat → BitVec 8) (address low width : Nat) (value : BitVec 8) : Nat → BitVec 8 :=
  let mask : BitVec 8 := ((1 <<< width) - 1) <<< low
  store page address [(page address &&& ~~~mask) ||| ((value <<< low) &&& mask)]

/-- `DeviceType`, `DeviceTypeQualifier` and `PageCode`. -/
def vpdHeader (page : Nat → BitVec 8) (pageCode : BitVec 8) : Nat → BitVec 8 :=
  let page := storeBits page 0 0 5 0
  let page := storeBits page 0 5 3 0
  store page 1 [pageCode]

/-- The page of `Reply_VpdSupportPages`. -/
def vpdSupportedPages (pool : Nat → BitVec 8) : Nat → BitVec 8 :=
  let page := vpdHeader pool 0x00
  let page := store page 3 [5]
  let page := store page 4 [0x00]
  let page := store page 5 [0x80]
  let page := store page 6 [0x83]
  let page := store page 7 [0xB0]
  store page 8 [0xB1]

/-- `NVME_CONST::VENDOR_ID`, `"SPC     "`. -/
def vendorId : List (BitVec 8) := [0x53, 0x50, 0x43, 0x20, 0x20, 0x20, 0x20, 0x20]

/-- The string in a character array and what follows it. -/
def cString (bytes : List (BitVec 8)) : List (BitVec 8) := bytes.takeWhile (· ≠ 0)

/-- `buf_size` of `Reply_VpdIdentifier`. -/
def vpdIdentificationSize (subnqn : List (BitVec 8)) : BitVec 32 :=
  let nqnSize := BitVec.ofNat 32 (cString subnqn).length
  ScsiSize.vpdIdentificationPage + ScsiSize.vpdIdentificationDescriptor + nqnSize + ScsiSize.vendorId + 1

/-- The page of `Reply_VpdIdentifier`: an ASCII vendor identifier of the device. -/
def vpdIdentification (subnqn : List (BitVec 8)) (pool : Nat → BitVec 8) : Nat → BitVec 8 :=
  let nqnSize := BitVec.ofNat 32 (cString subnqn).length
  let size := vpdIdentificationSize subnqn - ScsiSize.vpdIdentificationPage
  let page := vpdHeader pool 0x83
  let page := store page 3 [(ulongMin size 255).setWidth 8]
  let page := storeBits page 4 0 4 2
  let page := storeBits page 5 0 4 1
  let page := storeBits page 5 4 2 0
  let size := size - ScsiSize.vpdIdentificationDescriptor
  let page := store page 7 [(ulongMin size 255).setWidth 8]
  let page := store page 8 vendorId
  let page := store page 16 [0x5F]
  store page 17 (subnqn.take nqnSize.toNat)

/-- The page of `Reply_VpdBlockLimits`. Its `PageLength` has two bytes. -/
def vpdBlockLimits (maxTxSize : BitVec 32) (pool : Nat → BitVec 8) : Nat → BitVec 8 :=
  let page := vpdHeader pool 0xB0
  let page := store page 2 (reverseBytes 2 ScsiSize.vpdBlockLimitsPage)
  let page := store page 8 (reverseBytes 4 maxTxSize)
  let page := store page 12 (reverseBytes 4 maxTxSize)
  store page 6 (reverseBytes 2 (4 : BitVec 16))

/-- The page of `Reply_VpdBlockDeviceCharacteristics`. -/
def vpdBlockDeviceCharacteristics (pool : Nat → BitVec 8) : Nat → BitVec 8 :=
  let page := vpdHeader pool 0xB1
  let page := store page 3 [ScsiSize.vpdBlockDeviceCharacteristicsPage.setWidth 8]
  let page := store page 5 [1]
  storeBits page 7 0 4 0

/-- The page of `Reply_VpdSerialNumber`, which is built in the data buffer. The two
bit fields of its first byte fill the byte. -/
def vpdSerialNumberStores (ctrlIdentSN : Nat → BitVec 8) (dataBufLen : BitVec 32) : List (Nat × List (BitVec 8)) :=
  [(0, zeroBytes dataBufLen.toNat), (0, [0]), (1, [0x80]), (3, [255]), (4, load ctrlIdentSN 0 255)]

/-- `HandleInquiryVPD`, when the page it allocates is there and holds `pool`.
`ctrlIdentSN` is the memory from the serial number in `CtrlIdent` on. -/
def handleInquiryVPDFilled (device : CNvmeDevice) (ctrlIdentSN : Nat → BitVec 8) (srbext : SrbExt)
    (pool : Nat → BitVec 8) : FilledReply :=
  let dataBufLen := srbext.dataBufLen
  match (Cdb.byte srbext.cdb 2).toNat with
  | 0x00 => .copied dataBufLen ScsiSize.vpdSupportedPages (vpdSupportedPages pool)
  | 0x80 =>
      let size := 255 + ScsiSize.vpdSerialNumberPage + 1
      if size < dataBufLen then .unfilled .insufficientResources size
      else ⟨.sized .success size, vpdSerialNumberStores ctrlIdentSN dataBufLen⟩
  | 0x83 =>
      .copied dataBufLen (vpdIdentificationSize device.ctrlIdentSUBNQN) (vpdIdentification device.ctrlIdentSUBNQN pool)
  | 0xB0 => .copied dataBufLen ScsiSize.vpdBlockLimitsPage (vpdBlockLimits device.maxTxSize pool)
  | 0xB1 => .copied dataBufLen ScsiSize.vpdBlockDeviceCharacteristicsPage (vpdBlockDeviceCharacteristics pool)
  | _ => .unfilled .error 0

end SpcNvme
