import SpcNvme.Lib.Access
import SpcNvme.Scsi

/-! The mode pages byte by byte: what `Scsi_ModeSense6` writes into the data
buffer, and how `Scsi_ModeSelect6` walks through one. -/

namespace SpcNvme

open Access

/-- `MODE_PAGE_CACHING`, `MODE_PAGE_CONTROL`, `MODE_PAGE_FAULT_REPORTING` and
`MODE_SENSE_RETURN_ALL`. -/
def modePageCaching : BitVec 6 := 0x08
def modePageControl : BitVec 6 := 0x0A
def modePageFaultReporting : BitVec 6 := 0x1C
def modeSenseReturnAll : BitVec 6 := 0x3F

/-- `sizeof(MODE_PARAMETER_HEADER)` and the size of the three pages, of which two
bytes come before the counted ones. -/
def modeHeaderSize : Nat := 4
def modePageSize : Nat := 12

/-- The two cache members of `CNvmeDevice`. -/
structure CacheFlags where
  readCacheEnabled : Bool
  writeCacheEnabled : Bool
deriving DecidableEq, Repr

/-! The pages of the reply. The low six bits of the first byte are the page code. -/

/-- `FillModePage_Caching`. -/
def fillModePageCaching (flags : CacheFlags) : List (BitVec 8) :=
  let cacheBits := (BitVec.ofBool !flags.readCacheEnabled).setWidth 8 ||| (BitVec.ofBool flags.writeCacheEnabled).setWidth 8 <<< 2
  [0x80 ||| modePageCaching.setWidth 8, 10, cacheBits, 0, 0, 0, 0, 0, 0, 0, 0, 0]

/-- `FillModePage_Control`. -/
def fillModePageControl : List (BitVec 8) := [modePageControl.setWidth 8, 10, 0, 0, 0, 0, 0, 0, 0, 0, 0, 0]

/-- `FillModePage_InfoException`; the method is to generate no sense. -/
def fillModePageInfoException : List (BitVec 8) := [modePageFaultReporting.setWidth 8, 10, 0, 5, 0, 0, 0, 0, 0, 0, 0, 0]

/-- The variables of `Scsi_ModeSense6`: the room left, the size returned so far,
the length field of the header and the bytes written behind it. -/
structure ModeReply where
  bufSize : BitVec 32
  retSize : BitVec 32
  modeDataLength : BitVec 8
  pages : List (BitVec 8)
deriving DecidableEq, Repr

namespace ModeReply

/-- After `FillParamHeader`. -/
def header (dataBufLen : BitVec 32) : ModeReply := ⟨dataBufLen - ScsiSize.modeParameterHeader, ScsiSize.modeParameterHeader, 3, []⟩

/-- `CopyToCdbBuffer`, and the length that its callers add to the header. -/
def copyToCdbBuffer (reply : ModeReply) (page : List (BitVec 8)) : ModeReply :=
  let copiedSize := ulongMin (BitVec.ofNat 32 page.length) reply.bufSize
  { bufSize := reply.bufSize - copiedSize
    retSize := reply.retSize + copiedSize
    modeDataLength := reply.modeDataLength + copiedSize.setWidth 8
    pages := reply.pages ++ page.take copiedSize.toNat }

def copyWhileRoom (reply : ModeReply) (page : List (BitVec 8)) : ModeReply :=
  if reply.bufSize > 0 then reply.copyToCdbBuffer page else reply

/-- The bytes at the start of the data buffer; all bytes of the header but the
first are zero. -/
def bytes (reply : ModeReply) : List (BitVec 8) := [reply.modeDataLength, 0, 0, 0] ++ reply.pages

end ModeReply

/-- `Scsi_ModeSense6`: the status, the transfer length and the bytes written. -/
structure ModeSenseResult where
  status : SrbStatus
  retSize : BitVec 32
  written : List (BitVec 8)
deriving DecidableEq, Repr

def ModeReply.result (reply : ModeReply) (status : SrbStatus) : ModeSenseResult := ⟨status, reply.retSize, reply.bytes⟩

def modeSense6 (srbext : SrbExt) (flags : CacheFlags) : ModeSenseResult :=
  if srbext.dataBufLen < ScsiSize.modeParameterHeader ∨ srbext.dataBuf = 0 then
    ⟨.dataOverrun, ScsiSize.modeParameterHeader, []⟩
  else
    let header := ModeReply.header srbext.dataBufLen
    let pageCode := (Cdb.byte srbext.cdb 2).setWidth 6
    if pageCode = modePageCaching then (header.copyToCdbBuffer (fillModePageCaching flags)).result .success
    else if pageCode = modePageControl then (header.copyToCdbBuffer fillModePageControl).result .success
    else if pageCode = modePageFaultReporting then (header.copyToCdbBuffer fillModePageInfoException).result .success
    else if pageCode = modeSenseReturnAll then
      let reply := header.copyWhileRoom (fillModePageCaching flags)
      let reply := reply.copyWhileRoom fillModePageControl
      (reply.copyWhileRoom fillModePageInfoException).result .success
    else header.result .invalidRequest

/-! `Scsi_ModeSelect6`. A byte of memory is known by its offset from `DataBuf`; the
request owns the first `DataBufLen` of them. -/

/-- What a run of the function leaves: the flags, and which bytes it has read. -/
structure ModeSelectResult where
  status : SrbStatus
  flags : CacheFlags
  reads : List Span
deriving DecidableEq, Repr

/-- The cache bits of a caching page at an offset. -/
def CacheFlags.ofPage (memory : Nat → BitVec 8) (page : Nat) : CacheFlags :=
  ⟨!(memory (page + 2)).getLsbD 0, (memory (page + 2)).getLsbD 2⟩

/-- The rest of a turn at a page of non-zero length: a caching page of the right
length sets the flags, any other page is skipped. -/
def selectPage (memory : Nat → BitVec 8) (page : Nat) (flags : CacheFlags) : CacheFlags × List Span :=
  if (memory page).setWidth 6 ≠ modePageCaching ∨ memory (page + 1) ≠ 10 then (flags, [⟨page + 1, 1⟩, ⟨page, 1⟩])
  else (.ofPage memory page, [⟨page + 1, 1⟩, ⟨page, 1⟩, ⟨page + 2, 1⟩])

/-- The loop over the pages, of which `fuel` turns are left; `cursor` is where the
pages start. Both counters wrap. -/
def modeSelectFrom (memory : Nat → BitVec 8) (cursor : Nat) :
    Nat → BitVec 32 → BitVec 32 → CacheFlags → Option (CacheFlags × List Span)
  | 0, _, _, _ => none
  | fuel + 1, modeDataSize, offset, flags =>
      if modeDataSize = 0 then some (flags, [])
      else
        let page := cursor + offset.toNat
        let pageLength := memory (page + 1)
        if pageLength = 0 then some (flags, [⟨page + 1, 1⟩])
        else
          let turn := selectPage memory page flags
          (modeSelectFrom memory cursor fuel (modeDataSize - (pageLength.setWidth 32 + 2))
            (offset + (pageLength.setWidth 32 + 2)) turn.1).map fun rest => (rest.1, turn.2 ++ rest.2)

/-- `Scsi_ModeSelect6`. The length of the block descriptors is read before the bit is tested. -/
def modeSelect6 (srbext : SrbExt) (memory : Nat → BitVec 8) (flags : CacheFlags) (fuel : Nat) : Option ModeSelectResult :=
  let blockDescriptorLength := memory 3
  if (Cdb.byte srbext.cdb 1).getLsbD 4 = false then some ⟨.invalidRequest, flags, [⟨3, 1⟩]⟩
  else
    let cursor := modeHeaderSize + blockDescriptorLength.toNat
    let modeDataSize := srbext.dataBufLen - BitVec.ofNat 32 modeHeaderSize - blockDescriptorLength.setWidth 32
    (modeSelectFrom memory cursor fuel modeDataSize 0 flags).map
      fun walk => ⟨.success, walk.1, ⟨3, 1⟩ :: walk.2⟩

end SpcNvme
