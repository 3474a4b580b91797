import SpcNvme.ModePages

/-! `Scsi_ModeSense6` on the data buffer itself. Its helpers get the pointer into
the buffer, the room behind it and the size returned so far by reference, and the
length in the header is counted up in place. -/

namespace SpcNvme

open Access

/-- The variables of `Scsi_ModeSense6`, and the memory from `DataBuf` on, into which
`buffer` is an offset. -/
structure ModeSenseVars where
  memory : Nat → BitVec 8
  buffer : Nat
  bufSize : BitVec 32
  retSize : BitVec 32

namespace ModeSenseVars

/-- `CopyToCdbBuffer`; the size it returns comes first. -/
def copyToCdbBuffer (vars : ModeSenseVars) (page : List (BitVec 8)) (pageSize : BitVec 32) : BitVec 32 × ModeSenseVars :=
  let copiedSize := if pageSize > vars.bufSize then vars.bufSize else pageSize
  (copiedSize,
    { memory := store vars.memory vars.buffer (page.take copiedSize.toNat)
      bufSize := vars.bufSize - copiedSize
      buffer := vars.buffer + copiedSize.toNat
      retSize := vars.retSize + copiedSize })

def replyModePageCaching (flags : CacheFlags) (vars : ModeSenseVars) : BitVec 32 × ModeSenseVars :=
  vars.copyToCdbBuffer (fillModePageCaching flags) ScsiSize.modeCachingPage

def replyModePageControl (vars : ModeSenseVars) : BitVec 32 × ModeSenseVars :=
  vars.copyToCdbBuffer fillModePageControl ScsiSize.modeControlPage

def replyModePageInfoExceptionCtrl (vars : ModeSenseVars) : BitVec 32 × ModeSenseVars :=
  vars.copyToCdbBuffer fillModePageInfoException ScsiSize.modeInfoExceptions

/-- A reply of a page, after which `ModeDataLength` grows by what was copied of it. -/
def counting (vars : ModeSenseVars) (reply : ModeSenseVars → BitVec 32 × ModeSenseVars) : ModeSenseVars :=
  let (pageSize, vars) := reply vars
  { vars with memory := store vars.memory 0 [vars.memory 0 + pageSize.setWidth 8] }

def countingWhileRoom (vars : ModeSenseVars) (reply : ModeSenseVars → BitVec 32 × ModeSenseVars) : ModeSenseVars :=
  if vars.bufSize > 0 then vars.counting reply else vars

end ModeSenseVars

/-- `FillParamHeader`: the length of a header with nothing behind it, then the type
of the medium, the device specific parameter and the length of the block descriptors. -/
def fillParamHeader (memory : Nat → BitVec 8) : Nat → BitVec 8 :=
  let memory := store memory 0 [ScsiSize.modeParameterHeader.setWidth 8 - 1]
  let memory := store memory 1 [0]
  let memory := store memory 2 [0]
  store memory 3 [0]

/-- What `Scsi_ModeSense6` leaves: its status, the transfer length and the memory
from `DataBuf` on. -/
structure ModeSenseReturn where
  srbStatus : SrbStatus
  transferLength : BitVec 32
  dataBuf : Nat → BitVec 8

def ModeSenseVars.returning (vars : ModeSenseVars) (status : SrbStatus) : ModeSenseReturn :=
  ⟨status, vars.retSize, vars.memory⟩

/-- `Scsi_ModeSense6` with this content of the data buffer. -/
def modeSense6InBuffer (srbext : SrbExt) (flags : CacheFlags) (dataBuf : Nat → BitVec 8) : ModeSenseReturn :=
  let bufSize := srbext.dataBufLen
  if bufSize < ScsiSize.modeParameterHeader ∨ srbext.dataBuf = 0 then
    ⟨.dataOverrun, ScsiSize.modeParameterHeader, dataBuf⟩
  else
    let vars : ModeSenseVars :=
      { memory := fillParamHeader dataBuf
        buffer := ScsiSize.modeParameterHeader.toNat
        bufSize := bufSize - ScsiSize.modeParameterHeader
        retSize := 0 + ScsiSize.modeParameterHeader }
    let pageCode := (Cdb.byte srbext.cdb 2).setWidth 6
    if pageCode = modePageCaching then (vars.counting (ModeSenseVars.replyModePageCaching flags)).returning .success
    else if pageCode = modePageControl then (vars.counting ModeSenseVars.replyModePageControl).returning .success
    else if pageCode = modePageFaultReporting then
      (vars.counting ModeSenseVars.replyModePageInfoExceptionCtrl).returning .success
    else if pageCode = modeSenseReturnAll then
      let vars := vars.countingWhileRoom (ModeSenseVars.replyModePageCaching flags)
      let vars := vars.countingWhileRoom ModeSenseVars.replyModePageControl
      (vars.countingWhileRoom ModeSenseVars.replyModePageInfoExceptionCtrl).returning .success
    else vars.returning .invalidRequest

end SpcNvme
