import Mathlib.Data.BitVec

/-! The NVMe structures the driver reads and writes: submission queue entries,
completion queue entries and their status field. -/

namespace SpcNvme

/-- The NTSTATUS values the modelled functions return. -/
inductive NtStatus where
  | success
  | unsuccessful
  | alreadyCommitted
  | deviceBusy
  | deviceNotReady
  | invalidDeviceState
  | invalidParameter
  | internalError
  | memoryNotAllocated
  | notMappedData
  | alreadyInitialized
  | requestAborted
deriving DecidableEq, Repr

def NtStatus.ntSuccess : NtStatus → Bool
  | .success => true
  | _ => false

structure NvmeCommandStatus where
  p : Bool
  sc : BitVec 8
  sct : BitVec 3
deriving DecidableEq, Repr

/-- `NVME_COMPLETION_ENTRY`, as far as the driver looks at it. -/
structure NvmeCompletionEntry where
  dw0 : BitVec 32
  sqhd : BitVec 16
  cid : BitVec 16
  status : NvmeCommandStatus
deriving DecidableEq, Repr

def NvmeCompletionEntry.zero : NvmeCompletionEntry := ⟨0, 0, 0, ⟨false, 0, 0⟩⟩

/-- `NVME_COMMAND`; the command specific union is kept as its six dwords. -/
structure NvmeCommand where
  opc : BitVec 8
  cid : BitVec 16
  nsid : BitVec 32
  prp1 : BitVec 64
  prp2 : BitVec 64
  cdw10 : BitVec 32
  cdw11 : BitVec 32
  cdw12 : BitVec 32
  cdw13 : BitVec 32
  cdw14 : BitVec 32
  cdw15 : BitVec 32
deriving DecidableEq, Repr

def NvmeCommand.zero : NvmeCommand := ⟨0, 0, 0, 0, 0, 0, 0, 0, 0, 0, 0⟩

end SpcNvme
