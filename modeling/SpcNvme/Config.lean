import SpcNvme.Queue
import SpcNvme.CmdBuilder

/-! The parameters of the queues: what the registry asks for, what the controller
allows, what a queue object is set up with and what the controller is told. -/

namespace SpcNvme

/-- The values `LoadRegistry` reads; one is missing where its read fails, and all
are without the buffer. -/
structure Registry where
  admQDepth : Option (BitVec 32)
  ioQDepth : Option (BitVec 32)
  ioQCount : Option (BitVec 32)
deriving DecidableEq, Repr

/-- The queue parameters among the members of `CNvmeDevice`. -/
structure QueueParams where
  admDepth : BitVec 16
  ioDepth : BitVec 16
  desiredIoQ : BitVec 32
deriving DecidableEq, Repr

namespace QueueParams

/-- `ADMIN_QUEUE_DEPTH`, `IO_QUEUE_DEPTH` and `IO_QUEUE_COUNT`. -/
def initVars : QueueParams := ⟨64, 256, 16⟩

def loadRegistry (params : QueueParams) (registry : Registry) : QueueParams where
  admDepth := (registry.admQDepth.map (·.setWidth 16)).getD params.admDepth
  ioDepth := (registry.ioQDepth.map (·.setWidth 16)).getD params.ioDepth
  desiredIoQ := registry.ioQCount.getD params.desiredIoQ

/-- `min((USHORT)CtrlCap.MQES + 1, depth)`, which compares as `int`. -/
def minQueueEntries (mqes depth : BitVec 16) : BitVec 16 :=
  if mqes.toNat + 1 < depth.toNat then BitVec.ofNat 16 (mqes.toNat + 1) else depth

def readCtrlCap (params : QueueParams) (mqes : BitVec 16) : QueueParams :=
  { params with
    admDepth := minQueueEntries mqes params.admDepth
    ioDepth := minQueueEntries mqes params.ioDepth }

/-- The parameters `Setup` leaves, in the order of its calls. -/
def setup (registry : Registry) (mqes : BitVec 16) : QueueParams :=
  (initVars.loadRegistry registry).readCtrlCap mqes

end QueueParams

/-- `MAX_IO_PER_LU`, the number of tags StorPort may use. -/
def maxIoPerLu : BitVec 16 := 512

/-- `QUEUE_PAIR_CONFIG`, before anything is checked. -/
structure QueuePairRequest where
  qid : BitVec 16
  depth : BitVec 16
  historyDepth : BitVec 16
deriving DecidableEq, Repr

namespace QueuePairRequest

def createAdmQ (params : QueueParams) : QueuePairRequest := ⟨0, params.admDepth, maxIoPerLu⟩

/-- One turn of the loop of `CreateIoQ`: `Dbl[0]` is for the admin queue. -/
def createIoQ (params : QueueParams) (index : BitVec 16) : QueuePairRequest := ⟨index + 1, params.ioDepth, maxIoPerLu⟩

/-- What `Setup` of the queue keeps; a ring without slots has no index arithmetic. -/
def config (request : QueuePairRequest) (slots : request.depth ≠ 0) (tags : request.historyDepth ≠ 0) :
    QueuePairConfig where
  qid := request.qid.toNat
  depth := request.depth.toNat
  historyDepth := request.historyDepth.toNat
  depth_pos := by
    apply Nat.pos_of_ne_zero
    intro zero
    exact slots (BitVec.eq_of_toNat_eq zero)
  depth_lt := request.depth.isLt
  historyDepth_pos := by
    apply Nat.pos_of_ne_zero
    intro zero
    exact tags (BitVec.eq_of_toNat_eq zero)
  historyDepth_lt := request.historyDepth.isLt

end QueuePairRequest

/-- `AQA`: the sizes of the admin queues, less one, in fields of 12 bits. -/
structure NvmeAdminQueueAttributes where
  asqs : BitVec 12
  acqs : BitVec 12
deriving DecidableEq, Repr

/-- What `RegisterAdmQ` writes to `AQA`; `AdmDepth - 1` is an `int`. -/
def registerAdmQAttributes (params : QueueParams) : NvmeAdminQueueAttributes :=
  let entries := (params.admDepth.setWidth 32 - 1).setWidth 12
  ⟨entries, entries⟩

namespace Opcode

def adminDeleteIoSq : BitVec 8 := 0x00
def adminCreateIoSq : BitVec 8 := 0x01
def adminDeleteIoCq : BitVec 8 := 0x04
def adminCreateIoCq : BitVec 8 := 0x05

end Opcode

/-- `CDW10.QID` and `CDW10.QSIZE`; `queue->Depth - 1` is an `int`. -/
def createQueueDword (queue : QueuePairRequest) : BitVec 32 :=
  (queue.depth.setWidth 32 - 1).setWidth 16 ++ queue.qid

def buildCmdRegIoSubQ (srbext : SrbExt) (queue : QueuePairRequest) (subQPA : BitVec 64) : SrbExt :=
  { srbext with
    nvmeCmd := { NvmeCommand.zero with
      opc := Opcode.adminCreateIoSq
      cid := srbext.cid
      prp1 := subQPA
      nsid := unspecificNsid
      cdw10 := createQueueDword queue
      -- the completion queue of the same number, QPRIO high, physically contiguous
      cdw11 := queue.qid ++ (0 : BitVec 13) ++ (1 : BitVec 2) ++ (1 : BitVec 1) } }

def buildCmdRegIoCplQ (srbext : SrbExt) (queue : QueuePairRequest) (cplQPA : BitVec 64) : SrbExt :=
  { srbext with
    nvmeCmd := { NvmeCommand.zero with
      opc := Opcode.adminCreateIoCq
      cid := srbext.cid
      prp1 := cplQPA
      nsid := unspecificNsid
      cdw10 := createQueueDword queue
      -- the interrupt vector of the same number, interrupts enabled, physically contiguous
      cdw11 := queue.qid ++ (0 : BitVec 14) ++ (1 : BitVec 1) ++ (1 : BitVec 1) } }

/-- The two commands that delete a queue, which differ in their opcode. -/
def buildCmdUnRegIoQ (srbext : SrbExt) (opcode : BitVec 8) (queue : QueuePairRequest) : SrbExt :=
  { srbext with
    nvmeCmd := { NvmeCommand.zero with
      opc := opcode
      cid := srbext.cid
      nsid := unspecificNsid
      cdw10 := (0 : BitVec 16) ++ queue.qid } }

def buildCmdUnRegIoSubQ (srbext : SrbExt) (queue : QueuePairRequest) : SrbExt :=
  buildCmdUnRegIoQ srbext Opcode.adminDeleteIoSq queue

def buildCmdUnRegIoCplQ (srbext : SrbExt) (queue : QueuePairRequest) : SrbExt :=
  buildCmdUnRegIoQ srbext Opcode.adminDeleteIoCq queue

/-- `QSIZE` of a command that creates a queue, as the controller reads it. -/
def NvmeCommand.qsize (cmd : NvmeCommand) : BitVec 16 := cmd.cdw10.extractLsb' 16 16

/-- `QID` of a command that creates or deletes a queue. -/
def NvmeCommand.qid (cmd : NvmeCommand) : BitVec 16 := cmd.cdw10.setWidth 16

end SpcNvme
