import SpcNvme.Adapter
import SpcNvme.Lib.BlockPool

/-! The memory the driver takes from the system for a request: the page of a PRP
list and the log page in `ExtBuf`. For each function that allocates or frees there
is the list of its pool operations in the order of the source; the functions not
listed here neither allocate nor free. -/

namespace SpcNvme

abbrev PoolOp : Type := BlockPool.Op Nat Nat

abbrev Pool : Type := BlockPool.State Nat Nat

namespace SrbExt

/-- The buffers the pointers of an extension refer to. -/
def buffers (srbext : SrbExt) : List Nat := srbext.extBuf.toList ++ srbext.prp2VA.toList

/-- `ResetExtBuf` frees the old buffer, if there is one. -/
def resetExtBufOps (srbext : SrbExt) : List PoolOp := srbext.extBuf.toList.map .free

def cleanUpOps (srbext : SrbExt) : List PoolOp := srbext.resetExtBufOps ++ srbext.prp2VA.toList.map .free

/-- How the handler of an opcode decodes the command block, if it reads or writes. -/
def handlerFor (opcode : Nat) : Option (List (BitVec 8) → BitVec 64 × BitVec 32) :=
  match opcode with
  | 0x08 | 0x0A => some parseReadWrite6
  | 0x28 | 0x2A => some parseReadWrite10
  | 0xA8 | 0xAA => some parseReadWrite12
  | 0x88 | 0x8A => some parseReadWrite16
  | _ => none

def parse (srbext : SrbExt) : Option (List (BitVec 8) → BitVec 64 × BitVec 32) :=
  handlerFor (Cdb.byte srbext.cdb 0).toNat

end SrbExt

/-- `BuildPrp` allocates a page for a list of more than one further page. -/
def buildPrpOps (memory : Memory) (address buffer bufSize : Nat) : List PoolOp :=
  let distance := getDistanceToNextPage buffer
  if distance > bufSize then []
  else if bufSize - distance ≤ pageSize then []
  else match memory.prp2Pool with
    | none => []
    | some page => [.alloc page address]

namespace Host

/-- The request is a read or write that gets as far as building its command. -/
def transfers (host : Host) (address : Nat) : Bool :=
  let srbext := host.heap.srbext address
  match srbext.parse with
  | none => false
  | some parse =>
      let (offset, len) := parse srbext.cdb
      srbext.funcCode == SrbFunction.executeScsi &&
        host.device.isInValidIoRange (srbext.lun.setWidth 32 + 1) offset len

/-- The page of the PRP list is not freed if the submission fails. -/
def scsiReadWriteOps (host : Host) (memory : Memory) (address : Nat) : List PoolOp :=
  let srbext := host.heap.srbext address
  if host.transfers address then buildPrpOps memory address srbext.dataBuf srbext.dataBufLen.toNat else []

/-- `Firmware_GetInfo` allocates the log page, and frees it if the submission fails. -/
def firmwareGetInfoOps (host : Host) (memory : Memory) (address logpage : Nat) : List PoolOp :=
  let srbext := host.heap.srbext address
  let (status, _) := (host.putSrbExt address (host.firmwareGetInfoCmd memory srbext logpage)).submitAdmCmd address
  .alloc logpage address :: srbext.resetExtBufOps ++ buildPrpOps memory address logpage sizeofFirmwareSlotInfoLog ++
    if !status.ntSuccess then [.free logpage] else []

def startIoIoctlHandlerOps (host : Host) (memory : Memory) (address logpage : Nat) : List PoolOp :=
  let srbext := host.heap.srbext address
  match srbext.srb with
  | none => []
  | some srb =>
      if srb.ioControl.controlCode = Ioctl.scsiMiniportFirmware ∧ srb.ioControl.signatureIsFirmware = true then
        if srbext.dataBufLen < Ioctl.srbIoControlSize + Ioctl.firmwareRequestBlockSize then []
        else if srb.ioControl.request.function = Ioctl.firmwareFunctionGetInfo then
          host.firmwareGetInfoOps memory address logpage
        else []
      else []

def hwStartIoOps (host : Host) (memory : Memory) (address logpage : Nat) : List PoolOp :=
  let funcCode := (host.heap.srbext address).funcCode
  if funcCode = SrbFunction.executeScsi then host.scsiReadWriteOps memory address
  else if funcCode = SrbFunction.ioControl then host.startIoIoctlHandlerOps memory address logpage
  else []

end Host

def runCompletionCBOps (heap : Heap) (address : Nat) : List PoolOp :=
  match (heap.srbext address).completionCB with
  | none => []
  | some .completeFirmwareInfo => if (heap.srbext address).srb.isNone then [] else (heap.srbext address).cleanUpOps
  | some .completeScsiReadWrite => (heap.srbext address).cleanUpOps

/-- The callback, and the `CleanUp` after `CompleteSrb`. -/
def finishSrbExtOps (heap : Heap) (address : Nat) (submission : Option Nat) (cpl : NvmeCompletionEntry) : List PoolOp :=
  let copied := heap.put address { heap.srbext address with nvmeCpl := cpl }
  let called := runCompletionCB copied address submission
  let completed := called.completeSrb address submission (nvmeToSrbStatus (called.srbext address).nvmeCpl.status)
  runCompletionCBOps copied address ++ (completed.srbext address).cleanUpOps

def CNvmeQueue.completeOneOps (queue : CNvmeQueue) (heap : Heap) (loop : CompleteLoop) : List PoolOp :=
  let slot := queue.cplQ loop.cpl
  let (_, srbext, _) := queue.history.pop slot.entry.cid.toNat loop.srbext
  match srbext with
  | none => []
  | some srbext => finishSrbExtOps heap srbext.address (some srbext.submission) slot.entry

/-- `SubmitCmd` and `ResetAllCmd` complete extensions without `CleanUp`. -/
def Adapter.poolOps (adapter : Adapter) : AdapterEvent → List PoolOp
  | .startIo address _ logpage memory => adapter.host.hwStartIoOps memory address logpage
  | .advance msgid .iterate =>
      match adapter.host.queue msgid, adapter.loops msgid with
      | some queue, some loop => queue.completeOneOps adapter.host.heap loop
      | _, _ => []
  | _ => []

/-- The adapter and the pool it allocates from, in which every block is out to an extension. -/
structure Ledger where
  adapter : Adapter
  pool : Pool

def Ledger.initial (adapter : Adapter) : Ledger := ⟨adapter, .initial Nat Nat⟩

def Ledger.step (ledger : Ledger) (event : AdapterEvent) : Option Ledger :=
  (ledger.adapter.step event).bind fun adapter =>
    (Machine.run BlockPool.apply ledger.pool (ledger.adapter.poolOps event)).map fun pool => ⟨adapter, pool⟩

end SpcNvme
