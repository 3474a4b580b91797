import SpcNvme.Lifecycle

/-! Where the queues ring: the registers `MapCtrlRegisters` finds, the doorbells a
queue object is set up with, and the queue that an interrupt message is for. A
pointer into the registers is known here by its offset. -/

namespace SpcNvme

/-- `ACCESS_RANGE`, without what only `StorPortGetDeviceBase` looks at. -/
structure AccessRange where
  rangeStart : BitVec 64
  rangeLength : BitVec 32
deriving DecidableEq, Repr

/-- What the bus gives `Setup`: two base addresses of the PCI configuration, the ranges
of the port configuration, and those that `StorPortGetDeviceBase` maps. -/
structure BusResources where
  baseAddress0 : BitVec 32
  baseAddress1 : BitVec 32
  accessRanges : List AccessRange
  deviceBase : AccessRange → Bool

def accessRangeCount : Nat := 8

/-- The range that the loop of `MapCtrlRegisters` maps. -/
def BusResources.mapped (resources : BusResources) : Option AccessRange :=
  let bar0 := resources.baseAddress1 ++ (resources.baseAddress0 &&& 0xFFFFC000)
  (resources.accessRanges.take accessRangeCount).find? fun range =>
    range.rangeStart == bar0 && resources.deviceBase range

/-- Where `NVME_CONTROLLER_REGISTERS` has its doorbells. -/
def doorbellsOffset : Nat := 0x1000

inductive QueueType where
  | unknown
  | admQueue
  | ioQueue
deriving DecidableEq, Repr

/-- What a queue object takes over from its `QUEUE_PAIR_CONFIG`: `SubmitCmd` writes its
tail to `subDbl`, and `CompleteCmd` its head to `cplDbl`. -/
structure QueueRings where
  request : QueuePairRequest
  type : QueueType
  subDbl : Option Nat
  cplDbl : Option Nat
deriving DecidableEq, Repr

namespace QueueRings

/-- The vector that `BuildCmd_RegIoCplQ` programs for a queue. -/
def vector (queue : QueueRings) (srbext : SrbExt) (cplQPA : BitVec 64) : BitVec 16 :=
  if queue.type = .admQueue then 0
  else (buildCmdRegIoCplQ srbext queue.request cplQPA).nvmeCmd.cdw11.extractLsb' 16 16

/-- The doorbells a queue writes to. -/
def Uses (queue : QueueRings) (doorbell : Nat) : Prop := queue.subDbl = some doorbell ∨ queue.cplDbl = some doorbell

end QueueRings

/-- The members of `CNvmeDevice` about its registers, and those of each queue object. -/
structure Wiring where
  doorbells : Option Nat
  bar0Size : BitVec 32
  objects : Nat → Option QueueRings

namespace Wiring

/-- `GetQueueDbl`, with the element size of `Doorbells`. -/
def getQueueDbl (wiring : Wiring) (qid : BitVec 32) : Option Nat × Option Nat :=
  match wiring.doorbells with
  | none => (none, none)
  | some doorbells => (some (doorbells + (qid * 2).toNat * 4), some (doorbells + (qid * 2 + 1).toNat * 4))

def getAdmQueueDbl (wiring : Wiring) : Option Nat × Option Nat := wiring.getQueueDbl 0

def put (wiring : Wiring) (object : Nat) (queue : QueueRings) : Wiring :=
  { wiring with objects := Function.update wiring.objects object (some queue) }

def createAdmQ (wiring : Wiring) (object : Nat) (params : QueueParams) : Wiring :=
  let (subDbl, cplDbl) := wiring.getAdmQueueDbl
  wiring.put object ⟨.createAdmQ params, .admQueue, subDbl, cplDbl⟩

/-- `Setup`; `InitVars` keeps the size. -/
def setup (wiring : Wiring) (queues : DeviceQueues) (registry : Registry) (mqes : BitVec 16) (resources : BusResources) :
    Wiring :=
  if queues.state ≠ .stop then wiring
  else match resources.mapped with
    | none => { wiring with doorbells := none }
    | some range =>
        { wiring with doorbells := some doorbellsOffset, bar0Size := range.rangeLength }.createAdmQ
          queues.created (.setup registry mqes)

/-- The loop of `CreateIoQ`, turn by turn with that of the device. -/
def createIoQFrom (wiring : Wiring) (queues : DeviceQueues) (setups : Nat → NtStatus) (index : Nat) : Nat → Wiring
  | 0 => wiring
  | left + 1 =>
      if index ≥ maxIoQueueCount then wiring
      else match queues.ioQueue index with
        | some _ => wiring.createIoQFrom queues setups (index + 1) left
        | none =>
            let request := QueuePairRequest.createIoQ queues.params (BitVec.ofNat 16 index)
            let (subDbl, cplDbl) := wiring.getQueueDbl (request.qid.setWidth 32)
            let wiring := wiring.put queues.created ⟨request, .ioQueue, subDbl, cplDbl⟩
            if !(setups index).ntSuccess then wiring
            else
              wiring.createIoQFrom
                { queues with
                  created := queues.created + 1
                  ioQueue := Function.update queues.ioQueue index (some queues.created)
                  allocatedIoQ := queues.allocatedIoQ + 1 }
                setups (index + 1) left

def createIoQ (wiring : Wiring) (queues : DeviceQueues) (setups : Nat → NtStatus) : Wiring :=
  wiring.createIoQFrom queues setups 0 queues.params.desiredIoQ.toNat

def createIoQueues (wiring : Wiring) (driver : Driver) (reply : AdminReply) (setups : Nat → NtStatus) : Wiring :=
  if driver.queues.params.desiredIoQ = 0 then
    let (status, driver) := driver.setNumberOfIoQueue reply
    if !status.ntSuccess then wiring else wiring.createIoQ driver.queues setups
  else wiring.createIoQ driver.queues setups

def hwPassiveInitialize (wiring : Wiring) (driver : Driver) (input : Driver.PassiveInitializeInput) : Wiring :=
  if !driver.isWorking then wiring
  else if !input.stage1.ntSuccess then wiring
  else if !input.stage2.ntSuccess then wiring
  else wiring.createIoQueues driver input.queueCount input.setups

end Wiring

/-- The queue whose completion DPC `NvmeMsixISR` schedules. -/
def DeviceQueues.nvmeMsixISR (queues : DeviceQueues) (msgid : Nat) : Option Nat :=
  match if msgid = 0 then queues.admQueue else queues.ioQueue (msgid - 1) with
  | none => none
  | some queue => if !queues.isWorking then none else some queue

structure WiredLifecycle where
  life : Lifecycle
  wiring : Wiring

/-- An entry point, and the resources the bus has for it; only `HwFindAdapter` looks at them. -/
structure WiredEvent where
  event : LifecycleEvent
  resources : BusResources

namespace WiredLifecycle

def initial : WiredLifecycle := ⟨.initial, ⟨none, 0, fun _ => none⟩⟩

def queues (wired : WiredLifecycle) : DeviceQueues := wired.life.queues

def step (wired : WiredLifecycle) (event : WiredEvent) : Option WiredLifecycle :=
  match event.event with
  | .findAdapter input =>
      (wired.life.step (.findAdapter { input with mapped := event.resources.mapped.isSome })).map fun life =>
        ⟨life, wired.wiring.setup wired.queues input.registry input.mqes event.resources⟩
  | .passiveInitialize input =>
      (wired.life.step (.passiveInitialize input)).map fun life =>
        ⟨life, wired.wiring.hwPassiveInitialize wired.life.driver input⟩
  | event => (wired.life.step event).map fun life => ⟨life, wired.wiring⟩

end WiredLifecycle

end SpcNvme
