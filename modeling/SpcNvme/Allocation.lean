import SpcNvme.Ioctl
import SpcNvme.Lifecycle
import SpcNvme.Lib.Ending

/-! What the functions that allocate do when there is no memory left. `new` gives
NULL then, and not all of them look; each is told here what the pool has for it.
`BuildPrp` and the inquiry pages take that among their other arguments. -/

namespace SpcNvme

namespace Host

/-! The waiting functions call `Init` on the new extension whether it is there or not. -/

def identifyControllerAllocating (host : Host) (memory : Memory) (pool srbext : Option Nat) (ident : Nat) (poll : Bool)
    (stalls : List (Host → Host)) : Ending (NtStatus × Host) :=
  .allocating (host.device.isWorking && srbext.isNone) pool fun pool =>
    host.identifyController memory pool srbext ident poll stalls

def identifyNamespaceAllocating (host : Host) (memory : Memory) (pool srbext : Option Nat) (nsid : BitVec 32) (data : Nat)
    (stalls : List (Host → Host)) : Ending (NtStatus × Host) :=
  .allocating (host.device.isWorking && srbext.isNone) pool fun pool =>
    host.identifyNamespace memory pool srbext nsid data stalls

/-- The buffer for the list is allocated by `IdentifyAllNamespaces`, and checked. -/
def identifyActiveNamespaceIdListAllocating (host : Host) (memory : Memory) (pool srbext : Option Nat) (nsidList : Nat)
    (contents : List (BitVec 32)) (stalls : List (Host → Host)) : Ending (NtStatus × Option Nat × Host) :=
  .allocating (host.device.isWorking && nsidList != 0 && srbext.isNone) pool fun pool =>
    host.identifyActiveNamespaceIdList memory pool srbext nsidList contents stalls

def setNumberOfIoQueueAllocating (host : Host) (pool : Option Nat) (count : BitVec 16) (stalls : List (Host → Host)) :
    Ending (NtStatus × Host) :=
  .allocating host.device.isWorking pool fun pool => host.setNumberOfIoQueue pool count stalls

/-- `Firmware_GetInfo` goes on with the log page it got. -/
def firmwareGetInfoAllocating (host : Host) (memory : Memory) (address : Nat) (logpage : Option Nat) : SrbStatus × Host :=
  let srbext := host.firmwareGetInfoCmd memory (host.heap.srbext address) (logpage.getD 0)
  let host := host.putSrbExt address (srbext.resetExtBuf logpage)
  let (status, host) := host.submitAdmCmd address
  if !status.ntSuccess then (.internalError, host) else (.pending, host)

end Host

/-- `Complete_FirmwareInfo` reads the log page where it has a reply to fill in. -/
def completeFirmwareInfoReads (heap : Heap) (address : Nat) : Bool :=
  let srbext := heap.srbext address
  match srbext.completionCB, srbext.srb with
  | some .completeFirmwareInfo, some srb =>
      (firmwareInfoResult srb.ioControl heap.slotCount srbext.nvmeCpl.status).2.2.isSome
  | _, _ => false

def finishSrbExtAllocating (heap : Heap) (address : Nat) (submission : Option Nat) (cpl : NvmeCompletionEntry) :
    Ending Heap :=
  let copied := heap.put address { heap.srbext address with nvmeCpl := cpl }
  if completeFirmwareInfoReads copied address && (heap.srbext address).extBuf.isNone then .nullDereference
  else .returned (finishSrbExt heap address submission cpl)

namespace DeviceQueues

/-- `CreateAdmQ` asks the object it got whether it is set up. -/
def createAdmQAllocating (queues : DeviceQueues) (object initOK : Bool) : Ending (NtStatus × DeviceQueues) :=
  if queues.admQueue.isNone && !object then .nullDereference else .returned (queues.createAdmQ initOK)

/-- The loop of `CreateIoQ` for the objects it gets, each of which it sets up. -/
def createIoQFromAllocating (queues : DeviceQueues) (objects : Nat → Bool) (setups : Nat → NtStatus) (index : Nat) :
    Nat → Ending (NtStatus × DeviceQueues)
  | 0 => .returned (.success, queues)
  | left + 1 =>
      if index ≥ maxIoQueueCount then .stuck
      else match queues.ioQueue index with
        | some _ => queues.createIoQFromAllocating objects setups (index + 1) left
        | none =>
            if !objects index then .nullDereference
            else
              let object := queues.created
              let queues := { queues with created := queues.created + 1 }
              if !(setups index).ntSuccess then
                .returned (setups index, { queues with deleted := queues.deleted ++ [object] })
              else
                createIoQFromAllocating
                  { queues with
                    ioQueue := Function.update queues.ioQueue index (some object)
                    allocatedIoQ := queues.allocatedIoQ + 1 }
                  objects setups (index + 1) left

def createIoQAllocating (queues : DeviceQueues) (objects : Nat → Bool) (setups : Nat → NtStatus) :
    Ending (NtStatus × DeviceQueues) :=
  queues.createIoQFromAllocating objects setups 0 queues.params.desiredIoQ.toNat

end DeviceQueues

namespace Driver

/-- `RegisterIoQueues` allocates `temp` first, and every turn of its loop begins with `Init`. -/
def registerIoQueuesAllocating (driver : Driver) (temp : Bool) (replies : PairReplies) : Ending (NtStatus × Driver) :=
  if driver.isWorking && driver.queues.allocatedIoQ != 0 && !temp then .nullDereference
  else .ofOption (driver.registerIoQueues replies)

/-- `UnregisterIoQueues` checks `temp`, but goes to the same `END`. -/
def unregisterIoQueuesAllocating (driver : Driver) (temp : Bool) (replies : PairReplies) : Ending (NtStatus × Driver) :=
  if driver.isWorking && !temp then .returned (driver.registrationStatus .memoryNotAllocated, driver)
  else .ofOption (driver.unregisterIoQueues replies)

end Driver

end SpcNvme
