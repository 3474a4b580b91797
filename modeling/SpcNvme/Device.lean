import SpcNvme.Queue
import SpcNvme.CmdBuilder

/-! The device extension: its state, the namespaces it knows, the admin queue and
the I/O queues, and the functions that submit through them. -/

namespace SpcNvme

inductive NvmeState where
  | stop
  | running
  | setup
  | init
  | teardown
  | resetctrl
  | resetbus
  | shutdown
deriving DecidableEq, Repr

/-- `NVME_IDENTIFY_NAMESPACE_DATA`, as far as the driver reads it. -/
structure NvmeIdentifyNamespaceData where
  nsze : BitVec 64
  lbaFormatIndex : BitVec 4
  lbads : BitVec 4 → BitVec 8

/-- `CNvmeDevice`. `ioQueue` is the array of queue pointers; `nsData` is the
four-element array, indexed by namespace identifier less one. -/
structure CNvmeDevice where
  state : NvmeState
  nvmeVerMNR : BitVec 8
  ctrlIdentMDTS : BitVec 8
  ctrlIdentSUBNQN : List (BitVec 8)
  minPageSize : BitVec 32
  maxTxSize : BitVec 32
  maxTxPages : BitVec 32
  namespaceCount : BitVec 32
  nsData : BitVec 32 → NvmeIdentifyNamespaceData
  desiredIoQ : BitVec 32
  registeredIoQ : BitVec 32
  admQueue : Option CNvmeQueue
  ioQueue : Nat → Option CNvmeQueue

/-- `MAX_IO_QUEUE_COUNT`. -/
def maxIoQueueCount : Nat := 64

/-- `NVME_CONST::MAX_NS_COUNT`. -/
def maxNsCount : Nat := 1024

namespace CNvmeDevice

def isWorking (device : CNvmeDevice) : Bool := device.state == .running

def isStop (device : CNvmeDevice) : Bool := device.state == .stop

/-- `UpdateMaxTxSize`; the processor takes the shift count modulo 32. -/
def updateMaxTxSize (device : CNvmeDevice) : CNvmeDevice :=
  let maxTxSize := (1 <<< (device.ctrlIdentMDTS.toNat % 32)) * device.minPageSize
  { device with maxTxSize := maxTxSize, maxTxPages := maxTxSize / BitVec.ofNat 32 pageSize }

def getNamespaceBlockSize (device : CNvmeDevice) (nsid : BitVec 32) : NtStatus × Option (BitVec 32) :=
  if nsid = 0 then (.invalidParameter, none)
  else if device.namespaceCount = 0 then (.deviceNotReady, none)
  else
    let nsData := device.nsData (nsid - 1)
    (.success, some (1 <<< ((nsData.lbads nsData.lbaFormatIndex).toNat % 32)))

def getNamespaceTotalBlocks (device : CNvmeDevice) (nsid : BitVec 32) : NtStatus × Option (BitVec 64) :=
  if nsid = 0 then (.invalidParameter, none)
  else if device.namespaceCount = 0 then (.deviceNotReady, none)
  else (.success, some (device.nsData (nsid - 1)).nsze)

/-- `IsInValidIoRange`, in 64-bit arithmetic that wraps. -/
def isInValidIoRange (device : CNvmeDevice) (nsid : BitVec 32) (offset : BitVec 64) (len : BitVec 32) : Bool :=
  if nsid = 0 ∨ device.namespaceCount = 0 then false
  else match device.getNamespaceTotalBlocks nsid with
    | (.success, some totalBlocks) =>
        let maxBlockId := totalBlocks - 1
        !(decide (offset + len.setWidth 64 - 1 > maxBlockId))
    | _ => false

end CNvmeDevice

def SrbExt.setIoQueueIndex (srbext : SrbExt) (index : Nat) : SrbExt := { srbext with ioQueueIndex := index }

structure Host where
  device : CNvmeDevice
  heap : Heap

namespace Host

def putSrbExt (host : Host) (address : Nat) (srbext : SrbExt) : Host :=
  { host with heap := host.heap.put address srbext }

/-- `SubmitAdmCmd` of the command built in the extension. -/
def submitAdmCmd (host : Host) (address : Nat) : NtStatus × Host :=
  match host.device.admQueue with
  | none => (.deviceNotReady, host)
  | some queue =>
      if !host.device.isWorking then (.deviceNotReady, host)
      else
        let (status, queue, heap) := queue.submitCmd host.heap address (host.heap.srbext address).nvmeCmd
        (status, { host with device := { host.device with admQueue := some queue }, heap := heap })

/-- `SubmitIoCmd` on a given processor. There is no result without a registered
queue, where the division faults, or where the queue pointer is NULL. -/
def submitIoCmd (host : Host) (address processor : Nat) : Option (NtStatus × Host) :=
  if !host.device.isWorking then some (.deviceNotReady, host)
  else if host.device.registeredIoQ = 0 then none
  else
    let index := processor % host.device.registeredIoQ.toNat
    let host := host.putSrbExt address ((host.heap.srbext address).setIoQueueIndex index)
    match host.device.ioQueue index with
    | none => none
    | some queue =>
        let (status, queue, heap) := queue.submitCmd host.heap address (host.heap.srbext address).nvmeCmd
        let ioQueue := Function.update host.device.ioQueue index (some queue)
        some (status, { host with device := { host.device with ioQueue := ioQueue }, heap := heap })

/-- `AdmQueue->CompleteCmd()`, which faults without a queue. -/
def completeAdmCmd (host : Host) : Option Host :=
  match host.device.admQueue with
  | none => none
  | some queue =>
      let (queue, heap) := queue.completeCmd host.heap 0
      some { host with device := { host.device with admQueue := some queue }, heap := heap }

/-- The loop a waiting function polls in. Each `stall` is what the rest of the
system does meanwhile; without a further one the function has not returned. -/
def waitWhilePending (host : Host) (poll : Bool) (address : Nat) : List (Host → Host) → Option Host
  | [] => none
  | stall :: stalls =>
      match if poll then (stall host).completeAdmCmd else some (stall host) with
      | none => none
      | some host =>
          if (host.heap.srbext address).srbStatus = .pending then host.waitWhilePending poll address stalls
          else some host

/-- What the waiting functions do with the command they built. -/
def submitAndWait (host : Host) (poll : Bool) (address : Nat) (stalls : List (Host → Host)) : Option (NtStatus × Host) :=
  let (status, host) := host.submitAdmCmd address
  if !status.ntSuccess then some (status, host)
  else match host.waitWhilePending poll address stalls with
    | none => none
    | some host =>
        some (if (host.heap.srbext address).srbStatus = .success then .success else .unsuccessful, host)

/-- The extension a waiting function uses: the caller's, or a new one in the pool. -/
def ownSrbExt (host : Host) (srbext : Option Nat) (pool : Nat) : Nat × Host :=
  match srbext with
  | some address => (address, host)
  | none => (pool, host.putSrbExt pool (.init none))

def identifyController (host : Host) (memory : Memory) (pool : Nat) (srbext : Option Nat) (ident : Nat) (poll : Bool)
    (stalls : List (Host → Host)) : Option (NtStatus × Host) :=
  if !host.device.isWorking then some (.invalidDeviceState, host)
  else
    let (address, host) := host.ownSrbExt srbext pool
    let host := host.putSrbExt address (buildCmdIdentCtrler memory (host.heap.srbext address) ident)
    match host.submitAndWait poll address stalls with
    | none => none
    | some (.success, host) => some (.success, { host with device := host.device.updateMaxTxSize })
    | some (status, host) => some (status, host)

def identifyNamespace (host : Host) (memory : Memory) (pool : Nat) (srbext : Option Nat) (nsid : BitVec 32) (data : Nat)
    (stalls : List (Host → Host)) : Option (NtStatus × Host) :=
  if !host.device.isWorking then some (.invalidDeviceState, host)
  else
    let (address, host) := host.ownSrbExt srbext pool
    let host := host.putSrbExt address (buildCmdIdentSpecifiedNS memory (host.heap.srbext address) data nsid)
    host.submitAndWait false address stalls

/-- `IdentifyActiveNamespaceIdList`; `contents` is what the list buffer holds
when the command is done, and the second result is the count returned. -/
def identifyActiveNamespaceIdList (host : Host) (memory : Memory) (pool : Nat) (srbext : Option Nat) (nsidList : Nat)
    (contents : List (BitVec 32)) (stalls : List (Host → Host)) : Option (NtStatus × Option Nat × Host) :=
  if !host.device.isWorking then some (.invalidDeviceState, none, host)
  else if nsidList = 0 then some (.invalidParameter, none, host)
  else
    let (address, host) := host.ownSrbExt srbext pool
    let host := host.putSrbExt address (buildCmdIdentActiveNsidList memory (host.heap.srbext address) nsidList pageSize)
    match host.submitAndWait false address stalls with
    | none => none
    | some (.success, host) => some (.success, some ((contents.take maxNsCount).takeWhile (· ≠ 0)).length, host)
    | some (status, host) => some (status, none, host)

def setNumberOfIoQueue (host : Host) (pool : Nat) (count : BitVec 16) (stalls : List (Host → Host)) :
    Option (NtStatus × Host) :=
  if !host.device.isWorking then some (.invalidDeviceState, host)
  else
    let host := host.putSrbExt pool (.init none)
    let host := host.putSrbExt pool (buildCmdSetIoQueueCount (host.heap.srbext pool) count)
    match host.submitAndWait false pool stalls with
    | none => none
    | some (.success, host) =>
        let granted := 0xFFFF &&& ((host.heap.srbext pool).nvmeCpl.dw0 + 1)
        some (.success, { host with device := { host.device with desiredIoQ := granted } })
    | some (status, host) => some (status, host)

end Host

end SpcNvme
