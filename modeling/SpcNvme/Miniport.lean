import SpcNvme.Scsi
import SpcNvme.Ioctl

/-! The entry points StorPort calls for a request, and the ones that reset or
remove the adapter. -/

namespace SpcNvme

namespace SrbFunction

def executeScsi : BitVec 32 := 0x00
def ioControl : BitVec 32 := 0x02
def abortCommand : BitVec 32 := 0x10
def resetBus : BitVec 32 := 0x12
def resetDevice : BitVec 32 := 0x13
def resetLogicalUnit : BitVec 32 := 0x20
def power : BitVec 32 := 0x24
def pnp : BitVec 32 := 0x25

/-- `SRB_FUNCTION_SPC_INTERNAL`, for an extension without a request. -/
def spcInternal : BitVec 32 := 0xFF

end SrbFunction

def SrbExt.funcCode (srbext : SrbExt) : BitVec 32 :=
  match srbext.srb with
  | none => SrbFunction.spcInternal
  | some srb => srb.function

namespace Host

/-- `srbext->CompleteSrb(status)` outside of any queue. -/
def completeSrb (host : Host) (address : Nat) (status : SrbStatus) : Host :=
  { host with heap := host.heap.completeSrb address none status }

def setState (host : Host) (state : NvmeState) : Host := { host with device := { host.device with state := state } }

/-- The state `ShutdownController` leaves; what it writes to the registers is not modelled. -/
def shutdownController (host : Host) : Host :=
  if !host.device.isStop && !host.device.isWorking then host else host.setState .shutdown

/-- `Teardown`. The queues are deleted without completing what they hold. -/
def teardown (host : Host) : Host :=
  if !host.device.isWorking then host
  else { host with device := { host.device with admQueue := none, ioQueue := fun _ => none, state := .stop } }

/-- The loop of `ResetOutstandingCmds` over the registered queues; a NULL pointer faults. -/
def resetIoQueues (host : Host) : Nat → Option Host
  | 0 => some host
  | count + 1 =>
      match host.resetIoQueues count with
      | none => none
      | some host => match host.device.ioQueue count with
        | none => none
        | some queue =>
            let (queue, heap) := queue.resetAllCmd host.heap
            let ioQueue := Function.update host.device.ioQueue count (some queue)
            some { device := { host.device with ioQueue := ioQueue }, heap := heap }

def resetOutstandingCmds (host : Host) : Option Host :=
  if !host.device.isWorking then some host
  else match host.device.admQueue with
    | none => some host
    | some queue =>
        let host := host.setState .resetbus
        let (queue, heap) := queue.resetAllCmd host.heap
        let host : Host := { device := { host.device with admQueue := some queue }, heap := heap }
        (host.resetIoQueues host.device.registeredIoQ.toNat).map fun host => host.setState .running

def hwResetBus (host : Host) : Option Host := host.resetOutstandingCmds

/-- `BuildIo_SrbPnpHandler`. The capabilities it fills in are not modelled. -/
def buildIoSrbPnpHandler (host : Host) (address : Nat) (action : StorPnpAction) (adapterRequest : Bool) : Bool × Host :=
  if !adapterRequest then (false, host.completeSrb address .error)
  else match action with
    | .queryCapabilities => (false, host.completeSrb address .success)
    | .removeDevice => (false, host.shutdownController.teardown.completeSrb address .success)
    | .surpriseRemoval => (false, host.teardown.completeSrb address .success)
    | .other => (false, host.completeSrb address .error)

/-- `BuildIo_ScsiHandler`: there is one disk, at path, target and unit 0. -/
def buildIoScsiHandler (host : Host) (address : Nat) (srb : Srb) : Bool × Host :=
  if srb.pathId = 0 ∧ srb.targetId = 0 ∧ srb.lun = 0 then (true, host)
  else (false, host.completeSrb address .invalidLun)

/-- `HwBuildIo`; the first component tells whether the request goes on to `HwStartIo`. -/
def hwBuildIo (host : Host) (address : Nat) (srb : Srb) : Bool × Host :=
  let host := host.putSrbExt address (.init (some srb))
  let funcCode := (host.heap.srbext address).funcCode
  if funcCode = SrbFunction.abortCommand ∨ funcCode = SrbFunction.resetLogicalUnit ∨
      funcCode = SrbFunction.resetDevice ∨ funcCode = SrbFunction.resetBus then
    (false, host.completeSrb address .invalidRequest)
  else if funcCode = SrbFunction.power then (false, host.completeSrb address .invalidRequest)
  else if funcCode = SrbFunction.executeScsi then host.buildIoScsiHandler address srb
  else if funcCode = SrbFunction.ioControl then (true, host)
  else if funcCode = SrbFunction.pnp then host.buildIoSrbPnpHandler address srb.pnpAction srb.pnpAdapterRequest
  else (false, host.completeSrb address .invalidRequest)

def startIo (host : Host) (memory : Memory) (address processor logpage : Nat) : Option (SrbStatus × Host) :=
  let funcCode := (host.heap.srbext address).funcCode
  if funcCode = SrbFunction.executeScsi then host.startIoScsiHandler memory address processor
  else if funcCode = SrbFunction.ioControl then some (host.startIoIoctlHandler memory address logpage)
  else some (.invalidRequest, host)

/-- `HwStartIo`. A handler that did not leave the request pending has it completed here. -/
def hwStartIo (host : Host) (memory : Memory) (address processor logpage : Nat) : Option Host :=
  match host.startIo memory address processor logpage with
  | none => none
  | some (status, host) => some (if status ≠ .pending then host.completeSrb address status else host)

end Host

end SpcNvme
