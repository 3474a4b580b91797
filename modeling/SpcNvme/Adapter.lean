import SpcNvme.System
import SpcNvme.Miniport

/-! The whole adapter: the device extension with all its queue pairs, the
controller behind each of them, and StorPort, which delivers requests and calls
the entry points. Steps of different queues interleave freely, and a bus reset
may also come between two iterations of a completion loop. -/

namespace SpcNvme

namespace Host

/-- The queue of a message: `(msgid == 0)? AdmQueue : IoQueue[msgid-1]`. -/
def queue (host : Host) (msgid : Nat) : Option CNvmeQueue :=
  if msgid = 0 then host.device.admQueue else host.device.ioQueue (msgid - 1)

def setQueue (host : Host) (msgid : Nat) (queue : CNvmeQueue) : Host :=
  if msgid = 0 then { host with device := { host.device with admQueue := some queue } }
  else
    let ioQueue := Function.update host.device.ioQueue (msgid - 1) (some queue)
    { host with device := { host.device with ioQueue := ioQueue } }

end Host

/-- `waiting` are the extensions whose request `HwBuildIo` passed on and
`HwStartIo` has not seen yet. -/
structure Adapter where
  host : Host
  loops : Nat → Option CompleteLoop
  controllers : Nat → Controller
  waiting : Nat → Bool

/-- `command` is a waiting function of the driver that submits an admin command;
`advance` is a step of one queue pair. -/
inductive AdapterEvent where
  | buildIo (address : Nat) (srb : Srb)
  | startIo (address processor logpage : Nat) (memory : Memory)
  | command (address : Nat) (cmd : NvmeCommand)
  | resetBus
  | surpriseRemoval
  | advance (msgid : Nat) (event : Event)

/-- The steps a queue pair takes by itself: the controller's, and those of `CompleteCmd`. -/
def Event.ofQueuePair : Event → Bool
  | fetch | post .. | enter _ | iterate | leave => true
  | submit .. | reset | scribble .. => false

namespace Adapter

/-- An adapter whose queues were just set up. The memory of the extensions may
hold anything, but no request lives there yet. -/
def initial (device : CNvmeDevice) (admConfig : Option QueuePairConfig) (ioConfig : Nat → Option QueuePairConfig)
    (srbext : Nat → SrbExt) (slotCount : BitVec 3) : Adapter where
  host := {
    device := { device with
      admQueue := admConfig.map .setup
      ioQueue := fun index => (ioConfig index).map .setup }
    heap := ⟨fun address => { srbext address with initOK := false, notified := 0 }, slotCount, []⟩ }
  loops := fun _ => none
  controllers := fun _ => .fresh
  waiting := fun _ => false

/-- The last user of the extension is done with it: StorPort has its request
back, or the waiting function has seen the status. -/
def idle (adapter : Adapter) (address : Nat) : Bool :=
  let srbext := adapter.host.heap.srbext address
  !srbext.initOK || decide (1 ≤ srbext.notified) || (srbext.srb.isNone && decide (srbext.srbStatus ≠ .pending))

def queuePair (adapter : Adapter) (msgid : Nat) (queue : CNvmeQueue) : System :=
  ⟨queue, adapter.loops msgid, adapter.controllers msgid, adapter.host.heap⟩

def withQueuePair (adapter : Adapter) (msgid : Nat) (system : System) : Adapter :=
  { adapter with
    host := { adapter.host.setQueue msgid system.queue with heap := system.heap }
    loops := Function.update adapter.loops msgid system.loop
    controllers := Function.update adapter.controllers msgid system.device }

def buildIo (adapter : Adapter) (address : Nat) (srb : Srb) : Adapter :=
  let (needStartIo, host) := adapter.host.hwBuildIo address srb
  { adapter with host := host, waiting := Function.update adapter.waiting address needStartIo }

/-- A waiting function submits a command in an extension without a request. It
returns at once if that fails, and the extension is freed. -/
def command (adapter : Adapter) (address : Nat) (cmd : NvmeCommand) : Adapter :=
  let (status, host) := (adapter.host.putSrbExt address { SrbExt.init none with nvmeCmd := cmd }).submitAdmCmd address
  let freed := { host.heap.srbext address with initOK := false }
  { adapter with host := if status.ntSuccess then host else host.putSrbExt address freed }

def step (adapter : Adapter) : AdapterEvent → Option Adapter
  | .buildIo address srb => if adapter.idle address then some (adapter.buildIo address srb) else none
  | .startIo address processor logpage memory =>
      if adapter.waiting address then
        (adapter.host.hwStartIo memory address processor logpage).map fun host =>
          { adapter with host := host, waiting := Function.update adapter.waiting address false }
      else none
  | .command address cmd => if adapter.idle address then some (adapter.command address cmd) else none
  | .resetBus => adapter.host.hwResetBus.map fun host => { adapter with host := host }
  | .surpriseRemoval => some { adapter with host := adapter.host.teardown }
  | .advance msgid event =>
      match adapter.host.queue msgid with
      | none => none
      | some queue =>
          if event.ofQueuePair then
            ((adapter.queuePair msgid queue).step event).map (adapter.withQueuePair msgid)
          else none

end Adapter

end SpcNvme
