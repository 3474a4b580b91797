import SpcNvme.Config
import SpcNvme.Device

/-! The life of the queue objects: how `Setup` and `CreateIoQ` allocate them, how
`Teardown` frees them, and what the adapter's entry points make of that. A queue
object is known here by the number of its allocation. -/

namespace SpcNvme

/-- The members of `CNvmeDevice` that tell which queues exist. No function reads
the last two fields: `created` counts the allocations, `deleted` lists what was freed. -/
structure DeviceQueues where
  state : NvmeState
  params : QueueParams
  allocatedIoQ : BitVec 32
  registeredIoQ : BitVec 32
  admQueue : Option Nat
  ioQueue : Nat → Option Nat
  created : Nat
  deleted : List Nat

namespace DeviceQueues

/-- A device extension as StorPort hands it out, filled with zeroes. -/
def zeroed : DeviceQueues := ⟨.stop, ⟨0, 0, 0⟩, 0, 0, none, fun _ => none, 0, []⟩

def isWorking (queues : DeviceQueues) : Bool := queues.state == .running

def isStop (queues : DeviceQueues) : Bool := queues.state == .stop

def setState (queues : DeviceQueues) (state : NvmeState) : DeviceQueues := { queues with state := state }

def initVars (queues : DeviceQueues) : DeviceQueues :=
  { queues with
    state := .stop
    params := .initVars
    allocatedIoQ := 0
    registeredIoQ := 0
    admQueue := none
    ioQueue := fun _ => none }

/-- `CreateAdmQ`; an object whose own setup fails stays where it is. -/
def createAdmQ (queues : DeviceQueues) (initOK : Bool) : NtStatus × DeviceQueues :=
  match queues.admQueue with
  | some _ => (.alreadyInitialized, queues)
  | none =>
      (if initOK then .success else .memoryNotAllocated,
        { queues with admQueue := some queues.created, created := queues.created + 1 })

def deleteAdmQ (queues : DeviceQueues) : NtStatus × DeviceQueues :=
  match queues.admQueue with
  | none => (.memoryNotAllocated, queues)
  | some object => (.success, { queues with admQueue := none, deleted := queues.deleted ++ [object] })

/-- The loop of `CreateIoQ` for what `Setup` of each new object returns. Past the
end of the array there is no result. -/
def createIoQFrom (queues : DeviceQueues) (setups : Nat → NtStatus) (index : Nat) : Nat → Option (NtStatus × DeviceQueues)
  | 0 => some (.success, queues)
  | left + 1 =>
      if index ≥ maxIoQueueCount then none
      else match queues.ioQueue index with
        | some _ => queues.createIoQFrom setups (index + 1) left
        | none =>
            let object := queues.created
            let queues := { queues with created := queues.created + 1 }
            if !(setups index).ntSuccess then
              some (setups index, { queues with deleted := queues.deleted ++ [object] })
            else
              createIoQFrom
                { queues with
                  ioQueue := Function.update queues.ioQueue index (some object)
                  allocatedIoQ := queues.allocatedIoQ + 1 }
                setups (index + 1) left

def createIoQ (queues : DeviceQueues) (setups : Nat → NtStatus) : Option (NtStatus × DeviceQueues) :=
  queues.createIoQFrom setups 0 queues.params.desiredIoQ.toNat

/-- The loop of `DeleteIoQ`, which zeroes the array only at the end. -/
def deleteIoQUpTo (queues : DeviceQueues) : Nat → DeviceQueues
  | 0 => queues
  | count + 1 =>
      let queues := queues.deleteIoQUpTo count
      match queues.ioQueue count with
      | none => queues
      | some object =>
          { queues with allocatedIoQ := queues.allocatedIoQ - 1, deleted := queues.deleted ++ [object] }

def deleteIoQ (queues : DeviceQueues) : DeviceQueues :=
  { queues.deleteIoQUpTo maxIoQueueCount with ioQueue := fun _ => none }

def teardown (queues : DeviceQueues) : DeviceQueues :=
  if !queues.isWorking then queues
  else (queues.setState .teardown).deleteIoQ.deleteAdmQ.2.setState .stop

/-- `Setup`. The registers may not be mapped, and the admin queue may fail. -/
def setup (queues : DeviceQueues) (registry : Registry) (mqes : BitVec 16) (mapped admQueueOK : Bool) :
    NtStatus × DeviceQueues :=
  if queues.state ≠ .stop then (.invalidDeviceState, queues)
  else
    let queues := (queues.setState .setup).initVars
    let queues := { queues with params := queues.params.loadRegistry registry }
    if !mapped then (.notMappedData, queues)
    else
      let queues := { queues with params := queues.params.readCtrlCap mqes }
      let (status, queues) := queues.createAdmQ admQueueOK
      if !status.ntSuccess then (status, queues) else (.success, queues.setState .running)

/-- The queue to which `SubmitIoCmd` of a working device hands the command. There is
none where the remainder faults or the pointer is NULL. -/
def submitIoQueue (queues : DeviceQueues) (processor : Nat) : Option Nat :=
  if queues.registeredIoQ = 0 then none else queues.ioQueue (processor % queues.registeredIoQ.toNat)

/-- `ShutdownController`, when it returns. -/
def shutdownController (queues : DeviceQueues) : DeviceQueues :=
  if !queues.isStop && !queues.isWorking then queues else queues.setState .shutdown

end DeviceQueues

/-- An admin command either cannot be submitted, or the controller answers it. -/
inductive AdminReply where
  | refused (status : NtStatus) (failed : status.ntSuccess = false)
  | answered (status : NvmeCommandStatus) (dw0 : BitVec 32)

/-- The I/O queues that exist in the controller, by their identifier: the object
whose rings each was given. `paired` lists the objects that had both queues. -/
structure ControllerQueues where
  cq : Nat → Option Nat
  sq : Nat → Option Nat
  paired : List Nat

namespace NvmeCommandStatus

def isSuccess (status : NvmeCommandStatus) : Bool := status.sct == 0 && status.sc == 0

/-! The command specific errors of the commands that create and delete queues. -/

def completionQueueInvalid : NvmeCommandStatus := ⟨false, 0x00, 1⟩
def invalidQueueIdentifier : NvmeCommandStatus := ⟨false, 0x01, 1⟩
def invalidQueueDeletion : NvmeCommandStatus := ⟨false, 0x0C, 1⟩

end NvmeCommandStatus

namespace ControllerQueues

def none : ControllerQueues := ⟨fun _ => .none, fun _ => .none, []⟩

/-- Disabling the controller, or taking its power away, deletes all I/O queues. -/
def reset (controller : ControllerQueues) : ControllerQueues :=
  { controller with cq := fun _ => .none, sq := fun _ => .none }

/-! Each command with the status the controller would like to answer. It may fail
as it likes, but does not accept what it must refuse. -/

def createCq (controller : ControllerQueues) (qid object : Nat) (status : NvmeCommandStatus) :
    NvmeCommandStatus × ControllerQueues :=
  if !status.isSuccess then (status, controller)
  else if (controller.cq qid).isSome then (.invalidQueueIdentifier, controller)
  else (status, { controller with cq := Function.update controller.cq qid (some object) })

def createSq (controller : ControllerQueues) (qid object : Nat) (status : NvmeCommandStatus) :
    NvmeCommandStatus × ControllerQueues :=
  if !status.isSuccess then (status, controller)
  else if (controller.sq qid).isSome then (.invalidQueueIdentifier, controller)
  else if (controller.cq qid).isNone then (.completionQueueInvalid, controller)
  else (status, {
    cq := controller.cq
    sq := Function.update controller.sq qid (some object)
    paired := if controller.cq qid = some object then controller.paired ++ [object] else controller.paired })

def deleteSq (controller : ControllerQueues) (qid : Nat) (status : NvmeCommandStatus) :
    NvmeCommandStatus × ControllerQueues :=
  if !status.isSuccess then (status, controller)
  else if (controller.sq qid).isNone then (.invalidQueueIdentifier, controller)
  else (status, { controller with sq := Function.update controller.sq qid .none })

def deleteCq (controller : ControllerQueues) (qid : Nat) (status : NvmeCommandStatus) :
    NvmeCommandStatus × ControllerQueues :=
  if !status.isSuccess then (status, controller)
  else if (controller.cq qid).isNone then (.invalidQueueIdentifier, controller)
  else if (controller.sq qid).isSome then (.invalidQueueDeletion, controller)
  else (status, { controller with cq := Function.update controller.cq qid .none })

end ControllerQueues

/-- What a waiting function knows of its command, and what became of the controller. -/
inductive CommandResult where
  | aborted
  | failed (controller : ControllerQueues)
  | succeeded (controller : ControllerQueues)

/-- Submit a command and wait for it: a final status counts as success exactly if
`NvmeToSrbStatus` says so. -/
def AdminReply.command (reply : AdminReply)
    (execute : NvmeCommandStatus → NvmeCommandStatus × ControllerQueues) : CommandResult :=
  match reply with
  | refused .. => .aborted
  | answered status _ =>
      let (status, controller) := execute status
      if nvmeToSrbStatus status = .success then .succeeded controller else .failed controller

/-- The replies to the two commands of each turn of a loop over the queues. -/
abbrev PairReplies := Nat → AdminReply × AdminReply

structure Driver where
  queues : DeviceQueues
  controller : ControllerQueues

namespace Driver

def isWorking (driver : Driver) : Bool := driver.queues.isWorking

def teardown (driver : Driver) : Driver := { driver with queues := driver.queues.teardown }

/-- What `InitController` returns, and whether it took `CC.EN` down on its way. -/
structure InitReply where
  status : NtStatus
  reset : Bool

def initController (driver : Driver) (reply : InitReply) : NtStatus × Driver :=
  if !driver.isWorking then (.invalidDeviceState, driver)
  else (reply.status, {
    queues := { driver.queues with registeredIoQ := 0 }
    controller := if reply.reset then driver.controller.reset else driver.controller })

/-- `SetNumberOfIoQueue`; the answer is the low word of `DW0`, plus one. -/
def setNumberOfIoQueue (driver : Driver) (reply : AdminReply) : NtStatus × Driver :=
  if !driver.isWorking then (.invalidDeviceState, driver)
  else match reply with
    | .refused status _ => (status, driver)
    | .answered status dw0 =>
        if nvmeToSrbStatus status = .success then
          let params := { driver.queues.params with desiredIoQ := 0xFFFF &&& (dw0 + 1) }
          (.success, { driver with queues := { driver.queues with params := params } })
        else (.unsuccessful, driver)

def createIoQ (driver : Driver) (setups : Nat → NtStatus) : Option (NtStatus × Driver) :=
  (driver.queues.createIoQ setups).map fun (status, queues) => (status, { driver with queues := queues })

def createIoQueues (driver : Driver) (force : Bool) (reply : AdminReply) (setups : Nat → NtStatus) :
    Option (NtStatus × Driver) :=
  let driver := if force then { driver with queues := driver.queues.deleteIoQ } else driver
  if driver.queues.params.desiredIoQ = 0 then
    let (status, driver) := driver.setNumberOfIoQueue reply
    if !status.ntSuccess then some (status, driver) else driver.createIoQ setups
  else driver.createIoQ setups

def withController (driver : Driver) (controller : ControllerQueues) : Driver := { driver with controller := controller }

def countPair (driver : Driver) : Driver :=
  { driver with queues := { driver.queues with registeredIoQ := driver.queues.registeredIoQ + 1 } }

/-- The loop of `RegisterIoQueues`. Where the controller refused a command, the
status is still the one of its submission. -/
def registerFrom (driver : Driver) (replies : PairReplies) (index : Nat) : Nat → Option (NtStatus × Driver)
  | 0 => some (.success, driver)
  | left + 1 =>
      if index ≥ maxIoQueueCount then none
      else match driver.queues.ioQueue index with
        | none => none
        | some object =>
            match (replies index).1.command (driver.controller.createCq (index + 1) object) with
            | .aborted => some (.requestAborted, driver)
            | .failed controller => some (.success, driver.withController controller)
            | .succeeded controller =>
                let driver := driver.withController controller
                match (replies index).2.command (driver.controller.createSq (index + 1) object) with
                | .aborted => some (.requestAborted, driver)
                | .failed controller => some (.success, driver.withController controller)
                | .succeeded controller =>
                    (driver.withController controller).countPair.registerFrom replies (index + 1) left

/-- The `END` of the two loops. -/
def registrationStatus (driver : Driver) (status : NtStatus) : NtStatus :=
  if driver.queues.registeredIoQ = driver.queues.params.desiredIoQ then .success else status

def registerIoQueues (driver : Driver) (replies : PairReplies) : Option (NtStatus × Driver) :=
  let looped := if !driver.isWorking then some (.invalidDeviceState, driver)
    else driver.registerFrom replies 0 driver.queues.allocatedIoQ.toNat
  looped.map fun (status, driver) => (driver.registrationStatus status, driver)

/-- How `END` completes the extension it was passed. -/
def registrationSrbStatus (driver : Driver) : SrbStatus :=
  if driver.queues.registeredIoQ = driver.queues.params.desiredIoQ then .success else .error

/-- `RegisterIoQueues` with what it completes the passed extension with, if one was passed. -/
def registerIoQueuesFor (driver : Driver) (passed : Bool) (replies : PairReplies) :
    Option (NtStatus × Option SrbStatus × Driver) :=
  (driver.registerIoQueues replies).map fun (status, driver) =>
    (status, if passed then some driver.registrationSrbStatus else none, driver)

/-- The loop of `UnregisterIoQueues`: the submission queue first, then the
completion queue, and the counter goes up as in `RegisterIoQueues`. -/
def unregisterFrom (driver : Driver) (replies : PairReplies) (index : Nat) (status : NtStatus) :
    Nat → Option (NtStatus × Driver)
  | 0 => some (status, driver)
  | left + 1 =>
      if index ≥ maxIoQueueCount then none
      else match driver.queues.ioQueue index with
        | none => none
        | some _ =>
            match (replies index).1.command (driver.controller.deleteSq (index + 1)) with
            | .aborted => some (.requestAborted, driver)
            | .failed controller => some (.success, driver.withController controller)
            | .succeeded controller =>
                let driver := driver.withController controller
                match (replies index).2.command (driver.controller.deleteCq (index + 1)) with
                | .aborted => some (.requestAborted, driver)
                | .failed controller => some (.success, driver.withController controller)
                | .succeeded controller =>
                    (driver.withController controller).countPair.unregisterFrom replies (index + 1) .success left

def unregisterIoQueues (driver : Driver) (replies : PairReplies) : Option (NtStatus × Driver) :=
  let looped := if !driver.isWorking then some (.invalidDeviceState, driver)
    else driver.unregisterFrom replies 0 .unsuccessful driver.queues.params.desiredIoQ.toNat
  looped.map fun (status, driver) => (driver.registrationStatus status, driver)

/-- What decides the way through `HwFindAdapter`; `init` is missing where
`InitController` stops the system. -/
structure FindAdapterInput where
  registry : Registry
  mqes : BitVec 16
  mapped : Bool
  admQueueOK : Bool
  init : Option InitReply
  identify : NtStatus

/-- `HwFindAdapter`; the first result tells `SP_RETURN_FOUND` from `SP_RETURN_ERROR`. -/
def hwFindAdapter (driver : Driver) (input : FindAdapterInput) : Option (Bool × Driver) :=
  let (status, queues) := driver.queues.setup input.registry input.mqes input.mapped input.admQueueOK
  let driver := { driver with queues := queues }
  if !status.ntSuccess then some (false, driver.teardown)
  else match input.init with
    | none => none
    | some reply =>
        let (status, driver) := driver.initController reply
        if !status.ntSuccess then some (false, driver.teardown)
        else if !input.identify.ntSuccess then some (false, driver.teardown)
        else some (true, driver)

/-- What decides the way through `HwPassiveInitialize`. -/
structure PassiveInitializeInput where
  stage1 : NtStatus
  stage2 : NtStatus
  queueCount : AdminReply
  setups : Nat → NtStatus
  replies : PairReplies

def hwPassiveInitialize (driver : Driver) (input : PassiveInitializeInput) : Option (Bool × Driver) :=
  if !driver.isWorking then some (false, driver)
  else if !input.stage1.ntSuccess then some (false, driver)
  else if !input.stage2.ntSuccess then some (false, driver)
  else match driver.createIoQueues false input.queueCount input.setups with
    | none => none
    | some (status, driver) =>
        if !status.ntSuccess then some (false, driver)
        else match driver.registerIoQueues input.replies with
          | none => none
          | some (status, driver) => some (status.ntSuccess, driver)

/-- The functions that change which queues exist, on either side, in any order.
`powerCycle` takes the controller's power away and restarts the adapter, which
identifies the controller again and creates no queue. -/
inductive QueueCall where
  | setup (registry : Registry) (mqes : BitVec 16) (mapped admQueueOK : Bool)
  | initController (reply : InitReply)
  | createIoQueues (force : Bool) (reply : AdminReply) (setups : Nat → NtStatus)
  | registerIoQueues (replies : PairReplies)
  | unregisterIoQueues (replies : PairReplies)
  | teardown
  | powerCycle

def call (driver : Driver) : QueueCall → Option Driver
  | .setup registry mqes mapped admQueueOK =>
      some { driver with queues := (driver.queues.setup registry mqes mapped admQueueOK).2 }
  | .initController reply => some (driver.initController reply).2
  | .createIoQueues force reply setups => (driver.createIoQueues force reply setups).map Prod.snd
  | .registerIoQueues replies => (driver.registerIoQueues replies).map Prod.snd
  | .unregisterIoQueues replies => (driver.unregisterIoQueues replies).map Prod.snd
  | .teardown => some driver.teardown
  | .powerCycle => some (driver.withController driver.controller.reset)

end Driver

/-- How far StorPort has come with the adapter: it initialises one that was found,
and delivers I/O to one that was initialised. -/
inductive AdapterPhase where
  | idle
  | found
  | started
deriving DecidableEq, Repr

/-- `resetting` holds between the two state changes of `ResetOutstandingCmds`. -/
structure Lifecycle where
  driver : Driver
  phase : AdapterPhase
  resetting : Bool

/-- The entry points that may change the queues. `surpriseRemoval` comes as a PnP
request or through `HwAdapterControl`, and `powerCycle` is a power-down followed
by `ScsiRestartAdapter`, which creates nothing. -/
inductive LifecycleEvent where
  | findAdapter (input : Driver.FindAdapterInput)
  | passiveInitialize (input : Driver.PassiveInitializeInput)
  | removeDevice (bugCheck : Bool)
  | surpriseRemoval
  | resetBusBegin
  | resetBusEnd
  | powerCycle

namespace Lifecycle

def initial : Lifecycle := ⟨⟨.zeroed, .none⟩, .idle, false⟩

def withQueues (life : Lifecycle) (queues : DeviceQueues) : Lifecycle :=
  { life with driver := { life.driver with queues := queues } }

def queues (life : Lifecycle) : DeviceQueues := life.driver.queues

/-- One step, if it is enabled; a call that stops the system or leaves the array
of queues has no next state. -/
def step (life : Lifecycle) : LifecycleEvent → Option Lifecycle
  | .findAdapter input => (life.driver.hwFindAdapter input).map fun (found, driver) =>
      { life with driver := driver, phase := if found then .found else .idle }
  | .passiveInitialize input =>
      if life.phase = .found then
        (life.driver.hwPassiveInitialize input).map fun (started, driver) =>
          { life with driver := driver, phase := if started then .started else .idle }
      else none
  | .removeDevice bugCheck =>
      if bugCheck then none else some (life.withQueues life.queues.shutdownController.teardown)
  | .surpriseRemoval => some (life.withQueues life.queues.teardown)
  | .resetBusBegin =>
      if life.resetting then none
      else if !life.queues.isWorking || life.queues.admQueue.isNone then some life
      else some { life.withQueues (life.queues.setState .resetbus) with resetting := true }
  | .resetBusEnd =>
      if life.resetting then some { life.withQueues (life.queues.setState .running) with resetting := false } else none
  | .powerCycle => some { life with driver := life.driver.withController life.driver.controller.reset }

end Lifecycle

end SpcNvme
