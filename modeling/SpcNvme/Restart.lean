import SpcNvme.Device

/-! The restart of the adapter, which runs in three callbacks at three times:
`RestartController`, the DPC it issues, and the work item that the DPC queues. Any
other function may change the state of the device between them, and within the work
item. A worker object is known here by its number. -/

namespace SpcNvme

/-- How far a restart has come: what it waits for, and what the work item has learned. -/
inductive RestartPhase where
  | idle
  | dpcIssued
  | workQueued
  | inStage1
  | inStage2 (first : NtStatus)
  | resuming (first second : NtStatus)
deriving DecidableEq, Repr

/-- A call of `StorPortResume`, with what the two stages returned and the state then. -/
structure Resume where
  first : NtStatus
  second : NtStatus
  state : NvmeState
deriving DecidableEq, Repr

/-- `State` and `RestartWorker` of the device. No function reads the last four fields: the
pauses, the resumes, the worker objects that were initialised and those that were freed. -/
structure RestartDevice where
  state : NvmeState
  restartWorker : Option Nat
  phase : RestartPhase
  paused : Nat
  resumed : List Resume
  workers : Nat
  freed : List Nat
deriving DecidableEq, Repr

namespace RestartDevice

def initial (state : NvmeState) : RestartDevice := ⟨state, none, .idle, 0, [], 0, []⟩

def isWorking (device : RestartDevice) : Bool := device.state == .running

def storPortPause (device : RestartDevice) : RestartDevice := { device with paused := device.paused + 1 }

def storPortResume (device : RestartDevice) (first second : NtStatus) : RestartDevice :=
  { device with resumed := device.resumed ++ [⟨first, second, device.state⟩] }

def storPortInitializeWorker (device : RestartDevice) (initialized : Bool) : RestartDevice :=
  if initialized then { device with restartWorker := some device.workers, workers := device.workers + 1 } else device

/-- `StorPortFreeWorker`, which is passed the address of `RestartWorker`. It is not known here
whether it then frees the object that `RestartWorker` points to. -/
def storPortFreeWorker (device : RestartDevice) (frees : Bool) : RestartDevice :=
  match device.restartWorker with
  | none => device
  | some worker => if frees then { device with freed := device.freed ++ [worker] } else device

/-- `RestartController`, for what `StorPortIssueDpc` returns. -/
def restartController (device : RestartDevice) (ok : Bool) : NtStatus × RestartDevice :=
  if !device.isWorking then (.invalidDeviceState, device)
  else
    let device := device.storPortPause
    (.success, if ok then { device with phase := .dpcIssued } else device)

/-- `RestartAdapterDpc`, for what StorPort makes of its two calls. -/
def restartAdapterDpc (device : RestartDevice) (initialized queued : Bool) : RestartDevice :=
  if !device.isWorking then { device with phase := .idle }
  else
    let device := device.storPortInitializeWorker initialized
    { device with phase := if queued then .workQueued else .idle }

/-! `RestartAdapterWorker`, cut where the state may change. -/

def restartAdapterWorker (device : RestartDevice) : RestartDevice :=
  { device with phase := if !device.isWorking then .idle else .inStage1 }

def restartAdapterWorkerEnd (device : RestartDevice) (frees : Bool) (first second : NtStatus) : RestartDevice :=
  let device := (device.storPortResume first second).storPortFreeWorker frees
  { device with restartWorker := none, phase := .idle }

end RestartDevice

inductive RestartEvent where
  | setState (state : NvmeState)
  | restartController (ok : Bool)
  | restartAdapterDpc (initialized queued : Bool)
  | restartAdapterWorker
  | initNvmeStage1 (status : NtStatus)
  | initNvmeStage2 (status : NtStatus)
  | resume
deriving DecidableEq, Repr

namespace RestartDevice

/-- One step, if it is enabled. StorPort restarts an adapter again when the callbacks of
the last restart have returned, and queues no work item without a worker object. -/
def step (frees : Bool) (device : RestartDevice) : RestartEvent → Option RestartDevice
  | .setState state => some { device with state := state }
  | .restartController ok => if device.phase = .idle then some (device.restartController ok).2 else none
  | .restartAdapterDpc initialized queued =>
      if device.phase = .dpcIssued ∧ (queued = true → (device.storPortInitializeWorker initialized).restartWorker ≠ none) then
        some (device.restartAdapterDpc initialized queued)
      else none
  | .restartAdapterWorker => if device.phase = .workQueued then some device.restartAdapterWorker else none
  | .initNvmeStage1 status => if device.phase = .inStage1 then some { device with phase := .inStage2 status } else none
  | .initNvmeStage2 status =>
      match device.phase with
      | .inStage2 first => some { device with phase := .resuming first status }
      | _ => none
  | .resume =>
      match device.phase with
      | .resuming first second => some (device.restartAdapterWorkerEnd frees first second)
      | _ => none

end RestartDevice

end SpcNvme
