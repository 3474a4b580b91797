import SpcNvme.Lib.Machine
import SpcNvme.Queue

/-! A queue pair together with the controller on the other side of its rings.
Host and controller take steps in any order; a completion call is entered, runs
one iteration of its loop per step, and is left when the loop ends, so that the
controller may post and the host may submit in between. -/

namespace SpcNvme

/-- The controller's view of one queue pair. `fetched` and `posted` record its past. -/
structure Controller where
  sqHead : Nat
  pending : List Submission
  cqTail : Nat
  cqPhase : Bool
  fetched : Nat
  posted : List CplSlot

structure Reply where
  dw0 : BitVec 32
  sct : BitVec 3
  sc : BitVec 8
deriving DecidableEq, Repr

namespace Controller

def fresh : Controller := ⟨0, [], 0, true, 0, []⟩

def fetch (device : Controller) (queue : CNvmeQueue) : Controller :=
  { device with
    sqHead := (device.sqHead + 1) % queue.depth
    pending := device.pending ++ [queue.subQ device.sqHead]
    fetched := device.fetched + 1 }

def answer (device : Controller) (submission : Submission) (reply : Reply) : CplSlot where
  entry := {
    dw0 := reply.dw0
    sqhd := BitVec.ofNat 16 device.sqHead
    cid := submission.cmd.cid
    status := ⟨device.cqPhase, reply.sc, reply.sct⟩ }
  answers := some submission.srbext.submission

def advance (device : Controller) (depth index : Nat) (slot : CplSlot) : Controller :=
  { device with
    pending := device.pending.eraseIdx index
    cqTail := (device.cqTail + 1) % depth
    cqPhase := if (device.cqTail + 1) % depth = 0 then !device.cqPhase else device.cqPhase
    posted := device.posted ++ [slot] }

end Controller

structure System where
  queue : CNvmeQueue
  loop : Option CompleteLoop
  device : Controller
  heap : Heap

/-- `submit` carries the extension as its caller prepared it. `scribble` is a
controller that writes whatever it likes into a completion slot. -/
inductive Event where
  | submit (address : Nat) (record : SrbExt) (cmd : NvmeCommand)
  | fetch
  | post (index : Nat) (reply : Reply)
  | enter (maxCount : Nat)
  | iterate
  | leave
  | reset
  | scribble (slot : Nat) (entry : NvmeCompletionEntry)
deriving Repr

namespace Event

def conforming : Event → Bool
  | scribble .. => false
  | _ => true

def withoutReset : Event → Bool
  | reset => false
  | _ => true

end Event

namespace System

/-- A queue that was just set up, with any content in the extensions' memory. -/
def initial (config : QueuePairConfig) (srbext : Nat → SrbExt) (slotCount : BitVec 3) : System :=
  ⟨.setup config, none, .fresh, ⟨srbext, slotCount, []⟩⟩

def nextSlot (state : System) (loop : CompleteLoop) : CplSlot := state.queue.cplQ loop.cpl

def submit (state : System) (address : Nat) (record : SrbExt) (cmd : NvmeCommand) : System :=
  let (_, queue, heap) := state.queue.submitCmd (state.heap.put address record) address cmd
  { state with queue := queue, heap := heap }

def post (state : System) (index : Nat) (submission : Submission) (reply : Reply) : System :=
  let slot := state.device.answer submission reply
  { state with
    queue := { state.queue with cplQ := Function.update state.queue.cplQ state.device.cqTail slot }
    device := state.device.advance state.queue.depth index slot }

def iterate (state : System) (loop : CompleteLoop) : System :=
  let (queue, heap, loop) := state.queue.completeOne state.heap loop
  { state with queue := queue, loop := some loop, heap := heap }

def reset (state : System) : System :=
  let (queue, heap) := state.queue.resetAllCmd state.heap
  { state with queue := queue, heap := heap }

/-- One step, if it is enabled. The controller fetches only up to the tail
doorbell, and a reset does not interrupt a completion call. -/
def step (state : System) : Event → Option System
  | .submit address record cmd => some (state.submit address record cmd)
  | .fetch =>
      if state.device.sqHead = state.queue.subDbl then none
      else some { state with device := state.device.fetch state.queue }
  | .post index reply => state.device.pending[index]?.map fun submission => state.post index submission reply
  | .enter maxCount =>
      match state.loop with
      | none => some { state with loop := some (state.queue.enterCompleteCmd maxCount) }
      | some _ => none
  | .iterate =>
      match state.loop with
      | none => none
      | some loop => if state.queue.loopContinues loop then some (state.iterate loop) else none
  | .leave =>
      match state.loop with
      | none => none
      | some loop =>
          if state.queue.loopContinues loop then none
          else some { state with queue := state.queue.leaveCompleteCmd loop, loop := none }
  | .reset =>
      match state.loop with
      | none => some state.reset
      | some _ => none
  | .scribble slot entry =>
      let cplQ := Function.update state.queue.cplQ slot ⟨entry, none⟩
      some { state with queue := { state.queue with cplQ := cplQ } }

end System

end SpcNvme
