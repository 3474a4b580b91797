import SpcNvme.SharedQueue
import SpcNvme.System

/-! A shared queue together with its controller, which fetches and posts between any
two steps of the calls in progress. -/

namespace SpcNvme

/-- `drafts` tells which extensions were written to since their last push; no step reads it. -/
structure SharedSystem where
  shared : SharedQueue
  device : Controller
  drafts : Nat → Bool

inductive SharedSystemEvent where
  | host (event : SharedEvent)
  | fetch
  | post (index : Nat) (reply : Reply)
deriving Repr

namespace SharedSystem

def initial (config : QueuePairConfig) (srbext : Nat → SrbExt) (slotCount : BitVec 3) (processors : Nat) : SharedSystem :=
  ⟨.initial config srbext slotCount processors, .fresh, fun _ => false⟩

def draftsAfter (state : SharedSystem) : SharedEvent → Nat → Bool
  | .prepare address _ => Function.update state.drafts address true
  | .holder =>
      match state.shared.subLock with
      | .push srbext _ => Function.update state.drafts srbext.address false
      | _ => state.drafts
  | _ => state.drafts

def post (state : SharedSystem) (index : Nat) (submission : Submission) (reply : Reply) : SharedSystem :=
  let queue := state.shared.queue
  let slot := state.device.answer submission reply
  { state with
    shared := { state.shared with queue := { queue with cplQ := Function.update queue.cplQ state.device.cqTail slot } }
    device := state.device.advance queue.depth index slot }

def step (state : SharedSystem) : SharedSystemEvent → Option SharedSystem
  | .host event =>
      (state.shared.step event).map fun shared => { state with shared := shared, drafts := state.draftsAfter event }
  | .fetch =>
      if state.device.sqHead = state.shared.queue.subDbl then none
      else some { state with device := state.device.fetch state.shared.queue }
  | .post index reply => state.device.pending[index]?.map fun submission => state.post index submission reply

end SharedSystem

end SpcNvme
