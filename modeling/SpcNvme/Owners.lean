import SpcNvme.SharedQueue

/-! A shared queue together with the owners of the extensions: StorPort, which
delivers a request again once it was notified, and the threads that wait for
`SrbStatus` to leave SRB_STATUS_PENDING and then free or initialise their extension
again. An extension goes to the driver with `Init` and back with the publication
of its final status. No modelled function knows its stage. -/

namespace SpcNvme

/-- With its owner; initialised and not in a queue; or taken by `SubmitCmd`. -/
inductive Stage where
  | owner
  | prepared
  | submitted
deriving DecidableEq, Repr

/-- The extension a step of `CompleteSrb` hands back: the store to `SrbStatus` does
if there is no SRB, and otherwise the notification. -/
def Heap.publishes (heap : Heap) (srbext : SrbExtPtr) : CompleteSrbPc → Option Nat
  | .store => if (heap.srbext srbext.address).srb.isNone then some srbext.address else none
  | .test => none
  | .notify => some srbext.address

namespace SubLock

/-- The extension the next step of the holder reads or writes. -/
def touches : SubLock → Option Nat
  | .release old _ _ _ => some old.address
  | .resetSrb _ srbext _ => some srbext.address
  | .write srbext _ => some srbext.address
  | _ => none

def publishes (heap : Heap) : SubLock → Option Nat
  | .release old pc _ _ => heap.publishes old pc
  | .resetSrb _ srbext pc => heap.publishes srbext pc
  | _ => none

/-- The extension the holder completes, and the same after the store to `SrbStatus`. -/
def finishing : SubLock → Option Nat
  | .release old _ _ _ => some old.address
  | .resetSrb _ srbext _ => some srbext.address
  | _ => none

def stored : SubLock → Option Nat
  | .release old .test _ _ | .release old .notify _ _ => some old.address
  | .resetSrb _ srbext .test | .resetSrb _ srbext .notify => some srbext.address
  | _ => none

/-- The extension the holder is about to push, and the one it has pushed and will write to. -/
def submitting : SubLock → Option Nat
  | .push srbext _ | .pop srbext _ | .release _ _ srbext _ | .pushAgain srbext _ => some srbext.address
  | _ => none

def writing : SubLock → Option Nat
  | .write srbext _ => some srbext.address
  | _ => none

end SubLock

namespace CompletePc

def touches : CompletePc → Option Nat
  | .copy srbext | .callback srbext | .status srbext | .complete srbext _ _ | .cleanUp srbext => some srbext.address
  | _ => none

def publishes (heap : Heap) : CompletePc → Option Nat
  | .callback srbext => if (heap.srbext srbext.address).completesItself then some srbext.address else none
  | .complete srbext pc _ => heap.publishes srbext pc
  | _ => none

end CompletePc

def SharedQueue.touches (state : SharedQueue) : SharedEvent → Option Nat
  | .submit address _ => some address
  | .holder => state.subLock.touches
  | .completer processor => (state.calls processor).bind (·.pc.touches)
  | _ => none

structure Handover where
  shared : SharedQueue
  stage : Nat → Stage

/-- `init` is `Init` and what the driver fills in before it submits, `giveUp` the end
of a request that did not get into the queue. -/
inductive HandoverEvent where
  | init (address : Nat) (record : SrbExt)
  | giveUp (address : Nat)
  | queue (event : SharedEvent)
deriving Repr

namespace Handover

def initial (config : QueuePairConfig) (srbext : Nat → SrbExt) (slotCount : BitVec 3) (processors : Nat) : Handover :=
  ⟨.initial config srbext slotCount processors, fun _ => .owner⟩

/-- Nobody but the queue writes to a submitted extension, and only an initialised
one that is not in the queue is submitted. -/
def permits (state : Handover) : SharedEvent → Bool
  | .prepare address _ => decide (state.stage address ≠ .submitted)
  | .submit address _ => decide (state.stage address = .prepared)
  | _ => true

def returns (state : Handover) : Option Nat → Nat → Stage
  | none => state.stage
  | some address => Function.update state.stage address .owner

def stageAfter (state : Handover) (event : SharedEvent) (after : SharedQueue) : Nat → Stage :=
  match event with
  | .submit address _ =>
      if after.subLock = .free then state.stage else Function.update state.stage address .submitted
  | .holder =>
      match state.shared.subLock with
      | .push srbext _ =>
          if after.subLock = .free then Function.update state.stage srbext.address .prepared else state.stage
      | lock => state.returns (lock.publishes state.shared.heap)
  | .completer processor => state.returns ((state.shared.calls processor).bind (·.pc.publishes state.shared.heap))
  | _ => state.stage

def step (state : Handover) : HandoverEvent → Option Handover
  | .init address record =>
      if state.stage address = .owner then
        some {
          shared := { state.shared with heap := state.shared.heap.put address record }
          stage := Function.update state.stage address .prepared }
      else none
  | .giveUp address =>
      if state.stage address = .prepared then
        some { state with stage := Function.update state.stage address .owner }
      else none
  | .queue event =>
      if state.permits event then
        (state.shared.step event).map fun after => ⟨after, state.stageAfter event after⟩
      else none

def touches (state : Handover) : HandoverEvent → Option Nat
  | .queue event => if state.permits event then state.shared.touches event else none
  | _ => none

/-- The step touches no extension that is back with its owner. -/
def Respects (state : Handover) (event : HandoverEvent) : Prop :=
  ∀ address ∈ state.touches event, state.stage address ≠ .owner

instance (state : Handover) (event : HandoverEvent) : Decidable (state.Respects event) :=
  inferInstanceAs (Decidable (∀ address ∈ state.touches event, state.stage address ≠ .owner))

end Handover

end SpcNvme
