import SpcNvme.Adapter

/-! How the adapter comes to read its completion rings. A controller sends the message
of a queue when it posts an entry, `NvmeMsixISR` schedules the DPC of the queue, and the
DPC calls `CompleteCmd`. `IdentifyController` may call it as well while it waits. -/

namespace SpcNvme

/-- Whether `NvmeMsixISR` schedules the DPC of the message's queue. -/
def Host.nvmeMsixISR (host : Host) (msgid : Nat) : Bool :=
  match host.queue msgid with
  | none => false
  | some _ => host.device.isWorking

/-- `messages` were sent and not served yet, `dpcs` were scheduled and did not run yet.
Scheduling a DPC that is scheduled already changes nothing. -/
structure InterruptedAdapter where
  adapter : Adapter
  messages : Nat → Bool
  dpcs : Nat → Bool

/-- `spurious` is a message without an entry. -/
inductive InterruptEvent where
  | adapter (event : AdapterEvent)
  | spurious (msgid : Nat)
  | isr (msgid : Nat)
  | dpc (msgid : Nat)
  | poll

/-- A call of `CompleteCmd` begins. -/
def AdapterEvent.entersCompleteCmd : AdapterEvent → Bool
  | .advance _ (.enter _) => true
  | _ => false

namespace InterruptedAdapter

def initial (device : CNvmeDevice) (admConfig : Option QueuePairConfig) (ioConfig : Nat → Option QueuePairConfig)
    (srbext : Nat → SrbExt) (slotCount : BitVec 3) : InterruptedAdapter :=
  ⟨.initial device admConfig ioConfig srbext slotCount, fun _ => false, fun _ => false⟩

def messagesAfter (state : InterruptedAdapter) : AdapterEvent → Nat → Bool
  | .advance msgid (.post ..) => Function.update state.messages msgid true
  | _ => state.messages

/-- `QueueCplDpcRoutine`. The DPC object is part of the queue; for a queue that was deleted there is no step.
The routine takes no lock. Here the calls of `CompleteCmd` of one queue follow one another: a DPC that
is scheduled while one is in progress runs when it has returned. -/
def queueCplDpcRoutine (state : InterruptedAdapter) (msgid : Nat) : Option InterruptedAdapter :=
  (state.adapter.step (.advance msgid (.enter 0))).map fun adapter =>
    { state with adapter := adapter, dpcs := Function.update state.dpcs msgid false }

def step (state : InterruptedAdapter) : InterruptEvent → Option InterruptedAdapter
  | .adapter event =>
      if event.entersCompleteCmd then none
      else (state.adapter.step event).map fun adapter =>
        { state with adapter := adapter, messages := state.messagesAfter event }
  | .spurious msgid => some { state with messages := Function.update state.messages msgid true }
  | .isr msgid =>
      if state.messages msgid then
        some { state with
          messages := Function.update state.messages msgid false
          dpcs := if state.adapter.host.nvmeMsixISR msgid then Function.update state.dpcs msgid true else state.dpcs }
      else none
  | .dpc msgid => if state.dpcs msgid then state.queueCplDpcRoutine msgid else none
  | .poll => (state.adapter.step (.advance 0 (.enter 0))).map fun adapter => { state with adapter := adapter }

end InterruptedAdapter

end SpcNvme
