import SpcNvme.Pool

/-! The adapter with the iterations of `CompleteCmd` in pieces. The callback, the
`CompleteSrb` after it and `CleanUp` are steps of their own, so that StorPort, which
delivers a request again once it was notified, the waiting functions and the other
queues may come in between. -/

namespace SpcNvme

namespace CNvmeQueue

/-- An iteration up to its `Pop`. -/
def popOne (queue : CNvmeQueue) (loop : CompleteLoop) : Option SrbExtPtr × CNvmeQueue :=
  let slot := queue.cplQ loop.cpl
  let (_, srbext, history) := queue.history.pop slot.entry.cid.toNat loop.srbext
  let consumed := queue.trace.consumed ++ [⟨slot, srbext⟩]
  (srbext, { queue with
    subHead := slot.entry.sqhd.toNat
    history := history
    trace := { queue.trace with consumed := consumed } })

/-- The iteration from `InterlockedDecrement` on, and without that if nothing was popped. -/
def passOne (queue : CNvmeQueue) (loop : CompleteLoop) (popped : Option SrbExtPtr) : CNvmeQueue × CompleteLoop :=
  let queue := match popped with
    | some _ => { queue with inflightCmds := longWrap (queue.inflightCmds - 1) }
    | none => queue
  let queue := queue.updateCplHeadAndPhase
  (queue, { loop with cpl := queue.cplHead, srbext := popped, updateCount := loop.updateCount + 1 })

end CNvmeQueue

namespace Heap

/-- The copy of the completion entry, and the callback. -/
def callBack (heap : Heap) (srbext : SrbExtPtr) (cpl : NvmeCompletionEntry) : Heap :=
  let copied := heap.put srbext.address { heap.srbext srbext.address with nvmeCpl := cpl }
  runCompletionCB copied srbext.address (some srbext.submission)

def callBackOps (heap : Heap) (srbext : SrbExtPtr) (cpl : NvmeCompletionEntry) : List PoolOp :=
  runCompletionCBOps (heap.put srbext.address { heap.srbext srbext.address with nvmeCpl := cpl }) srbext.address

/-- `CompleteSrb` with the status of the entry in the extension. -/
def completeCalled (heap : Heap) (srbext : SrbExtPtr) : Heap :=
  heap.completeSrb srbext.address (some srbext.submission)
    (nvmeToSrbStatus (heap.srbext srbext.address).nvmeCpl.status)

end Heap

/-- What a call of `CompleteCmd` does next with the extension it popped. -/
inductive FinishPc where
  | complete
  | cleanUp
deriving DecidableEq, Repr

/-- `finishing` has the extension in the hand of the `CompleteCmd` call of a queue. -/
structure StagedAdapter where
  adapter : Adapter
  finishing : Nat → Option (SrbExtPtr × FinishPc)

/-- An iteration starts as `advance msgid .iterate` and goes on with two steps `finish msgid`. -/
inductive StagedEvent where
  | adapter (event : AdapterEvent)
  | finish (msgid : Nat)

namespace Adapter

def withHeap (adapter : Adapter) (heap : Heap) : Adapter := { adapter with host := { adapter.host with heap := heap } }

/-- The end of an iteration of the queue, if the queue was not deleted meanwhile. -/
def passOne (adapter : Adapter) (msgid : Nat) (srbext : SrbExtPtr) : Adapter :=
  match adapter.host.queue msgid, adapter.loops msgid with
  | some queue, some loop =>
      let (queue, loop) := queue.passOne loop (some srbext)
      adapter.withQueuePair msgid ⟨queue, some loop, adapter.controllers msgid, adapter.host.heap⟩
  | _, _ => adapter

end Adapter

namespace StagedAdapter

def initial (adapter : Adapter) : StagedAdapter := ⟨adapter, fun _ => none⟩

def beginOne (state : StagedAdapter) (msgid : Nat) (queue : CNvmeQueue) (loop : CompleteLoop) : StagedAdapter :=
  let controller := state.adapter.controllers msgid
  let heap := state.adapter.host.heap
  let (srbext, popped) := queue.popOne loop
  match srbext with
  | none =>
      let (passed, loop) := popped.passOne loop none
      { state with adapter := state.adapter.withQueuePair msgid ⟨passed, some loop, controller, heap⟩ }
  | some srbext => {
      adapter := state.adapter.withQueuePair msgid
        ⟨popped, some loop, controller, heap.callBack srbext (queue.cplQ loop.cpl).entry⟩
      finishing := Function.update state.finishing msgid (some (srbext, .complete)) }

def finishOne (state : StagedAdapter) (msgid : Nat) (srbext : SrbExtPtr) : FinishPc → StagedAdapter
  | .complete => {
      adapter := state.adapter.withHeap (state.adapter.host.heap.completeCalled srbext)
      finishing := Function.update state.finishing msgid (some (srbext, .cleanUp)) }
  | .cleanUp => {
      adapter := (state.adapter.withHeap (state.adapter.host.heap.cleanUp srbext.address)).passOne msgid srbext
      finishing := Function.update state.finishing msgid none }

/-- One step, if it is enabled. A queue's loop goes on when its iteration is over. -/
def step (state : StagedAdapter) : StagedEvent → Option StagedAdapter
  | .adapter (.advance msgid .iterate) =>
      match state.finishing msgid, state.adapter.host.queue msgid, state.adapter.loops msgid with
      | none, some queue, some loop => if queue.loopContinues loop then some (state.beginOne msgid queue loop) else none
      | _, _, _ => none
  | .adapter (.advance msgid .leave) =>
      match state.finishing msgid with
      | none => (state.adapter.step (.advance msgid .leave)).map fun adapter => { state with adapter := adapter }
      | some _ => none
  | .adapter event => (state.adapter.step event).map fun adapter => { state with adapter := adapter }
  | .finish msgid => (state.finishing msgid).map fun (srbext, pc) => state.finishOne msgid srbext pc

/-- The pool operations of a step, in the order of the source. -/
def poolOps (state : StagedAdapter) : StagedEvent → List PoolOp
  | .adapter (.advance msgid .iterate) =>
      match state.adapter.host.queue msgid, state.adapter.loops msgid with
      | some queue, some loop =>
          match (queue.popOne loop).1 with
          | none => []
          | some srbext => state.adapter.host.heap.callBackOps srbext (queue.cplQ loop.cpl).entry
      | _, _ => []
  | .adapter event => state.adapter.poolOps event
  | .finish msgid =>
      match state.finishing msgid with
      | some (srbext, .cleanUp) => (state.adapter.host.heap.srbext srbext.address).cleanUpOps
      | _ => []

end StagedAdapter

structure StagedLedger where
  staged : StagedAdapter
  pool : Pool

def StagedLedger.initial (adapter : Adapter) : StagedLedger := ⟨.initial adapter, .initial Nat Nat⟩

def StagedLedger.step (ledger : StagedLedger) (event : StagedEvent) : Option StagedLedger :=
  (ledger.staged.step event).bind fun staged =>
    (Machine.run BlockPool.apply ledger.pool (ledger.staged.poolOps event)).map fun pool => ⟨staged, pool⟩

end SpcNvme
