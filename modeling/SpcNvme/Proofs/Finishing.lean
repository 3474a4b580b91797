import SpcNvme.Lib.Footprint
import SpcNvme.Proofs.Uninterrupted

/-! What the calls in progress still have to do. A call that has got past the step at
which it takes effect goes on with steps that nobody else takes notice of; the
functions here do all of them at once. -/

namespace SpcNvme

namespace CNvmeQueue
variable (queue : CNvmeQueue) (srbext : SrbExtPtr) (cmd : NvmeCommand)

/-! The stores of the two calls, one by one. -/

def written : CNvmeQueue := { queue with subQ := Function.update queue.subQ queue.subTail ⟨cmd, srbext⟩ }

def counted : CNvmeQueue :=
  { queue with
    inflightCmds := longWrap (queue.inflightCmds + 1)
    trace := { queue.trace with submitted := queue.trace.submitted ++ [⟨cmd, srbext⟩] } }

def rung : CNvmeQueue :=
  { queue with subTail := (queue.subTail + 1) % queue.depth, subDbl := (queue.subTail + 1) % queue.depth }

def discounted : CNvmeQueue := { queue with inflightCmds := longWrap (queue.inflightCmds - 1) }

def posted (slot : Nat) (value : CplSlot) : CNvmeQueue := { queue with cplQ := Function.update queue.cplQ slot value }

private theorem discounted_counted : (queue.counted srbext cmd).discounted = queue.discounted.counted srbext cmd := by
  have same : longWrap (longWrap (queue.inflightCmds + 1) - 1) = longWrap (longWrap (queue.inflightCmds - 1) + 1) := by
    rw [Int.sub_eq_add_neg, longWrap_longWrap_add, longWrap_longWrap_add]
    congr 1
    omega
  simp only [discounted, counted, same]

end CNvmeQueue

namespace SubLock

/-- The queue once the holder, past its push, has rung the doorbell. -/
def finish (queue : CNvmeQueue) : SubLock → CNvmeQueue
  | .write srbext cmd => ((queue.written srbext cmd).counted srbext cmd).rung
  | .count srbext cmd => (queue.counted srbext cmd).rung
  | .ring => queue.rung
  | _ => queue

def finishHeap (queue : CNvmeQueue) (heap : Heap) : SubLock → Heap
  | .write srbext _ => queue.setSubIndex heap srbext.address
  | _ => heap

end SubLock

def Heap.finishCompleteSrb (heap : Heap) (srbext : SrbExtPtr) (status : SrbStatus) : CompleteSrbPc → Heap
  | .store => heap.completeSrb srbext.address (some srbext.submission) status
  | .test =>
      if (heap.srbext srbext.address).srb.isNone then heap else heap.notifySrb srbext.address status
  | .notify => heap.notifySrb srbext.address status

namespace CompleteCall

/-- The queue once the iteration of the call is over. -/
def finish (call : CompleteCall) (queue : CNvmeQueue) : CNvmeQueue :=
  match call.pc with
  | .test => queue
  | .pop _ => queue.consume call.loop
  | .copy _ | .callback _ | .status _ | .complete .. | .cleanUp _ | .decrement => queue.discounted.updateCplHeadAndPhase
  | .advance => queue.updateCplHeadAndPhase

def finishLoop (call : CompleteCall) (queue : CNvmeQueue) : CompleteLoop :=
  match call.pc with
  | .test => call.loop
  | .pop _ =>
      { call.loop with
        cpl := (queue.cplHead + 1) % queue.depth
        srbext := queue.popped call.loop
        updateCount := call.loop.updateCount + 1 }
  | _ => { call.loop with cpl := (queue.cplHead + 1) % queue.depth, updateCount := call.loop.updateCount + 1 }

def finishHeap (call : CompleteCall) (queue : CNvmeQueue) (heap : Heap) : Heap :=
  match call.pc with
  | .test | .decrement | .advance => heap
  | .pop _ => queue.poppedHeap heap call.loop
  | .copy srbext => finishSrbExt heap srbext.address (some srbext.submission) (queue.cplQ call.loop.cpl).entry
  | .callback srbext =>
      let called := runCompletionCB heap srbext.address (some srbext.submission)
      let status := nvmeToSrbStatus (called.srbext srbext.address).nvmeCpl.status
      (called.completeSrb srbext.address (some srbext.submission) status).cleanUp srbext.address
  | .status srbext =>
      let status := nvmeToSrbStatus (heap.srbext srbext.address).nvmeCpl.status
      (heap.completeSrb srbext.address (some srbext.submission) status).cleanUp srbext.address
  | .complete srbext pc status => (heap.finishCompleteSrb srbext status pc).cleanUp srbext.address
  | .cleanUp srbext => heap.cleanUp srbext.address

end CompleteCall

/-! ### One extension at a time -/

/-- The extensions are the cells of the heap, its log the rest. -/
def Heap.footprint : Footprint Heap Nat SrbExt (BitVec 3 × List Completion) where
  cell heap := heap.srbext
  rest heap := (heap.slotCount, heap.completions)
  ext := by
    intro heap other cells rest
    cases heap
    cases other
    obtain ⟨slotCount, completions⟩ := Prod.mk.inj rest
    cases cells
    cases slotCount
    cases completions
    rfl

namespace Heap
variable (address : Nat)

theorem writes_put (change : SrbExt → SrbExt) :
    footprint.Writes address fun heap => heap.put address (change (heap.srbext address)) where
  cell := by
    intro heap other same
    have records : heap.srbext address = other.srbext address := same
    simp [footprint, records]
  rest := fun _ => rfl
  elsewhere := fun apart => Function.update_of_ne apart ..

theorem acts_cleanUp : footprint.ActsAt address fun heap => heap.cleanUp address := (writes_put address SrbExt.cleanUp).actsAt

private theorem acts_completeSrb (submission : Option Nat) (status : SrbStatus) :
    footprint.ActsAt address fun heap => heap.completeSrb address submission status where
  cell := by
    intro heap other same rest
    have records : heap.srbext address = other.srbext address := same
    simp [footprint, records]
  rest := by
    intro heap other same rest
    have records : heap.srbext address = other.srbext address := same
    obtain ⟨slotCount, completions⟩ := Prod.mk.inj rest
    simp only [footprint, completeSrb_completions, records, completions]
    rw [completeSrb, completeSrb, put, put]
    exact congrArg (·, _) slotCount
  elsewhere := fun apart => Function.update_of_ne apart ..

theorem acts_storeSrbStatus (srbext : SrbExtPtr) (status : SrbStatus) :
    footprint.ActsAt srbext.address fun heap => heap.storeSrbStatus srbext status where
  cell := by
    intro heap other same rest
    have records : heap.srbext srbext.address = other.srbext srbext.address := same
    simp [footprint, storeSrbStatus, records]
  rest := by
    intro heap other same rest
    have records : heap.srbext srbext.address = other.srbext srbext.address := same
    obtain ⟨slotCount, completions⟩ := Prod.mk.inj rest
    simp [footprint, storeSrbStatus, put, records, completions, slotCount]
  elsewhere := fun apart => Function.update_of_ne apart ..

theorem acts_notifySrb (status : SrbStatus) : footprint.ActsAt address fun heap => heap.notifySrb address status := by
  let notified (srb : Option Srb) (heap : Heap) : Heap := srb.elim heap fun srb =>
    heap.put address { heap.srbext address with
      srb := some (srb.setScsiSenseBySrbStatus status)
      notified := (heap.srbext address).notified + 1 }
  have each : ∀ srb, footprint.ActsAt address (notified srb) := by
    intro srb
    cases srb with
    | none => exact .id address
    | some srb => exact (writes_put address fun record => { record with
        srb := some (srb.setScsiSenseBySrbStatus status)
        notified := record.notified + 1 }).actsAt
  have same : (fun heap : Heap => heap.notifySrb address status) = fun heap => notified (heap.srbext address).srb heap := by
    funext heap
    simp only [notifySrb, notified]
    cases (heap.srbext address).srb with
    | none => rfl
    | some srb => rfl
  rw [same]
  exact .select (fun record _ => record.srb) notified each

private theorem acts_completeFirmwareInfo (submission : Option Nat) :
    footprint.ActsAt address fun heap => completeFirmwareInfo heap address submission where
  cell := by
    intro heap other same rest
    have records : heap.srbext address = other.srbext address := same
    have slots : heap.slotCount = other.slotCount := congrArg Prod.fst rest
    simp only [completeFirmwareInfo, records, slots]
    cases (other.srbext address).srb with
    | none => exact same
    | some srb => simp [footprint]
  rest := by
    intro heap other same rest
    have records : heap.srbext address = other.srbext address := same
    have slots : heap.slotCount = other.slotCount := congrArg Prod.fst rest
    have log : heap.completions = other.completions := congrArg Prod.snd rest
    simp only [completeFirmwareInfo, records, slots]
    cases (other.srbext address).srb with
    | none => exact rest
    | some srb => simp [footprint, completeSrb, cleanUp, put, slots, log]
  elsewhere := by
    intro heap other apart
    simp only [completeFirmwareInfo]
    cases (heap.srbext address).srb with
    | none => rfl
    | some srb => simp [footprint, apart]

theorem acts_runCompletionCB (submission : Option Nat) :
    footprint.ActsAt address fun heap => runCompletionCB heap address submission := by
  let called (callback : Option CompletionCB) (heap : Heap) : Heap := callback.elim heap fun callback =>
    if callback = .completeFirmwareInfo then completeFirmwareInfo heap address submission else heap.cleanUp address
  have each : ∀ callback, footprint.ActsAt address (called callback) := by
    intro callback
    cases callback with
    | none => exact .id address
    | some callback =>
      cases callback with
      | completeFirmwareInfo => exact acts_completeFirmwareInfo address submission
      | completeScsiReadWrite => exact acts_cleanUp address
  have same : (fun heap => runCompletionCB heap address submission) =
      fun heap => called (heap.srbext address).completionCB heap := by
    funext heap
    simp only [runCompletionCB, called]
    cases (heap.srbext address).completionCB with
    | none => rfl
    | some callback => cases callback <;> rfl
  rw [same]
  exact .select (fun record _ => record.completionCB) called each

private theorem acts_complete (submission : Option Nat) :
    footprint.ActsAt address fun heap =>
      (heap.completeSrb address submission (nvmeToSrbStatus (heap.srbext address).nvmeCpl.status)).cleanUp address := by
  let completed (status : SrbStatus) (heap : Heap) : Heap := heap.completeSrb address submission status
  have completes := @Footprint.ActsAt.select _ _ _ _ footprint address _
    (fun record _ => nvmeToSrbStatus record.nvmeCpl.status) completed (acts_completeSrb address submission)
  exact completes.comp (acts_cleanUp address)

theorem acts_finishSrbExt (submission : Option Nat) (cpl : NvmeCompletionEntry) :
    footprint.ActsAt address fun heap => finishSrbExt heap address submission cpl :=
  ((writes_put address fun record => { record with nvmeCpl := cpl }).actsAt.comp
    (acts_runCompletionCB address submission)).comp (acts_complete address submission)

theorem finishCompleteSrb_store (heap : Heap) (srbext : SrbExtPtr) (status : SrbStatus) :
    (heap.storeSrbStatus srbext status).finishCompleteSrb srbext status .test =
      heap.finishCompleteSrb srbext status .store := by
  have kept : ((heap.storeSrbStatus srbext status).srbext srbext.address).srb = (heap.srbext srbext.address).srb := by
    simp [storeSrbStatus]
  simp only [finishCompleteSrb, kept]
  cases present : (heap.srbext srbext.address).srb with
  | none => exact storeSrbStatus_internal present status
  | some srb => exact notifySrb_storeSrbStatus present status

private theorem acts_finishCompleteSrb (srbext : SrbExtPtr) (status : SrbStatus) (pc : CompleteSrbPc) :
    footprint.ActsAt srbext.address fun heap => heap.finishCompleteSrb srbext status pc := by
  cases pc with
  | store => exact acts_completeSrb srbext.address (some srbext.submission) status
  | test =>
    let tested (internal : Bool) (heap : Heap) : Heap :=
      if internal = true then heap else heap.notifySrb srbext.address status
    have each : ∀ internal, footprint.ActsAt srbext.address (tested internal) := by
      intro internal
      cases internal with
      | true => exact .id srbext.address
      | false => exact acts_notifySrb srbext.address status
    exact .select (fun record _ => record.srb.isNone) tested each
  | notify => exact acts_notifySrb srbext.address status

end Heap

namespace SubLock
variable {queue : CNvmeQueue} {loop : CompleteLoop}

def writes : SubLock → Option Nat
  | .write srbext _ => some srbext.address
  | _ => none

private theorem finishHeap_writes (queue : CNvmeQueue) {lock : SubLock} {address : Nat}
    (own : ∀ other, lock.writes = some other → other = address) :
    Heap.footprint.Writes address fun heap => lock.finishHeap queue heap := by
  cases lock with
  | write srbext cmd =>
    obtain rfl := own srbext.address rfl
    exact Heap.writes_put srbext.address fun record => { record with subIndex := queue.subTail }
  | _ => exact .id address

section Fields
variable (queue) (lock : SubLock)

@[simp] theorem finish_depth : (lock.finish queue).depth = queue.depth := by cases lock <;> rfl
@[simp] theorem finish_isReady : (lock.finish queue).isReady = queue.isReady := by cases lock <;> rfl
@[simp] theorem finish_cplQ : (lock.finish queue).cplQ = queue.cplQ := by cases lock <;> rfl
@[simp] theorem finish_history : (lock.finish queue).history = queue.history := by cases lock <;> rfl
@[simp] theorem finish_cplHead : (lock.finish queue).cplHead = queue.cplHead := by cases lock <;> rfl
@[simp] theorem finish_phaseTag : (lock.finish queue).phaseTag = queue.phaseTag := by cases lock <;> rfl
@[simp] theorem finish_passed : (lock.finish queue).trace.passed = queue.trace.passed := by cases lock <;> rfl
@[simp] theorem finish_popped : (lock.finish queue).popped loop = queue.popped loop := by simp [CNvmeQueue.popped]

end Fields

theorem finishHeap_other {lock : SubLock} {address : Nat} (apart : ∀ other, lock.writes = some other → address ≠ other)
    (heap : Heap) : (lock.finishHeap queue heap).srbext address = heap.srbext address := by
  cases lock with
  | write srbext cmd => exact Function.update_of_ne (apart srbext.address rfl) ..
  | _ => rfl

/-- What is done to another extension may be done before or after. -/
theorem finishHeap_commutes {lock : SubLock} {address : Nat} {operation : Heap → Heap}
    (acts : Heap.footprint.ActsAt address operation) (apart : ∀ other, lock.writes = some other → address ≠ other)
    (heap : Heap) : lock.finishHeap queue (operation heap) = operation (lock.finishHeap queue heap) := by
  cases lock with
  | write srbext cmd =>
    have writes := @finishHeap_writes queue (.write srbext cmd) srbext.address fun _ same => (Option.some.inj same).symm
    exact (acts.commutes writes (apart srbext.address rfl) heap).symm
  | _ => rfl

/-! What the holder has left to do does not get in the way of a completion call. -/

theorem finish_sees (lock : SubLock) (subHead : Nat) :
    (lock.finish { queue with subHead := subHead }).consume loop = (lock.finish queue).consume loop := by
  cases lock <;> rfl

theorem finish_taken (lock : SubLock) :
    lock.finish (SharedQueue.taken queue loop) = SharedQueue.taken (lock.finish queue) loop := by
  cases lock <;> rfl

theorem finish_discounted (lock : SubLock) : lock.finish queue.discounted = (lock.finish queue).discounted := by
  cases lock with
  | write srbext cmd =>
    simp only [finish]
    exact congrArg CNvmeQueue.rung ((queue.written srbext cmd).discounted_counted srbext cmd).symm
  | count srbext cmd => exact congrArg CNvmeQueue.rung (queue.discounted_counted srbext cmd).symm
  | _ => rfl

theorem finish_advance (lock : SubLock) :
    lock.finish queue.updateCplHeadAndPhase = (lock.finish queue).updateCplHeadAndPhase := by
  cases lock <;> rfl

theorem finish_leave (lock : SubLock) : lock.finish (queue.leaveCompleteCmd loop) = (lock.finish queue).leaveCompleteCmd loop := by
  unfold CNvmeQueue.leaveCompleteCmd
  split
  · cases lock <;> rfl
  · rfl

theorem finish_posted (lock : SubLock) (slot : Nat) (value : CplSlot) :
    lock.finish (queue.posted slot value) = (lock.finish queue).posted slot value := by
  cases lock <;> rfl

theorem finishHeap_posted (lock : SubLock) (slot : Nat) (value : CplSlot) (heap : Heap) :
    lock.finishHeap (queue.posted slot value) heap = lock.finishHeap queue heap := by
  cases lock <;> rfl

theorem finish_continues (lock : SubLock) : (lock.finish queue).loopContinues loop = queue.loopContinues loop := by
  cases lock <;> rfl

end SubLock

theorem CNvmeQueue.accept_free {queue : CNvmeQueue} {srbext : SrbExtPtr} {cmd : NvmeCommand}
    (free : queue.history.history cmd.cid.toNat = none) (number : srbext.submission = queue.trace.submitted.length) :
    queue.accept srbext.address cmd =
      SubLock.finish { queue with history := SharedQueue.pushed queue srbext cmd } (.write srbext cmd) := by
  obtain ⟨address, submission⟩ := srbext
  subst number
  simp [accept, replacedBy, free, SubLock.finish, SharedQueue.pushed, enqueue, written, counted, rung]

theorem CNvmeQueue.consume_popped {queue : CNvmeQueue} {loop : CompleteLoop} (popped : (queue.popped loop).isSome) :
    queue.consume loop = (SharedQueue.taken queue loop).discounted.updateCplHeadAndPhase := by
  simp only [consume, poppedInflight, popped, if_true]
  rfl

/-! Where a command goes into the ring does not depend on how far a completion call is. -/

private theorem CNvmeQueue.discounted_accept (queue : CNvmeQueue) (address : Nat) (cmd : NvmeCommand) :
    (queue.accept address cmd).discounted = queue.discounted.accept address cmd := by
  have same : longWrap (longWrap (queue.inflightCmds + 1) - 1) = longWrap (longWrap (queue.inflightCmds - 1) + 1) :=
    congrArg inflightCmds (queue.discounted_counted ⟨address, 0⟩ cmd)
  simp only [discounted, accept, enqueue, same]
  rfl

private theorem CNvmeQueue.taken_accept {queue : CNvmeQueue} {loop : CompleteLoop} (address : Nat) {cmd : NvmeCommand}
    (apart : (queue.cplQ loop.cpl).entry.cid.toNat ≠ cmd.cid.toNat) :
    SharedQueue.taken (queue.accept address cmd) loop = (SharedQueue.taken queue loop).accept address cmd := by
  have popped : (queue.accept address cmd).popped loop = queue.popped loop := by simp [CNvmeQueue.popped, apart]
  have history : (queue.accept address cmd).poppedHistory loop =
      Function.update (queue.poppedHistory loop) cmd.cid.toNat (some ⟨address, queue.trace.submitted.length⟩) := by
    by_cases outside : queue.history.depth ≤ (queue.cplQ loop.cpl).entry.cid.toNat
    · simp [poppedHistory, outside]
    · simpa [poppedHistory, outside] using Function.update_comm (Ne.symm apart) ..
  have replaced : (SharedQueue.taken queue loop).replacedBy cmd = queue.replacedBy cmd := by
    have kept : queue.poppedHistory loop cmd.cid.toNat = queue.history.history cmd.cid.toNat := by
      unfold poppedHistory
      split
      · rfl
      · exact Function.update_of_ne (Ne.symm apart) ..
    simp only [replacedBy, SharedQueue.taken, kept]
  calc SharedQueue.taken (queue.accept address cmd) loop
      = { queue.accept address cmd with
          subHead := (queue.cplQ loop.cpl).entry.sqhd.toNat
          history := ⟨queue.history.depth, Function.update (queue.poppedHistory loop) cmd.cid.toNat
            (some ⟨address, queue.trace.submitted.length⟩)⟩
          trace := { (queue.accept address cmd).trace with
            consumed := queue.trace.consumed ++ [Consumed.mk (queue.cplQ loop.cpl) (queue.popped loop)] } } := by
        rw [SharedQueue.taken, history, popped]
        rfl
    _ = (SharedQueue.taken queue loop).accept address cmd := by
        rw [CNvmeQueue.accept.eq_1 (SharedQueue.taken queue loop), replaced]
        rfl

namespace CompleteCall
variable {queue : CNvmeQueue} {call : CompleteCall}

/-- The extension an iteration has taken, or is going to take, out of the history. -/
def hand (call : CompleteCall) (queue : CNvmeQueue) : Option SrbExtPtr :=
  match call.pc with
  | .test | .decrement | .advance => none
  | .pop _ => queue.popped call.loop
  | .copy srbext | .callback srbext | .status srbext | .complete srbext .. | .cleanUp srbext => some srbext

private theorem finishHeap_acts {address : Nat} (own : ∀ srbext, call.hand queue = some srbext → srbext.address = address) :
    Heap.footprint.ActsAt address fun heap => call.finishHeap queue heap := by
  obtain ⟨loop, pc⟩ := call
  cases pc with
  | test => exact .id address
  | decrement => exact .id address
  | advance => exact .id address
  | pop cid =>
    simp only [finishHeap, CNvmeQueue.poppedHeap]
    cases popped : queue.popped loop with
    | none => exact .id address
    | some srbext =>
      obtain rfl := own srbext popped
      exact Heap.acts_finishSrbExt srbext.address (some srbext.submission) (queue.cplQ loop.cpl).entry
  | copy srbext =>
    obtain rfl := own srbext rfl
    exact Heap.acts_finishSrbExt srbext.address (some srbext.submission) (queue.cplQ loop.cpl).entry
  | callback srbext =>
    obtain rfl := own srbext rfl
    exact (Heap.acts_runCompletionCB srbext.address (some srbext.submission)).comp
      (Heap.acts_complete srbext.address (some srbext.submission))
  | status srbext =>
    obtain rfl := own srbext rfl
    exact Heap.acts_complete srbext.address (some srbext.submission)
  | complete srbext pc status =>
    obtain rfl := own srbext rfl
    exact (Heap.acts_finishCompleteSrb srbext status pc).comp (Heap.acts_cleanUp srbext.address)
  | cleanUp srbext =>
    obtain rfl := own srbext rfl
    exact Heap.acts_cleanUp srbext.address

theorem finishHeap_other {address : Nat} (apart : ∀ srbext, call.hand queue = some srbext → srbext.address ≠ address)
    (heap : Heap) : (call.finishHeap queue heap).srbext address = heap.srbext address := by
  cases hand : call.hand queue with
  | none =>
    have acts := @finishHeap_acts queue call (address + 1) (by simp [hand])
    exact acts.elsewhere (Nat.succ_ne_self address).symm
  | some srbext =>
    have acts := @finishHeap_acts queue call srbext.address (by simp [hand])
    exact acts.elsewhere (apart srbext hand).symm

theorem finishHeap_commutes {address : Nat} {operation : Heap → Heap}
    (writes : Heap.footprint.Writes address operation)
    (apart : ∀ srbext, call.hand queue = some srbext → srbext.address ≠ address) (heap : Heap) :
    call.finishHeap queue (operation heap) = operation (call.finishHeap queue heap) := by
  cases hand : call.hand queue with
  | none =>
    have acts := @finishHeap_acts queue call (address + 1) (by simp [hand])
    exact acts.commutes writes (Nat.succ_ne_self address) heap
  | some srbext =>
    have acts := @finishHeap_acts queue call srbext.address (by simp [hand])
    exact acts.commutes writes (apart srbext hand) heap

section Fields
variable (queue) (call)

@[simp] theorem finish_depth : (call.finish queue).depth = queue.depth := by
  obtain ⟨loop, pc⟩ := call
  cases pc <;> rfl

@[simp] theorem finish_isReady : (call.finish queue).isReady = queue.isReady := by
  obtain ⟨loop, pc⟩ := call
  cases pc <;> rfl

@[simp] theorem finish_subQ : (call.finish queue).subQ = queue.subQ := by
  obtain ⟨loop, pc⟩ := call
  cases pc <;> rfl

@[simp] theorem finish_subTail : (call.finish queue).subTail = queue.subTail := by
  obtain ⟨loop, pc⟩ := call
  cases pc <;> rfl

@[simp] theorem finish_subDbl : (call.finish queue).subDbl = queue.subDbl := by
  obtain ⟨loop, pc⟩ := call
  cases pc <;> rfl

@[simp] theorem finish_submitted : (call.finish queue).trace.submitted = queue.trace.submitted := by
  obtain ⟨loop, pc⟩ := call
  cases pc <;> rfl

@[simp] theorem finish_history_depth : (call.finish queue).history.depth = queue.history.depth := by
  obtain ⟨loop, pc⟩ := call
  cases pc <;> rfl

theorem finish_history {cid : Nat} {srbext : SrbExtPtr} (held : (call.finish queue).history.history cid = some srbext) :
    queue.history.history cid = some srbext := by
  obtain ⟨loop, pc⟩ := call
  cases pc with
  | pop id => exact Held.kept held
  | _ => exact held

end Fields

def reads (call : CompleteCall) : Bool :=
  match call.pc with
  | .pop _ | .copy _ => true
  | _ => false

theorem finish_inflightCmds : (call.finish queue).inflightCmds = queue.inflightCmds ∨
    (call.finish queue).inflightCmds = longWrap (queue.inflightCmds - 1) := by
  obtain ⟨loop, pc⟩ := call
  cases pc with
  | test => exact .inl rfl
  | advance => exact .inl rfl
  | pop cid =>
    simp only [finish, CNvmeQueue.consume_inflightCmds, CNvmeQueue.poppedInflight]
    split
    · exact .inr rfl
    · exact .inl rfl
  | _ => exact .inr rfl

theorem finish_passed (read : call.reads = true) : (call.finish queue).trace.passed = queue.trace.passed + 1 := by
  obtain ⟨loop, pc⟩ := call
  cases pc with
  | pop cid => rfl
  | copy srbext => rfl
  | _ => cases read

section Congr
variable {other : CNvmeQueue} (popped : ∀ cid, call.pc = .pop cid → other.popped call.loop = queue.popped call.loop)
include popped

theorem finishLoop_congr (head : (other.cplHead + 1) % other.depth = (queue.cplHead + 1) % queue.depth) :
    call.finishLoop other = call.finishLoop queue := by
  obtain ⟨loop, pc⟩ := call
  cases pc with
  | test => rfl
  | pop cid => simp only [finishLoop, head, popped cid rfl]
  | _ => simp only [finishLoop, head]

theorem finishHeap_congr (entry : call.reads = true → other.cplQ call.loop.cpl = queue.cplQ call.loop.cpl) (heap : Heap) :
    call.finishHeap other heap = call.finishHeap queue heap := by
  obtain ⟨loop, pc⟩ := call
  cases pc with
  | pop cid => simp only [finishHeap, CNvmeQueue.poppedHeap, popped cid rfl, entry rfl]
  | copy srbext => simp only [finishHeap, entry rfl]
  | _ => rfl

end Congr

/-! A push into a slot the call does not take from, and a post into a slot it does not read. -/

theorem popped_posted {slot : Nat} {value : CplSlot} (apart : call.reads = true → call.loop.cpl ≠ slot) (cid : BitVec 16)
    (pops : call.pc = .pop cid) :
    (queue.posted slot value).popped call.loop = queue.popped call.loop := by
  have elsewhere := apart (by simp [reads, pops])
  simp [CNvmeQueue.popped, CNvmeQueue.posted, elsewhere]

theorem finish_posted {slot : Nat} {value : CplSlot} (apart : call.reads = true → call.loop.cpl ≠ slot) :
    call.finish (queue.posted slot value) = (call.finish queue).posted slot value := by
  obtain ⟨loop, pc⟩ := call
  cases pc with
  | pop cid =>
    have read : (queue.posted slot value).cplQ loop.cpl = queue.cplQ loop.cpl := Function.update_of_ne (apart rfl) ..
    have popped : (queue.posted slot value).popped loop = queue.popped loop := popped_posted apart cid rfl
    have history : (queue.posted slot value).poppedHistory loop = queue.poppedHistory loop := by
      simp only [CNvmeQueue.poppedHistory, read]
      rfl
    simp only [finish, CNvmeQueue.consume, CNvmeQueue.poppedInflight, read, popped, history]
    rfl
  | _ => rfl

section Push
variable {address : Nat} {cmd : NvmeCommand}
  (apart : ∀ cid, call.pc = .pop cid → (queue.cplQ call.loop.cpl).entry.cid.toNat ≠ cmd.cid.toNat)
include apart

theorem popped_pushed (table : CCmdHistory) (depth : table.depth = queue.history.depth)
    (others : ∀ cid, cid ≠ cmd.cid.toNat → table.history cid = queue.history.history cid) (cid : BitVec 16)
    (pops : call.pc = .pop cid) :
    ({ queue with history := table } : CNvmeQueue).popped call.loop = queue.popped call.loop := by
  simp only [CNvmeQueue.popped, depth, others _ (apart cid pops)]

theorem finish_accept (holds : ∀ cid, call.pc = .pop cid → (queue.popped call.loop).isSome) :
    call.finish (queue.accept address cmd) = (call.finish queue).accept address cmd := by
  obtain ⟨loop, pc⟩ := call
  cases pc with
  | test => rfl
  | advance => rfl
  | pop cid =>
    have elsewhere : (queue.cplQ loop.cpl).entry.cid.toNat ≠ cmd.cid.toNat := apart cid rfl
    have popped : ((queue.accept address cmd).popped loop).isSome := by
      have present := holds cid rfl
      simpa [CNvmeQueue.popped, elsewhere] using present
    simp only [finish]
    rw [CNvmeQueue.consume_popped popped, CNvmeQueue.consume_popped (holds cid rfl), CNvmeQueue.taken_accept address elsewhere,
      CNvmeQueue.discounted_accept]
    rfl
  | _ =>
    simp only [finish]
    rw [CNvmeQueue.discounted_accept]
    rfl

end Push

end CompleteCall

end SpcNvme
