import SpcNvme.Lib.Machine
import SpcNvme.Queue

/-! One queue shared by several processors. `SubmitCmd` and `ResetAllCmd` hold
`SubLock`, `CompleteCmd` takes no lock. Each access to a history slot, each update
of `InflightCmds` and each group of accesses to an extension is a step of its own,
and the steps of the calls in progress may be taken in any order. -/

namespace SpcNvme

/-- How far a call of `CompleteSrb(UCHAR)` is: before its store to `SrbStatus`,
before its test of `Srb`, or before the notification. -/
inductive CompleteSrbPc where
  | store
  | test
  | notify
deriving DecidableEq, Repr

namespace Heap

/-- The first statement of `CompleteSrb`. The log of calls counts the call here. -/
def storeSrbStatus (heap : Heap) (srbext : SrbExtPtr) (status : SrbStatus) : Heap :=
  let record := heap.srbext srbext.address
  { heap.put srbext.address { record with srbStatus := status } with
    completions := heap.completions ++ [⟨srbext.address, some srbext.submission, status, record.nvmeCpl⟩] }

/-- The body of the `if (NULL != Srb)`. -/
def notifySrb (heap : Heap) (address : Nat) (status : SrbStatus) : Heap :=
  let record := heap.srbext address
  match record.srb with
  | none => heap -- only when the owner overwrote the extension after the test
  | some srb =>
      heap.put address { record with
        srb := some (srb.setScsiSenseBySrbStatus status)
        notified := record.notified + 1 }

/-- One step of `CompleteSrb`, and where the call stands then; `none` when it has returned. -/
def completeSrbStep (heap : Heap) (srbext : SrbExtPtr) (status : SrbStatus) : CompleteSrbPc → Heap × Option CompleteSrbPc
  | .store => (heap.storeSrbStatus srbext status, some .test)
  | .test => (heap, if (heap.srbext srbext.address).srb.isNone then none else some .notify)
  | .notify => (heap.notifySrb srbext.address status, none)

end Heap

/-- What the holder of `SubLock` does next. From `push` to `ring` it is in
`SubmitCmd`, from `read` to `skip` in `ResetAllCmd`. `nullPointer` is a holder
about to call `CompleteSrb` on the NULL that `Pop` returned. -/
inductive SubLock where
  | free
  | push (srbext : SrbExtPtr) (cmd : NvmeCommand)
  | pop (srbext : SrbExtPtr) (cmd : NvmeCommand)
  | release (old : SrbExtPtr) (pc : CompleteSrbPc) (srbext : SrbExtPtr) (cmd : NvmeCommand)
  | pushAgain (srbext : SrbExtPtr) (cmd : NvmeCommand)
  | write (srbext : SrbExtPtr) (cmd : NvmeCommand)
  | count (srbext : SrbExtPtr) (cmd : NvmeCommand)
  | ring
  | read (index : Nat)
  | resetSrb (index : Nat) (srbext : SrbExtPtr) (pc : CompleteSrbPc)
  | clear (index : Nat)
  | zero
  | skip
  | nullPointer
deriving DecidableEq, Repr

/-- What a call of `CompleteCmd` does next. -/
inductive CompletePc where
  | test
  | pop (cid : BitVec 16)
  | copy (srbext : SrbExtPtr)
  | callback (srbext : SrbExtPtr)
  | status (srbext : SrbExtPtr)
  | complete (srbext : SrbExtPtr) (pc : CompleteSrbPc) (status : SrbStatus)
  | cleanUp (srbext : SrbExtPtr)
  | decrement
  | advance
deriving DecidableEq, Repr

structure CompleteCall where
  loop : CompleteLoop
  pc : CompletePc
deriving DecidableEq, Repr

/-- `calls` has the `CompleteCmd` call in progress on each processor. -/
structure SharedQueue where
  queue : CNvmeQueue
  heap : Heap
  subLock : SubLock
  processors : Nat
  calls : Nat → Option CompleteCall

/-- `prepare` is whoever owns an extension writing to it: StorPort, a waiting
thread, or the driver before it submits. `holder` and `completer` are the next step of
the holder of `SubLock` and of the call on a processor. `scribble` is the
controller writing a completion slot. -/
inductive SharedEvent where
  | prepare (address : Nat) (record : SrbExt)
  | submit (address : Nat) (cmd : NvmeCommand)
  | reset
  | holder
  | enter (processor maxCount : Nat)
  | completer (processor : Nat)
  | scribble (slot : Nat) (written : CplSlot)
deriving Repr

namespace SharedQueue

def initial (config : QueuePairConfig) (srbext : Nat → SrbExt) (slotCount : BitVec 3) (processors : Nat) : SharedQueue :=
  ⟨.setup config, ⟨srbext, slotCount, []⟩, .free, processors, fun _ => none⟩

/-- `SubmitCmd` up to its first access to the history. -/
def enterSubmitCmd (state : SharedQueue) (address : Nat) (cmd : NvmeCommand) : SharedQueue :=
  if !state.queue.isReady then state
  else if !state.queue.isSafeForSubmit then state
  else { state with subLock := .push ⟨address, state.queue.trace.submitted.length⟩ cmd }

def holderStep (state : SharedQueue) : Option SharedQueue :=
  match state.subLock with
  | .free | .nullPointer => none
  | .push srbext cmd =>
      let (status, history) := state.queue.history.push cmd.cid.toNat srbext
      some { state with
        queue := { state.queue with history := history }
        subLock :=
          if status = .alreadyCommitted then .pop srbext cmd
          else if !status.ntSuccess then .free
          else .write srbext cmd }
  | .pop srbext cmd =>
      let (_, old, history) := state.queue.history.pop cmd.cid.toNat none
      let queue := { state.queue with history := history }
      match old with
      | none => some { state with queue := queue, subLock := .nullPointer }
      | some old =>
          let trace := { queue.trace with replaced := queue.trace.replaced ++ [old.submission] }
          some { state with queue := { queue with trace := trace }, subLock := .release old .store srbext cmd }
  | .release old pc srbext cmd =>
      let (heap, next) := state.heap.completeSrbStep old .busy pc
      some { state with
        heap := heap
        subLock := match next with
          | some pc => .release old pc srbext cmd
          | none => .pushAgain srbext cmd }
  | .pushAgain srbext cmd =>
      let (_, history) := state.queue.history.push cmd.cid.toNat srbext
      some { state with queue := { state.queue with history := history }, subLock := .write srbext cmd }
  | .write srbext cmd =>
      let subQ := Function.update state.queue.subQ state.queue.subTail ⟨cmd, srbext⟩
      some { state with
        queue := { state.queue with subQ := subQ }
        heap := state.queue.setSubIndex state.heap srbext.address
        subLock := .count srbext cmd }
  | .count srbext cmd =>
      let trace := { state.queue.trace with submitted := state.queue.trace.submitted ++ [⟨cmd, srbext⟩] }
      let inflightCmds := longWrap (state.queue.inflightCmds + 1)
      some { state with queue := { state.queue with inflightCmds := inflightCmds, trace := trace }, subLock := .ring }
  | .ring =>
      let subTail := (state.queue.subTail + 1) % state.queue.depth
      some { state with queue := { state.queue with subTail := subTail, subDbl := subTail }, subLock := .free }
  | .read index =>
      some { state with
        subLock :=
          if index ≥ state.queue.history.depth then .zero
          else match state.queue.history.history index with
            | none => .read (index + 1)
            | some srbext => .resetSrb index srbext .store }
  | .resetSrb index srbext pc =>
      let (heap, next) := state.heap.completeSrbStep srbext .busReset pc
      some { state with
        heap := heap
        subLock := match next with
          | some pc => .resetSrb index srbext pc
          | none => .clear index }
  | .clear index =>
      let history := Function.update state.queue.history.history index none
      some { state with
        queue := { state.queue with history := ⟨state.queue.history.depth, history⟩ }
        subLock := .read (index + 1) }
  | .zero =>
      let trace := { state.queue.trace with replaced := [], resetAt := state.queue.trace.submitted.length }
      some { state with queue := { state.queue with inflightCmds := 0, trace := trace }, subLock := .skip }
  | .skip =>
      if state.queue.cplHead = state.queue.subTail then some { state with subLock := .free }
      else some { state with queue := state.queue.updateCplHeadAndPhase }

def goto (state : SharedQueue) (processor : Nat) (loop : CompleteLoop) (pc : CompletePc) : SharedQueue :=
  { state with calls := Function.update state.calls processor (some ⟨loop, pc⟩) }

def completerStep (state : SharedQueue) (processor : Nat) (call : CompleteCall) : SharedQueue :=
  let loop := call.loop
  match call.pc with
  | .test =>
      if state.queue.loopContinues loop then
        let slot := state.queue.cplQ loop.cpl
        let queue := { state.queue with subHead := slot.entry.sqhd.toNat }
        { state with queue := queue }.goto processor loop (.pop slot.entry.cid)
      else
        { state with
          queue := state.queue.leaveCompleteCmd loop
          calls := Function.update state.calls processor none }
  | .pop cid =>
      let (_, srbext, history) := state.queue.history.pop cid.toNat loop.srbext
      let consumed := state.queue.trace.consumed ++ [⟨state.queue.cplQ loop.cpl, srbext⟩]
      let queue := { state.queue with history := history, trace := { state.queue.trace with consumed := consumed } }
      { state with queue := queue }.goto processor { loop with srbext := srbext } (match srbext with
        | some srbext => .copy srbext
        | none => .advance)
  | .copy srbext =>
      let record := state.heap.srbext srbext.address
      let heap := state.heap.put srbext.address { record with nvmeCpl := (state.queue.cplQ loop.cpl).entry }
      { state with heap := heap }.goto processor loop (.callback srbext)
  | .callback srbext =>
      let heap := runCompletionCB state.heap srbext.address (some srbext.submission)
      { state with heap := heap }.goto processor loop (.status srbext)
  | .status srbext =>
      let status := nvmeToSrbStatus (state.heap.srbext srbext.address).nvmeCpl.status
      state.goto processor loop (.complete srbext .store status)
  | .complete srbext pc status =>
      let (heap, next) := state.heap.completeSrbStep srbext status pc
      { state with heap := heap }.goto processor loop (match next with
        | some pc => .complete srbext pc status
        | none => .cleanUp srbext)
  | .cleanUp srbext => { state with heap := state.heap.cleanUp srbext.address }.goto processor loop .decrement
  | .decrement =>
      let inflightCmds := longWrap (state.queue.inflightCmds - 1)
      { state with queue := { state.queue with inflightCmds := inflightCmds } }.goto processor loop .advance
  | .advance =>
      let queue := state.queue.updateCplHeadAndPhase
      { state with queue := queue }.goto processor
        { loop with cpl := queue.cplHead, updateCount := loop.updateCount + 1 } .test

/-- One step, if it is enabled: `SubLock` has one holder at a time, and a
processor is in one call at a time. -/
def step (state : SharedQueue) : SharedEvent → Option SharedQueue
  | .prepare address record => some { state with heap := state.heap.put address record }
  | .submit address cmd =>
      match state.subLock with
      | .free => some (state.enterSubmitCmd address cmd)
      | _ => none
  | .reset =>
      match state.subLock with
      | .free => some { state with subLock := .read 0 }
      | _ => none
  | .holder => state.holderStep
  | .enter processor maxCount =>
      if processor < state.processors ∧ state.calls processor = none then
        some (state.goto processor (state.queue.enterCompleteCmd maxCount) .test)
      else none
  | .completer processor => (state.calls processor).map (state.completerStep processor)
  | .scribble slot written =>
      some { state with queue := { state.queue with cplQ := Function.update state.queue.cplQ slot written } }

end SharedQueue

end SpcNvme
