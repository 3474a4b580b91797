import SpcNvme.CmdHistory

/-! One submission and completion queue pair on the host side. The history
variables in `Trace` number the accepted commands and the completion slots the
driver moves over; no modelled function reads them. -/

namespace SpcNvme

/-- `LONG` arithmetic of the interlocked counters. -/
def longWrap (value : Int) : Int := (value + 2147483648) % 4294967296 - 2147483648

/-- `(USHORT)` applied to a `LONG`. -/
def ushort (value : Int) : Nat := (value % 65536).toNat

def safeSubmitThreshold : Nat := 8

structure QueuePairConfig where
  qid : Nat
  depth : Nat
  historyDepth : Nat
  depth_pos : 0 < depth
  depth_lt : depth < 65536
  historyDepth_pos : 0 < historyDepth
  historyDepth_lt : historyDepth < 65536

/-- A submission queue slot: the command, and the accepted call that wrote it. -/
structure Submission where
  cmd : NvmeCommand
  srbext : SrbExtPtr
deriving DecidableEq, Repr

/-- A completion queue slot: the entry, and the accepted command it answers, if any. -/
structure CplSlot where
  entry : NvmeCompletionEntry
  answers : Option Nat
deriving DecidableEq, Repr

structure Consumed where
  slot : CplSlot
  popped : Option SrbExtPtr
deriving DecidableEq, Repr

/-- `replaced` holds the commands replaced since the last reset, `passed` the
number of completion slots the head has moved over, and `resetAt` how many
commands had been accepted at the last reset. -/
structure Trace where
  submitted : List Submission
  replaced : List Nat
  consumed : List Consumed
  passed : Nat
  resetAt : Nat
deriving Repr

def sampleQueue : QueuePairConfig := ⟨1, 16, 4, by decide, by decide, by decide, by decide⟩

structure CNvmeQueue extends QueuePairConfig where
  isReady : Bool
  inflightCmds : Int
  subQ : Nat → Submission
  cplQ : Nat → CplSlot
  history : CCmdHistory
  subTail : Nat
  subHead : Nat
  cplHead : Nat
  phaseTag : Bool
  subDbl : Nat
  cplDbl : Nat
  trace : Trace

/-- The local variables of a `CompleteCmd` call; `cpl` is the slot its pointer refers to. -/
structure CompleteLoop where
  cpl : Nat
  srbext : Option SrbExtPtr
  updateCount : Nat
  maxCount : Nat
deriving DecidableEq, Repr

def newCplArrived (entry : NvmeCompletionEntry) (currentTag : Bool) : Bool := entry.status.p == currentTag

namespace CNvmeQueue

/-- `Setup` once its allocations have succeeded: zeroed rings and an empty history. -/
def setup (config : QueuePairConfig) : CNvmeQueue where
  toQueuePairConfig := config
  isReady := true
  inflightCmds := 0
  subQ := fun _ => ⟨.zero, ⟨0, 0⟩⟩
  cplQ := fun _ => ⟨.zero, none⟩
  history := .setup config.historyDepth
  subTail := 0
  subHead := 0
  cplHead := 0
  phaseTag := true
  subDbl := 0
  cplDbl := 0
  trace := ⟨[], [], [], 0, 0⟩

/-- `IsSafeForSubmit`: a `ULONG` subtraction compared with a truncated counter. -/
def isSafeForSubmit (queue : CNvmeQueue) : Bool :=
  decide ((queue.depth + 4294967296 - safeSubmitThreshold) % 4294967296 > ushort queue.inflightCmds)

/-- The end of `SubmitCmd`: the command is copied into the ring and the doorbell written. -/
def enqueue (queue : CNvmeQueue) (srbext : SrbExtPtr) (srcCmd : NvmeCommand) : CNvmeQueue :=
  { queue with
    subQ := Function.update queue.subQ queue.subTail ⟨srcCmd, srbext⟩
    inflightCmds := longWrap (queue.inflightCmds + 1)
    subTail := (queue.subTail + 1) % queue.depth
    subDbl := (queue.subTail + 1) % queue.depth
    trace := { queue.trace with submitted := queue.trace.submitted ++ [⟨srcCmd, srbext⟩] } }

def setSubIndex (queue : CNvmeQueue) (heap : Heap) (address : Nat) : Heap :=
  heap.put address { heap.srbext address with subIndex := queue.subTail }

def submitCmd (queue : CNvmeQueue) (heap : Heap) (address : Nat) (srcCmd : NvmeCommand) :
    NtStatus × CNvmeQueue × Heap :=
  if !queue.isReady then (.deviceNotReady, queue, heap)
  else if !queue.isSafeForSubmit then (.deviceBusy, queue, heap)
  else
    let cid := srcCmd.cid.toNat
    let srbext : SrbExtPtr := ⟨address, queue.trace.submitted.length⟩
    let (status, history) := queue.history.push cid srbext
    if status = .alreadyCommitted then
      -- the old command is taken to be timed out and released
      let (_, old, popped) := history.pop cid none
      match old with
      | none => (.success, queue, heap) -- not reached: the failed push saw a pointer in this slot
      | some old =>
          let heap := heap.completeSrb old.address (some old.submission) .busy
          let (_, history) := popped.push cid srbext
          let trace := { queue.trace with replaced := queue.trace.replaced ++ [old.submission] }
          let queue := { queue with history := history, trace := trace }
          (.success, queue.enqueue srbext srcCmd, queue.setSubIndex heap address)
    else if !status.ntSuccess then (status, queue, heap)
    else
      let queue := { queue with history := history }
      (.success, queue.enqueue srbext srcCmd, queue.setSubIndex heap address)

def updateCplHeadAndPhase (queue : CNvmeQueue) : CNvmeQueue :=
  let cplHead := (queue.cplHead + 1) % queue.depth
  { queue with
    cplHead := cplHead
    phaseTag := if cplHead = 0 then !queue.phaseTag else queue.phaseTag
    trace := { queue.trace with passed := queue.trace.passed + 1 } }

/-- `while (CplHead != SubTail)`, at most `fuel` times. -/
def fastForward (queue : CNvmeQueue) : Nat → CNvmeQueue
  | 0 => queue
  | fuel + 1 => if queue.cplHead = queue.subTail then queue else fastForward queue.updateCplHeadAndPhase fuel

def resetAllCmd (queue : CNvmeQueue) (heap : Heap) : CNvmeQueue × Heap :=
  let (history, heap) := queue.history.reset heap
  let trace := { queue.trace with replaced := [], resetAt := queue.trace.submitted.length }
  let queue := { queue with history := history, inflightCmds := 0, trace := trace }
  (queue.fastForward queue.depth, heap)

def enterCompleteCmd (queue : CNvmeQueue) (maxCount : Nat) : CompleteLoop where
  cpl := queue.cplHead
  srbext := none
  updateCount := 0
  maxCount := if maxCount = 0 then queue.depth else maxCount

/-- The loop goes round again: a new entry is there and the last iteration did
not `break`. Before the first one `updateCount` is 0 and `maxCount` is not. -/
def loopContinues (queue : CNvmeQueue) (loop : CompleteLoop) : Bool :=
  newCplArrived (queue.cplQ loop.cpl).entry queue.phaseTag && decide (loop.updateCount < loop.maxCount)

def completeOne (queue : CNvmeQueue) (heap : Heap) (loop : CompleteLoop) : CNvmeQueue × Heap × CompleteLoop :=
  let slot := queue.cplQ loop.cpl
  let (_, srbext, history) := queue.history.pop slot.entry.cid.toNat loop.srbext
  let consumed := queue.trace.consumed ++ [⟨slot, srbext⟩]
  let queue := { queue with
    subHead := slot.entry.sqhd.toNat
    history := history
    trace := { queue.trace with consumed := consumed } }
  let (queue, heap) := match srbext with
    | some srbext =>
        ({ queue with inflightCmds := longWrap (queue.inflightCmds - 1) },
          finishSrbExt heap srbext.address (some srbext.submission) slot.entry)
    | none => (queue, heap)
  let queue := queue.updateCplHeadAndPhase
  (queue, heap, { loop with cpl := queue.cplHead, srbext := srbext, updateCount := loop.updateCount + 1 })

def leaveCompleteCmd (queue : CNvmeQueue) (loop : CompleteLoop) : CNvmeQueue :=
  if loop.updateCount ≠ 0 then { queue with cplDbl := queue.cplHead } else queue

def completeLoop (queue : CNvmeQueue) (heap : Heap) (loop : CompleteLoop) : Nat → CNvmeQueue × Heap × CompleteLoop
  | 0 => (queue, heap, loop)
  | fuel + 1 =>
      if queue.loopContinues loop then
        let (queue, heap, loop) := queue.completeOne heap loop
        completeLoop queue heap loop fuel
      else (queue, heap, loop)

/-- `CompleteCmd`. The `break` bounds the loop, so `maxCount` iterations are enough fuel. -/
def completeCmd (queue : CNvmeQueue) (heap : Heap) (maxCount : Nat) : CNvmeQueue × Heap :=
  let entered := queue.enterCompleteCmd maxCount
  let (queue, heap, loop) := queue.completeLoop heap entered entered.maxCount
  (queue.leaveCompleteCmd loop, heap)

end CNvmeQueue

end SpcNvme
