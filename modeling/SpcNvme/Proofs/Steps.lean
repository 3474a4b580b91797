import SpcNvme.System
import SpcNvme.Lib.PhaseRing

/-! What each function of the queue and each step of the system does, said once:
an accepted submission is one update, and so is one iteration of the completion
loop. Later proofs use these equations and never unfold the functions. -/

namespace SpcNvme

theorem longWrap_of_range {value : Int} (low : -2147483648 ≤ value) (high : value < 2147483648) : longWrap value = value := by
  unfold longWrap
  omega

theorem longWrap_longWrap_add (value delta : Int) : longWrap (longWrap value + delta) = longWrap (value + delta) := by
  unfold longWrap
  omega

namespace CNvmeQueue
variable (queue : CNvmeQueue) (heap : Heap)

/-- The commands a push under this identifier replaces: none, or the one in its slot. -/
def replacedBy (cmd : NvmeCommand) : List Nat := ((queue.history.history cmd.cid.toNat).map (·.submission)).toList

def releaseOld (cmd : NvmeCommand) : Heap :=
  match queue.history.history cmd.cid.toNat with
  | none => heap
  | some old => heap.completeSrb old.address (some old.submission) .busy

def accept (address : Nat) (cmd : NvmeCommand) : CNvmeQueue :=
  let srbext : SrbExtPtr := ⟨address, queue.trace.submitted.length⟩
  { queue with
    history := ⟨queue.history.depth, Function.update queue.history.history cmd.cid.toNat (some srbext)⟩
    trace := { queue.trace with replaced := queue.trace.replaced ++ queue.replacedBy cmd } }.enqueue srbext cmd

/-- `SubmitCmd` checks three things in order and otherwise accepts, whether or
not the slot was free. -/
theorem submitCmd_eq (address : Nat) (cmd : NvmeCommand) :
    queue.submitCmd heap address cmd =
      if queue.isReady = false then (.deviceNotReady, queue, heap)
      else if queue.isSafeForSubmit = false then (.deviceBusy, queue, heap)
      else if queue.history.depth ≤ cmd.cid.toNat then (.unsuccessful, queue, heap)
      else (.success, queue.accept address cmd, queue.setSubIndex (queue.releaseOld heap cmd) address) := by
  unfold submitCmd
  cases ready : queue.isReady <;> cases safe : queue.isSafeForSubmit <;> try rfl
  by_cases outside : queue.history.depth ≤ cmd.cid.toNat
  · simp [CCmdHistory.push, outside, NtStatus.ntSuccess]
  · cases held : queue.history.history cmd.cid.toNat with
    | none =>
      simp [CCmdHistory.push, outside, held, ready, NtStatus.ntSuccess, accept, replacedBy, releaseOld, setSubIndex,
        enqueue]
    | some old =>
      simp [CCmdHistory.push, CCmdHistory.pop, outside, held, ready, accept, replacedBy, releaseOld, setSubIndex, enqueue]

def accepts (cmd : NvmeCommand) : Prop :=
  queue.isReady = true ∧ queue.isSafeForSubmit = true ∧ cmd.cid.toNat < queue.history.depth

instance (cmd : NvmeCommand) : Decidable (queue.accepts cmd) :=
  inferInstanceAs (Decidable (_ ∧ _ ∧ _))

theorem submitCmd_accepts (address : Nat) {cmd : NvmeCommand} (accepts : queue.accepts cmd) :
    queue.submitCmd heap address cmd =
      (.success, queue.accept address cmd, queue.setSubIndex (queue.releaseOld heap cmd) address) := by
  obtain ⟨ready, safe, inside⟩ := accepts
  simp [submitCmd_eq, ready, safe, Nat.not_le_of_lt inside]

theorem submitCmd_refuses (address : Nat) {cmd : NvmeCommand} (refuses : ¬ queue.accepts cmd) :
    ∃ status, status.ntSuccess = false ∧ queue.submitCmd heap address cmd = (status, queue, heap) := by
  rw [submitCmd_eq]
  by_cases ready : queue.isReady = false
  · exact ⟨.deviceNotReady, rfl, if_pos ready⟩
  by_cases busy : queue.isSafeForSubmit = false
  · exact ⟨.deviceBusy, rfl, by simp [ready, busy]⟩
  by_cases outside : queue.history.depth ≤ cmd.cid.toNat
  · exact ⟨.unsuccessful, rfl, by simp [ready, busy, outside]⟩
  · exact absurd ⟨by simpa using ready, by simpa using busy, Nat.lt_of_not_le outside⟩ refuses

/-- The pointer an iteration completes: what the slot of the entry's identifier
holds, or, for an identifier out of range, what the last iteration left behind. -/
def popped (loop : CompleteLoop) : Option SrbExtPtr :=
  let cid := (queue.cplQ loop.cpl).entry.cid.toNat
  if queue.history.depth ≤ cid then loop.srbext else queue.history.history cid

def poppedHistory (loop : CompleteLoop) : Nat → Option SrbExtPtr :=
  let cid := (queue.cplQ loop.cpl).entry.cid.toNat
  if queue.history.depth ≤ cid then queue.history.history else Function.update queue.history.history cid none

def poppedInflight (loop : CompleteLoop) : Int :=
  if (queue.popped loop).isSome then longWrap (queue.inflightCmds - 1) else queue.inflightCmds

def poppedHeap (loop : CompleteLoop) : Heap :=
  match queue.popped loop with
  | none => heap
  | some srbext => finishSrbExt heap srbext.address (some srbext.submission) (queue.cplQ loop.cpl).entry

def consume (loop : CompleteLoop) : CNvmeQueue :=
  { queue with
    subHead := (queue.cplQ loop.cpl).entry.sqhd.toNat
    history := ⟨queue.history.depth, queue.poppedHistory loop⟩
    inflightCmds := queue.poppedInflight loop
    trace := { queue.trace with
      consumed := queue.trace.consumed ++ [Consumed.mk (queue.cplQ loop.cpl) (queue.popped loop)] } }.updateCplHeadAndPhase

theorem completeOne_eq (loop : CompleteLoop) :
    queue.completeOne heap loop =
      (queue.consume loop, queue.poppedHeap heap loop,
        { loop with
          cpl := (queue.cplHead + 1) % queue.depth
          srbext := queue.popped loop
          updateCount := loop.updateCount + 1 }) := by
  by_cases outside : queue.history.depth ≤ (queue.cplQ loop.cpl).entry.cid.toNat
  · cases left : loop.srbext <;>
      simp [completeOne, CCmdHistory.pop, consume, popped, poppedHistory, poppedInflight, poppedHeap, outside, left,
        updateCplHeadAndPhase]
  · cases held : queue.history.history (queue.cplQ loop.cpl).entry.cid.toNat <;>
      simp [completeOne, CCmdHistory.pop, consume, popped, poppedHistory, poppedInflight, poppedHeap, outside, held,
        updateCplHeadAndPhase]

theorem leaveCompleteCmd_eq (loop : CompleteLoop) :
    ∃ cplDbl, queue.leaveCompleteCmd loop = { queue with cplDbl := cplDbl } := by
  unfold leaveCompleteCmd
  split
  · exact ⟨queue.cplHead, rfl⟩
  · exact ⟨queue.cplDbl, rfl⟩

section Fields
variable (address : Nat) (cmd : NvmeCommand) (loop : CompleteLoop)

@[simp] theorem accept_depth : (queue.accept address cmd).depth = queue.depth := rfl
@[simp] theorem accept_historyDepth : (queue.accept address cmd).historyDepth = queue.historyDepth := rfl
@[simp] theorem accept_isReady : (queue.accept address cmd).isReady = queue.isReady := rfl
@[simp] theorem accept_cplQ : (queue.accept address cmd).cplQ = queue.cplQ := rfl
@[simp] theorem accept_cplHead : (queue.accept address cmd).cplHead = queue.cplHead := rfl
@[simp] theorem accept_phaseTag : (queue.accept address cmd).phaseTag = queue.phaseTag := rfl
@[simp] theorem accept_subTail : (queue.accept address cmd).subTail = (queue.subTail + 1) % queue.depth := rfl
@[simp] theorem accept_subDbl : (queue.accept address cmd).subDbl = (queue.subTail + 1) % queue.depth := rfl
@[simp] theorem accept_inflightCmds : (queue.accept address cmd).inflightCmds = longWrap (queue.inflightCmds + 1) := rfl
@[simp] theorem accept_subQ : (queue.accept address cmd).subQ =
    Function.update queue.subQ queue.subTail ⟨cmd, ⟨address, queue.trace.submitted.length⟩⟩ := rfl
@[simp] theorem accept_history_depth : (queue.accept address cmd).history.depth = queue.history.depth := rfl
@[simp] theorem accept_history : (queue.accept address cmd).history.history =
    Function.update queue.history.history cmd.cid.toNat (some ⟨address, queue.trace.submitted.length⟩) := rfl
@[simp] theorem accept_submitted : (queue.accept address cmd).trace.submitted =
    queue.trace.submitted ++ [⟨cmd, ⟨address, queue.trace.submitted.length⟩⟩] := rfl
@[simp] theorem accept_replaced : (queue.accept address cmd).trace.replaced =
    queue.trace.replaced ++ queue.replacedBy cmd := rfl
@[simp] theorem accept_consumed : (queue.accept address cmd).trace.consumed = queue.trace.consumed := rfl
@[simp] theorem accept_passed : (queue.accept address cmd).trace.passed = queue.trace.passed := rfl
@[simp] theorem accept_resetAt : (queue.accept address cmd).trace.resetAt = queue.trace.resetAt := rfl

@[simp] theorem consume_depth : (queue.consume loop).depth = queue.depth := rfl
@[simp] theorem consume_historyDepth : (queue.consume loop).historyDepth = queue.historyDepth := rfl
@[simp] theorem consume_isReady : (queue.consume loop).isReady = queue.isReady := rfl
@[simp] theorem consume_cplQ : (queue.consume loop).cplQ = queue.cplQ := rfl
@[simp] theorem consume_subQ : (queue.consume loop).subQ = queue.subQ := rfl
@[simp] theorem consume_cplHead : (queue.consume loop).cplHead = (queue.cplHead + 1) % queue.depth := rfl
@[simp] theorem consume_phaseTag : (queue.consume loop).phaseTag =
    if (queue.cplHead + 1) % queue.depth = 0 then !queue.phaseTag else queue.phaseTag := rfl
@[simp] theorem consume_subTail : (queue.consume loop).subTail = queue.subTail := rfl
@[simp] theorem consume_subDbl : (queue.consume loop).subDbl = queue.subDbl := rfl
@[simp] theorem consume_inflightCmds : (queue.consume loop).inflightCmds = queue.poppedInflight loop := rfl
@[simp] theorem consume_history_depth : (queue.consume loop).history.depth = queue.history.depth := rfl
@[simp] theorem consume_history : (queue.consume loop).history.history = queue.poppedHistory loop := rfl
@[simp] theorem consume_submitted : (queue.consume loop).trace.submitted = queue.trace.submitted := rfl
@[simp] theorem consume_replaced : (queue.consume loop).trace.replaced = queue.trace.replaced := rfl
@[simp] theorem consume_consumed : (queue.consume loop).trace.consumed =
    queue.trace.consumed ++ [⟨queue.cplQ loop.cpl, queue.popped loop⟩] := rfl
@[simp] theorem consume_passed : (queue.consume loop).trace.passed = queue.trace.passed + 1 := rfl
@[simp] theorem consume_resetAt : (queue.consume loop).trace.resetAt = queue.trace.resetAt := rfl

end Fields

def headAt (position : Nat) : CNvmeQueue :=
  { queue with
    cplHead := position % queue.depth
    phaseTag := PhaseRing.phase queue.depth position
    trace := { queue.trace with passed := position } }

private theorem updateCplHeadAndPhase_headAt (position : Nat) :
    (queue.headAt position).updateCplHeadAndPhase = queue.headAt (position + 1) := by
  simp only [updateCplHeadAndPhase, headAt, PhaseRing.slot_succ, PhaseRing.phase_succ]

/-- The loop of `ResetAllCmd` stops at the first position whose slot is the
submission tail's, which is less than one lap away. -/
theorem fastForward_headAt {fuel distance : Nat} (position : Nat) (enough : distance ≤ fuel)
    (reaches : (position + distance) % queue.depth = queue.subTail) :
    ∃ skipped ≤ distance, (queue.headAt position).fastForward fuel = queue.headAt (position + skipped) ∧
      (position + skipped) % queue.depth = queue.subTail := by
  induction fuel generalizing position distance with
  | zero =>
    obtain rfl : distance = 0 := by omega
    exact ⟨0, Nat.le_refl 0, rfl, reaches⟩
  | succ fuel ih =>
    by_cases here : position % queue.depth = queue.subTail
    · exact ⟨0, Nat.zero_le _, if_pos here, here⟩
    · cases distance with
      | zero => exact absurd reaches here
      | succ distance =>
        have next : (position + 1 + distance) % queue.depth = queue.subTail := by
          rw [← reaches]
          congr 1
          omega
        obtain ⟨skipped, bounded, same, reached⟩ := ih (position + 1) (Nat.le_of_succ_le_succ enough) next
        refine ⟨skipped + 1, Nat.succ_le_succ bounded, ?_, ?_⟩
        · rw [← Nat.add_assoc, Nat.add_right_comm, ← same, ← updateCplHeadAndPhase_headAt]
          exact if_neg here
        · rw [← reached]
          congr 1
          omega

end CNvmeQueue

theorem resetUpTo_table (table : CCmdHistory) (heap : Heap) (count : Nat) :
    (table.resetUpTo heap count).1 = ⟨table.depth, fun cid => if cid < count then none else table.history cid⟩ := by
  induction count with
  | zero => rfl
  | succ count ih =>
    have untouched : (table.resetUpTo heap count).1.history count = table.history count := by simp [ih]
    simp only [CCmdHistory.resetUpTo, untouched]
    have bound : ∀ cid, cid ≠ count → (cid < count + 1 ↔ cid < count) := by omega
    cases held : table.history count with
    | none =>
      simp only [ih, CCmdHistory.mk.injEq, true_and]
      funext cid
      by_cases last : cid = count
      · subst cid
        simp [held]
      · simp only [bound cid last]
    | some srbext =>
      simp only [ih, CCmdHistory.mk.injEq, true_and]
      funext cid
      by_cases last : cid = count
      · subst cid
        simp
      · simp only [bound cid last, Function.update_of_ne last]

namespace CNvmeQueue

def cleared (queue : CNvmeQueue) (position : Nat) : CNvmeQueue :=
  { queue with
    history := ⟨queue.history.depth, fun cid => if cid < queue.history.depth then none else queue.history.history cid⟩
    inflightCmds := 0
    trace := { queue.trace with replaced := [], resetAt := queue.trace.submitted.length } }.headAt position

theorem resetAllCmd_eq (queue : CNvmeQueue) (heap : Heap)
    (head : queue.cplHead = queue.trace.passed % queue.depth)
    (inPhase : queue.phaseTag = PhaseRing.phase queue.depth queue.trace.passed)
    (wrapped : queue.subTail < queue.depth) :
    ∃ skipped < queue.depth,
      queue.resetAllCmd heap = (queue.cleared (queue.trace.passed + skipped), (queue.history.reset heap).2) ∧
      (queue.trace.passed + skipped) % queue.depth = queue.subTail := by
  let emptied : CNvmeQueue := { queue with
    history := ⟨queue.history.depth, fun cid => if cid < queue.history.depth then none else queue.history.history cid⟩
    inflightCmds := 0
    trace := { queue.trace with replaced := [], resetAt := queue.trace.submitted.length } }
  have aligned : emptied.headAt queue.trace.passed = emptied := by
    simp only [headAt, emptied, ← head, ← inPhase]
  have reaches := PhaseRing.slot_distance wrapped queue.trace.passed
  have bounded := Nat.mod_lt (queue.subTail + queue.depth - queue.trace.passed % queue.depth) queue.depth_pos
  obtain ⟨skipped, near, same, reached⟩ := emptied.fastForward_headAt queue.trace.passed (Nat.le_of_lt bounded) reaches
  refine ⟨skipped, by omega, ?_, reached⟩
  rw [aligned] at same
  have table := resetUpTo_table queue.history heap queue.history.depth
  simp only [resetAllCmd, CCmdHistory.reset, table]
  exact congrArg (fun queue => (queue, _)) same

end CNvmeQueue

end SpcNvme
