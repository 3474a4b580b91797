import SpcNvme.Proofs.Steps

/-! The steps of the system as cases: which guard let each of them through and
what the state is afterwards. -/

namespace SpcNvme.System

def accepted (state : System) (address : Nat) (record : SrbExt) (cmd : NvmeCommand) : System :=
  { state with
    queue := state.queue.accept address cmd
    heap := state.queue.setSubIndex (state.queue.releaseOld (state.heap.put address record) cmd) address }

def refused (state : System) (address : Nat) (record : SrbExt) : System :=
  { state with heap := state.heap.put address record }

def iterated (state : System) (loop : CompleteLoop) : System :=
  { state with
    queue := state.queue.consume loop
    loop := some {
      cpl := (state.queue.cplHead + 1) % state.queue.depth
      srbext := state.queue.popped loop
      updateCount := loop.updateCount + 1
      maxCount := loop.maxCount }
    heap := state.queue.poppedHeap state.heap loop }

theorem iterate_eq (state : System) (loop : CompleteLoop) : state.iterate loop = state.iterated loop := by
  simp only [iterate, CNvmeQueue.completeOne_eq]
  rfl

theorem submit_eq (state : System) (address : Nat) (record : SrbExt) (cmd : NvmeCommand) :
    (state.queue.accepts cmd ∧ state.submit address record cmd = state.accepted address record cmd) ∨
    (¬ state.queue.accepts cmd ∧ state.submit address record cmd = state.refused address record) := by
  by_cases accepts : state.queue.accepts cmd
  · refine .inl ⟨accepts, ?_⟩
    simp only [submit, state.queue.submitCmd_accepts _ address accepts]
    rfl
  · obtain ⟨status, _, same⟩ := state.queue.submitCmd_refuses (state.heap.put address record) address accepts
    refine .inr ⟨accepts, ?_⟩
    simp only [submit, same]
    rfl

/-- The state after a reset that left the completion head at a given position. -/
def cleared (state : System) (position : Nat) : System :=
  { state with queue := state.queue.cleared position, heap := (state.queue.history.reset state.heap).2 }

def scribbled (state : System) (slot : Nat) (entry : NvmeCompletionEntry) : System :=
  { state with queue := { state.queue with cplQ := Function.update state.queue.cplQ slot ⟨entry, none⟩ } }

inductive Transition (before : System) : Event → System → Prop where
  | accepted {address : Nat} {record : SrbExt} {cmd : NvmeCommand}
      (ready : before.queue.isReady = true) (safe : before.queue.isSafeForSubmit = true)
      (inside : cmd.cid.toNat < before.queue.history.depth) :
      Transition before (.submit address record cmd) (before.accepted address record cmd)
  | refused {address : Nat} {record : SrbExt} {cmd : NvmeCommand}
      (refuses : ¬ before.queue.accepts cmd) :
      Transition before (.submit address record cmd) (before.refused address record)
  | fetched (behind : before.device.sqHead ≠ before.queue.subDbl) :
      Transition before .fetch { before with device := before.device.fetch before.queue }
  | posted {index : Nat} {reply : Reply} {submission : Submission}
      (pending : before.device.pending[index]? = some submission) :
      Transition before (.post index reply) (before.post index submission reply)
  | entered {maxCount : Nat} (idle : before.loop = none) :
      Transition before (.enter maxCount) { before with loop := some (before.queue.enterCompleteCmd maxCount) }
  | iterated {loop : CompleteLoop} (running : before.loop = some loop)
      (arrived : newCplArrived (before.nextSlot loop).entry before.queue.phaseTag = true)
      (more : loop.updateCount < loop.maxCount) : Transition before .iterate (before.iterated loop)
  | left {loop : CompleteLoop} (running : before.loop = some loop) (ended : before.queue.loopContinues loop = false) :
      Transition before .leave { before with queue := before.queue.leaveCompleteCmd loop, loop := none }
  | reset (idle : before.loop = none) : Transition before .reset before.reset
  | scribbled {slot : Nat} {entry : NvmeCompletionEntry} :
      Transition before (.scribble slot entry) (before.scribbled slot entry)

theorem step_transition {before after : System} {event : Event} (taken : before.step event = some after) :
    Transition before event after := by
  cases event with
  | submit address record cmd =>
    obtain rfl : before.submit address record cmd = after := Option.some.inj taken
    rcases before.submit_eq address record cmd with ⟨⟨ready, safe, inside⟩, same⟩ | ⟨refuses, same⟩
    · rw [same]
      exact .accepted ready safe inside
    · rw [same]
      exact .refused refuses
  | fetch =>
    by_cases caught : before.device.sqHead = before.queue.subDbl
    · simp [step, caught] at taken
    · simp only [step, caught, if_false, Option.some.injEq] at taken
      subst taken
      exact .fetched caught
  | post index reply =>
    simp only [step, Option.map_eq_some_iff] at taken
    obtain ⟨submission, pending, rfl⟩ := taken
    exact .posted pending
  | enter maxCount =>
    cases idle : before.loop with
    | some loop => simp [step, idle] at taken
    | none =>
      simp only [step, idle, Option.some.injEq] at taken
      subst taken
      exact .entered idle
  | iterate =>
    cases running : before.loop with
    | none => simp [step, running] at taken
    | some loop =>
      cases continues : before.queue.loopContinues loop with
      | false => simp [step, running, continues] at taken
      | true =>
        simp only [step, running, continues, if_true, Option.some.injEq, iterate_eq] at taken
        subst taken
        simp only [CNvmeQueue.loopContinues, Bool.and_eq_true, decide_eq_true_eq] at continues
        exact .iterated running continues.1 continues.2
  | leave =>
    cases running : before.loop with
    | none => simp [step, running] at taken
    | some loop =>
      cases continues : before.queue.loopContinues loop with
      | true => simp [step, running, continues] at taken
      | false =>
        simp only [step, running, continues, Bool.false_eq_true, if_false, Option.some.injEq] at taken
        subst taken
        exact .left running continues
  | reset =>
    cases idle : before.loop with
    | some loop => simp [step, idle] at taken
    | none =>
      simp only [step, idle, Option.some.injEq] at taken
      subst taken
      exact .reset idle
  | scribble slot entry =>
    simp only [step, Option.some.injEq] at taken
    subst taken
    exact .scribbled

private theorem completeLoop_run {state : System} {loop : CompleteLoop} {fuel : Nat} (running : state.loop = some loop)
    (enough : loop.maxCount ≤ loop.updateCount + fuel) :
    ∃ count, Machine.run step state (List.replicate count .iterate ++ [.leave]) =
      some { state with
        queue := (state.queue.completeLoop state.heap loop fuel).1.leaveCompleteCmd
          (state.queue.completeLoop state.heap loop fuel).2.2
        loop := none
        heap := (state.queue.completeLoop state.heap loop fuel).2.1 } := by
  induction fuel generalizing state loop with
  | zero =>
    have ended : state.queue.loopContinues loop = false := by
      have reached : loop.maxCount ≤ loop.updateCount := enough
      simp [CNvmeQueue.loopContinues, Nat.not_lt_of_le reached]
    refine ⟨0, ?_⟩
    simp [Machine.run, step, running, ended, CNvmeQueue.completeLoop]
  | succ fuel ih =>
    cases continues : state.queue.loopContinues loop with
    | false =>
      refine ⟨0, ?_⟩
      simp [Machine.run, step, running, continues, CNvmeQueue.completeLoop]
    | true =>
      have taken : state.step .iterate = some (state.iterated loop) := by
        simp [step, running, continues, iterate_eq]
      have less : loop.maxCount ≤ loop.updateCount + 1 + fuel := by omega
      obtain ⟨count, ran⟩ := @ih (state.iterated loop) _ rfl less
      refine ⟨count + 1, ?_⟩
      rw [List.replicate_succ, List.cons_append, Machine.run_cons taken, ran]
      simp only [CNvmeQueue.completeLoop, continues, if_true, CNvmeQueue.completeOne_eq]
      rfl

/-- A completion call that nothing interrupts is a run of the system. -/
theorem completeCmd_run {state : System} (idle : state.loop = none) (maxCount : Nat) :
    ∃ count, Machine.run step state (.enter maxCount :: (List.replicate count .iterate ++ [.leave])) =
      some { state with
        queue := (state.queue.completeCmd state.heap maxCount).1
        heap := (state.queue.completeCmd state.heap maxCount).2 } := by
  have entered : state.step (.enter maxCount) =
      some { state with loop := some (state.queue.enterCompleteCmd maxCount) } := by simp [step, idle]
  obtain ⟨count, ran⟩ := @completeLoop_run { state with loop := some (state.queue.enterCompleteCmd maxCount) } _
    (state.queue.enterCompleteCmd maxCount).maxCount rfl (Nat.le_add_left _ _)
  refine ⟨count, ?_⟩
  rw [Machine.run_cons entered, ran]
  simp [CNvmeQueue.completeCmd, idle]

end SpcNvme.System
