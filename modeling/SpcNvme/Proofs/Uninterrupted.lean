import SpcNvme.Proofs.Interleaving

/-! A call whose steps nothing else comes between does what the function it models
does in one piece. -/

namespace SpcNvme

namespace Heap
variable {heap : Heap} {srbext : SrbExtPtr}

theorem storeSrbStatus_internal (missing : (heap.srbext srbext.address).srb = none) (status : SrbStatus) :
    heap.storeSrbStatus srbext status = heap.completeSrb srbext.address (some srbext.submission) status := by
  simp only [storeSrbStatus, completeSrb, SrbExt.completeSrb, missing]

theorem notifySrb_storeSrbStatus {srb : Srb} (present : (heap.srbext srbext.address).srb = some srb)
    (status : SrbStatus) :
    (heap.storeSrbStatus srbext status).notifySrb srbext.address status =
      heap.completeSrb srbext.address (some srbext.submission) status := by
  simp [storeSrbStatus, notifySrb, completeSrb, SrbExt.completeSrb, present, put]

end Heap

namespace SharedQueue
variable {queue : CNvmeQueue} {heap : Heap} {lock : SubLock} {processors processor index : Nat}
  {calls : Nat → Option CompleteCall} {srbext : SrbExtPtr} {cmd : NvmeCommand}

/-- The steps of `CompleteSrb` make up the function, whoever calls it. -/
theorem completeSrb_repeats {event : SharedEvent} {status : SrbStatus} {inside : Heap → CompleteSrbPc → SharedQueue}
    {returned : Heap → SharedQueue}
    (steps : ∀ heap pc, step (inside heap pc) event = some (match (heap.completeSrbStep srbext status pc).2 with
      | some next => inside (heap.completeSrbStep srbext status pc).1 next
      | none => returned (heap.completeSrbStep srbext status pc).1)) :
    Machine.Repeats step event (inside heap .store)
      (returned (heap.completeSrb srbext.address (some srbext.submission) status)) := by
  have stored := steps heap .store
  have tested := steps (heap.storeSrbStatus srbext status) .test
  have kept : ((heap.storeSrbStatus srbext status).srbext srbext.address).srb = (heap.srbext srbext.address).srb := by
    simp [Heap.storeSrbStatus]
  apply Machine.Repeats.head stored
  cases held : (heap.srbext srbext.address).srb with
  | none =>
    simp only [Heap.completeSrbStep, kept, held, Option.isNone_none, if_true] at tested
    rw [← Heap.storeSrbStatus_internal held]
    exact .single tested
  | some srb =>
    simp only [Heap.completeSrbStep, kept, held, Option.isNone_some, Bool.false_eq_true, if_false] at tested
    rw [← Heap.notifySrb_storeSrbStatus held]
    apply Machine.Repeats.head tested
    exact .single (steps (heap.storeSrbStatus srbext status) .notify)

/-! ### `SubmitCmd` -/

private theorem release_repeats (old : SrbExtPtr) :
    Machine.Repeats step .holder ⟨queue, heap, .release old .store srbext cmd, processors, calls⟩
      ⟨queue, heap.completeSrb old.address (some old.submission) .busy, .pushAgain srbext cmd, processors, calls⟩ := by
  refine @completeSrb_repeats heap old .holder .busy (fun heap pc => ⟨queue, heap, .release old pc srbext cmd, processors, calls⟩)
    (fun heap => ⟨queue, heap, .pushAgain srbext cmd, processors, calls⟩) ?_
  intro heap pc
  simp only [step, holderStep]
  cases (heap.completeSrbStep old .busy pc).2 <;> rfl

private theorem write_repeats :
    Machine.Repeats step .holder ⟨queue, heap, .write srbext cmd, processors, calls⟩
      ⟨queue.enqueue srbext cmd, queue.setSubIndex heap srbext.address, .free, processors, calls⟩ := by
  apply Machine.Repeats.head
  · rfl
  · apply Machine.Repeats.head
    · rfl
    · exact .single rfl

theorem push_outside (outside : queue.history.depth ≤ cmd.cid.toNat) :
    step ⟨queue, heap, .push srbext cmd, processors, calls⟩ .holder = some ⟨queue, heap, .free, processors, calls⟩ := by
  simp [step, holderStep, CCmdHistory.push, outside, NtStatus.ntSuccess]

private theorem push_taken {old : SrbExtPtr} (inside : cmd.cid.toNat < queue.history.depth)
    (held : queue.history.history cmd.cid.toNat = some old) :
    step ⟨queue, heap, .push srbext cmd, processors, calls⟩ .holder =
      some ⟨queue, heap, .pop srbext cmd, processors, calls⟩ := by
  simp [step, holderStep, CCmdHistory.push, Nat.not_le_of_lt inside, held]

def pushed (queue : CNvmeQueue) (srbext : SrbExtPtr) (cmd : NvmeCommand) : CCmdHistory :=
  ⟨queue.history.depth, Function.update queue.history.history cmd.cid.toNat (some srbext)⟩

theorem push_free (inside : cmd.cid.toNat < queue.history.depth) (free : queue.history.history cmd.cid.toNat = none) :
    step ⟨queue, heap, .push srbext cmd, processors, calls⟩ .holder =
      some ⟨{ queue with history := pushed queue srbext cmd }, heap, .write srbext cmd, processors, calls⟩ := by
  simp [step, holderStep, CCmdHistory.push, Nat.not_le_of_lt inside, free, NtStatus.ntSuccess, pushed]

private theorem pop_held {old : SrbExtPtr} (inside : cmd.cid.toNat < queue.history.depth)
    (held : queue.history.history cmd.cid.toNat = some old) :
    step ⟨queue, heap, .pop srbext cmd, processors, calls⟩ .holder =
      some ⟨{ queue with
        history := ⟨queue.history.depth, Function.update queue.history.history cmd.cid.toNat none⟩
        trace := { queue.trace with replaced := queue.trace.replaced ++ [old.submission] } },
        heap, .release old .store srbext cmd, processors, calls⟩ := by
  simp [step, holderStep, CCmdHistory.pop, Nat.not_le_of_lt inside, held]

private theorem pushAgain_free (inside : cmd.cid.toNat < queue.history.depth) (free : queue.history.history cmd.cid.toNat = none) :
    step ⟨queue, heap, .pushAgain srbext cmd, processors, calls⟩ .holder =
      some ⟨{ queue with history := pushed queue srbext cmd }, heap, .write srbext cmd, processors, calls⟩ := by
  simp [step, holderStep, CCmdHistory.push, Nat.not_le_of_lt inside, free, pushed]

/-- An accepted command is a run from its push to the doorbell, through the
release of the old command if there is one. -/
theorem accept_repeats (address : Nat) (inside : cmd.cid.toNat < queue.history.depth) :
    Machine.Repeats step .holder
      ⟨queue, heap, .push ⟨address, queue.trace.submitted.length⟩ cmd, processors, calls⟩
      ⟨queue.accept address cmd, queue.setSubIndex (queue.releaseOld heap cmd) address, .free, processors, calls⟩ := by
  cases held : queue.history.history cmd.cid.toNat with
  | none =>
    apply Machine.Repeats.head (push_free inside held)
    have written : queue.accept address cmd =
        ({ queue with history := pushed queue ⟨address, queue.trace.submitted.length⟩ cmd } : CNvmeQueue).enqueue
          ⟨address, queue.trace.submitted.length⟩ cmd := by
      simp [CNvmeQueue.accept, CNvmeQueue.replacedBy, held, pushed]
    rw [written]
    simp only [CNvmeQueue.releaseOld, held]
    exact write_repeats
  | some old =>
    let replaced := queue.trace.replaced ++ [old.submission]
    let emptied : CNvmeQueue := { queue with
      history := ⟨queue.history.depth, Function.update queue.history.history cmd.cid.toNat none⟩
      trace := { queue.trace with replaced := replaced } }
    have free : emptied.history.history cmd.cid.toNat = none := Function.update_self ..
    have written : queue.accept address cmd =
        ({ emptied with history := pushed emptied ⟨address, queue.trace.submitted.length⟩ cmd } : CNvmeQueue).enqueue
          ⟨address, queue.trace.submitted.length⟩ cmd := by
      simp [CNvmeQueue.accept, CNvmeQueue.replacedBy, held, pushed, emptied, replaced]
    apply Machine.Repeats.head (push_taken inside held)
    apply Machine.Repeats.head (pop_held inside held)
    apply Machine.Repeats.trans (release_repeats old)
    apply Machine.Repeats.head (@pushAgain_free emptied _ _ _ _ _ inside free)
    rw [written]
    simp only [CNvmeQueue.releaseOld, held]
    exact write_repeats

theorem submitCmd_repeats (address : Nat) (cmd : NvmeCommand) :
    ∃ entered, step ⟨queue, heap, .free, processors, calls⟩ (.submit address cmd) = some entered ∧
      Machine.Repeats step .holder entered
        ⟨(queue.submitCmd heap address cmd).2.1, (queue.submitCmd heap address cmd).2.2, .free, processors, calls⟩ := by
  refine ⟨_, rfl, ?_⟩
  rw [queue.submitCmd_eq]
  cases ready : queue.isReady with
  | false =>
    simp only [enterSubmitCmd, ready, Bool.not_false, if_true]
    exact .refl ..
  | true =>
    cases safe : queue.isSafeForSubmit with
    | false =>
      simp only [enterSubmitCmd, ready, safe, Bool.not_true, Bool.not_false, Bool.true_eq_false, if_true, if_false,
        Bool.false_eq_true]
      exact .refl ..
    | true =>
      simp only [enterSubmitCmd, ready, safe, Bool.not_true, Bool.false_eq_true, Bool.true_eq_false, if_false]
      by_cases outside : queue.history.depth ≤ cmd.cid.toNat
      · rw [if_pos outside]
        exact .single (push_outside outside)
      · rw [if_neg outside]
        exact accept_repeats address (Nat.lt_of_not_le outside)

/-! ### `ResetAllCmd` -/

private theorem resetSrb_repeats :
    Machine.Repeats step .holder ⟨queue, heap, .resetSrb index srbext .store, processors, calls⟩
      ⟨queue, heap.completeSrb srbext.address (some srbext.submission) .busReset, .clear index, processors, calls⟩ := by
  refine @completeSrb_repeats heap srbext .holder .busReset
    (fun heap pc => ⟨queue, heap, .resetSrb index srbext pc, processors, calls⟩)
    (fun heap => ⟨queue, heap, .clear index, processors, calls⟩) ?_
  intro heap pc
  simp only [step, holderStep]
  cases (heap.completeSrbStep srbext .busReset pc).2 <;> rfl

private theorem readSlot_repeats (inside : index < queue.history.depth) :
    Machine.Repeats step .holder ⟨queue, heap, .read index, processors, calls⟩
      (match queue.history.history index with
        | none => ⟨queue, heap, .read (index + 1), processors, calls⟩
        | some srbext =>
            ⟨{ queue with history := ⟨queue.history.depth, Function.update queue.history.history index none⟩ },
              heap.completeSrb srbext.address (some srbext.submission) .busReset, .read (index + 1), processors, calls⟩) := by
  cases held : queue.history.history index with
  | none =>
    apply Machine.Repeats.single
    simp [step, holderStep, Nat.not_le_of_lt inside, held]
  | some srbext =>
    have read : step ⟨queue, heap, .read index, processors, calls⟩ .holder =
        some ⟨queue, heap, .resetSrb index srbext .store, processors, calls⟩ := by
      simp [step, holderStep, Nat.not_le_of_lt inside, held]
    apply Machine.Repeats.head read
    apply Machine.Repeats.trans resetSrb_repeats
    exact .single rfl

private theorem read_ended (ended : queue.history.depth ≤ index) :
    step ⟨queue, heap, .read index, processors, calls⟩ .holder = some ⟨queue, heap, .zero, processors, calls⟩ := by
  simp [step, holderStep, ended]

private theorem resetUpTo_repeats {count : Nat} (within : count ≤ queue.history.depth) :
    Machine.Repeats step .holder ⟨queue, heap, .read 0, processors, calls⟩
      ⟨{ queue with history := (queue.history.resetUpTo heap count).1 }, (queue.history.resetUpTo heap count).2,
        .read count, processors, calls⟩ := by
  induction count with
  | zero => exact .refl ..
  | succ count ih =>
    have depth : (queue.history.resetUpTo heap count).1.depth = queue.history.depth := by rw [resetUpTo_table]
    have inside : count < (queue.history.resetUpTo heap count).1.depth := by omega
    have slot := @readSlot_repeats { queue with history := (queue.history.resetUpTo heap count).1 }
      (queue.history.resetUpTo heap count).2 processors count calls inside
    apply Machine.Repeats.trans (ih (by omega))
    cases held : (queue.history.resetUpTo heap count).1.history count with
    | none =>
      simp only [CCmdHistory.resetUpTo, held] at slot ⊢
      exact slot
    | some srbext =>
      simp only [CCmdHistory.resetUpTo, held] at slot ⊢
      exact slot

/-- `while (CplHead != SubTail)`, when the bound of the fast-forward loop is not what ends it. -/
theorem fastForward_repeats {fuel : Nat} (ended : (queue.fastForward fuel).cplHead = (queue.fastForward fuel).subTail) :
    Machine.Repeats step .holder ⟨queue, heap, .skip, processors, calls⟩
      ⟨queue.fastForward fuel, heap, .free, processors, calls⟩ := by
  induction fuel generalizing queue with
  | zero =>
    apply Machine.Repeats.single
    exact if_pos ended
  | succ fuel ih =>
    by_cases here : queue.cplHead = queue.subTail
    · simp only [CNvmeQueue.fastForward, here, if_true]
      apply Machine.Repeats.single
      exact if_pos here
    · simp only [CNvmeQueue.fastForward, here, if_false] at ended ⊢
      apply Machine.Repeats.head
      · exact if_neg here
      · exact ih ended

theorem resetAllCmd_repeats (head : queue.cplHead = queue.trace.passed % queue.depth)
    (inPhase : queue.phaseTag = PhaseRing.phase queue.depth queue.trace.passed) (wrapped : queue.subTail < queue.depth) :
    step ⟨queue, heap, .free, processors, calls⟩ .reset = some ⟨queue, heap, .read 0, processors, calls⟩ ∧
    Machine.Repeats step .holder ⟨queue, heap, .read 0, processors, calls⟩
      ⟨(queue.resetAllCmd heap).1, (queue.resetAllCmd heap).2, .free, processors, calls⟩ := by
  refine ⟨rfl, ?_⟩
  obtain ⟨skipped, _, same, reached⟩ := queue.resetAllCmd_eq heap head inPhase wrapped
  have ended : (queue.resetAllCmd heap).1.cplHead = (queue.resetAllCmd heap).1.subTail := by
    rw [same]
    exact reached
  have depth : (queue.history.resetUpTo heap queue.history.depth).1.depth = queue.history.depth := by rw [resetUpTo_table]
  apply Machine.Repeats.trans (resetUpTo_repeats (Nat.le_refl _))
  apply Machine.Repeats.head (read_ended (Nat.le_of_eq depth))
  apply Machine.Repeats.head
  · rfl
  · exact fastForward_repeats ended

/-! ### `CompleteCmd` -/

private theorem completer_step (state : SharedQueue) (processor : Nat) (loop : CompleteLoop) (pc : CompletePc) :
    step (state.goto processor loop pc) (.completer processor) =
      some ((state.goto processor loop pc).completerStep processor ⟨loop, pc⟩) := by
  simp [step, goto]

variable {loop : CompleteLoop}

private theorem completing_repeats (status : SrbStatus) :
    Machine.Repeats step (.completer processor)
      (goto ⟨queue, heap, lock, processors, calls⟩ processor loop (.complete srbext .store status))
      (goto ⟨queue, heap.completeSrb srbext.address (some srbext.submission) status, lock, processors, calls⟩ processor
        loop (.cleanUp srbext)) := by
  refine @completeSrb_repeats heap srbext (.completer processor) status
    (fun heap pc => goto ⟨queue, heap, lock, processors, calls⟩ processor loop (.complete srbext pc status))
    (fun heap => goto ⟨queue, heap, lock, processors, calls⟩ processor loop (.cleanUp srbext)) ?_
  intro heap pc
  rw [completer_step]
  simp only [completerStep, goto, Function.update_idem]
  cases (heap.completeSrbStep srbext status pc).2 <;> rfl

private theorem finishSrbExt_repeats :
    Machine.Repeats step (.completer processor)
      (goto ⟨queue, heap, lock, processors, calls⟩ processor loop (.copy srbext))
      (goto ⟨queue, finishSrbExt heap srbext.address (some srbext.submission) (queue.cplQ loop.cpl).entry, lock, processors,
        calls⟩ processor loop .decrement) := by
  let copied := heap.put srbext.address { heap.srbext srbext.address with nvmeCpl := (queue.cplQ loop.cpl).entry }
  let called := runCompletionCB copied srbext.address (some srbext.submission)
  let status := nvmeToSrbStatus (called.srbext srbext.address).nvmeCpl.status
  have copies : step (goto ⟨queue, heap, lock, processors, calls⟩ processor loop (.copy srbext)) (.completer processor) =
      some (goto ⟨queue, copied, lock, processors, calls⟩ processor loop (.callback srbext)) := by
    rw [completer_step]
    simp [completerStep, goto, copied]
  have callsBack : step (goto ⟨queue, copied, lock, processors, calls⟩ processor loop (.callback srbext))
      (.completer processor) = some (goto ⟨queue, called, lock, processors, calls⟩ processor loop (.status srbext)) := by
    rw [completer_step]
    simp [completerStep, goto, called]
  have reads : step (goto ⟨queue, called, lock, processors, calls⟩ processor loop (.status srbext)) (.completer processor) =
      some (goto ⟨queue, called, lock, processors, calls⟩ processor loop (.complete srbext .store status)) := by
    rw [completer_step]
    simp [completerStep, goto, status]
  apply Machine.Repeats.head copies
  apply Machine.Repeats.head callsBack
  apply Machine.Repeats.head reads
  apply Machine.Repeats.trans (completing_repeats status)
  apply Machine.Repeats.single
  rw [completer_step]
  simp [completerStep, goto, finishSrbExt, called, copied, status]

theorem pop_popped (queue : CNvmeQueue) (loop : CompleteLoop) :
    ∃ status, queue.history.pop (queue.cplQ loop.cpl).entry.cid.toNat loop.srbext =
      (status, queue.popped loop, ⟨queue.history.depth, queue.poppedHistory loop⟩) := by
  rcases queue.history.pop_cases (queue.cplQ loop.cpl).entry.cid.toNat loop.srbext with ⟨outside, same⟩ |
    ⟨inside, status, same⟩
  · refine ⟨.unsuccessful, ?_⟩
    simp [same, CNvmeQueue.popped, CNvmeQueue.poppedHistory, outside]
  · exact ⟨status, by rw [same, popped_of_lt inside, poppedHistory_of_lt inside]⟩

def taken (queue : CNvmeQueue) (loop : CompleteLoop) : CNvmeQueue :=
  { queue with
    subHead := (queue.cplQ loop.cpl).entry.sqhd.toNat
    history := ⟨queue.history.depth, queue.poppedHistory loop⟩
    trace := { queue.trace with
      consumed := queue.trace.consumed ++ [Consumed.mk (queue.cplQ loop.cpl) (queue.popped loop)] } }

private theorem completeOne_repeats (continues : queue.loopContinues loop = true) :
    Machine.Repeats step (.completer processor) (goto ⟨queue, heap, lock, processors, calls⟩ processor loop .test)
      (goto ⟨(queue.completeOne heap loop).1, (queue.completeOne heap loop).2.1, lock, processors, calls⟩ processor
        (queue.completeOne heap loop).2.2 .test) := by
  rw [queue.completeOne_eq]
  let slot := queue.cplQ loop.cpl
  let popped := { loop with srbext := queue.popped loop }
  have tested : step (goto ⟨queue, heap, lock, processors, calls⟩ processor loop .test) (.completer processor) =
      some (goto ⟨{ queue with subHead := slot.entry.sqhd.toNat }, heap, lock, processors, calls⟩ processor loop
        (.pop slot.entry.cid)) := by
    rw [completer_step]
    have more : ∀ pc, (goto ⟨queue, heap, lock, processors, calls⟩ processor loop pc).queue.loopContinues loop = true :=
      fun _ => continues
    simp only [completerStep, more, if_true]
    simp [goto, slot]
  have pops : step (goto ⟨{ queue with subHead := slot.entry.sqhd.toNat }, heap, lock, processors, calls⟩ processor loop
      (.pop slot.entry.cid)) (.completer processor) =
        some (goto ⟨taken queue loop, heap, lock, processors, calls⟩ processor popped
          ((queue.popped loop).elim .advance .copy)) := by
    obtain ⟨status, same⟩ := pop_popped queue loop
    rw [completer_step]
    simp only [completerStep, goto, slot, same, Function.update_idem]
    cases held : queue.popped loop <;> simp [taken, popped, held]
  apply Machine.Repeats.head tested
  apply Machine.Repeats.head pops
  cases held : queue.popped loop with
  | none =>
    apply Machine.Repeats.single
    rw [completer_step]
    simp [completerStep, goto, taken, popped, held, CNvmeQueue.consume, CNvmeQueue.poppedInflight, CNvmeQueue.poppedHeap,
      CNvmeQueue.updateCplHeadAndPhase]
  | some srbext =>
    let finished := finishSrbExt heap srbext.address (some srbext.submission) slot.entry
    let counted := { taken queue loop with inflightCmds := longWrap (queue.inflightCmds - 1) }
    have decrements : step (goto ⟨taken queue loop, finished, lock, processors, calls⟩ processor popped .decrement)
        (.completer processor) = some (goto ⟨counted, finished, lock, processors, calls⟩ processor popped .advance) := by
      rw [completer_step]
      simp [completerStep, goto, counted, taken]
    apply Machine.Repeats.trans finishSrbExt_repeats
    apply Machine.Repeats.head decrements
    apply Machine.Repeats.single
    rw [completer_step]
    simp [completerStep, goto, counted, taken, finished, slot, popped, held, CNvmeQueue.consume,
      CNvmeQueue.poppedInflight, CNvmeQueue.poppedHeap, CNvmeQueue.updateCplHeadAndPhase]

private theorem leaveCompleteCmd_step (ended : queue.loopContinues loop = false) :
    step (goto ⟨queue, heap, lock, processors, calls⟩ processor loop .test) (.completer processor) =
      some ⟨queue.leaveCompleteCmd loop, heap, lock, processors, Function.update calls processor none⟩ := by
  have last : ∀ pc, (goto ⟨queue, heap, lock, processors, calls⟩ processor loop pc).queue.loopContinues loop = false :=
    fun _ => ended
  rw [completer_step]
  simp only [completerStep, last, Bool.false_eq_true, if_false]
  simp [goto]

private theorem completeLoop_repeats {fuel : Nat} (enough : loop.maxCount ≤ loop.updateCount + fuel) :
    Machine.Repeats step (.completer processor) (goto ⟨queue, heap, lock, processors, calls⟩ processor loop .test)
      ⟨(queue.completeLoop heap loop fuel).1.leaveCompleteCmd (queue.completeLoop heap loop fuel).2.2,
        (queue.completeLoop heap loop fuel).2.1, lock, processors, Function.update calls processor none⟩ := by
  induction fuel generalizing queue heap loop with
  | zero =>
    have ended : queue.loopContinues loop = false := by
      have reached : loop.maxCount ≤ loop.updateCount := enough
      simp [CNvmeQueue.loopContinues, Nat.not_lt_of_le reached]
    exact .single (leaveCompleteCmd_step ended)
  | succ fuel ih =>
    cases continues : queue.loopContinues loop with
    | false =>
      simp only [CNvmeQueue.completeLoop, continues, Bool.false_eq_true, if_false]
      exact .single (leaveCompleteCmd_step continues)
    | true =>
      simp only [CNvmeQueue.completeLoop, continues, if_true]
      apply Machine.Repeats.trans (completeOne_repeats continues)
      apply ih
      rw [queue.completeOne_eq]
      dsimp only
      omega

/-- `CompleteCmd` in one piece, on a processor that is not in it already. -/
theorem completeCmd_repeats (inside : processor < processors) (idle : calls processor = none) (maxCount : Nat) :
    ∃ entered, step ⟨queue, heap, lock, processors, calls⟩ (.enter processor maxCount) = some entered ∧
      Machine.Repeats step (.completer processor) entered
        ⟨(queue.completeCmd heap maxCount).1, (queue.completeCmd heap maxCount).2, lock, processors, calls⟩ := by
  have left : Function.update calls processor none = calls := by rw [← idle, Function.update_eq_self]
  refine ⟨_, if_pos ⟨inside, idle⟩, ?_⟩
  have ran := @completeLoop_repeats queue heap lock processors processor calls (queue.enterCompleteCmd maxCount)
    (queue.enterCompleteCmd maxCount).maxCount (Nat.le_add_left _ _)
  rw [left] at ran
  exact ran

end SharedQueue

end SpcNvme
