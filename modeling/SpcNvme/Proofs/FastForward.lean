import SpcNvme.Proofs.Throttle

/-! The loop of `ResetAllCmd` that runs after the submission tail, against the
completion call that would have consumed the entries it skips. -/

namespace SpcNvme

namespace CNvmeQueue

def cplPosition (queue : CNvmeQueue) : Nat × Bool := (queue.cplHead, queue.phaseTag)

/-- So many iterations of the loop of `CompleteCmd`, on whatever the slots hold. -/
def completeMany (queue : CNvmeQueue) (heap : Heap) (loop : CompleteLoop) : Nat → CNvmeQueue
  | 0 => queue
  | count + 1 =>
      let (queue, heap, loop) := queue.completeOne heap loop
      completeMany queue heap loop count

/-- The completion head and the phase are those of an unbounded position. -/
def AtPosition (queue : CNvmeQueue) (position : Nat) : Prop :=
  queue.cplPosition = (position % queue.depth, PhaseRing.phase queue.depth position)

private theorem AtPosition.completeMany {queue : CNvmeQueue} {position : Nat} (here : queue.AtPosition position) (heap : Heap)
    (loop : CompleteLoop) (count : Nat) :
    (queue.completeMany heap loop count).cplPosition =
      ((position + count) % queue.depth, PhaseRing.phase queue.depth (position + count)) := by
  induction count generalizing queue heap loop position with
  | zero => exact here
  | succ count ih =>
    obtain ⟨head, phase⟩ := Prod.mk.inj here
    have next : (queue.consume loop).AtPosition (position + 1) := by
      simp only [AtPosition, cplPosition, consume_cplHead, consume_phaseTag, consume_depth, head, phase,
        PhaseRing.slot_succ, PhaseRing.phase_succ]
    have rest := ih next (queue.poppedHeap heap loop)
      { loop with
        cpl := (queue.cplHead + 1) % queue.depth
        srbext := queue.popped loop
        updateCount := loop.updateCount + 1 }
    rw [Nat.add_right_comm, Nat.add_assoc] at rest
    simp only [CNvmeQueue.completeMany, completeOne_eq]
    exact rest

end CNvmeQueue

namespace HostLayout
variable {queue : CNvmeQueue} (host : HostLayout queue)
include host

private theorem atPosition : queue.AtPosition queue.trace.passed := Prod.ext host.cplHead host.phaseTag

end HostLayout

private theorem Ordinary.unconsumed_eq {state : System} (ordinary : Ordinary state) :
    state.unconsumed.length + state.queue.trace.passed = state.queue.trace.submitted.length := by
  have atMost := ordinary.unconsumed_length
  obtain ⟨steady, delivered, contiguous⟩ := ordinary
  have length : state.queue.trace.consumed.length = state.queue.trace.passed := by
    have behind := contiguous.behind
    have slots := congrArg List.length contiguous.consumed
    rw [List.length_map, List.length_take] at slots
    omega
  -- every answered number is in an entry of its own
  have each : ((List.range state.queue.trace.submitted.length).filter state.answered).map some ⊆
      state.queue.trace.consumed.map (·.slot.answers) := by
    intro answers member
    obtain ⟨number, answered, rfl⟩ := List.mem_map.mp member
    obtain ⟨consumed, recorded, same⟩ := List.any_eq_true.mp (List.mem_filter.mp answered).2
    exact List.mem_map.mpr ⟨consumed, recorded, beq_iff_eq.mp same⟩
  have distinct : (((List.range state.queue.trace.submitted.length).filter state.answered).map some).Nodup :=
    (List.nodup_range.filter _).map (Option.some_injective _)
  have fewer := distinct.length_le_of_subset each
  rw [List.length_map, List.length_map, length] at fewer
  have split : (List.range state.queue.trace.submitted.length).length = _ := List.length_eq_length_filter_add state.answered
  rw [List.length_range] at split
  unfold System.unconsumed at atMost ⊢
  omega

/-! A controller that answers everything, and a completion call that reads it. -/

def Finishing (event : Event) : Prop :=
  Unreset event ∧ ∀ address record cmd, event ≠ .submit address record cmd

theorem Finishing.submitted {before after : System} {event : Event} (finishing : Finishing event)
    (taken : before.step event = some after) :
    after.queue.trace.submitted = before.queue.trace.submitted ∧ after.queue.depth = before.queue.depth := by
  cases System.step_transition taken with
  | accepted => exact absurd rfl (finishing.2 _ _ _)
  | refused => exact absurd rfl (finishing.2 _ _ _)
  | fetched => exact ⟨rfl, rfl⟩
  | posted => exact ⟨rfl, rfl⟩
  | entered => exact ⟨rfl, rfl⟩
  | iterated => exact ⟨rfl, rfl⟩
  | @left loop running ended =>
    obtain ⟨cplDbl, doorbell⟩ := before.queue.leaveCompleteCmd_eq loop
    rw [doorbell]
    exact ⟨rfl, rfl⟩
  | reset => exact absurd finishing.1.2 (by simp [Event.withoutReset])
  | scribbled => exact absurd finishing.1.1 (by simp [Event.conforming])

theorem Finishing.room {state : System} {event : Event} (finishing : Finishing event) : RoomToSubmit state event := by
  cases event with
  | submit address record cmd => exact absurd rfl (finishing.2 address record cmd)
  | _ => trivial

theorem Ordinary.finish {before after : System} {event : Event} (ordinary : Ordinary before) (finishing : Finishing event)
    (taken : before.step event = some after) : Ordinary after :=
  ordinary.step finishing.1 finishing.room taken

/-- A call about to consume an entry comes before no call, and that before a call that has
consumed as many as it may. -/
def CompleteLoop.rank : Option CompleteLoop → Nat
  | some loop => if loop.updateCount < loop.maxCount then 1 else 3
  | none => 2

theorem CompleteLoop.rank_le (loop : Option CompleteLoop) : rank loop ≤ 3 := by
  cases loop with
  | none => simp [rank]
  | some loop =>
    simp only [rank]
    split <;> omega

def System.unfinished (state : System) : Nat :=
  4 * (state.queue.trace.submitted.length - state.device.fetched) +
    4 * (state.queue.trace.submitted.length - state.device.posted.length) +
    4 * (state.queue.trace.submitted.length - state.queue.trace.passed) + CompleteLoop.rank state.loop

theorem Ordinary.fetches {state : System} (ordinary : Ordinary state)
    (behind : state.device.fetched < state.queue.trace.submitted.length) :
    ∃ next, state.step .fetch = some next ∧ next.unfinished < state.unfinished := by
  obtain ⟨steady, _, contiguous⟩ := ordinary
  have counts := steady.flow.counts
  have room := steady.flow.room
  have posted := contiguous.behind
  have apart : state.device.sqHead ≠ state.queue.subDbl := by
    rw [steady.layout.device.sqHead, steady.layout.host.subDbl]
    exact PhaseRing.slot_ne behind (by omega)
  refine ⟨_, if_neg apart, ?_⟩
  simp only [System.unfinished, Controller.fetch]
  omega

theorem Ordinary.posts {state : System} (ordinary : Ordinary state)
    (fetched : state.device.fetched = state.queue.trace.submitted.length)
    (behind : state.device.posted.length < state.queue.trace.submitted.length) (reply : Reply) :
    ∃ next, state.step (.post 0 reply) = some next ∧ next.unfinished < state.unfinished := by
  have counts := ordinary.steady.flow.counts
  have waiting : 0 < state.device.pending.length := by omega
  refine ⟨state.post 0 state.device.pending[0] reply, ?_, ?_⟩
  · simp only [System.step, List.getElem?_eq_getElem waiting, Option.map_some]
  · simp only [System.unfinished, System.post, Controller.advance, List.length_append, List.length_singleton]
    omega

/-- With everything posted the completion call goes on, or is entered, or has had its share and leaves. -/
theorem Ordinary.consumes {state : System} (ordinary : Ordinary state)
    (posted : state.device.posted.length = state.queue.trace.submitted.length)
    (behind : state.queue.trace.passed < state.queue.trace.submitted.length) :
    ∃ event next, Finishing event ∧ state.step event = some next ∧ next.unfinished < state.unfinished := by
  have steady := ordinary.steady
  cases running : state.loop with
  | none =>
    refine ⟨.enter 0, { state with loop := some (state.queue.enterCompleteCmd 0) }, ⟨⟨rfl, rfl⟩, by simp⟩, ?_, ?_⟩
    · simp only [System.step, running]
    · have wide := state.queue.depth_pos
      simp [System.unfinished, running, CompleteLoop.rank, CNvmeQueue.enterCompleteCmd, wide]
  | some loop =>
    have arrived : newCplArrived (state.queue.cplQ loop.cpl).entry state.queue.phaseTag = true := by
      have unread := Nat.le_of_lt steady.unread
      have next := (steady.flow.ring.arrived_iff state.queue.depth_pos unread steady.flow.ahead).mpr (posted ▸ behind)
      rw [steady.layout.cpl loop running, steady.layout.host.cplHead, newCplArrived, steady.layout.host.phaseTag]
      exact beq_iff_eq.mpr next
    by_cases more : loop.updateCount < loop.maxCount
    · have continues : state.queue.loopContinues loop = true := by simp [CNvmeQueue.loopContinues, arrived, more]
      refine ⟨.iterate, state.iterated loop, ⟨⟨rfl, rfl⟩, by simp⟩, ?_, ?_⟩
      · simp only [System.step, running, continues, if_true, System.iterate_eq]
      · have rank := CompleteLoop.rank_le (state.iterated loop).loop
        have left : (state.iterated loop).queue.trace.passed = state.queue.trace.passed + 1 := rfl
        have current : CompleteLoop.rank (some loop) = 1 := if_pos more
        simp only [System.unfinished, running, current, left]
        simp only [System.iterated, CNvmeQueue.consume_submitted] at rank ⊢
        omega
    · have ended : state.queue.loopContinues loop = false := by simp [CNvmeQueue.loopContinues, more]
      obtain ⟨cplDbl, doorbell⟩ := state.queue.leaveCompleteCmd_eq loop
      refine ⟨.leave, { state with queue := state.queue.leaveCompleteCmd loop, loop := none }, ⟨⟨rfl, rfl⟩, by simp⟩, ?_, ?_⟩
      · simp only [System.step, running, ended, Bool.false_eq_true, if_false]
      · rw [doorbell]
        simp [System.unfinished, running, CompleteLoop.rank, more]

theorem Ordinary.progress {state : System} (ordinary : Ordinary state) (left : state.unconsumed ≠ []) :
    ∃ event next, Finishing event ∧ state.step event = some next ∧ Ordinary next ∧ next.unfinished < state.unfinished := by
  have length := List.length_pos_of_ne_nil left
  have exact := ordinary.unconsumed_eq
  have counts := ordinary.steady.flow.counts
  have fetched := ordinary.steady.layout.device.fetched
  have step : ∃ event next, Finishing event ∧ state.step event = some next ∧ next.unfinished < state.unfinished := by
    by_cases unfetched : state.device.fetched < state.queue.trace.submitted.length
    · obtain ⟨next, taken, smaller⟩ := ordinary.fetches unfetched
      exact ⟨.fetch, next, ⟨⟨rfl, rfl⟩, by simp⟩, taken, smaller⟩
    · by_cases unposted : state.device.posted.length < state.queue.trace.submitted.length
      · obtain ⟨next, taken, smaller⟩ := ordinary.posts (by omega) unposted ⟨0, 0, 0⟩
        exact ⟨.post 0 ⟨0, 0, 0⟩, next, ⟨⟨rfl, rfl⟩, by simp⟩, taken, smaller⟩
      · exact ordinary.consumes (by omega) (by omega)
  obtain ⟨event, next, finishing, taken, smaller⟩ := step
  exact ⟨event, next, finishing, taken, ordinary.finish finishing taken, smaller⟩

/-- The loop has met its condition, and where it ends up is where the completion call
would be: after one iteration for each unconsumed command, whatever the slots hold,
and at the end of every run in which the controller and the call finish what was
submitted. There is such a run. -/
structure CatchesUp (state : System) : Prop where
  terminates : (state.queue.resetAllCmd state.heap).1.cplHead = state.queue.subTail
  stepwise : ∀ (cplQ : Nat → CplSlot) (heap : Heap) (loop : CompleteLoop),
    ({ state.queue with cplQ := cplQ }.completeMany heap loop state.unconsumed.length).cplPosition =
      (state.queue.resetAllCmd state.heap).1.cplPosition
  finished : ∀ (events : List Event) (final : System), (∀ event ∈ events, Finishing event) →
    Machine.run System.step state events = some final → final.unconsumed = [] →
      final.queue.cplPosition = (state.queue.resetAllCmd state.heap).1.cplPosition
  finishes : ∃ events final, (∀ event ∈ events, Finishing event) ∧ Machine.run System.step state events = some final ∧
    final.unconsumed = []

private theorem Ordinary.catchesUp {state : System} (ordinary : Ordinary state) : CatchesUp state := by
  have same := congrArg System.queue ordinary.steady.reset
  have reset : (state.queue.resetAllCmd state.heap).1 = state.queue.cleared state.queue.trace.submitted.length := same
  have exact := ordinary.unconsumed_eq
  rw [Nat.add_comm] at exact
  have position : (state.queue.cleared state.queue.trace.submitted.length).cplPosition =
      (state.queue.trace.submitted.length % state.queue.depth,
        PhaseRing.phase state.queue.depth state.queue.trace.submitted.length) := rfl
  refine ⟨?_, ?_, ?_, ?_⟩
  · rw [reset, ordinary.steady.layout.host.subTail]
    rfl
  · intro cplQ heap loop
    rw [(ordinary.steady.layout.host.withCplQ cplQ).atPosition.completeMany, reset, position, exact]
  · intro events final finishing ran done
    have kept : ∀ before event after, (Ordinary before ∧
        before.queue.trace.submitted = state.queue.trace.submitted ∧ before.queue.depth = state.queue.depth) →
        Finishing event → System.step before event = some after →
        Ordinary after ∧ after.queue.trace.submitted = state.queue.trace.submitted ∧ after.queue.depth = state.queue.depth := by
      rintro before event after ⟨current, submitted, depth⟩ allowed taken
      obtain ⟨unchanged, sameDepth⟩ := allowed.submitted taken
      exact ⟨current.finish allowed taken, unchanged.trans submitted, sameDepth.trans depth⟩
    have met : Machine.Meets System.step (fun _ event => Finishing event) state events :=
      .of_forall (fun event member _ => finishing event member) state
    obtain ⟨current, submitted, depth⟩ := Machine.run_invariant kept ⟨ordinary, rfl, rfl⟩ met ran
    have all := current.unconsumed_eq
    rw [done, List.length_nil, Nat.zero_add, submitted] at all
    rw [current.steady.layout.host.atPosition, reset, position, all, depth]
  · exact Machine.exists_run_of_measure System.unfinished
      (fun state ordinary left => ordinary.progress left) ordinary

/-- In every state that submissions and completions of a queue deeper than the threshold
lead to, a reset catches up with the completions it gives up. -/
theorem resetAllCmd_catchesUp {config : QueuePairConfig} (deep : safeSubmitThreshold < config.depth)
    {srbext : Nat → SrbExt} {slotCount : BitVec 3} {events : List Event} {state : System}
    (unreset : ∀ event ∈ events, Unreset event)
    (ran : Machine.run System.step (.initial config srbext slotCount) events = some state) : CatchesUp state :=
  (Ordinary.run (.inl deep) unreset ran).catchesUp

/-- Fourteen commands in turn on a queue of sixteen entries, and three more that are left
outstanding, the last of them behind the wrap. -/
def sampleWrapped : List Event :=
  (List.replicate 14 [sampleSubmit 0 0, .fetch, .post 0 sampleReply, .enter 0, .iterate, .leave]).flatten ++
    [sampleSubmit 1 1, sampleSubmit 2 2, .fetch, sampleSubmit 3 3, .post 0 sampleReply]

theorem resetAllCmd_catchesUp_wrapped :
    ∃ state, Machine.run System.step sampleSystem sampleWrapped = some state ∧
      (state.queue.cplPosition, state.unconsumed.length) = ((14, true), 3) ∧ CatchesUp state := by
  have observed : (Machine.run System.step sampleSystem sampleWrapped).map
      (fun state => (state.queue.cplPosition, state.unconsumed.length)) = some ((14, true), 3) := by decide +kernel
  obtain ⟨state, ran, seen⟩ := Option.map_eq_some_iff.mp observed
  have unreset : ∀ event ∈ sampleWrapped, Unreset event := by
    simp [sampleWrapped, sampleSubmit, Unreset, Event.conforming, Event.withoutReset]
  exact ⟨state, ran, seen, resetAllCmd_catchesUp (by decide) unreset ran⟩

end SpcNvme
