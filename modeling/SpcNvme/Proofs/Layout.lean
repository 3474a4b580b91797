import SpcNvme.Proofs.Transition

/-! The ring indices of both sides are their unbounded counters modulo the depth,
and the phase bits are the phases of those counters. This holds in every
reachable state, after resets and with any controller. -/

namespace SpcNvme

structure HostLayout (queue : CNvmeQueue) : Prop where
  ready : queue.isReady = true
  historyDepth : queue.history.depth = queue.historyDepth
  subTail : queue.subTail = queue.trace.submitted.length % queue.depth
  subDbl : queue.subDbl = queue.trace.submitted.length % queue.depth
  cplHead : queue.cplHead = queue.trace.passed % queue.depth
  phaseTag : queue.phaseTag = PhaseRing.phase queue.depth queue.trace.passed
  stored : PhaseRing.Stores queue.depth queue.subQ queue.trace.submitted
  numbered : ∀ number (inside : number < queue.trace.submitted.length),
    queue.trace.submitted[number].srbext.submission = number
  inRange : ∀ submission ∈ queue.trace.submitted, submission.cmd.cid.toNat < queue.history.depth
  resetAt : queue.trace.resetAt ≤ queue.trace.submitted.length

structure DeviceLayout (depth submitted : Nat) (device : Controller) : Prop where
  sqHead : device.sqHead = device.fetched % depth
  cqTail : device.cqTail = device.posted.length % depth
  cqPhase : device.cqPhase = PhaseRing.phase depth device.posted.length
  fetched : device.fetched ≤ submitted

structure Layout (state : System) : Prop where
  host : HostLayout state.queue
  device : DeviceLayout state.queue.depth state.queue.trace.submitted.length state.device
  cpl : ∀ loop, state.loop = some loop → loop.cpl = state.queue.cplHead

namespace HostLayout
variable {queue : CNvmeQueue} (host : HostLayout queue)

theorem setup (config : QueuePairConfig) : HostLayout (.setup config) where
  ready := rfl
  historyDepth := rfl
  subTail := (Nat.zero_mod _).symm
  subDbl := (Nat.zero_mod _).symm
  cplHead := (Nat.zero_mod _).symm
  phaseTag := (PhaseRing.phase_of_lt config.depth_pos).symm
  stored := .empty _ _
  numbered := fun _ inside => absurd inside (Nat.not_lt_zero _)
  inRange := fun _ member => absurd member List.not_mem_nil
  resetAt := Nat.le_refl 0

include host

theorem accept (address : Nat) {cmd : NvmeCommand} (inside : cmd.cid.toNat < queue.history.depth) :
    HostLayout (queue.accept address cmd) := by
  have tail : (queue.subTail + 1) % queue.depth = (queue.trace.submitted.length + 1) % queue.depth := by
    rw [host.subTail, PhaseRing.slot_succ]
  refine ⟨host.ready, host.historyDepth, ?_, ?_, host.cplHead, host.phaseTag, ?_, ?_, ?_, ?_⟩
  · simpa using tail
  · simpa using tail
  · simp only [CNvmeQueue.accept_subQ, CNvmeQueue.accept_submitted, host.subTail]
    exact host.stored.write _
  · intro number bounded
    simp only [CNvmeQueue.accept_submitted, List.length_append, List.length_singleton] at bounded ⊢
    by_cases last : number = queue.trace.submitted.length
    · subst number
      simp
    · rw [List.getElem_append_left (by omega)]
      exact host.numbered number (by omega)
  · intro submission member
    simp only [CNvmeQueue.accept_submitted, List.mem_append, List.mem_singleton] at member
    rcases member with old | rfl
    · exact host.inRange submission old
    · exact inside
  · have earlier := host.resetAt
    simp only [CNvmeQueue.accept_resetAt, CNvmeQueue.accept_submitted, List.length_append, List.length_singleton]
    omega

theorem consume (loop : CompleteLoop) : HostLayout (queue.consume loop) := by
  refine ⟨host.ready, host.historyDepth, host.subTail, host.subDbl, ?_, ?_, host.stored, host.numbered,
    host.inRange, host.resetAt⟩
  · simp only [CNvmeQueue.consume_cplHead, CNvmeQueue.consume_passed, CNvmeQueue.consume_depth, host.cplHead,
      PhaseRing.slot_succ]
  · simp only [CNvmeQueue.consume_phaseTag, CNvmeQueue.consume_passed, CNvmeQueue.consume_depth, host.cplHead,
      PhaseRing.slot_succ, host.phaseTag, PhaseRing.phase_succ]

theorem cleared (position : Nat) : HostLayout (queue.cleared position) :=
  ⟨host.ready, host.historyDepth, host.subTail, host.subDbl, rfl, rfl, host.stored, host.numbered, host.inRange,
    Nat.le_refl _⟩

theorem leave (loop : CompleteLoop) : HostLayout (queue.leaveCompleteCmd loop) := by
  obtain ⟨cplDbl, doorbell⟩ := queue.leaveCompleteCmd_eq loop
  rw [doorbell]
  exact ⟨host.ready, host.historyDepth, host.subTail, host.subDbl, host.cplHead, host.phaseTag, host.stored,
    host.numbered, host.inRange, host.resetAt⟩

theorem withCplQ (cplQ : Nat → CplSlot) : HostLayout { queue with cplQ := cplQ } :=
  ⟨host.ready, host.historyDepth, host.subTail, host.subDbl, host.cplHead, host.phaseTag, host.stored,
    host.numbered, host.inRange, host.resetAt⟩

private theorem subTail_lt : queue.subTail < queue.depth := by
  rw [host.subTail]
  exact Nat.mod_lt _ queue.depth_pos

theorem reset (heap : Heap) :
    ∃ skipped < queue.depth,
      queue.resetAllCmd heap = (queue.cleared (queue.trace.passed + skipped), (queue.history.reset heap).2) ∧
      (queue.trace.passed + skipped) % queue.depth = queue.trace.submitted.length % queue.depth := by
  rw [← host.subTail]
  exact queue.resetAllCmd_eq heap host.cplHead host.phaseTag host.subTail_lt

end HostLayout

namespace Layout

theorem initial (config : QueuePairConfig) (srbext : Nat → SrbExt) (slotCount : BitVec 3) :
    Layout (.initial config srbext slotCount) where
  host := .setup config
  device := ⟨(Nat.zero_mod _).symm, (Nat.zero_mod _).symm, (PhaseRing.phase_of_lt config.depth_pos).symm, Nat.le_refl 0⟩
  cpl := fun _ running => by cases running

theorem reset {state : System} (layout : Layout state) :
    ∃ skipped < state.queue.depth, state.reset = state.cleared (state.queue.trace.passed + skipped) ∧
      (state.queue.trace.passed + skipped) % state.queue.depth =
        state.queue.trace.submitted.length % state.queue.depth := by
  obtain ⟨skipped, near, same, reached⟩ := layout.host.reset state.heap
  refine ⟨skipped, near, ?_, reached⟩
  simp only [System.reset, same]
  rfl

theorem step {before after : System} {event : Event} (layout : Layout before)
    (taken : before.step event = some after) : Layout after := by
  obtain ⟨host, device, cpl⟩ := layout
  cases System.step_transition taken with
  | @accepted address record cmd ready safe inside =>
    refine ⟨host.accept address inside, ⟨device.sqHead, device.cqTail, device.cqPhase, ?_⟩, cpl⟩
    simp only [System.accepted, CNvmeQueue.accept_submitted, List.length_append, List.length_singleton]
    exact Nat.le_succ_of_le device.fetched
  | refused => exact ⟨host, device, cpl⟩
  | fetched behind =>
    refine ⟨host, ⟨?_, device.cqTail, device.cqPhase, ?_⟩, cpl⟩
    · simp only [Controller.fetch, device.sqHead, PhaseRing.slot_succ]
    · -- the controller stops at the doorbell, so it was strictly behind
      have strictly : before.device.fetched ≠ before.queue.trace.submitted.length := by
        intro same
        apply behind
        rw [device.sqHead, host.subDbl, same]
      have bounded := device.fetched
      simp only [Controller.fetch]
      omega
  | posted pending =>
    refine ⟨host.withCplQ _, ⟨device.sqHead, ?_, ?_, device.fetched⟩, cpl⟩
    · simp only [System.post, Controller.advance, List.length_append, List.length_singleton, device.cqTail,
        PhaseRing.slot_succ]
    · simp only [System.post, Controller.advance, List.length_append, List.length_singleton, device.cqTail,
        device.cqPhase, PhaseRing.slot_succ, PhaseRing.phase_succ]
  | entered idle =>
    refine ⟨host, device, ?_⟩
    intro loop running
    cases running
    rfl
  | @iterated loop running arrived more =>
    refine ⟨host.consume loop, device, ?_⟩
    intro next current
    cases current
    rfl
  | @left loop running ended =>
    refine ⟨host.leave loop, ?_, ?_⟩
    · obtain ⟨cplDbl, doorbell⟩ := before.queue.leaveCompleteCmd_eq loop
      rw [doorbell]
      exact device
    · intro next current
      cases current
  | reset idle =>
    obtain ⟨skipped, _, same, _⟩ := Layout.reset ⟨host, device, cpl⟩
    rw [same]
    refine ⟨host.cleared _, device, ?_⟩
    intro loop running
    exact absurd (idle.symm.trans running) (by simp)
  | scribbled => exact ⟨host.withCplQ _, device, cpl⟩

theorem submitted {before after : System} {event : Event} (layout : Layout before)
    (taken : before.step event = some after) :
    ∃ added, after.queue.trace.submitted = before.queue.trace.submitted ++ added := by
  have unchanged := (List.append_nil before.queue.trace.submitted).symm
  cases System.step_transition taken with
  | accepted => exact ⟨_, rfl⟩
  | refused => exact ⟨[], unchanged⟩
  | fetched => exact ⟨[], unchanged⟩
  | posted => exact ⟨[], unchanged⟩
  | entered => exact ⟨[], unchanged⟩
  | iterated => exact ⟨[], unchanged⟩
  | @left loop running ended =>
    obtain ⟨cplDbl, doorbell⟩ := before.queue.leaveCompleteCmd_eq loop
    rw [doorbell]
    exact ⟨[], unchanged⟩
  | reset =>
    obtain ⟨skipped, _, same, _⟩ := layout.reset
    rw [same]
    exact ⟨[], unchanged⟩
  | scribbled => exact ⟨[], unchanged⟩

theorem run {config : QueuePairConfig} {srbext : Nat → SrbExt} {slotCount : BitVec 3} {events : List Event}
    {final : System} (ran : Machine.run System.step (.initial config srbext slotCount) events = some final) :
    Layout final :=
  Machine.run_invariant_of_step (fun _ _ _ layout taken => layout.step taken) (initial config srbext slotCount) ran

end Layout

end SpcNvme
