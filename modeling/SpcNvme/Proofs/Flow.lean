import SpcNvme.Proofs.Accounting

/-! How far the two sides of a queue pair can be apart. As long as the rings are
not overfilled, the phase test of the completion loop finds the next posted entry
and nothing else. -/

namespace SpcNvme

/-- A command is only accepted into a ring with more than one slot the
completion head has moved over. -/
def RoomToSubmit (state : System) : Event → Prop
  | .submit _ _ cmd => state.queue.accepts cmd →
      state.queue.trace.submitted.length + 1 < state.queue.trace.passed + state.queue.depth
  | _ => True

/-- A reset happens while fewer than a whole ring of commands is unanswered. -/
def ResetInReach (state : System) : Event → Prop
  | .reset => state.queue.trace.submitted.length < state.device.posted.length + state.queue.depth
  | _ => True

instance (state : System) : DecidablePred (ResetInReach state)
  | .reset => inferInstanceAs (Decidable (_ < _))
  | .submit .. | .fetch | .post .. | .enter _ | .iterate | .leave | .scribble .. => isTrue trivial

structure Flow (state : System) : Prop where
  ring : PhaseRing.Tagged state.queue.depth (·.entry.status.p) state.queue.cplQ state.device.posted
  counts : state.device.pending.length + state.device.posted.length = state.device.fetched
  passed : state.queue.trace.passed ≤ state.queue.trace.submitted.length
  room : state.queue.trace.submitted.length < state.queue.trace.passed + state.queue.depth
  ahead : state.queue.trace.passed < state.device.posted.length + state.queue.depth

/-- The invariants of a run of a conforming controller. -/
structure Steady (state : System) : Prop where
  layout : Layout state
  conformed : Conformed state
  counted : Counted state.queue
  flow : Flow state

theorem Steady.initial (config : QueuePairConfig) (srbext : Nat → SrbExt) (slotCount : BitVec 3) :
    Steady (.initial config srbext slotCount) where
  layout := .initial config srbext slotCount
  conformed := .initial config srbext slotCount
  counted := .initial config srbext slotCount
  flow := by
    have wide : 0 < 0 + config.depth := Nat.lt_of_lt_of_eq config.depth_pos (Nat.zero_add _).symm
    exact ⟨.empty fun _ _ => rfl, rfl, Nat.le_refl 0, wide, wide⟩

namespace Steady
variable {state : System} (steady : Steady state)

include steady

theorem posted_le : state.device.posted.length ≤ state.queue.trace.submitted.length := by
  have counts := steady.flow.counts
  have fetched := steady.layout.device.fetched
  omega

theorem unread : state.device.posted.length < state.queue.trace.passed + state.queue.depth :=
  Nat.lt_of_le_of_lt steady.posted_le steady.flow.room

/-- The phase test of the completion loop finds the next posted entry and no other. -/
theorem arrived {loop : CompleteLoop} (running : state.loop = some loop)
    (arrival : newCplArrived (state.nextSlot loop).entry state.queue.phaseTag = true) :
    ∃ behind : state.queue.trace.passed < state.device.posted.length,
      state.nextSlot loop = state.device.posted[state.queue.trace.passed] := by
  have unread := Nat.le_of_lt steady.unread
  have position : state.nextSlot loop = state.queue.cplQ (state.queue.trace.passed % state.queue.depth) := by
    rw [System.nextSlot, steady.layout.cpl loop running, steady.layout.host.cplHead]
  have tag : (state.nextSlot loop).entry.status.p =
      PhaseRing.phase state.queue.depth state.queue.trace.passed := by
    rw [← steady.layout.host.phaseTag]
    simpa [newCplArrived] using arrival
  rw [position] at tag
  have behind := (steady.flow.ring.arrived_iff state.queue.depth_pos unread steady.flow.ahead).mp tag
  exact ⟨behind, position.trans (steady.flow.ring.read behind unread)⟩

theorem reset : state.reset = state.cleared state.queue.trace.submitted.length := by
  obtain ⟨skipped, near, same, reached⟩ := steady.layout.reset
  have passed := steady.flow.passed
  have room := steady.flow.room
  rw [same]
  congr 1
  -- both distances are shorter than the ring, and equal modulo the ring
  obtain ⟨distance, gap⟩ := Nat.exists_eq_add_of_le passed
  rw [gap] at reached
  have congruent : skipped % state.queue.depth = distance % state.queue.depth := Nat.ModEq.add_left_cancel' _ reached
  rw [Nat.mod_eq_of_lt near, Nat.mod_eq_of_lt (by omega)] at congruent
  omega

theorem step {after : System} {event : Event} (conforming : event.conforming = true)
    (submits : RoomToSubmit state event) (resets : ResetInReach state event)
    (taken : state.step event = some after) : Steady after := by
  have unread := steady.unread
  have resetTo := steady.reset
  obtain ⟨layout, conformed, counted, flow⟩ := steady
  refine ⟨layout.step taken, conformed.step layout conforming taken, counted.step layout conformed conforming taken, ?_⟩
  obtain ⟨ring, counts, passed, room, ahead⟩ := flow
  cases System.step_transition taken with
  | @accepted address record cmd ready safe inside =>
    have roomy := submits ⟨ready, safe, inside⟩
    refine ⟨ring, counts, ?_, ?_, ahead⟩
    · simp only [System.accepted, CNvmeQueue.accept_passed, CNvmeQueue.accept_submitted, List.length_append,
        List.length_singleton]
      omega
    · simp only [System.accepted, CNvmeQueue.accept_passed, CNvmeQueue.accept_submitted, CNvmeQueue.accept_depth,
        List.length_append, List.length_singleton]
      omega
  | refused => exact ⟨ring, counts, passed, room, ahead⟩
  | fetched behind =>
    refine ⟨ring, ?_, passed, room, ahead⟩
    simp only [Controller.fetch, List.length_append, List.length_singleton]
    omega
  | @posted index reply submission held =>
    obtain ⟨bounded, _⟩ := List.getElem?_eq_some_iff.mp held
    refine ⟨?_, ?_, passed, room, ?_⟩
    · simp only [System.post, Controller.advance, layout.device.cqTail]
      exact ring.write layout.device.cqPhase
    · simp only [System.post, Controller.advance, List.length_append, List.length_singleton, List.length_eraseIdx,
        bounded, if_true]
      omega
    · simp only [System.post, Controller.advance, List.length_append, List.length_singleton]
      omega
  | entered idle => exact ⟨ring, counts, passed, room, ahead⟩
  | @iterated loop running arrival more =>
    obtain ⟨behind, _⟩ := Steady.arrived ⟨layout, conformed, counted, ring, counts, passed, room, ahead⟩ running arrival
    have posted := layout.device.fetched
    refine ⟨ring, counts, ?_, ?_, ?_⟩
    · simp only [System.iterated, CNvmeQueue.consume_passed, CNvmeQueue.consume_submitted]
      omega
    · simp only [System.iterated, CNvmeQueue.consume_passed, CNvmeQueue.consume_submitted, CNvmeQueue.consume_depth]
      omega
    · simp only [System.iterated, CNvmeQueue.consume_passed, CNvmeQueue.consume_depth]
      omega
  | @left loop running ended =>
    obtain ⟨cplDbl, doorbell⟩ := state.queue.leaveCompleteCmd_eq loop
    rw [doorbell]
    exact ⟨ring, counts, passed, room, ahead⟩
  | reset idle =>
    have near := resets
    rw [resetTo]
    exact ⟨ring, counts, Nat.le_refl _, Nat.lt_add_of_pos_right state.queue.depth_pos, near⟩
  | scribbled => cases conforming

end Steady

end SpcNvme
