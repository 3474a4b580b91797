import SpcNvme.Proofs.Ownership

/-! What the inflight counter and the throttle guarantee over whole runs: the
counter against the occupied history slots, and the throttle against the slots
of both rings. -/

namespace SpcNvme

private theorem isSafeForSubmit_iff {queue : CNvmeQueue} {count : Nat} (counted : queue.inflightCmds = count)
    (deep : safeSubmitThreshold < queue.depth) (small : count < 65536) :
    queue.isSafeForSubmit = true ↔ count + safeSubmitThreshold < queue.depth := by
  have bounded := queue.depth_lt
  simp only [safeSubmitThreshold] at deep
  simp only [CNvmeQueue.isSafeForSubmit, ushort, safeSubmitThreshold, counted, decide_eq_true_eq]
  omega

/-- The throttle counts more than the ring slots in use: the commands the
completion head has not passed are at most the occupied history slots plus the
replaced commands, and that sum stays under the depth less the threshold. -/
structure Throttled (queue : CNvmeQueue) : Prop where
  deep : safeSubmitThreshold < queue.depth
  bounded : queue.history.occupied + queue.trace.replaced.length + safeSubmitThreshold ≤ queue.depth
  backlog : queue.trace.submitted.length ≤ queue.trace.passed + queue.history.occupied + queue.trace.replaced.length

namespace Throttled
variable {queue : CNvmeQueue}

theorem setup {config : QueuePairConfig} (deep : safeSubmitThreshold < config.depth) : Throttled (.setup config) := by
  have empty : (CNvmeQueue.setup config).history.occupied = 0 := SlotTable.occupied_empty _
  refine ⟨deep, ?_, Nat.zero_le _⟩
  rw [empty]
  exact Nat.le_of_lt deep

theorem counter (throttled : Throttled queue) (counted : Counted queue) :
    queue.inflightCmds = ((queue.history.occupied + queue.trace.replaced.length : Nat) : Int) := by
  have bounded := throttled.bounded
  have deep := queue.depth_lt
  rw [counted, longWrap_of_range (by omega) (by omega), Int.natCast_add]

theorem safe_iff (throttled : Throttled queue) (counted : Counted queue) :
    queue.isSafeForSubmit = true ↔
      queue.history.occupied + queue.trace.replaced.length + safeSubmitThreshold < queue.depth := by
  have bounded := throttled.bounded
  have deep := queue.depth_lt
  exact isSafeForSubmit_iff (throttled.counter counted) throttled.deep (by omega)

theorem accept (throttled : Throttled queue) (counted : Counted queue) (address : Nat) {cmd : NvmeCommand}
    (accepts : queue.accepts cmd) : Throttled (queue.accept address cmd) := by
  have raised := occupied_accept queue address accepts.2.2
  have room := (throttled.safe_iff counted).mp accepts.2.1
  have backlog := throttled.backlog
  refine ⟨throttled.deep, ?_, ?_⟩
  · rw [raised, CNvmeQueue.accept_depth]
    omega
  · rw [Nat.add_assoc, raised, CNvmeQueue.accept_passed, CNvmeQueue.accept_submitted, List.length_append,
      List.length_singleton]
    omega

theorem consume (throttled : Throttled queue) {loop : CompleteLoop}
    (inside : (queue.cplQ loop.cpl).entry.cid.toNat < queue.history.depth) : Throttled (queue.consume loop) := by
  have lowered := occupied_consume inside
  have bounded := throttled.bounded
  have backlog := throttled.backlog
  refine ⟨throttled.deep, ?_, ?_⟩
  · rw [CNvmeQueue.consume_replaced, CNvmeQueue.consume_depth]
    omega
  · rw [CNvmeQueue.consume_replaced, CNvmeQueue.consume_passed, CNvmeQueue.consume_submitted]
    split at lowered <;> omega

theorem cleared (throttled : Throttled queue) : Throttled (queue.cleared queue.trace.submitted.length) := by
  refine ⟨throttled.deep, ?_, ?_⟩
  · rw [occupied_cleared]
    exact Nat.le_of_lt throttled.deep
  · exact Nat.le_trans (Nat.le_add_right _ _) (Nat.le_add_right _ _)

theorem roomToSubmit {state : System} (throttled : Throttled state.queue) (counted : Counted state.queue)
    (event : Event) : RoomToSubmit state event := by
  cases event with
  | submit address record cmd =>
    intro accepts
    have room := (throttled.safe_iff counted).mp accepts.2.1
    have backlog := throttled.backlog
    simp only [safeSubmitThreshold] at room
    omega
  | _ => trivial

theorem step {before after : System} {event : Event} (throttled : Throttled before.queue) (steady : Steady before)
    (taken : before.step event = some after) : Throttled after.queue := by
  cases System.step_transition taken with
  | accepted ready safe inside => exact throttled.accept steady.counted _ ⟨ready, safe, inside⟩
  | refused => exact throttled
  | fetched => exact throttled
  | posted => exact ⟨throttled.deep, throttled.bounded, throttled.backlog⟩
  | entered => exact throttled
  | iterated => exact throttled.consume (steady.conformed.cid_lt steady.layout _)
  | @left loop running ended =>
    obtain ⟨cplDbl, doorbell⟩ := before.queue.leaveCompleteCmd_eq loop
    rw [doorbell]
    exact ⟨throttled.deep, throttled.bounded, throttled.backlog⟩
  | reset =>
    rw [steady.reset]
    exact throttled.cleared
  | scribbled => exact ⟨throttled.deep, throttled.bounded, throttled.backlog⟩

end Throttled

/-- A controller that keeps to its protocol, and resets that come in reach of it. -/
def ConformingStep (state : System) (event : Event) : Prop :=
  event.conforming = true ∧ ResetInReach state event

/-- The invariants of a queue deeper than the threshold: the throttle itself
leaves the room that `Steady` needs. -/
structure Paced (state : System) : Prop where
  steady : Steady state
  throttled : Throttled state.queue

namespace Paced

theorem initial {config : QueuePairConfig} (deep : safeSubmitThreshold < config.depth) (srbext : Nat → SrbExt)
    (slotCount : BitVec 3) : Paced (.initial config srbext slotCount) :=
  ⟨.initial config srbext slotCount, .setup deep⟩

theorem room {state : System} (paced : Paced state) (event : Event) : RoomToSubmit state event :=
  paced.throttled.roomToSubmit paced.steady.counted event

theorem step {before after : System} {event : Event} (paced : Paced before) (conforms : ConformingStep before event)
    (taken : before.step event = some after) : Paced after :=
  ⟨paced.steady.step conforms.1 (paced.room event) conforms.2 taken, paced.throttled.step paced.steady taken⟩

theorem run {config : QueuePairConfig} (deep : safeSubmitThreshold < config.depth) {srbext : Nat → SrbExt}
    {slotCount : BitVec 3} {events : List Event} {final : System}
    (conforms : Machine.Meets System.step ConformingStep (.initial config srbext slotCount) events)
    (ran : Machine.run System.step (.initial config srbext slotCount) events = some final) : Paced final :=
  Machine.run_invariant (fun _ _ _ paced conforms taken => paced.step conforms taken)
    (initial deep srbext slotCount) conforms ran

end Paced

theorem roomToSubmit_of_deep {config : QueuePairConfig} (deep : safeSubmitThreshold < config.depth)
    {srbext : Nat → SrbExt} {slotCount : BitVec 3} {events : List Event}
    (conforms : Machine.Meets System.step ConformingStep (.initial config srbext slotCount) events) :
    Machine.Meets System.step RoomToSubmit (.initial config srbext slotCount) events := by
  refine .of_invariant ?_ ?_ (Paced.initial deep srbext slotCount) conforms
  · intro before event after paced conforms taken
    exact paced.step conforms taken
  · intro state event paced _
    exact paced.room event

def NeverOverfilled (state : System) (events : List Event) : Prop :=
  safeSubmitThreshold < state.queue.depth ∨ Machine.Meets System.step RoomToSubmit state events

theorem NeverOverfilled.room {config : QueuePairConfig} {srbext : Nat → SrbExt} {slotCount : BitVec 3}
    {events : List Event} (roomy : NeverOverfilled (.initial config srbext slotCount) events)
    (conforms : Machine.Meets System.step ConformingStep (.initial config srbext slotCount) events) :
    Machine.Meets System.step RoomToSubmit (.initial config srbext slotCount) events := by
  rcases roomy with deep | room
  · exact roomToSubmit_of_deep deep conforms
  · exact room

structure Contiguous (state : System) : Prop where
  behind : state.queue.trace.passed ≤ state.device.posted.length
  consumed : state.queue.trace.consumed.map (·.slot) = state.device.posted.take state.queue.trace.passed
  neverReset : state.queue.trace.resetAt = 0

theorem Contiguous.initial (config : QueuePairConfig) (srbext : Nat → SrbExt) (slotCount : BitVec 3) :
    Contiguous (.initial config srbext slotCount) := ⟨Nat.le_refl 0, rfl, rfl⟩

theorem Contiguous.step {before after : System} {event : Event} (contiguous : Contiguous before) (steady : Steady before)
    (conforming : event.conforming = true) (noReset : event.withoutReset = true)
    (taken : before.step event = some after) : Contiguous after := by
  obtain ⟨behind, consumed, neverReset⟩ := contiguous
  cases System.step_transition taken with
  | accepted ready safe inside => exact ⟨behind, consumed, neverReset⟩
  | refused => exact ⟨behind, consumed, neverReset⟩
  | fetched => exact ⟨behind, consumed, neverReset⟩
  | posted held =>
    refine ⟨?_, ?_, neverReset⟩
    · simp only [System.post, Controller.advance, List.length_append]
      exact Nat.le_add_right_of_le behind
    · simp only [System.post, Controller.advance, List.take_append_of_le_length behind]
      exact consumed
  | entered idle => exact ⟨behind, consumed, neverReset⟩
  | @iterated loop running arrival more =>
    obtain ⟨inside, next⟩ := steady.arrived running arrival
    refine ⟨inside, ?_, neverReset⟩
    simp only [System.iterated, CNvmeQueue.consume_consumed, CNvmeQueue.consume_passed, List.map_append, consumed,
      List.map_singleton, List.take_add_one]
    rw [List.getElem?_eq_getElem inside, ← next]
    rfl
  | @left loop running ended =>
    obtain ⟨cplDbl, doorbell⟩ := before.queue.leaveCompleteCmd_eq loop
    rw [doorbell]
    exact ⟨behind, consumed, neverReset⟩
  | reset => cases noReset
  | scribbled => cases conforming

/-- A completion head that follows the controller keeps the submission ring from being lapped. -/
theorem Contiguous.submitInReach {state : System} {event : Event} (contiguous : Contiguous state) (steady : Steady state)
    (room : RoomToSubmit state event) : SubmitInReach state event := by
  cases event with
  | submit address record cmd =>
    intro accepts
    have roomy := room accepts
    have counts := steady.flow.counts
    have behind := contiguous.behind
    omega
  | _ => trivial

def Unreset (event : Event) : Prop := event.conforming = true ∧ event.withoutReset = true

theorem Unreset.resetInReach {event : Event} (unreset : Unreset event) (state : System) : ResetInReach state event := by
  cases event with
  | reset => cases unreset.2
  | _ => trivial

theorem Unreset.conforms {events : List Event} (unreset : ∀ event ∈ events, Unreset event) (start : System) :
    Machine.Meets System.step ConformingStep start events := by
  apply Machine.Meets.of_forall
  intro event member state
  exact ⟨(unreset event member).1, (unreset event member).resetInReach state⟩

structure Ordinary (state : System) : Prop where
  steady : Steady state
  delivered : Delivered state
  contiguous : Contiguous state

theorem Ordinary.initial (config : QueuePairConfig) (srbext : Nat → SrbExt) (slotCount : BitVec 3) :
    Ordinary (.initial config srbext slotCount) :=
  ⟨.initial config srbext slotCount, .initial config srbext slotCount, .initial config srbext slotCount⟩

theorem Ordinary.step {before after : System} {event : Event} (ordinary : Ordinary before) (unreset : Unreset event)
    (room : RoomToSubmit before event) (taken : before.step event = some after) : Ordinary after := by
  obtain ⟨steady, delivered, contiguous⟩ := ordinary
  exact ⟨steady.step unreset.1 room (unreset.resetInReach before) taken,
    delivered.step steady unreset.1 (contiguous.submitInReach steady room) taken,
    contiguous.step steady unreset.1 unreset.2 taken⟩

theorem Ordinary.run {config : QueuePairConfig} {srbext : Nat → SrbExt} {slotCount : BitVec 3} {events : List Event}
    {final : System} (roomy : NeverOverfilled (.initial config srbext slotCount) events)
    (unreset : ∀ event ∈ events, Unreset event)
    (ran : Machine.run System.step (.initial config srbext slotCount) events = some final) : Ordinary final := by
  have kept : ∀ before event after, Ordinary before → (Unreset event ∧ RoomToSubmit before event) →
      System.step before event = some after → Ordinary after :=
    fun _ _ _ ordinary met taken => ordinary.step met.1 met.2 taken
  have room := roomy.room (Unreset.conforms unreset _)
  have allowed : Machine.Meets System.step (fun _ event => Unreset event) (.initial config srbext slotCount) events :=
    .of_forall (fun event member _ => unreset event member) _
  exact Machine.run_invariant kept (.initial config srbext slotCount) (allowed.and room) ran

def System.answered (state : System) (number : Nat) : Bool :=
  state.queue.trace.consumed.any fun consumed => consumed.slot.answers == some number

def System.unconsumed (state : System) : List Nat :=
  (List.range state.queue.trace.submitted.length).filter fun number => !state.answered number

theorem Ordinary.unconsumed_length {state : System} (ordinary : Ordinary state) :
    state.unconsumed.length + state.queue.trace.passed ≤ state.queue.trace.submitted.length := by
  obtain ⟨steady, delivered, contiguous⟩ := ordinary
  have slots := contiguous.consumed
  have numbers : state.queue.trace.consumed.map (·.slot.answers) =
      (state.device.posted.map (·.answers)).take state.queue.trace.passed := by
    rw [← List.map_take, ← slots, List.map_map]
    rfl
  have nodup : (state.queue.trace.consumed.map (·.slot.answers)).Nodup := by
    rw [numbers]
    exact delivered.nodup.sublist (List.take_sublist _ _)
  have count : (state.queue.trace.consumed.map (·.slot.answers)).length = state.queue.trace.passed := by
    have behind := contiguous.behind
    rw [numbers, List.length_take, List.length_map]
    omega
  have counted : state.queue.trace.consumed.map (·.slot.answers) ⊆
      ((List.range state.queue.trace.submitted.length).filter state.answered).map some := by
    intro answers member
    obtain ⟨consumed, recorded, rfl⟩ := List.mem_map.mp member
    obtain ⟨position, _, found⟩ := delivered.read consumed recorded
    obtain ⟨number, bounded, same⟩ :=
      steady.layout.host.answered_lt (steady.conformed.posted _ (List.mem_of_getElem? found))
    rw [same]
    apply List.mem_map.mpr
    refine ⟨number, List.mem_filter.mpr ⟨List.mem_range.mpr bounded, ?_⟩, rfl⟩
    apply List.any_eq_true.mpr
    exact ⟨consumed, recorded, beq_iff_eq.mpr same⟩
  have enough := nodup.length_le_of_subset counted
  rw [count, List.length_map] at enough
  have split : (List.range state.queue.trace.submitted.length).length = _ := List.length_eq_length_filter_add state.answered
  rw [List.length_range] at split
  unfold System.unconsumed
  omega

/-- What the throttle promises about both rings and about its own arithmetic. -/
structure Bounded (state : System) : Prop where
  outstanding : state.unconsumed.length ≤ state.queue.depth - safeSubmitThreshold
  unfetched : ∀ position (inside : position < state.queue.trace.submitted.length), state.device.fetched ≤ position →
    state.queue.subQ (position % state.queue.depth) = state.queue.trace.submitted[position]
  submissionRoom : state.queue.trace.submitted.length < state.device.fetched + state.queue.depth
  unread : ∀ position (inside : position < state.device.posted.length), state.queue.trace.passed ≤ position →
    state.queue.cplQ (position % state.queue.depth) = state.device.posted[position]
  completionRoom : state.device.posted.length < state.queue.trace.passed + state.queue.depth
  untruncated : state.queue.isSafeForSubmit =
    decide (state.queue.inflightCmds + safeSubmitThreshold < state.queue.depth)

/-- Without a reset the throttle keeps at least its threshold of slots of both
rings free, whatever identifiers are submitted, and truncating the counter never
changes its answer. -/
theorem throttle_bounds {config : QueuePairConfig} (deep : safeSubmitThreshold < config.depth) {srbext : Nat → SrbExt}
    {slotCount : BitVec 3} {events : List Event} {final : System} (unreset : ∀ event ∈ events, Unreset event)
    (ran : Machine.run System.step (.initial config srbext slotCount) events = some final) : Bounded final := by
  have ordinary := Ordinary.run (.inl deep) unreset ran
  have throttled := (Paced.run deep (Unreset.conforms unreset _) ran).throttled
  have length := ordinary.unconsumed_length
  obtain ⟨steady, delivered, contiguous⟩ := ordinary
  have backlog := throttled.backlog
  have bounded := throttled.bounded
  have counts := steady.flow.counts
  have behind := contiguous.behind
  have wide := final.queue.depth_pos
  have counter := throttled.counter steady.counted
  have safe := throttled.safe_iff steady.counted
  refine ⟨by omega, ?_, by simp only [safeSubmitThreshold] at bounded; omega, ?_, steady.unread, ?_⟩
  · intro position inside unfetched
    exact delivered.unfetched_intact steady.layout unfetched inside
  · intro position inside unreached
    have unread := steady.unread
    exact steady.flow.ring.read inside (by omega)
  · rw [Bool.eq_iff_iff, safe, counter, decide_eq_true_eq]
    omega

def sampleSystem : System := .initial sampleQueue (fun _ => .init none) 1

def sampleSubmit (address : Nat) (cid : BitVec 16) : Event :=
  .submit address (.init none) { NvmeCommand.zero with opc := 0x02, cid := cid }

def sampleReply : Reply := ⟨0, 0, 0⟩

/-- Two commands under one identifier, the second accepted while the first is
outstanding, and both answered. -/
def sampleReplacement : List Event :=
  [sampleSubmit 0 0, sampleSubmit 1 0, .fetch, .fetch, .post 0 sampleReply, .post 0 sampleReply,
    .enter 0, .iterate, .iterate, .leave]

theorem sampleReplacement_unreset : ∀ event ∈ sampleReplacement, Unreset event := by
  simp [sampleReplacement, sampleSubmit, Unreset, Event.conforming, Event.withoutReset]

theorem throttle_bounds_replacement :
    ∃ final, Machine.run System.step sampleSystem sampleReplacement = some final ∧ Bounded final := by
  obtain ⟨final, ran⟩ := Option.isSome_iff_exists.mp
    (by decide +kernel : (Machine.run System.step sampleSystem sampleReplacement).isSome = true)
  exact ⟨final, ran, throttle_bounds (by decide) sampleReplacement_unreset ran⟩

/-- The counter is the number of commands in the history, so that the throttle
sees nothing when nothing is outstanding. -/
structure InflightExact (queue : CNvmeQueue) : Prop where
  counter : queue.inflightCmds = queue.history.occupied
  idle : queue.history.occupied = 0 → ushort queue.inflightCmds = 0 ∧
    (safeSubmitThreshold < queue.depth → queue.isSafeForSubmit = true)

def ReplacesNothing (state : System) : Event → Prop
  | .submit _ _ cmd => state.queue.accepts cmd → state.queue.history.history cmd.cid.toNat = none
  | _ => True

private theorem InflightExact.of_counter {queue : CNvmeQueue} (counter : queue.inflightCmds = queue.history.occupied) :
    InflightExact queue := by
  refine ⟨counter, ?_⟩
  intro empty
  have bounded := queue.depth_lt
  have wide := queue.depth_pos
  rw [empty] at counter
  refine ⟨by simp [ushort, counter], ?_⟩
  intro deep
  apply (isSafeForSubmit_iff counter deep (by omega)).mpr
  simpa using deep

private theorem counted_iff {queue : CNvmeQueue} (counted : Counted queue) (layout : HostLayout queue) :
    InflightExact queue ↔ 4294967296 ∣ queue.trace.replaced.length := by
  have few : queue.history.occupied < 65536 := by
    have slots := SlotTable.occupied_le queue.history.history queue.history.depth
    have bounded := queue.historyDepth_lt
    have depth := layout.historyDepth
    unfold CCmdHistory.occupied
    omega
  constructor
  · intro exact
    have counter := exact.counter
    rw [counted, longWrap] at counter
    omega
  · intro multiple
    apply InflightExact.of_counter
    rw [counted, longWrap]
    omega

theorem nothing_replaced {before after : System} {event : Event} (layout : Layout before)
    (empty : before.queue.trace.replaced = []) (nothing : ReplacesNothing before event)
    (taken : before.step event = some after) : after.queue.trace.replaced = [] := by
  cases System.step_transition taken with
  | @accepted address record cmd ready safe inside =>
    have free := nothing ⟨ready, safe, inside⟩
    simp [System.accepted, CNvmeQueue.replacedBy, empty, free]
  | refused => exact empty
  | fetched => exact empty
  | posted => exact empty
  | entered => exact empty
  | iterated => exact empty
  | @left loop running ended =>
    obtain ⟨cplDbl, doorbell⟩ := before.queue.leaveCompleteCmd_eq loop
    rw [doorbell]
    exact empty
  | reset =>
    obtain ⟨skipped, _, same, _⟩ := layout.reset
    rw [same]
    rfl
  | scribbled => exact empty

/-- In every run of a conforming controller, resets included, the counter is
exact if and only if the number of commands replaced since the last reset is a
multiple of `2 ^ 32`; in particular if there are none. -/
theorem inflightCmds_exact_iff {config : QueuePairConfig} {srbext : Nat → SrbExt} {slotCount : BitVec 3}
    {events : List Event} {final : System} (conforming : ∀ event ∈ events, event.conforming = true)
    (ran : Machine.run System.step (.initial config srbext slotCount) events = some final) :
    (InflightExact final.queue ↔ 4294967296 ∣ final.queue.trace.replaced.length) ∧
    (Machine.Meets System.step ReplacesNothing (.initial config srbext slotCount) events →
      InflightExact final.queue) := by
  obtain ⟨layout, _, counted, _⟩ := Accounted.run conforming ran
  refine ⟨counted_iff counted layout.host, ?_⟩
  intro met
  have kept : ∀ before event after, (Layout before ∧ before.queue.trace.replaced = []) →
      ReplacesNothing before event → System.step before event = some after →
      Layout after ∧ after.queue.trace.replaced = [] := by
    intro before event after both nothing taken
    obtain ⟨layout, empty⟩ := both
    exact ⟨layout.step taken, nothing_replaced layout empty nothing taken⟩
  obtain ⟨_, empty⟩ := Machine.run_invariant kept ⟨.initial config srbext slotCount, rfl⟩ met ran
  rw [counted_iff counted layout.host, empty]
  exact Nat.dvd_zero _

theorem inflightCmds_drifts :
    ¬ ∀ (config : QueuePairConfig) (srbext : Nat → SrbExt) (slotCount : BitVec 3) (events : List Event) (final : System),
      (∀ event ∈ events, event.conforming = true) →
      Machine.run System.step (.initial config srbext slotCount) events = some final → InflightExact final.queue := by
  intro exact
  have observed : (Machine.run System.step sampleSystem sampleReplacement).map
      (fun state => (state.queue.inflightCmds, state.queue.history.occupied)) = some (1, 0) := by decide +kernel
  obtain ⟨final, ran, seen⟩ := Option.map_eq_some_iff.mp observed
  have counter := (exact sampleQueue (fun _ => .init none) 1 sampleReplacement final (by decide) ran).counter
  rw [Prod.mk.injEq] at seen
  rw [seen.1, seen.2] at counter
  cases counter

theorem inflightCmds_exact_iff_replacement :
    ∃ final, Machine.run System.step sampleSystem sampleReplacement = some final ∧
      ((InflightExact final.queue ↔ 4294967296 ∣ final.queue.trace.replaced.length) ∧
      (Machine.Meets System.step ReplacesNothing sampleSystem sampleReplacement → InflightExact final.queue)) := by
  obtain ⟨final, ran⟩ := Option.isSome_iff_exists.mp
    (by decide +kernel : (Machine.run System.step sampleSystem sampleReplacement).isSome = true)
  exact ⟨final, ran, inflightCmds_exact_iff (by decide) ran⟩

end SpcNvme
