import SpcNvme.Proofs.Answers

/-! What a queue does for its callers when outstanding commands have different
identifiers: the driver reads the posted entries in order, and completes every
accepted command once, when its own entry is read. The one exception is a
command whose callback completes it as well. -/

namespace SpcNvme

def DistinctOutstanding (state : System) : Prop :=
  ∀ first ∈ state.queue.trace.submitted, ∀ second ∈ state.queue.trace.submitted,
    state.answered first.srbext.submission = false → state.answered second.srbext.submission = false →
    first.cmd.cid = second.cmd.cid → first = second

instance : DecidablePred DistinctOutstanding := fun state =>
  inferInstanceAs (Decidable (∀ first ∈ state.queue.trace.submitted, ∀ second ∈ state.queue.trace.submitted, _ → _))

/-- The extension in the slot the next entry names is not completed by its own callback. -/
def QuietCallbacks (state : System) : Event → Prop
  | .iterate => ∀ loop ∈ state.loop, ∀ srbext ∈ state.queue.history.history (state.nextSlot loop).entry.cid.toNat,
      (state.heap.srbext srbext.address).completesItself = false
  | _ => True

instance (state : System) : DecidablePred (QuietCallbacks state)
  | .iterate => inferInstanceAs (Decidable (∀ loop ∈ state.loop, ∀ srbext ∈ _, _))
  | .submit .. | .fetch | .post .. | .enter _ | .leave | .reset | .scribble .. => isTrue trivial

/-- The entries consumed are the first ones posted, in order. A command is
completed once if its entry was consumed and not at all otherwise, with the entry
posted for it, and its history slot holds its extension as long as it is not. -/
structure ExactlyOnce (state : System) : Prop where
  inOrder : state.queue.trace.consumed.map (·.slot) <+: state.device.posted
  once : ∀ submission ∈ state.queue.trace.submitted,
    state.heap.settled.count submission.srbext.submission = if state.answered submission.srbext.submission then 1 else 0
  entry : ∀ completion ∈ state.heap.completions, ∀ number, completion.submission = some number →
    ∃ submission ∈ state.queue.trace.submitted, submission.srbext = ⟨completion.srbext, number⟩ ∧
    ∃ slot ∈ state.device.posted, slot.answers = some number ∧ slot.entry = completion.nvmeCpl
  history : ∀ cid srbext, state.queue.history.history cid = some srbext ↔
    ∃ submission ∈ state.queue.trace.submitted, submission.srbext = srbext ∧ submission.cmd.cid.toNat = cid ∧
      state.answered srbext.submission = false

private theorem System.answered_iff {state : System} {number : Nat} :
    state.answered number = true ↔ ∃ consumed ∈ state.queue.trace.consumed, consumed.slot.answers = some number := by
  simp [answered]

theorem System.answered_eq_false {state : System} {number : Nat} :
    state.answered number = false ↔ ∀ consumed ∈ state.queue.trace.consumed, consumed.slot.answers ≠ some number := by
  simp [answered]

def Consumed.record (consumed : Consumed) : Option Completion :=
  consumed.popped.map fun srbext =>
    ⟨srbext.address, some srbext.submission, nvmeToSrbStatus consumed.slot.entry.status, consumed.slot.entry⟩

structure Logged (state : System) : Prop where
  completions : state.heap.completions = state.queue.trace.consumed.filterMap Consumed.record
  replaced : state.queue.trace.replaced = []

theorem Logged.step {before after : System} {event : Event} (logged : Logged before) (layout : Layout before)
    (conformed : Conformed before) (noReset : event.withoutReset = true) (nothing : ReplacesNothing before event)
    (quiet : QuietCallbacks before event) (taken : before.step event = some after) : Logged after := by
  have empty := nothing_replaced layout logged.replaced nothing taken
  refine ⟨?_, empty⟩
  have completions := logged.completions
  cases System.step_transition taken with
  | @accepted address record cmd ready safe inside =>
    have free := nothing ⟨ready, safe, inside⟩
    simpa [System.accepted, CNvmeQueue.setSubIndex, CNvmeQueue.releaseOld, free] using completions
  | refused => exact completions
  | fetched => exact completions
  | posted => exact completions
  | entered => exact completions
  | @iterated loop running arrived more =>
    have slot := popped_of_lt (conformed.cid_lt layout loop.cpl)
    simp only [System.iterated, CNvmeQueue.poppedHeap, CNvmeQueue.consume_consumed, List.filterMap_append,
      List.filterMap_cons, List.filterMap_nil, Consumed.record]
    cases popped : before.queue.popped loop with
    | none => simpa using completions
    | some srbext =>
      have plain := quiet loop running srbext (slot.symm.trans popped)
      simp only [finishSrbExt_completions _ _ plain, completions, Option.map_some]
  | @left loop running ended =>
    obtain ⟨cplDbl, doorbell⟩ := before.queue.leaveCompleteCmd_eq loop
    rw [doorbell]
    exact completions
  | reset => cases noReset
  | scribbled => exact completions

structure Exact (state : System) : Prop where
  orderly : Orderly state
  contiguous : Contiguous state
  logged : Logged state
  once : SettledOnce state.queue.history state.queue.trace.submitted.length state.heap

theorem Exact.initial (config : QueuePairConfig) (srbext : Nat → SrbExt) (slotCount : BitVec 3) :
    Exact (.initial config srbext slotCount) :=
  ⟨.initial config srbext slotCount, .initial config srbext slotCount, ⟨rfl, rfl⟩, .empty _ _⟩

/-- With distinct identifiers every accepted submission finds its slot free. -/
theorem replacesNothing_of_distinct {before after : System} {event : Event} (orderly : Orderly before)
    (taken : before.step event = some after) (distinct : DistinctOutstanding after) : ReplacesNothing before event := by
  cases System.step_transition taken with
  | @accepted address record cmd ready safe inside =>
    intro _
    cases held : before.queue.history.history cmd.cid.toNat with
    | none => rfl
    | some old =>
      obtain ⟨submission, member, rfl, cids⟩ := orderly.held.mem held
      let fresh : Submission := ⟨cmd, address, before.queue.trace.submitted.length⟩
      have waiting : ∀ number, (∀ consumed ∈ before.queue.trace.consumed, consumed.slot.answers ≠ some number) →
          (before.accepted address record cmd).answered number = false :=
        fun number unread => System.answered_eq_false.mpr unread
      have equal : submission = fresh :=
        distinct submission (List.mem_append_left _ member) fresh (by simp [System.accepted, fresh])
          (waiting _ (orderly.settled.waiting _ _ held)) (waiting _ orderly.next_unanswered) (BitVec.eq_of_toNat_eq cids)
      have number := orderly.held.lt held
      rw [equal] at number
      exact absurd number (Nat.lt_irrefl _)
  | refused refuses =>
    intro accepts
    exact absurd accepts refuses
  | _ => trivial

namespace Exact
variable {state : System} (exact : Exact state)
include exact

theorem current (number : Nat) : ¬ state.queue.stale number := by
  intro stale
  cases stale with
  | inl replaced =>
    rw [exact.logged.replaced] at replaced
    cases replaced
  | inr before =>
    rw [exact.contiguous.neverReset] at before
    cases before

theorem step {after : System} {event : Event} (unreset : Unreset event) (room : RoomToSubmit state event)
    (distinct : DistinctOutstanding after) (quiet : QuietCallbacks state event)
    (taken : state.step event = some after) : Exact after := by
  have current := exact.current
  obtain ⟨orderly, contiguous, logged, once⟩ := exact
  have layout := orderly.steady.layout
  have inTime : NoLateCompletion state event := by
    cases event with
    | iterate => exact fun _ _ number _ stale => absurd stale (current number)
    | _ => trivial
  have completes : CompletesOnce state event := by
    cases event with
    | iterate =>
      intro loop running
      have inside := orderly.steady.conformed.cid_lt layout loop.cpl
      refine ⟨.inl inside, ?_⟩
      intro srbext popped
      rw [popped_of_lt inside] at popped
      exact quiet loop running srbext popped
    | _ => trivial
  exact ⟨orderly.step unreset.1 room (unreset.resetInReach state) (contiguous.submitInReach orderly.steady room) inTime taken,
    contiguous.step orderly.steady unreset.1 unreset.2 taken,
    logged.step layout orderly.steady.conformed unreset.2 (replacesNothing_of_distinct orderly taken distinct) quiet taken,
    once.step layout completes taken⟩

private theorem record_mem {completion : Completion} (member : completion ∈ state.heap.completions) :
    ∃ consumed ∈ state.queue.trace.consumed, ∃ srbext, consumed.popped = some srbext ∧
      completion = ⟨srbext.address, some srbext.submission, nvmeToSrbStatus consumed.slot.entry.status,
        consumed.slot.entry⟩ := by
  rw [exact.logged.completions, List.mem_filterMap] at member
  obtain ⟨consumed, recorded, same⟩ := member
  obtain ⟨srbext, popped, rfl⟩ := Option.map_eq_some_iff.mp same
  exact ⟨consumed, recorded, srbext, popped, rfl⟩

private theorem settled_iff {submission : Submission} (member : submission ∈ state.queue.trace.submitted) :
    submission.srbext.submission ∈ state.heap.settled ↔ state.answered submission.srbext.submission = true := by
  rw [System.answered_iff, Heap.settled, List.mem_filterMap]
  constructor
  · intro settled
    obtain ⟨completion, recorded, number⟩ := settled
    obtain ⟨consumed, read, srbext, popped, rfl⟩ := exact.record_mem recorded
    refine ⟨consumed, read, ?_⟩
    rw [exact.orderly.settled.own consumed read srbext popped]
    exact number
  · intro answered
    obtain ⟨consumed, read, answers⟩ := answered
    have popped := exact.orderly.settled.completed submission member (exact.current _) consumed read answers
    rw [exact.logged.completions]
    have record : Consumed.record consumed = some ⟨submission.srbext.address, some submission.srbext.submission,
        nvmeToSrbStatus consumed.slot.entry.status, consumed.slot.entry⟩ := by
      rw [Consumed.record, popped, Option.map_some]
    exact ⟨_, List.mem_filterMap.mpr ⟨consumed, read, record⟩, rfl⟩

theorem exactlyOnce : ExactlyOnce state := by
  have settled := exact.orderly.settled
  refine ⟨?_, ?_, ?_, ?_⟩
  · rw [exact.contiguous.consumed]
    exact List.take_prefix ..
  · intro submission member
    rw [exact.once.nodup.count]
    simp only [exact.settled_iff member]
  · intro completion recorded number same
    obtain ⟨consumed, read, srbext, popped, rfl⟩ := exact.record_mem recorded
    obtain rfl : srbext.submission = number := Option.some.inj same
    obtain ⟨position, _, found⟩ := exact.orderly.delivered.read consumed read
    have posted := List.mem_of_getElem? found
    have answers := settled.own consumed read srbext popped
    obtain ⟨submission, member, _, own⟩ := exact.orderly.steady.conformed.posted _ posted
    have completed := settled.completed submission member (exact.current _) consumed read own
    rw [popped, Option.some.injEq] at completed
    exact ⟨submission, member, completed.symm, consumed.slot, posted, answers, rfl⟩
  · intro cid srbext
    rw [System.answered_eq_false]
    constructor
    · intro holds
      obtain ⟨submission, member, rfl, cids⟩ := exact.orderly.held.mem holds
      exact ⟨submission, member, rfl, cids, settled.waiting cid _ holds⟩
    · intro outstanding
      obtain ⟨submission, member, rfl, rfl, unread⟩ := outstanding
      exact settled.kept submission member (exact.current _) unread

end Exact

def CompletedTwice (state : System) : Prop :=
  ∃ submission ∈ state.queue.trace.submitted, 2 ≤ state.heap.settled.count submission.srbext.submission

theorem CompletedTwice.step {before after : System} {event : Event} (twice : CompletedTwice before)
    (layout : Layout before) (taken : before.step event = some after) : CompletedTwice after := by
  obtain ⟨submission, member, count⟩ := twice
  obtain ⟨added, submitted⟩ := layout.submitted taken
  obtain ⟨later, completions⟩ := Heap.Extends.step layout taken
  refine ⟨submission, by rw [submitted]; exact List.mem_append_left _ member, ?_⟩
  rw [Heap.settled, completions, List.filterMap_append, List.count_append]
  exact Nat.le_add_right_of_le count

private theorem completedTwice_of_loud {before after : System} {event : Event} (layout : Layout before)
    (conformed : Conformed before) (held : Held before.queue) (taken : before.step event = some after)
    (loud : ¬ QuietCallbacks before event) : CompletedTwice after := by
  cases System.step_transition taken with
  | @iterated loop running arrived more =>
    simp only [QuietCallbacks, running, Option.mem_some_iff, forall_eq'] at loud
    push Not at loud
    obtain ⟨srbext, holds, callback⟩ := loud
    have popped : before.queue.popped loop = some srbext := (popped_of_lt (conformed.cid_lt layout loop.cpl)).trans holds
    obtain ⟨submission, member, rfl, _⟩ := held.mem holds
    obtain ⟨first, second, log⟩ := finishSrbExt_twice (some submission.srbext.submission) (before.nextSlot loop).entry
      (Bool.eq_true_of_not_eq_false callback)
    refine ⟨submission, member, ?_⟩
    simp only [System.nextSlot] at log
    simp [System.iterated, CNvmeQueue.poppedHeap, popped, Heap.settled, log]
  | _ => exact absurd trivial loud

/-- In every run of a queue deeper than the threshold in which outstanding
commands have different identifiers, the driver consumes the posted entries in
order and completes every command exactly once by its own entry, if and only if
it never pops an extension whose callback completes it. -/
theorem exactly_once_iff {config : QueuePairConfig} (deep : safeSubmitThreshold < config.depth) {srbext : Nat → SrbExt}
    {slotCount : BitVec 3} {events : List Event} {final : System} (unreset : ∀ event ∈ events, Unreset event)
    (distinct : Machine.Always System.step DistinctOutstanding (.initial config srbext slotCount) events)
    (ran : Machine.run System.step (.initial config srbext slotCount) events = some final) :
    ExactlyOnce final ↔ Machine.Meets System.step QuietCallbacks (.initial config srbext slotCount) events := by
  have conforming : Machine.Meets System.step (fun _ event => event.conforming = true)
      (.initial config srbext slotCount) events := .of_forall (fun event member _ => (unreset event member).1) _
  constructor
  · intro exactlyOnce
    refine .of_final CompletedTwice ?_ ?_ ?_ (Accounted.initial config srbext slotCount) conforming ran ?_
    · intro before event after accounted conforms taken
      exact accounted.step conforms taken
    · intro before event after accounted _ taken loud
      exact completedTwice_of_loud accounted.layout accounted.conformed accounted.held taken loud
    · intro before event after accounted _ taken twice
      exact twice.step accounted.layout taken
    · intro completedTwice
      obtain ⟨submission, member, twice⟩ := completedTwice
      rw [exactlyOnce.once submission member] at twice
      split at twice <;> omega
  · intro quiet
    have kept : ∀ before event after, Exact before →
        (((Unreset event ∧ RoomToSubmit before event) ∧
          (DistinctOutstanding before ∧ ∀ after, before.step event = some after → DistinctOutstanding after)) ∧
          QuietCallbacks before event) → System.step before event = some after → Exact after := by
      intro before event after exact met taken
      obtain ⟨⟨⟨unreset, room⟩, _, distinct⟩, quiet⟩ := met
      exact exact.step unreset room (distinct after taken) quiet taken
    have room := roomToSubmit_of_deep deep (Unreset.conforms unreset (.initial config srbext slotCount))
    have allowed : Machine.Meets System.step (fun _ event => Unreset event) (.initial config srbext slotCount) events :=
      .of_forall (fun event member _ => unreset event member) _
    exact (Machine.run_invariant kept (.initial config srbext slotCount)
      (((allowed.and room).and distinct.meets).and quiet) ran).exactlyOnce

def sampleExchange : List Event :=
  [sampleSubmit 0 0, sampleSubmit 1 1, .fetch, .fetch, .post 1 sampleReply, .post 0 sampleReply,
    .enter 1, .iterate, .leave, .enter 0, .iterate, .leave]

theorem exactly_once_iff_exchange :
    ∃ final, Machine.run System.step sampleSystem sampleExchange = some final ∧
      (ExactlyOnce final ↔ Machine.Meets System.step QuietCallbacks sampleSystem sampleExchange) := by
  obtain ⟨final, ran⟩ := Option.isSome_iff_exists.mp
    (by decide +kernel : (Machine.run System.step sampleSystem sampleExchange).isSome = true)
  have distinct : Machine.Always System.step DistinctOutstanding sampleSystem sampleExchange := by decide +kernel
  have unreset : ∀ event ∈ sampleExchange, Unreset event := by
    simp [sampleExchange, sampleSubmit, Unreset, Event.conforming, Event.withoutReset]
  exact ⟨final, ran, exactly_once_iff (by decide) unreset distinct ran⟩

def sampleFirmwareInfo : List Event :=
  [.submit 0 { SrbExt.init (some sampleIoctl) with completionCB := some .completeFirmwareInfo }
      { NvmeCommand.zero with opc := 0x02 },
    .fetch, .post 0 sampleReply, .enter 0, .iterate, .leave]

theorem firmware_info_completed_twice :
    ¬ ∀ (config : QueuePairConfig) (srbext : Nat → SrbExt) (slotCount : BitVec 3) (events : List Event) (final : System),
      safeSubmitThreshold < config.depth → (∀ event ∈ events, Unreset event) →
      Machine.Always System.step DistinctOutstanding (.initial config srbext slotCount) events →
      Machine.run System.step (.initial config srbext slotCount) events = some final → ExactlyOnce final := by
  intro always
  have observed : (Machine.run System.step sampleSystem sampleFirmwareInfo).map
      (fun state => (state.queue.trace.submitted.map (·.srbext.submission), state.heap.settled)) =
      some ([0], [0, 0]) := by decide +kernel
  obtain ⟨final, ran, seen⟩ := Option.map_eq_some_iff.mp observed
  have distinct : Machine.Always System.step DistinctOutstanding sampleSystem sampleFirmwareInfo := by decide +kernel
  have unreset : ∀ event ∈ sampleFirmwareInfo, Unreset event := by
    simp [sampleFirmwareInfo, Unreset, Event.conforming, Event.withoutReset]
  have exactly := always sampleQueue (fun _ => .init none) 1 sampleFirmwareInfo final (by decide) unreset distinct ran
  rw [Prod.mk.injEq] at seen
  obtain ⟨submission, submitted, number⟩ := List.map_eq_singleton_iff.mp seen.1
  have once := exactly.once submission (by simp [submitted])
  rw [number, seen.2] at once
  split at once <;> cases once

end SpcNvme
