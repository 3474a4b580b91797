import SpcNvme.Proofs.Completion

/-! Which entry completes which command. Reusing the identifier of a command
whose answer is still to come is safe exactly as long as that answer is read
before the identifier is taken again, or not read while it is taken. -/

namespace SpcNvme

/-- Every extension popped by an iteration was popped by its own entry, and every
command that was not replaced is still in the history or was popped so. -/
structure OwnCompletions (queue : CNvmeQueue) : Prop where
  own : ∀ consumed ∈ queue.trace.consumed, ∀ srbext, consumed.popped = some srbext →
    consumed.slot.answers = some srbext.submission
  kept : ∀ submission ∈ queue.trace.submitted, submission.srbext.submission ∉ queue.trace.replaced →
    queue.history.history submission.cmd.cid.toNat = some submission.srbext ∨
    ∃ consumed ∈ queue.trace.consumed, consumed.popped = some submission.srbext ∧
      consumed.slot.answers = some submission.srbext.submission

private theorem Settled.ownCompletions {queue : CNvmeQueue} (settled : Settled queue) (neverReset : queue.trace.resetAt = 0) :
    OwnCompletions queue := by
  refine ⟨settled.own, ?_⟩
  intro submission member notReplaced
  have fresh : ¬ queue.stale submission.srbext.submission := by
    intro stale
    cases stale with
    | inl replaced => exact notReplaced replaced
    | inr before => omega
  by_cases read : ∃ consumed ∈ queue.trace.consumed, consumed.slot.answers = some submission.srbext.submission
  · obtain ⟨consumed, recorded, answers⟩ := read
    exact .inr ⟨consumed, recorded, settled.completed submission member fresh consumed recorded answers, answers⟩
  · apply Or.inl
    apply settled.kept submission member fresh
    intro consumed recorded answers
    exact read ⟨consumed, recorded, answers⟩

def Misdelivered (queue : CNvmeQueue) : Prop :=
  ∃ consumed ∈ queue.trace.consumed, ∃ srbext, consumed.popped = some srbext ∧
    consumed.slot.answers ≠ some srbext.submission

theorem Misdelivered.step {before after : System} {event : Event} (misdelivered : Misdelivered before.queue)
    (layout : Layout before) (taken : before.step event = some after) : Misdelivered after.queue := by
  obtain ⟨consumed, recorded, srbext, popped, other⟩ := misdelivered
  cases System.step_transition taken with
  | accepted => exact ⟨consumed, recorded, srbext, popped, other⟩
  | refused => exact ⟨consumed, recorded, srbext, popped, other⟩
  | fetched => exact ⟨consumed, recorded, srbext, popped, other⟩
  | posted => exact ⟨consumed, recorded, srbext, popped, other⟩
  | entered => exact ⟨consumed, recorded, srbext, popped, other⟩
  | iterated => exact ⟨consumed, List.mem_append_left _ recorded, srbext, popped, other⟩
  | @left loop running ended =>
    obtain ⟨cplDbl, doorbell⟩ := before.queue.leaveCompleteCmd_eq loop
    rw [doorbell]
    exact ⟨consumed, recorded, srbext, popped, other⟩
  | reset =>
    obtain ⟨skipped, _, same, _⟩ := layout.reset
    rw [same]
    exact ⟨consumed, recorded, srbext, popped, other⟩
  | scribbled => exact ⟨consumed, recorded, srbext, popped, other⟩

/-- Reading a late answer while its identifier is in use again completes the new
command by the old one's entry. -/
theorem misdelivered_of_late {before after : System} {event : Event} (layout : Layout before)
    (conformed : Conformed before) (held : Held before.queue) (taken : before.step event = some after)
    (late : ¬ NoLateCompletion before event) : Misdelivered after.queue := by
  cases System.step_transition taken with
  | @iterated loop running arrived more =>
    simp only [NoLateCompletion, running, Option.mem_some_iff, forall_eq'] at late
    push Not at late
    obtain ⟨number, answers, stale, occupied⟩ := late
    obtain ⟨srbext, holds⟩ := Option.ne_none_iff_exists'.mp occupied
    have popped : before.queue.popped loop = some srbext :=
      (popped_of_lt (conformed.cid_lt layout loop.cpl)).trans holds
    refine ⟨⟨before.nextSlot loop, before.queue.popped loop⟩, ?_, srbext, popped, ?_⟩
    · simp [System.iterated, System.nextSlot]
    · intro own
      obtain rfl : number = srbext.submission := Option.some.inj (answers.symm.trans own)
      rcases stale with replaced | before
      · exact held.current _ _ holds replaced
      · exact absurd (held.since _ _ holds) (Nat.not_le_of_lt before)
  | _ => exact absurd trivial late

/-- Without resets, identifiers reused at will: each extension is completed by
its own entry, and none is lost, if and only if no answer to a replaced command
is read while the identifier is taken again. -/
theorem own_completions_iff {config : QueuePairConfig} {srbext : Nat → SrbExt} {slotCount : BitVec 3}
    {events : List Event} {final : System} (roomy : NeverOverfilled (.initial config srbext slotCount) events)
    (unreset : ∀ event ∈ events, Unreset event)
    (ran : Machine.run System.step (.initial config srbext slotCount) events = some final) :
    OwnCompletions final.queue ↔
      Machine.Meets System.step NoLateCompletion (.initial config srbext slotCount) events := by
  have room := roomy.room (Unreset.conforms unreset _)
  have allowed : Machine.Meets System.step (fun state event => Unreset event ∧ RoomToSubmit state event)
      (.initial config srbext slotCount) events :=
    .and (.of_forall (fun event member _ => unreset event member) _) room
  constructor
  · intro own
    refine .of_final (fun state => Misdelivered state.queue) ?_ ?_ ?_ (Accounted.initial config srbext slotCount) allowed ran ?_
    · intro before event after accounted met taken
      exact accounted.step met.1.1 taken
    · intro before event after accounted _ taken late
      exact misdelivered_of_late accounted.layout accounted.conformed accounted.held taken late
    · intro before event after accounted _ taken misdelivered
      exact misdelivered.step accounted.layout taken
    · intro misdelivered
      obtain ⟨consumed, recorded, srbext, popped, other⟩ := misdelivered
      exact other (own.own consumed recorded srbext popped)
  · intro inTime
    have kept : ∀ before event after, (Orderly before ∧ Contiguous before) →
        ((Unreset event ∧ RoomToSubmit before event) ∧ NoLateCompletion before event) →
        System.step before event = some after → Orderly after ∧ Contiguous after := by
      intro before event after both met taken
      obtain ⟨orderly, contiguous⟩ := both
      obtain ⟨⟨allowed, room⟩, inTime⟩ := met
      have submits := contiguous.submitInReach orderly.steady room
      exact ⟨orderly.step allowed.1 room (allowed.resetInReach before) submits inTime taken,
        contiguous.step orderly.steady allowed.1 allowed.2 taken⟩
    obtain ⟨orderly, contiguous⟩ := Machine.run_invariant kept
      ⟨.initial config srbext slotCount, .initial config srbext slotCount⟩ (allowed.and inTime) ran
    exact orderly.settled.ownCompletions contiguous.neverReset

/-- The late answer comes first and pops the new command. -/
theorem late_completion_misdelivers :
    ¬ ∀ (config : QueuePairConfig) (srbext : Nat → SrbExt) (slotCount : BitVec 3) (events : List Event) (final : System),
      (∀ event ∈ events, Unreset event) →
      Machine.run System.step (.initial config srbext slotCount) events = some final → OwnCompletions final.queue := by
  intro always
  have observed : (Machine.run System.step sampleSystem sampleReplacement).map
      (fun state => state.queue.trace.consumed.map fun consumed => (consumed.slot.answers, consumed.popped)) =
      some [(some 0, some ⟨1, 1⟩), (some 1, none)] := by decide +kernel
  obtain ⟨final, ran, seen⟩ := Option.map_eq_some_iff.mp observed
  have own := (always sampleQueue (fun _ => .init none) 1 sampleReplacement final sampleReplacement_unreset ran).own
  cases recorded : final.queue.trace.consumed with
  | nil => simp [recorded] at seen
  | cons first rest =>
    simp only [recorded, List.map_cons, List.cons.injEq, Prod.mk.injEq] at seen
    have mine := own first (by simp [recorded]) ⟨1, 1⟩ seen.1.2
    rw [seen.1.1] at mine
    cases mine

theorem own_completions_iff_replacement :
    ∃ final, Machine.run System.step sampleSystem sampleReplacement = some final ∧
      (OwnCompletions final.queue ↔ Machine.Meets System.step NoLateCompletion sampleSystem sampleReplacement) := by
  obtain ⟨final, ran⟩ := Option.isSome_iff_exists.mp
    (by decide +kernel : (Machine.run System.step sampleSystem sampleReplacement).isSome = true)
  exact ⟨final, ran, own_completions_iff (.inl (by decide)) sampleReplacement_unreset ran⟩

/-- After a reset the controller answers the commands from before it first. -/
def OldAnswersFirst (state : System) : Event → Prop
  | .post index _ => ∀ submission ∈ state.device.pending[index]?,
      state.queue.trace.resetAt ≤ submission.srbext.submission → state.queue.trace.resetAt ≤ state.device.posted.length
  | _ => True

instance (state : System) : DecidablePred (OldAnswersFirst state)
  | .post index _ => inferInstanceAs (Decidable (∀ submission ∈ state.device.pending[index]?, _ → _))
  | .submit .. | .fetch | .enter _ | .iterate | .leave | .reset | .scribble .. => isTrue trivial

structure ResetTolerated (state : System) (event : Event) : Prop where
  conforming : event.conforming = true
  resets : ResetInReach state event
  submits : SubmitInReach state event
  inTime : NoLateCompletion state event
  oldFirst : OldAnswersFirst state event

instance (state : System) (event : Event) : Decidable (ResetTolerated state event) :=
  decidable_of_iff (event.conforming = true ∧ ResetInReach state event ∧ SubmitInReach state event ∧
      NoLateCompletion state event ∧ OldAnswersFirst state event)
    ⟨fun ⟨conforming, resets, submits, inTime, oldFirst⟩ => ⟨conforming, resets, submits, inTime, oldFirst⟩,
      fun met => ⟨met.conforming, met.resets, met.submits, met.inTime, met.oldFirst⟩⟩

/-- The posted answers to commands accepted since the last reset, as far as the
completion head has moved over them. -/
structure Unskipped (state : System) : Prop where
  head : state.queue.trace.passed ≤ state.queue.trace.resetAt ∨
    state.queue.trace.passed ≤ state.device.posted.length
  read : ∀ position < state.queue.trace.passed, ∀ slot, state.device.posted[position]? = some slot →
    ∀ number, slot.answers = some number → state.queue.trace.resetAt ≤ number →
    ∃ consumed ∈ state.queue.trace.consumed, consumed.slot = slot

theorem Unskipped.initial (config : QueuePairConfig) (srbext : Nat → SrbExt) (slotCount : BitVec 3) :
    Unskipped (.initial config srbext slotCount) :=
  ⟨.inl (Nat.le_refl 0), fun _ before => absurd before (Nat.not_lt_zero _)⟩

theorem Unskipped.step {before after : System} {event : Event} (unskipped : Unskipped before) (steady : Steady before)
    (oldFirst : OldAnswersFirst before event) (taken : before.step event = some after) : Unskipped after := by
  obtain ⟨head, read⟩ := unskipped
  cases System.step_transition taken with
  | accepted => exact ⟨head, read⟩
  | refused => exact ⟨head, read⟩
  | fetched => exact ⟨head, read⟩
  | @posted index reply submission pending =>
    refine ⟨?_, ?_⟩
    · simp only [System.post, Controller.advance, List.length_append, List.length_singleton]
      omega
    · intro position earlier slot found number answers since
      simp only [System.post, Controller.advance] at earlier found since
      by_cases old : position < before.device.posted.length
      · rw [List.getElem?_append_left old] at found
        exact read position earlier slot found number answers since
      · -- the new entry lands behind the head, so it answers an old command
        obtain rfl : slot = before.device.answer submission reply := by
          rw [List.getElem?_append_right (Nat.le_of_not_lt old)] at found
          exact (List.mem_singleton.mp (List.mem_of_getElem? found))
        obtain rfl : submission.srbext.submission = number := Option.some.inj answers
        have first := oldFirst submission pending since
        omega
  | entered => exact ⟨head, read⟩
  | @iterated loop running arrival more =>
    obtain ⟨behind, next⟩ := steady.arrived running arrival
    refine ⟨.inr behind, ?_⟩
    intro position earlier slot found number answers since
    simp only [System.iterated, CNvmeQueue.consume_passed, CNvmeQueue.consume_consumed] at earlier found ⊢
    by_cases now : position = before.queue.trace.passed
    · subst position
      refine ⟨⟨before.queue.cplQ loop.cpl, before.queue.popped loop⟩, by simp, ?_⟩
      rw [List.getElem?_eq_getElem behind, ← next, Option.some.injEq] at found
      exact found
    · obtain ⟨consumed, recorded, same⟩ := read position (by omega) slot found number answers since
      exact ⟨consumed, List.mem_append_left _ recorded, same⟩
  | @left loop running ended =>
    obtain ⟨cplDbl, doorbell⟩ := before.queue.leaveCompleteCmd_eq loop
    rw [doorbell]
    exact ⟨head, read⟩
  | reset =>
    rw [steady.reset]
    refine ⟨.inl (Nat.le_refl _), ?_⟩
    intro position earlier slot found number answers since
    -- everything posted so far answers a command from before this reset
    obtain ⟨older, bounded, same⟩ :=
      steady.layout.host.answered_lt (steady.conformed.posted slot (List.mem_of_getElem? found))
    rw [same, Option.some.injEq] at answers
    have reset : before.queue.trace.submitted.length ≤ number := since
    omega
  | scribbled => exact ⟨head, read⟩

structure ResetSafe (state : System) : Prop where
  own : ∀ consumed ∈ state.queue.trace.consumed, ∀ srbext, consumed.popped = some srbext →
    consumed.slot.answers = some srbext.submission
  unskipped : ∀ position < state.queue.trace.passed, ∀ slot, state.device.posted[position]? = some slot →
    ∀ submission ∈ state.queue.trace.submitted, slot.answers = some submission.srbext.submission →
    state.queue.trace.resetAt ≤ submission.srbext.submission →
    ∃ consumed ∈ state.queue.trace.consumed, consumed.slot = slot ∧
      (submission.srbext.submission ∉ state.queue.trace.replaced → consumed.popped = some submission.srbext)
  unfetched : ∀ position (inside : position < state.queue.trace.submitted.length), state.device.fetched ≤ position →
    state.queue.subQ (position % state.queue.depth) = state.queue.trace.submitted[position]

/-- A reset between submissions and completions is harmless in every run in which
the rings are not lapped, the controller answers old commands before new ones,
and no stale answer is read under an identifier in use. -/
theorem reset_safe {config : QueuePairConfig} {srbext : Nat → SrbExt} {slotCount : BitVec 3} {events : List Event}
    {final : System} (roomy : NeverOverfilled (.initial config srbext slotCount) events)
    (tolerated : Machine.Meets System.step ResetTolerated (.initial config srbext slotCount) events)
    (ran : Machine.run System.step (.initial config srbext slotCount) events = some final) : ResetSafe final := by
  have room := roomy.room (tolerated.mono fun _ _ met => ⟨met.conforming, met.resets⟩)
  have kept : ∀ before event after, (Orderly before ∧ Unskipped before) →
      (ResetTolerated before event ∧ RoomToSubmit before event) → System.step before event = some after →
      Orderly after ∧ Unskipped after := by
    intro before event after both allowed taken
    obtain ⟨orderly, unskipped⟩ := both
    obtain ⟨met, room⟩ := allowed
    exact ⟨orderly.step met.conforming room met.resets met.submits met.inTime taken,
      unskipped.step orderly.steady met.oldFirst taken⟩
  obtain ⟨orderly, unskipped⟩ := Machine.run_invariant kept
    ⟨.initial config srbext slotCount, .initial config srbext slotCount⟩ (tolerated.and room) ran
  refine ⟨orderly.settled.own, ?_, ?_⟩
  · intro position earlier slot found submission member answers since
    obtain ⟨consumed, recorded, rfl⟩ := unskipped.read position earlier slot found _ answers since
    refine ⟨consumed, recorded, rfl, ?_⟩
    intro notReplaced
    have fresh : ¬ final.queue.stale submission.srbext.submission := by
      intro stale
      cases stale with
      | inl replaced => exact notReplaced replaced
      | inr before => omega
    exact orderly.settled.completed submission member fresh consumed recorded answers
  · intro position inside unfetched
    exact orderly.delivered.unfetched_intact orderly.steady.layout unfetched inside

def sampleReset (first : Nat) : List Event :=
  [sampleSubmit 0 0, .reset, sampleSubmit 1 0, .fetch, .fetch, .post first sampleReply, .post 0 sampleReply,
    .enter 0, .iterate, .leave]

theorem reset_safe_in_order :
    ∃ final, Machine.run System.step sampleSystem (sampleReset 0) = some final ∧ ResetSafe final := by
  obtain ⟨final, ran⟩ := Option.isSome_iff_exists.mp
    (by decide +kernel : (Machine.run System.step sampleSystem (sampleReset 0)).isSome = true)
  have tolerated : Machine.Meets System.step ResetTolerated sampleSystem (sampleReset 0) := by decide +kernel
  exact ⟨final, ran, reset_safe (.inl (by decide)) tolerated ran⟩

/-- With the new command answered first, its entry is skipped and the old one's
entry completes it. -/
theorem reset_loses_step :
    ¬ ∀ (config : QueuePairConfig) (srbext : Nat → SrbExt) (slotCount : BitVec 3) (events : List Event) (final : System),
      (∀ event ∈ events, event.conforming = true) →
      Machine.run System.step (.initial config srbext slotCount) events = some final → ResetSafe final := by
  intro always
  have observed : (Machine.run System.step sampleSystem (sampleReset 1)).map
      (fun state => state.queue.trace.consumed.map fun consumed => (consumed.slot.answers, consumed.popped)) =
      some [(some 0, some ⟨1, 1⟩)] := by decide +kernel
  obtain ⟨final, ran, seen⟩ := Option.map_eq_some_iff.mp observed
  have conforming : ∀ event ∈ sampleReset 1, event.conforming = true := by
    simp [sampleReset, sampleSubmit, Event.conforming]
  have own := (always sampleQueue (fun _ => .init none) 1 (sampleReset 1) final conforming ran).own
  obtain ⟨consumed, recorded, popped⟩ := List.map_eq_singleton_iff.mp seen
  rw [Prod.mk.injEq] at popped
  have mine := own consumed (by simp [recorded]) ⟨1, 1⟩ popped.2
  rw [popped.1] at mine
  cases mine

end SpcNvme
