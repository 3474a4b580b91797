import SpcNvme.Proofs.Delivery

/-! Which command a history slot belongs to. In every reachable state, with any
controller, a slot holds the pointer of a command accepted under the slot's own
identifier since the last reset and not replaced since. -/

namespace SpcNvme

structure Held (queue : CNvmeQueue) : Prop where
  inside : ∀ cid srbext, queue.history.history cid = some srbext → cid < queue.history.depth
  own : ∀ cid srbext, queue.history.history cid = some srbext →
    ∃ cmd, queue.trace.submitted[srbext.submission]? = some ⟨cmd, srbext⟩ ∧ cmd.cid.toNat = cid
  since : ∀ cid srbext, queue.history.history cid = some srbext → queue.trace.resetAt ≤ srbext.submission
  current : ∀ cid srbext, queue.history.history cid = some srbext → srbext.submission ∉ queue.trace.replaced
  replaced : ∀ number ∈ queue.trace.replaced, number < queue.trace.submitted.length

namespace Held
variable {queue : CNvmeQueue}

theorem setup (config : QueuePairConfig) : Held (.setup config) where
  inside := fun _ _ held => absurd held (by simp [CNvmeQueue.setup, CCmdHistory.setup])
  own := fun _ _ held => absurd held (by simp [CNvmeQueue.setup, CCmdHistory.setup])
  since := fun _ _ held => absurd held (by simp [CNvmeQueue.setup, CCmdHistory.setup])
  current := fun _ _ _ => List.not_mem_nil
  replaced := fun _ member => absurd member List.not_mem_nil

theorem lt (held : Held queue) {cid : Nat} {srbext : SrbExtPtr} (holds : queue.history.history cid = some srbext) :
    srbext.submission < queue.trace.submitted.length := by
  obtain ⟨cmd, found, _⟩ := held.own cid srbext holds
  exact (List.getElem?_eq_some_iff.mp found).1

theorem apart (held : Held queue) {first second : Nat} {srbext other : SrbExtPtr}
    (holds : queue.history.history first = some srbext) (also : queue.history.history second = some other)
    (same : srbext.submission = other.submission) : first = second := by
  obtain ⟨cmd, found, rfl⟩ := held.own first srbext holds
  obtain ⟨_, present, rfl⟩ := held.own second other also
  rw [same, present] at found
  cases found
  rfl

theorem accept (held : Held queue) (address : Nat) {cmd : NvmeCommand} (inside : cmd.cid.toNat < queue.history.depth)
    (resetAt : queue.trace.resetAt ≤ queue.trace.submitted.length) : Held (queue.accept address cmd) := by
  have slots : ∀ cid srbext, (queue.accept address cmd).history.history cid = some srbext →
      (cid = cmd.cid.toNat ∧ srbext = ⟨address, queue.trace.submitted.length⟩) ∨
      (cid ≠ cmd.cid.toNat ∧ queue.history.history cid = some srbext) := by
    intro cid srbext holds
    rw [CNvmeQueue.accept_history] at holds
    by_cases same : cid = cmd.cid.toNat
    · subst cid
      rw [Function.update_self, Option.some.injEq] at holds
      exact .inl ⟨rfl, holds.symm⟩
    · exact .inr ⟨same, by rwa [Function.update_of_ne same] at holds⟩
  have released : ∀ number ∈ queue.replacedBy cmd,
      ∃ old, queue.history.history cmd.cid.toNat = some old ∧ old.submission = number := by
    intro number member
    simpa [CNvmeQueue.replacedBy] using member
  refine ⟨?_, ?_, ?_, ?_, ?_⟩
  · intro cid srbext holds
    rcases slots cid srbext holds with ⟨rfl, _⟩ | ⟨_, there⟩
    · exact inside
    · exact held.inside cid srbext there
  · intro cid srbext holds
    rw [CNvmeQueue.accept_submitted]
    rcases slots cid srbext holds with ⟨rfl, rfl⟩ | ⟨_, there⟩
    · exact ⟨cmd, by simp, rfl⟩
    · obtain ⟨old, found, same⟩ := held.own cid srbext there
      refine ⟨old, ?_, same⟩
      rw [List.getElem?_append_left (List.getElem?_eq_some_iff.mp found).1, found]
  · intro cid srbext holds
    rcases slots cid srbext holds with ⟨rfl, rfl⟩ | ⟨_, there⟩
    · exact resetAt
    · exact held.since cid srbext there
  · intro cid srbext holds member
    rw [CNvmeQueue.accept_replaced, List.mem_append] at member
    rcases slots cid srbext holds with ⟨rfl, rfl⟩ | ⟨other, there⟩
    · rcases member with earlier | now
      · exact absurd (held.replaced _ earlier) (Nat.lt_irrefl _)
      · obtain ⟨old, present, same⟩ := released _ now
        exact absurd (held.lt present) (by simp [same])
    · rcases member with earlier | now
      · exact held.current cid srbext there earlier
      · obtain ⟨old, present, same⟩ := released _ now
        exact other (held.apart there present same.symm)
  · intro number member
    rw [CNvmeQueue.accept_replaced, List.mem_append] at member
    rw [CNvmeQueue.accept_submitted, List.length_append, List.length_singleton]
    rcases member with earlier | now
    · exact Nat.lt_succ_of_lt (held.replaced _ earlier)
    · obtain ⟨old, present, rfl⟩ := released _ now
      exact Nat.lt_succ_of_lt (held.lt present)

theorem kept {loop : CompleteLoop} {cid : Nat} {srbext : SrbExtPtr}
    (holds : queue.poppedHistory loop cid = some srbext) : queue.history.history cid = some srbext := by
  unfold CNvmeQueue.poppedHistory at holds
  split at holds
  · exact holds
  · by_cases same : cid = (queue.cplQ loop.cpl).entry.cid.toNat
    · subst cid
      simp at holds
    · rwa [Function.update_of_ne same] at holds

theorem consume (held : Held queue) (loop : CompleteLoop) : Held (queue.consume loop) where
  inside := fun cid srbext holds => held.inside cid srbext (kept holds)
  own := fun cid srbext holds => held.own cid srbext (kept holds)
  since := fun cid srbext holds => held.since cid srbext (kept holds)
  current := fun cid srbext holds => held.current cid srbext (kept holds)
  replaced := held.replaced

private theorem cleared_history (held : Held queue) (position cid : Nat) :
    (queue.cleared position).history.history cid = none := by
  by_cases inside : cid < queue.history.depth
  · exact if_pos inside
  · apply (if_neg inside).trans
    cases holds : queue.history.history cid with
    | none => rfl
    | some srbext => exact absurd (held.inside cid srbext holds) inside

theorem cleared (held : Held queue) (position : Nat) : Held (queue.cleared position) where
  inside := fun cid _ holds => absurd holds (by simp [held.cleared_history position cid])
  own := fun cid _ holds => absurd holds (by simp [held.cleared_history position cid])
  since := fun cid _ holds => absurd holds (by simp [held.cleared_history position cid])
  current := fun _ _ _ => List.not_mem_nil
  replaced := fun _ member => absurd member List.not_mem_nil

theorem step {before after : System} {event : Event} (held : Held before.queue) (layout : Layout before)
    (taken : before.step event = some after) : Held after.queue := by
  cases System.step_transition taken with
  | accepted ready safe inside => exact held.accept _ inside layout.host.resetAt
  | refused => exact held
  | fetched behind => exact held
  | posted pending => exact ⟨held.inside, held.own, held.since, held.current, held.replaced⟩
  | entered idle => exact held
  | iterated running arrived more => exact held.consume _
  | @left loop running ended =>
    obtain ⟨cplDbl, doorbell⟩ := before.queue.leaveCompleteCmd_eq loop
    rw [doorbell]
    exact ⟨held.inside, held.own, held.since, held.current, held.replaced⟩
  | reset idle =>
    obtain ⟨skipped, _, same, _⟩ := layout.reset
    rw [same]
    exact held.cleared _
  | scribbled => exact ⟨held.inside, held.own, held.since, held.current, held.replaced⟩

theorem run {config : QueuePairConfig} {srbext : Nat → SrbExt} {slotCount : BitVec 3} {events : List Event}
    {final : System} (ran : Machine.run System.step (.initial config srbext slotCount) events = some final) :
    Layout final ∧ Held final.queue := by
  have kept : ∀ before event after, (Layout before ∧ Held before.queue) → System.step before event = some after →
      Layout after ∧ Held after.queue := by
    intro before event after both taken
    obtain ⟨layout, held⟩ := both
    exact ⟨layout.step taken, held.step layout taken⟩
  exact Machine.run_invariant_of_step kept ⟨.initial config srbext slotCount, .setup config⟩ ran

end Held

/-- What every run of a conforming controller keeps, however full the rings are. -/
structure Accounted (state : System) : Prop where
  layout : Layout state
  conformed : Conformed state
  counted : Counted state.queue
  held : Held state.queue

namespace Accounted

theorem initial (config : QueuePairConfig) (srbext : Nat → SrbExt) (slotCount : BitVec 3) :
    Accounted (.initial config srbext slotCount) :=
  ⟨.initial config srbext slotCount, .initial config srbext slotCount, .initial config srbext slotCount, .setup config⟩

theorem step {before after : System} {event : Event} (accounted : Accounted before)
    (conforming : event.conforming = true) (taken : before.step event = some after) : Accounted after := by
  obtain ⟨layout, conformed, counted, held⟩ := accounted
  exact ⟨layout.step taken, conformed.step layout conforming taken, counted.step layout conformed conforming taken,
    held.step layout taken⟩

theorem run {config : QueuePairConfig} {srbext : Nat → SrbExt} {slotCount : BitVec 3} {events : List Event}
    {final : System} (conforming : ∀ event ∈ events, event.conforming = true)
    (ran : Machine.run System.step (.initial config srbext slotCount) events = some final) : Accounted final := by
  have met : Machine.Meets System.step (fun _ event => event.conforming = true) (.initial config srbext slotCount)
      events := .of_forall (fun event member _ => conforming event member) _
  exact Machine.run_invariant (fun _ _ _ accounted conforms taken => accounted.step conforms taken)
    (initial config srbext slotCount) met ran

end Accounted

def CNvmeQueue.stale (queue : CNvmeQueue) (number : Nat) : Prop :=
  number ∈ queue.trace.replaced ∨ number < queue.trace.resetAt

/-- No stale answer is read while its identifier is in use again. -/
def NoLateCompletion (state : System) : Event → Prop
  | .iterate => ∀ loop ∈ state.loop, ∀ number ∈ (state.nextSlot loop).answers, state.queue.stale number →
      state.queue.history.history (state.nextSlot loop).entry.cid.toNat = none
  | _ => True

instance (queue : CNvmeQueue) : DecidablePred queue.stale := fun number =>
  inferInstanceAs (Decidable (number ∈ queue.trace.replaced ∨ number < queue.trace.resetAt))

instance (state : System) : DecidablePred (NoLateCompletion state)
  | .iterate => inferInstanceAs (Decidable (∀ loop ∈ state.loop, ∀ number ∈ (state.nextSlot loop).answers, _ → _))
  | .submit .. | .fetch | .post .. | .enter _ | .leave | .reset | .scribble .. => isTrue trivial

structure Settled (queue : CNvmeQueue) : Prop where
  own : ∀ consumed ∈ queue.trace.consumed, ∀ srbext, consumed.popped = some srbext →
    consumed.slot.answers = some srbext.submission
  waiting : ∀ cid srbext, queue.history.history cid = some srbext →
    ∀ consumed ∈ queue.trace.consumed, consumed.slot.answers ≠ some srbext.submission
  kept : ∀ submission ∈ queue.trace.submitted, ¬ queue.stale submission.srbext.submission →
    (∀ consumed ∈ queue.trace.consumed, consumed.slot.answers ≠ some submission.srbext.submission) →
    queue.history.history submission.cmd.cid.toNat = some submission.srbext
  completed : ∀ submission ∈ queue.trace.submitted, ¬ queue.stale submission.srbext.submission →
    ∀ consumed ∈ queue.trace.consumed, consumed.slot.answers = some submission.srbext.submission →
    consumed.popped = some submission.srbext

theorem Settled.setup (config : QueuePairConfig) : Settled (.setup config) where
  own := fun _ member => absurd member List.not_mem_nil
  waiting := fun _ _ _ _ member => absurd member List.not_mem_nil
  kept := fun _ member => absurd member List.not_mem_nil
  completed := fun _ member => absurd member List.not_mem_nil

/-- All invariants of a run in which no answer comes too late. -/
structure Orderly (state : System) : Prop where
  steady : Steady state
  delivered : Delivered state
  held : Held state.queue
  settled : Settled state.queue

theorem Orderly.initial (config : QueuePairConfig) (srbext : Nat → SrbExt) (slotCount : BitVec 3) :
    Orderly (.initial config srbext slotCount) :=
  ⟨.initial config srbext slotCount, .initial config srbext slotCount, .setup config, .setup config⟩

theorem submission_eq_of_numbered {submitted : List Submission}
    (numbered : ∀ number (inside : number < submitted.length), submitted[number].srbext.submission = number)
    {first second : Submission} (member : first ∈ submitted) (also : second ∈ submitted)
    (same : first.srbext.submission = second.srbext.submission) : first = second := by
  obtain ⟨left, inside, rfl⟩ := List.mem_iff_getElem.mp member
  obtain ⟨right, within, rfl⟩ := List.mem_iff_getElem.mp also
  rw [numbered left inside, numbered right within] at same
  subst same
  rfl

theorem HostLayout.submission_eq {queue : CNvmeQueue} (host : HostLayout queue) {first second : Submission}
    (member : first ∈ queue.trace.submitted) (also : second ∈ queue.trace.submitted)
    (same : first.srbext.submission = second.srbext.submission) : first = second :=
  submission_eq_of_numbered host.numbered member also same

theorem Held.mem {queue : CNvmeQueue} (held : Held queue) {cid : Nat} {srbext : SrbExtPtr}
    (holds : queue.history.history cid = some srbext) :
    ∃ submission ∈ queue.trace.submitted, submission.srbext = srbext ∧ submission.cmd.cid.toNat = cid := by
  obtain ⟨cmd, found, same⟩ := held.own cid srbext holds
  exact ⟨⟨cmd, srbext⟩, List.mem_of_getElem? found, rfl, same⟩

namespace Orderly
variable {state : System} (orderly : Orderly state)
include orderly

/-- What the next iteration is about: the command its entry answers, which has
not been answered before. -/
theorem answer {loop : CompleteLoop} (running : state.loop = some loop)
    (arrival : newCplArrived (state.nextSlot loop).entry state.queue.phaseTag = true) :
    ∃ submission ∈ state.queue.trace.submitted,
      (state.nextSlot loop).entry.cid = submission.cmd.cid ∧
      (state.nextSlot loop).answers = some submission.srbext.submission ∧
      ∀ consumed ∈ state.queue.trace.consumed, consumed.slot.answers ≠ some submission.srbext.submission := by
  obtain ⟨behind, next⟩ := orderly.steady.arrived running arrival
  obtain ⟨submission, member, cid, answers⟩ := orderly.steady.conformed.posted _ (List.getElem_mem behind)
  rw [← next] at cid answers
  refine ⟨submission, member, cid, answers, ?_⟩
  rw [← answers]
  exact orderly.delivered.unread behind next

/-- The slot of an entry that is not late holds the entry's own command or nothing. -/
theorem slot_own {loop : CompleteLoop} (running : state.loop = some loop)
    (arrival : newCplArrived (state.nextSlot loop).entry state.queue.phaseTag = true)
    (inTime : NoLateCompletion state .iterate) {srbext : SrbExtPtr}
    (holds : state.queue.history.history (state.nextSlot loop).entry.cid.toNat = some srbext) :
    (state.nextSlot loop).answers = some srbext.submission := by
  obtain ⟨submission, member, cid, answers, unread⟩ := orderly.answer running arrival
  by_cases stale : state.queue.stale submission.srbext.submission
  · rw [inTime loop running _ answers stale] at holds
    cases holds
  · have present := orderly.settled.kept submission member stale unread
    rw [← cid, holds, Option.some.injEq] at present
    rw [present, answers]

theorem next_unanswered : ∀ consumed ∈ state.queue.trace.consumed,
    consumed.slot.answers ≠ some state.queue.trace.submitted.length := by
  intro consumed member same
  obtain ⟨position, _, found⟩ := orderly.delivered.read consumed member
  obtain ⟨number, bounded, answers⟩ := orderly.steady.layout.host.answered_lt
    (orderly.steady.conformed.posted _ (List.mem_of_getElem? found))
  rw [same, Option.some.injEq] at answers
  omega

private theorem settled_accept (address : Nat) (cmd : NvmeCommand) : Settled (state.queue.accept address cmd) := by
  have answered := orderly.next_unanswered
  have notYet : ∀ number, ¬ (state.queue.accept address cmd).stale number → ¬ state.queue.stale number := by
    intro number fresh stale
    exact fresh (stale.imp (fun earlier => List.mem_append_left _ earlier) id)
  refine ⟨orderly.settled.own, ?_, ?_, ?_⟩
  · intro cid srbext holds consumed member
    rw [CNvmeQueue.accept_history] at holds
    by_cases same : cid = cmd.cid.toNat
    · subst cid
      rw [Function.update_self, Option.some.injEq] at holds
      subst holds
      exact answered consumed member
    · rw [Function.update_of_ne same] at holds
      exact orderly.settled.waiting cid srbext holds consumed member
  · intro submission member fresh unread
    rw [CNvmeQueue.accept_submitted, List.mem_append, List.mem_singleton] at member
    rw [CNvmeQueue.accept_history]
    rcases member with old | rfl
    · have present := orderly.settled.kept submission old (notYet _ fresh) unread
      by_cases same : submission.cmd.cid.toNat = cmd.cid.toNat
      · -- the new command would have replaced this one
        rw [same] at present
        refine absurd (.inl ?_) fresh
        rw [CNvmeQueue.accept_replaced, List.mem_append]
        apply Or.inr
        simp [CNvmeQueue.replacedBy, present]
      · rw [Function.update_of_ne same]
        exact present
    · rw [Function.update_self]
  · intro submission member fresh consumed recorded answers
    rw [CNvmeQueue.accept_submitted, List.mem_append, List.mem_singleton] at member
    rcases member with old | rfl
    · exact orderly.settled.completed submission old (notYet _ fresh) consumed recorded answers
    · exact absurd answers (answered consumed recorded)

private theorem settled_consume {loop : CompleteLoop} (running : state.loop = some loop)
    (arrival : newCplArrived (state.nextSlot loop).entry state.queue.phaseTag = true)
    (inTime : NoLateCompletion state .iterate) : Settled (state.queue.consume loop) := by
  have inRange := orderly.steady.conformed.cid_lt orderly.steady.layout loop.cpl
  obtain ⟨submission, member, cid, answers, unread⟩ := orderly.answer running arrival
  have history : state.queue.poppedHistory loop =
      Function.update state.queue.history.history (state.nextSlot loop).entry.cid.toNat none := poppedHistory_of_lt inRange
  have ownSlot : ∀ srbext, state.queue.history.history (state.nextSlot loop).entry.cid.toNat = some srbext →
      (state.nextSlot loop).answers = some srbext.submission := fun _ => orderly.slot_own running arrival inTime
  have host := orderly.steady.layout.host
  refine ⟨?_, ?_, ?_, ?_⟩
  · intro consumed recorded srbext popped
    rw [CNvmeQueue.consume_consumed, List.mem_append, List.mem_singleton] at recorded
    rcases recorded with old | rfl
    · exact orderly.settled.own consumed old srbext popped
    · rw [popped_of_lt inRange] at popped
      exact ownSlot _ popped
  · intro slot srbext holds consumed recorded
    rw [CNvmeQueue.consume_consumed, List.mem_append, List.mem_singleton] at recorded
    rw [CNvmeQueue.consume_history, history] at holds
    by_cases same : slot = (state.nextSlot loop).entry.cid.toNat
    · subst slot
      simp at holds
    · rw [Function.update_of_ne same] at holds
      rcases recorded with old | rfl
      · exact orderly.settled.waiting slot srbext holds consumed old
      · intro equal
        obtain ⟨other, present, rfl, cids⟩ := orderly.held.mem holds
        have identical := host.submission_eq member present (Option.some.inj (answers.symm.trans equal))
        rw [← identical, ← cid] at cids
        exact same cids.symm
  · intro other present fresh notRead
    have unreadOther : ∀ consumed ∈ state.queue.trace.consumed,
        consumed.slot.answers ≠ some other.srbext.submission := by
      intro consumed recorded
      apply notRead
      simp [recorded]
    have notNow : submission.srbext.submission ≠ other.srbext.submission := by
      intro equal
      have last := notRead ⟨state.queue.cplQ loop.cpl, state.queue.popped loop⟩ (by simp)
      exact last (answers.trans (congrArg some equal))
    have waiting := orderly.settled.kept other present fresh unreadOther
    rw [CNvmeQueue.consume_history, history]
    by_cases same : other.cmd.cid.toNat = (state.nextSlot loop).entry.cid.toNat
    · rw [same] at waiting
      exact absurd (Option.some.inj (answers.symm.trans (ownSlot _ waiting))) notNow
    · rw [Function.update_of_ne same]
      exact waiting
  · intro other present fresh consumed recorded same
    rw [CNvmeQueue.consume_consumed, List.mem_append, List.mem_singleton] at recorded
    rcases recorded with old | rfl
    · exact orderly.settled.completed other present fresh consumed old same
    · have identical := host.submission_eq member present (Option.some.inj (answers.symm.trans same))
      subst identical
      rw [popped_of_lt inRange]
      exact (congrArg (fun cid => state.queue.history.history cid.toNat) cid).trans
        (orderly.settled.kept submission member fresh unread)

theorem step {after : System} {event : Event} (conforming : event.conforming = true)
    (room : RoomToSubmit state event) (resets : ResetInReach state event) (submits : SubmitInReach state event)
    (inTime : NoLateCompletion state event) (taken : state.step event = some after) : Orderly after := by
  refine ⟨orderly.steady.step conforming room resets taken, orderly.delivered.step orderly.steady conforming submits taken,
    orderly.held.step orderly.steady.layout taken, ?_⟩
  have settled := orderly.settled
  cases System.step_transition taken with
  | accepted ready safe inside => exact orderly.settled_accept ..
  | refused => exact settled
  | fetched behind => exact settled
  | posted pending => exact ⟨settled.own, settled.waiting, settled.kept, settled.completed⟩
  | entered idle => exact settled
  | iterated running arrival more => exact orderly.settled_consume running arrival inTime
  | @left loop running ended =>
    obtain ⟨cplDbl, doorbell⟩ := state.queue.leaveCompleteCmd_eq loop
    rw [doorbell]
    exact ⟨settled.own, settled.waiting, settled.kept, settled.completed⟩
  | reset idle =>
    rw [orderly.steady.reset]
    have allStale : ∀ submission ∈ state.queue.trace.submitted,
        (state.queue.cleared state.queue.trace.submitted.length).stale submission.srbext.submission := by
      intro submission member
      obtain ⟨number, bounded, rfl⟩ := List.mem_iff_getElem.mp member
      exact .inr (lt_of_eq_of_lt (orderly.steady.layout.host.numbered number bounded) bounded)
    refine ⟨settled.own, ?_, ?_, ?_⟩
    · intro cid srbext holds
      exact absurd holds (by simp [System.cleared, orderly.held.cleared_history])
    · intro submission member fresh
      exact absurd (allStale submission member) fresh
    · intro submission member fresh
      exact absurd (allStale submission member) fresh
  | scribbled => cases conforming

end Orderly

end SpcNvme
