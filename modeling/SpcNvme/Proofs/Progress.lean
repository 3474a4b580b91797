import SpcNvme.Lib.Schedule
import SpcNvme.Proofs.Retention

/-! Every request is answered at some time. In an endless run in which StorPort goes on
calling `HwStartIo`, the controllers go on fetching and answering, and their interrupts
go on being served, no request waits forever, whatever else is submitted meanwhile. -/

namespace SpcNvme

/-! One step of a queue pair, and how far it is from an entry that was posted. -/

namespace System
variable {before after : System} {own : Event}

private theorem step_extends (ofPair : own.ofQueuePair = true) (taken : before.step own = some after) :
    ∃ more, after.device.posted = before.device.posted ++ more := by
  cases step_transition taken with
  | accepted => cases ofPair
  | refused => cases ofPair
  | fetched => exact ⟨[], (List.append_nil _).symm⟩
  | @posted index reply submission => exact ⟨[before.device.answer submission reply], rfl⟩
  | entered => exact ⟨[], (List.append_nil _).symm⟩
  | iterated => exact ⟨[], (List.append_nil _).symm⟩
  | left => exact ⟨[], (List.append_nil _).symm⟩
  | reset => cases ofPair
  | scribbled => cases ofPair

private theorem step_fetched (ofPair : own.ofQueuePair = true) (taken : before.step own = some after) :
    own = .fetch ∧ after.device.fetched = before.device.fetched + 1 ∨
      own ≠ .fetch ∧ after.device.fetched = before.device.fetched := by
  cases step_transition taken with
  | accepted => cases ofPair
  | refused => cases ofPair
  | fetched => exact .inl ⟨rfl, rfl⟩
  | posted => exact .inr ⟨by simp, rfl⟩
  | entered => exact .inr ⟨by simp, rfl⟩
  | iterated => exact .inr ⟨by simp, rfl⟩
  | left => exact .inr ⟨by simp, rfl⟩
  | reset => cases ofPair
  | scribbled => cases ofPair

/-- How far the completion calls are from having moved over a position. -/
def behind (state : System) (position : Nat) : Nat :=
  4 * (position + 1 - state.queue.trace.passed) + CompleteLoop.rank state.loop

end System

def Event.ofCompleteCmd : Event → Bool
  | .enter _ | .iterate | .leave => true
  | _ => false

theorem Traced.arrived {state : System} (traced : Traced state)
    (unread : state.queue.trace.passed < state.device.posted.length) :
    newCplArrived (state.queue.cplQ state.queue.cplHead).entry state.queue.phaseTag = true := by
  have steady := traced.orderly.steady
  have below := Nat.le_of_lt steady.unread
  have next := (steady.flow.ring.arrived_iff state.queue.depth_pos below steady.flow.ahead).mpr unread
  rw [steady.layout.host.cplHead, newCplArrived, steady.layout.host.phaseTag]
  exact beq_iff_eq.mpr next

/-- While an entry is unread every step of a completion call gets closer to it. -/
theorem Traced.approaches {before after : System} {own : Event} {position : Nat} (traced : Traced before)
    (ofPair : own.ofQueuePair = true) (taken : before.step own = some after)
    (unread : before.queue.trace.passed ≤ position) (posted : position < before.device.posted.length) :
    own.ofCompleteCmd = false ∧ after.queue.trace.passed = before.queue.trace.passed ∧ after.loop = before.loop ∨
      after.behind position < before.behind position := by
  have steady := traced.orderly.steady
  cases System.step_transition taken with
  | accepted => cases ofPair
  | refused => cases ofPair
  | fetched => exact .inl ⟨rfl, rfl, rfl⟩
  | posted => exact .inl ⟨rfl, rfl, rfl⟩
  | @entered maxCount idle =>
    apply Or.inr
    have wide := before.queue.depth_pos
    have more : (before.queue.enterCompleteCmd maxCount).updateCount <
        (before.queue.enterCompleteCmd maxCount).maxCount := by
      simp only [CNvmeQueue.enterCompleteCmd]
      split <;> omega
    simp [System.behind, idle, CompleteLoop.rank, more]
  | @iterated loop running arrived more =>
    apply Or.inr
    have rank := CompleteLoop.rank_le (before.iterated loop).loop
    have current : CompleteLoop.rank (some loop) = 1 := if_pos more
    have left : (before.iterated loop).queue.trace.passed = before.queue.trace.passed + 1 := rfl
    simp only [System.behind, running, current, left]
    omega
  | @left loop running ended =>
    apply Or.inr
    -- the entry is there, so the call has had its share
    have arrived := traced.arrived (Nat.lt_of_le_of_lt unread posted)
    rw [← steady.layout.cpl loop running] at arrived
    have share : ¬ loop.updateCount < loop.maxCount := by
      intro more
      simp [CNvmeQueue.loopContinues, arrived, more] at ended
    obtain ⟨cplDbl, doorbell⟩ := before.queue.leaveCompleteCmd_eq loop
    rw [doorbell]
    simp [System.behind, running, CompleteLoop.rank, share]
  | reset => cases ofPair
  | scribbled => cases ofPair

theorem Traced.announced {state : System} {number : Nat} (traced : Traced state)
    (submitted : number < state.queue.trace.submitted.length) (unfetched : state.device.fetched ≤ number) :
    state.device.sqHead ≠ state.queue.subDbl := by
  have steady := traced.orderly.steady
  have room := steady.flow.room
  have counts := steady.flow.counts
  have posted := traced.contiguous.behind
  rw [steady.layout.device.sqHead, steady.layout.host.subDbl]
  exact PhaseRing.slot_ne (by omega) (by omega)

def Controller.Owes (device : Controller) (number : Nat) : Prop :=
  ∃ submission ∈ device.pending, submission.srbext.submission = number

def Controller.Answered (device : Controller) (number position : Nat) : Prop :=
  ∃ slot, device.posted[position]? = some slot ∧ slot.answers = some number

private theorem Traced.owes_or_answered {state : System} {number : Nat} (traced : Traced state)
    (fetched : number < state.device.fetched) :
    state.device.Owes number ∨ ∃ position, state.device.Answered number position := by
  have member : some number ∈ (List.range state.device.fetched).map some :=
    List.mem_map_of_mem (List.mem_range.mpr fetched)
  rw [← traced.orderly.delivered.once.mem_iff, List.mem_append] at member
  rcases member with pending | posted
  · obtain ⟨submission, there, same⟩ := List.mem_map.mp pending
    exact .inl ⟨submission, there, Option.some.inj same⟩
  · obtain ⟨slot, there, same⟩ := List.mem_map.mp posted
    obtain ⟨position, inside, rfl⟩ := List.mem_iff_getElem.mp there
    exact .inr ⟨position, _, List.getElem?_eq_getElem inside, same⟩

theorem Traced.unread {state : System} {cid position : Nat} {srbext : SrbExtPtr} (traced : Traced state)
    (held : state.queue.history.history cid = some srbext) (answered : state.device.Answered srbext.submission position) :
    state.queue.trace.passed ≤ position := by
  obtain ⟨slot, posted, answers⟩ := answered
  apply Nat.le_of_not_lt
  intro passed
  have read : slot ∈ state.queue.trace.consumed.map (·.slot) := by
    rw [traced.contiguous.consumed]
    exact List.mem_of_getElem? (by rw [List.getElem?_take_of_lt passed, posted])
  obtain ⟨consumed, member, rfl⟩ := List.mem_map.mp read
  exact traced.orderly.settled.waiting cid srbext held consumed member answers

/-! The same for a queue pair of the adapter. -/

/-- Two states of a queue pair between which neither side made progress. -/
structure System.SameProgress (first second : System) : Prop where
  passed : first.queue.trace.passed = second.queue.trace.passed
  loop : first.loop = second.loop
  device : first.device = second.device

/-- A step of the adapter is one of the queue pair, or nothing happens to its commands
that are under way. -/
theorem Adapter.step_progress {before after : Adapter} {event : AdapterEvent} {msgid : Nat} {queue : CNvmeQueue}
    (taken : before.step event = some after) (unused : TagUnused (fun _ => True) before event)
    (found : after.host.queue msgid = some queue) :
    ∃ old, before.host.queue msgid = some old ∧
      ((before.queuePair msgid old).SameProgress (after.queuePair msgid queue) ∧
          (∀ own, event = .advance msgid own → own.ofCompleteCmd = false ∧ own ≠ .fetch) ∨
        ∃ own next, event = .advance msgid own ∧ own.ofQueuePair = true ∧
          (before.queuePair msgid old).step own = some next ∧ next.SameProgress (after.queuePair msgid queue)) := by
  by_cases advances : ∃ own, event = .advance msgid own
  · obtain ⟨own, rfl⟩ := advances
    obtain ⟨old, present, ofPair, next, stepped, rfl⟩ := Adapter.step_advance taken
    obtain rfl : next.queue = queue := by
      rw [Adapter.queue_withQueuePair, Function.update_self, Option.some.injEq] at found
      exact found
    refine ⟨old, present, .inr ⟨own, next, rfl, ofPair, stepped, rfl, ?_, ?_⟩⟩
    · simp [Adapter.withQueuePair, Adapter.queuePair]
    · simp [Adapter.withQueuePair, Adapter.queuePair]
  · have elsewhere : ∀ own, event = .advance msgid own → own.ofCompleteCmd = false ∧ own ≠ .fetch :=
      fun own same => absurd ⟨own, same⟩ advances
    cases Adapter.step_pair taken msgid with
    | kept fewer loop device => exact ⟨queue, fewer queue found, .inl ⟨⟨rfl, loop.symm, device.symm⟩, elsewhere⟩⟩
    | @submitted _ _ address old cmd sends present accepts now loop device =>
      obtain rfl : old.accept address cmd = queue := Option.some.inj (now.symm.trans found)
      exact ⟨old, present, .inl ⟨⟨rfl, loop.symm, device.symm⟩, elsewhere⟩⟩
    | reset => exact unused.elim
    | @advanced own => exact absurd ⟨own, rfl⟩ advances

private theorem Adapter.step_fetched {before after : Adapter} {event : AdapterEvent} (taken : before.step event = some after)
    (msgid : Nat) :
    (after.controllers msgid).fetched = (before.controllers msgid).fetched + 1 ∨
      event ≠ .advance msgid .fetch ∧ (after.controllers msgid).fetched = (before.controllers msgid).fetched := by
  by_cases advances : ∃ own, event = .advance msgid own
  · obtain ⟨own, rfl⟩ := advances
    obtain ⟨queue, _, ofPair, next, stepped, rfl⟩ := Adapter.step_advance taken
    have device : (before.withQueuePair msgid next).controllers msgid = next.device := by simp [Adapter.withQueuePair]
    rw [device]
    apply (System.step_fetched ofPair stepped).imp
    · exact fun fetched => fetched.2
    · intro other
      refine ⟨?_, other.2⟩
      intro same
      exact other.1 (AdapterEvent.advance.inj same).2
  · have elsewhere : event ≠ .advance msgid .fetch := fun same => advances ⟨.fetch, same⟩
    cases Adapter.step_pair taken msgid with
    | kept _ _ device => exact .inr ⟨elsewhere, by rw [device]⟩
    | submitted _ _ _ _ _ device => exact .inr ⟨elsewhere, by rw [device]⟩
    | reset _ _ _ device => exact .inr ⟨elsewhere, by rw [device]⟩
    | @advanced own => exact absurd ⟨own, rfl⟩ advances

def Adapter.behind (adapter : Adapter) (msgid position : Nat) : Nat :=
  (adapter.host.queue msgid).elim 0 fun queue => (adapter.queuePair msgid queue).behind position

private theorem Adapter.behind_of_queue {adapter : Adapter} {msgid : Nat} {queue : CNvmeQueue}
    (present : adapter.host.queue msgid = some queue) (position : Nat) :
    adapter.behind msgid position = (adapter.queuePair msgid queue).behind position := by
  simp [Adapter.behind, present]

/-- What the adapter keeps as long as no tag is used twice, the bus is not reset, and
it is not removed with commands in its queues. -/
structure Adapter.Orderly (adapter : Adapter) : Prop where
  sound : adapter.Sound 2
  retains : adapter.Retains
  traced : PairsTraced (fun _ => True) adapter

def OrderlyStep (before : Adapter) (event : AdapterEvent) : Prop :=
  TagUnused (fun _ => True) before event ∧ RemovedIdle before event

theorem Adapter.Orderly.step {before after : Adapter} {event : AdapterEvent} (orderly : before.Orderly)
    (met : OrderlyStep before event) (taken : before.step event = some after) : after.Orderly :=
  ⟨orderly.sound.step (.inl (Nat.le_refl 2)) taken, orderly.retains.step orderly.sound met.2 taken,
    orderly.traced.step met.1 taken⟩

/-- A command in its slot that was answered: it leaves the slot, or nothing happened to
its queue pair, or a completion call got closer to the answer. -/
theorem Adapter.Orderly.approaches {before after : Adapter} {event : AdapterEvent} {msgid cid position : Nat}
    {srbext : SrbExtPtr} (orderly : before.Orderly) (met : OrderlyStep before event)
    (taken : before.step event = some after) (held : before.host.slots msgid cid = some srbext)
    (answered : (before.controllers msgid).Answered srbext.submission position)
    (still : after.host.slots msgid cid = some srbext) :
    (after.controllers msgid).Answered srbext.submission position ∧
      (after.behind msgid position < before.behind msgid position ∨
        after.behind msgid position = before.behind msgid position ∧ after.loops msgid = before.loops msgid ∧
          ∀ own, event = .advance msgid own → own.ofCompleteCmd = false) := by
  obtain ⟨queue, found, _⟩ := Option.bind_eq_some_iff.mp still
  obtain ⟨old, present, progress⟩ := Adapter.step_progress taken met.1 found
  rw [Host.slots_of_queue present] at held
  have traced := orderly.traced msgid old trivial present
  have unread := traced.unread held answered
  obtain ⟨slot, posted, answers⟩ := answered
  have inside : position < (before.controllers msgid).posted.length := (List.getElem?_eq_some_iff.mp posted).1
  rw [Adapter.behind_of_queue found, Adapter.behind_of_queue present]
  rcases progress with ⟨same, elsewhere⟩ | ⟨own, next, rfl, ofPair, stepped, same⟩
  · have device : before.controllers msgid = after.controllers msgid := same.device
    have loop : before.loops msgid = after.loops msgid := same.loop
    refine ⟨⟨slot, device ▸ posted, answers⟩, .inr ⟨?_, loop.symm, fun own is => (elsewhere own is).1⟩⟩
    rw [System.behind, System.behind, same.passed, same.loop]
  · have device : next.device = after.controllers msgid := same.device
    have loop : next.loop = after.loops msgid := same.loop
    have distance : (after.queuePair msgid queue).behind position = next.behind position := by
      rw [System.behind, System.behind, same.passed, same.loop]
    obtain ⟨more, grown⟩ := System.step_extends ofPair stepped
    refine ⟨⟨slot, ?_, answers⟩, ?_⟩
    · rw [← device, grown]
      exact (List.getElem?_append_left inside).trans posted
    · rw [distance]
      rcases traced.approaches ofPair stepped unread inside with ⟨other, passed, sameLoop⟩ | closer
      · refine .inr ⟨?_, loop ▸ sameLoop, ?_⟩
        · rw [System.behind, System.behind, passed, sameLoop]
        · intro event is
          obtain rfl := (AdapterEvent.advance.inj is).2
          exact other
      · exact .inl closer

/-- StorPort, the controllers and the interrupts do their part: what waits for
`HwStartIo` is passed to it; a controller fetches what the doorbell announces and answers
what it fetched, in any order; a new entry at the completion head raises an interrupt
unless a call is running, and a call goes on until it is left. -/
structure Fair (schedule : Machine.Schedule Adapter.step) : Prop where
  starts : ∀ address, schedule.Serves (fun adapter => adapter.waiting address = true)
    fun event => ∃ processor logpage memory, event = .startIo address processor logpage memory
  fetches : ∀ msgid, schedule.Serves
    (fun adapter => ∃ queue, adapter.host.queue msgid = some queue ∧
      (adapter.controllers msgid).sqHead ≠ queue.subDbl)
    fun event => event = .advance msgid .fetch
  answers : ∀ msgid number, schedule.LeadsTo (fun adapter => (adapter.controllers msgid).Owes number)
    fun adapter => ¬ (adapter.controllers msgid).Owes number
  interrupts : ∀ msgid, schedule.Serves
    (fun adapter => adapter.loops msgid = none ∧ ∃ queue, adapter.host.queue msgid = some queue ∧
      newCplArrived (queue.cplQ queue.cplHead).entry queue.phaseTag = true)
    fun event => ∃ maxCount, event = .advance msgid (.enter maxCount)
  calls : ∀ msgid, schedule.Serves
    (fun adapter => (adapter.loops msgid).isSome = true ∧ (adapter.host.queue msgid).isSome = true)
    fun event => event = .advance msgid .iterate ∨ event = .advance msgid .leave

section Schedules
variable {schedule : Machine.Schedule Adapter.step} (fair : Fair schedule)
  (orderly : ∀ time, (schedule.states time).Orderly)
  (met : schedule.Meets OrderlyStep) (msgid cid : Nat) (srbext : SrbExtPtr)

abbrev Adapter.HasCommand (msgid cid : Nat) (srbext : SrbExtPtr) (adapter : Adapter) : Prop :=
  adapter.host.slots msgid cid = some srbext

include fair orderly

private theorem eventually_fetched :
    schedule.LeadsTo
      (fun adapter => adapter.HasCommand msgid cid srbext ∧ (adapter.controllers msgid).fetched ≤ srbext.submission)
      fun adapter => ¬ adapter.HasCommand msgid cid srbext ∨
        srbext.submission < (adapter.controllers msgid).fetched := by
  apply Machine.Schedule.LeadsTo.of_measure fun adapter => srbext.submission + 1 - (adapter.controllers msgid).fetched
  intro bound
  apply (fair.fetches msgid).leadsTo
  · rintro time ⟨⟨held, unfetched⟩, _⟩
    obtain ⟨queue, present, slot⟩ := Option.bind_eq_some_iff.mp held
    have traced := (orderly time).traced msgid queue trivial present
    exact ⟨queue, present, traced.announced (traced.orderly.held.lt slot) unfetched⟩
  · rintro time event ⟨⟨held, unfetched⟩, same⟩ here
    by_cases still : (schedule.states (time + 1)).HasCommand msgid cid srbext
    · rcases Adapter.step_fetched (schedule.stepped here) msgid with fetched | ⟨other, fetched⟩
      · apply Or.inr
        by_cases enough : srbext.submission < ((schedule.states (time + 1)).controllers msgid).fetched
        · exact .inl (.inr enough)
        · exact .inr ⟨⟨still, by omega⟩, by omega⟩
      · exact .inl ⟨⟨⟨still, by omega⟩, by omega⟩, other⟩
    · exact .inr (.inl (.inl still))

omit fair orderly in
private theorem fetched_mono {time later : Nat} (after : time ≤ later) :
    ((schedule.states time).controllers msgid).fetched ≤ ((schedule.states later).controllers msgid).fetched := by
  induction after with
  | refl => exact Nat.le_refl _
  | @step middle after ih =>
    refine Nat.le_trans ih ?_
    cases here : schedule.events middle with
    | none => exact (schedule.unchanged here).symm ▸ Nat.le_refl _
    | some event =>
      rcases Adapter.step_fetched (schedule.stepped here) msgid with fetched | ⟨_, fetched⟩
      · exact fetched ▸ Nat.le_succ _
      · exact fetched ▸ Nat.le_refl _

private theorem eventually_answered :
    schedule.LeadsTo
      (fun adapter => adapter.HasCommand msgid cid srbext ∧ srbext.submission < (adapter.controllers msgid).fetched)
      fun adapter => ¬ adapter.HasCommand msgid cid srbext ∨
        ∃ position, adapter.HasCommand msgid cid srbext ∧ (adapter.controllers msgid).Answered srbext.submission position := by
  rintro time ⟨held, fetched⟩
  have reached : ∃ later, time ≤ later ∧ ¬ ((schedule.states later).controllers msgid).Owes srbext.submission := by
    by_cases owes : ((schedule.states time).controllers msgid).Owes srbext.submission
    · exact fair.answers msgid srbext.submission time owes
    · exact ⟨time, Nat.le_refl time, owes⟩
  obtain ⟨later, after, done⟩ := reached
  refine ⟨later, after, ?_⟩
  by_cases still : (schedule.states later).HasCommand msgid cid srbext
  · obtain ⟨queue, present, _⟩ := Option.bind_eq_some_iff.mp still
    have traced := (orderly later).traced msgid queue trivial present
    have mono := @fetched_mono schedule msgid _ _ after
    obtain ⟨position, answered⟩ := (traced.owes_or_answered (Nat.lt_of_lt_of_le fetched mono)).resolve_left done
    exact .inr ⟨position, still, answered⟩
  · exact .inl still

abbrev Adapter.HasAnswer (msgid cid : Nat) (srbext : SrbExtPtr) (position : Nat) (adapter : Adapter) : Prop :=
  adapter.HasCommand msgid cid srbext ∧ (adapter.controllers msgid).Answered srbext.submission position

include met

omit fair in
private theorem eventually_closer {awaits : Adapter → Prop} {serves : AdapterEvent → Prop} (phase : Option CompleteLoop → Prop)
    (served : schedule.Serves awaits serves) {position : Nat}
    (waits : ∀ adapter : Adapter, adapter.Orderly → adapter.HasAnswer msgid cid srbext position →
      phase (adapter.loops msgid) → awaits adapter)
    (calls : ∀ event, serves event → ∃ own, event = .advance msgid own ∧ own.ofCompleteCmd = true) (bound : Nat) :
    schedule.LeadsTo
      (fun adapter => (adapter.HasAnswer msgid cid srbext position ∧ adapter.behind msgid position = bound) ∧
        phase (adapter.loops msgid))
      fun adapter => ¬ adapter.HasCommand msgid cid srbext ∨
        adapter.HasAnswer msgid cid srbext position ∧ adapter.behind msgid position < bound := by
  apply served.leadsTo
  · rintro time ⟨⟨answer, _⟩, turn⟩
    exact waits _ (orderly time) answer turn
  · rintro time event ⟨⟨⟨held, answered⟩, same⟩, turn⟩ here
    by_cases still : (schedule.states (time + 1)).HasCommand msgid cid srbext
    · obtain ⟨remains, closer | ⟨distance, loops, other⟩⟩ :=
        (orderly time).approaches (met time event here) (schedule.stepped here) held answered still
      · exact .inr (.inr ⟨⟨still, remains⟩, same ▸ closer⟩)
      · refine .inl ⟨⟨⟨⟨still, remains⟩, distance.trans same⟩, loops ▸ turn⟩, ?_⟩
        intro serving
        obtain ⟨own, is, call⟩ := calls _ serving
        exact absurd ((other own is).symm.trans call) (by simp)
    · exact .inr (.inl still)

private theorem eventually_read (position : Nat) :
    schedule.LeadsTo (fun adapter => adapter.HasAnswer msgid cid srbext position)
      fun adapter => ¬ adapter.HasCommand msgid cid srbext := by
  apply Machine.Schedule.LeadsTo.of_measure fun adapter => adapter.behind msgid position
  rintro bound time ⟨answer, same⟩
  cases running : (schedule.states time).loops msgid with
  | none =>
    refine eventually_closer orderly met msgid cid srbext (fun loop => loop = none) (fair.interrupts msgid) ?_ ?_ bound time
      ⟨⟨answer, same⟩, running⟩
    · rintro adapter kept ⟨held, answered⟩ idle
      obtain ⟨queue, present, slot⟩ := Option.bind_eq_some_iff.mp held
      have traced := kept.traced msgid queue trivial present
      have unread := traced.unread slot answered
      obtain ⟨_, posted, _⟩ := answered
      have inside := (List.getElem?_eq_some_iff.mp posted).1
      exact ⟨idle, queue, present, traced.arrived (Nat.lt_of_le_of_lt unread inside)⟩
    · rintro event ⟨maxCount, rfl⟩
      exact ⟨.enter maxCount, rfl, rfl⟩
  | some loop =>
    refine eventually_closer orderly met msgid cid srbext (fun loop => loop.isSome = true) (fair.calls msgid) ?_ ?_ bound time
      ⟨⟨answer, same⟩, by simp [running]⟩
    · rintro adapter _ ⟨held, _⟩ turn
      obtain ⟨queue, present, _⟩ := Option.bind_eq_some_iff.mp held
      exact ⟨turn, by simp [present]⟩
    · rintro event (rfl | rfl)
      · exact ⟨.iterate, rfl, rfl⟩
      · exact ⟨.leave, rfl, rfl⟩

/-- A command does not stay in its slot forever. -/
theorem eventually_completed :
    schedule.LeadsTo (fun adapter => adapter.HasCommand msgid cid srbext)
      fun adapter => ¬ adapter.HasCommand msgid cid srbext := by
  have read : schedule.LeadsTo
      (fun adapter => ∃ position, adapter.HasAnswer msgid cid srbext position)
      fun adapter => ¬ adapter.HasCommand msgid cid srbext := by
    rintro time ⟨position, answer⟩
    exact eventually_read fair orderly met msgid cid srbext position time answer
  have answered : schedule.LeadsTo
      (fun adapter => adapter.HasCommand msgid cid srbext ∧ srbext.submission < (adapter.controllers msgid).fetched)
      fun adapter => ¬ adapter.HasCommand msgid cid srbext :=
    (eventually_answered fair orderly msgid cid srbext).trans (.cases (.of_imp fun _ gone => gone) read)
  intro time held
  have fetched : ∃ later, time ≤ later ∧ (¬ (schedule.states later).HasCommand msgid cid srbext ∨
      srbext.submission < ((schedule.states later).controllers msgid).fetched) := by
    by_cases enough : srbext.submission < ((schedule.states time).controllers msgid).fetched
    · exact ⟨time, Nat.le_refl time, .inr enough⟩
    · exact eventually_fetched fair orderly msgid cid srbext time ⟨held, Nat.le_of_not_lt enough⟩
  obtain ⟨middle, after, reached⟩ := fetched
  by_cases still : (schedule.states middle).HasCommand msgid cid srbext
  · obtain ⟨later, beyond, gone⟩ := answered middle ⟨still, reached.resolve_left (not_not_intro still)⟩
    exact ⟨later, Nat.le_trans after beyond, gone⟩
  · exact ⟨middle, after, still⟩

private theorem eventually_done {time : Nat} (held : (schedule.states time).HasCommand msgid cid srbext) :
    ∃ later, time ≤ later ∧ ¬ Outstanding (schedule.states later).host.heap srbext.address := by
  obtain ⟨last, event, after, here, still, gone⟩ := (eventually_completed fair orderly met msgid cid srbext).last held
  have kept := (orderly last).sound.slot_held (met last event here).2 (schedule.stepped here) still
  exact ⟨last + 1, Nat.le_succ_of_le after, kept.resolve_left gone⟩

omit met in
/-- What waits for `HwStartIo` gets a command into a queue, or is answered. -/
theorem eventually_started (address : Nat) :
    schedule.LeadsTo (fun adapter => adapter.waiting address = true)
      fun adapter => (∃ msgid cid number, adapter.HasCommand msgid cid ⟨address, number⟩) ∨
        ¬ Outstanding adapter.host.heap address := by
  apply (fair.starts address).leadsTo
  · exact fun _ waits => waits
  · intro time event waits here
    rcases (orderly time).sound.waiting_held (schedule.stepped here) waits with ⟨place, held⟩ | done
    · cases place with
      | startIo =>
        refine .inl ⟨held, ?_⟩
        rintro ⟨processor, logpage, memory, rfl⟩
        have taken := schedule.stepped here
        obtain ⟨_, host, _, same⟩ := Adapter.step_startIo taken
        rw [← same] at held
        simp [Holds] at held
      | slot msgid cid =>
        obtain ⟨⟨_, number⟩, there, rfl⟩ := Option.map_eq_some_iff.mp held
        exact .inr (.inl ⟨msgid, cid, number, there⟩)
    · exact .inr (.inr done)

end Schedules

/-- Every request is answered at some time: in a fair schedule in which no tag is used
twice at a time, the bus is not reset, and the adapter is not removed with commands in
its queues, nobody waits for an extension forever. -/
theorem every_request_answered {device : CNvmeDevice} {admConfig : Option QueuePairConfig}
    {ioConfig : Nat → Option QueuePairConfig} {srbext : Nat → SrbExt} {slotCount : BitVec 3}
    (deep : ∀ msgid config, (if msgid = 0 then admConfig else ioConfig (msgid - 1)) = some config →
      safeSubmitThreshold < config.depth)
    {schedule : Machine.Schedule Adapter.step}
    (initial : schedule.states 0 = .initial device admConfig ioConfig srbext slotCount)
    (met : schedule.Meets OrderlyStep) (fair : Fair schedule) (address time : Nat) (waits : Outstanding (schedule.states time).host.heap address) :
    ∃ later, time ≤ later ∧ ¬ Outstanding (schedule.states later).host.heap address := by
  have start : (schedule.states 0).Orderly := by
    rw [initial]
    exact ⟨.initial _ _ _ _ _ (by omega), Adapter.Retains.initial device admConfig ioConfig srbext slotCount,
      .initial fun msgid config _ => deep msgid config⟩
  have orderly := schedule.invariant (fun _ _ _ kept allowed taken => kept.step allowed taken) met start
  obtain ⟨place, held⟩ := (orderly time).retains address waits
  cases place with
  | slot msgid cid =>
    obtain ⟨pointer, there, rfl⟩ := Option.map_eq_some_iff.mp held
    exact eventually_done fair orderly met msgid cid pointer there
  | startIo =>
    obtain ⟨middle, after, ⟨msgid, cid, number, there⟩ | done⟩ := eventually_started fair orderly address time held
    · obtain ⟨later, beyond, answered⟩ := eventually_done fair orderly met msgid cid ⟨address, number⟩ there
      exact ⟨later, Nat.le_trans after beyond, answered⟩
    · exact ⟨middle, after, done⟩

structure Adapter.AtRest (adapter : Adapter) : Prop where
  waiting : ∀ address, adapter.waiting address = false
  fetched : ∀ msgid queue, adapter.host.queue msgid = some queue → (adapter.controllers msgid).sqHead = queue.subDbl
  pending : ∀ msgid, (adapter.controllers msgid).pending = []
  read : ∀ msgid queue, adapter.host.queue msgid = some queue →
    newCplArrived (queue.cplQ queue.cplHead).entry queue.phaseTag = false
  loops : ∀ msgid queue, adapter.host.queue msgid = some queue → adapter.loops msgid = none

theorem Adapter.AtRest.fair {start final : Adapter} {events : List AdapterEvent} (rest : final.AtRest)
    {ran : Machine.run Adapter.step start events = some final} : Fair (.ending ran) := by
  refine ⟨?_, ?_, ?_, ?_, ?_⟩
  · intro address
    apply Machine.Schedule.ending_serves
    simp [rest.waiting address]
  · intro msgid
    apply Machine.Schedule.ending_serves
    rintro ⟨queue, present, behind⟩
    exact behind (rest.fetched msgid queue present)
  · intro msgid number
    apply Machine.Schedule.ending_leadsTo
    rintro ⟨submission, member, _⟩
    rw [rest.pending msgid] at member
    cases member
  · intro msgid
    apply Machine.Schedule.ending_serves
    rintro ⟨_, queue, present, arrived⟩
    exact absurd ((rest.read msgid queue present).symm.trans arrived) (by simp)
  · intro msgid
    apply Machine.Schedule.ending_serves
    rintro ⟨running, present⟩
    obtain ⟨queue, there⟩ := Option.isSome_iff_exists.mp present
    simp [rest.loops msgid queue there] at running

def sampleServed : List AdapterEvent := sampleFirmwareRequest ++ [.advance 0 .leave]

structure SampleAlone (adapter : Adapter) : Prop where
  waiting : ∀ address, address ≠ 0 → adapter.waiting address = false
  queues : ∀ msgid, msgid ≠ 0 → adapter.host.queue msgid = none
  pending : ∀ msgid, msgid ≠ 0 → (adapter.controllers msgid).pending = []

theorem SampleAlone.step {before after : Adapter} {event : AdapterEvent} (alone : SampleAlone before)
    (member : event ∈ sampleServed) (taken : before.step event = some after) : SampleAlone after := by
  refine ⟨?_, ?_, ?_⟩
  · intro address other
    apply Bool.eq_false_of_not_eq_true
    intro waits
    rcases Adapter.step_waiting taken waits with before | ⟨srb, rfl⟩
    · rw [alone.waiting address other] at before
      cases before
    · simp [sampleServed, sampleFirmwareRequest] at member
      omega
  · intro msgid other
    cases found : after.host.queue msgid with
    | none => rfl
    | some queue =>
      have present := Adapter.step_present taken (found ▸ rfl : (after.host.queue msgid).isSome = true)
      rw [alone.queues msgid other] at present
      cases present
  · intro msgid other
    cases Adapter.step_pair taken msgid with
    | kept _ _ device => rw [device, alone.pending msgid other]
    | submitted _ present => exact absurd (present.symm.trans (alone.queues msgid other)) (by simp)
    | reset present => exact absurd (present.symm.trans (alone.queues msgid other)) (by simp)
    | advanced present => exact absurd (present.symm.trans (alone.queues msgid other)) (by simp)

theorem SampleAlone.initial : SampleAlone sampleAdapter where
  waiting _ _ := rfl
  queues msgid other := by simp [sampleAdapter, Adapter.initial, Host.queue, other]
  pending _ _ := rfl

def sampleStartFree (adapter : Adapter) : AdapterEvent → Bool
  | .startIo address .. => (adapter.host.slots 0 (adapter.host.heap.srbext address).cid.toNat).isNone
  | .resetBus | .command .. => false
  | event => !event.removesQueues

theorem SampleAlone.orderlyStep {adapter : Adapter} {event : AdapterEvent} (alone : SampleAlone adapter)
    (free : sampleStartFree adapter event = true) : OrderlyStep adapter event := by
  cases event with
  | startIo address processor logpage memory =>
    refine ⟨?_, by simp [RemovedIdle, AdapterEvent.removesQueues]⟩
    intro msgid queue _ present
    by_cases admin : msgid = 0
    · subst admin
      simpa [sampleStartFree, Host.slots_of_queue present] using free
    · rw [alone.queues msgid admin] at present
      cases present
  | resetBus => cases free
  | command => cases free
  | surpriseRemoval => cases free
  | buildIo =>
    refine ⟨trivial, ?_⟩
    intro removes
    simp [sampleStartFree, removes] at free
  | advance => exact ⟨trivial, by simp [RemovedIdle, AdapterEvent.removesQueues]⟩

def sampleQuietEnd (adapter : Adapter) : Bool :=
  !adapter.waiting 0 && (adapter.controllers 0).pending.isEmpty && (adapter.loops 0).isNone &&
    (adapter.host.queue 0).any fun queue =>
      (adapter.controllers 0).sqHead == queue.subDbl && !newCplArrived (queue.cplQ queue.cplHead).entry queue.phaseTag

private theorem sampleServed_ends :
    Machine.Meets Adapter.step (fun adapter event => sampleStartFree adapter event = true) sampleAdapter sampleServed ∧
      ∃ final, Machine.run Adapter.step sampleAdapter sampleServed = some final ∧ sampleQuietEnd final = true := by
  have checked : Machine.Meets Adapter.step (fun adapter event => sampleStartFree adapter event = true) sampleAdapter
      sampleServed ∧ (Machine.run Adapter.step sampleAdapter sampleServed).any sampleQuietEnd = true := by decide +kernel
  exact ⟨checked.1, (Option.any_eq_true ..).mp checked.2⟩

theorem SampleAlone.atRest {adapter : Adapter} (alone : SampleAlone adapter) (quiet : sampleQuietEnd adapter = true) :
    adapter.AtRest := by
  simp only [sampleQuietEnd, Bool.and_eq_true, Bool.not_eq_true', Option.any_eq_true, List.isEmpty_iff, beq_iff_eq,
    Option.isNone_iff_eq_none] at quiet
  obtain ⟨⟨⟨waiting, pending⟩, loop⟩, queue, present, fetched, read⟩ := quiet
  have only : ∀ msgid found, adapter.host.queue msgid = some found → msgid = 0 ∧ found = queue := by
    intro msgid found there
    by_cases admin : msgid = 0
    · subst admin
      exact ⟨rfl, Option.some.inj (there.symm.trans present)⟩
    · exact absurd (there.symm.trans (alone.queues msgid admin)) (by simp)
  refine ⟨?_, ?_, ?_, ?_, ?_⟩
  · intro address
    by_cases first : address = 0
    · rw [first, waiting]
    · exact alone.waiting address first
  · intro msgid found there
    obtain ⟨rfl, rfl⟩ := only msgid found there
    exact fetched
  · intro msgid
    by_cases admin : msgid = 0
    · rw [admin, pending]
    · exact alone.pending msgid admin
  · intro msgid found there
    obtain ⟨rfl, rfl⟩ := only msgid found there
    exact read
  · intro msgid found there
    obtain ⟨rfl, rfl⟩ := only msgid found there
    exact loop

/-- The firmware request is in the admin queue at time 2. -/
theorem every_request_answered_served : ∃ schedule : Machine.Schedule Adapter.step,
    Outstanding (schedule.states 2).host.heap 0 ∧
      ∃ later, 2 ≤ later ∧ ¬ Outstanding (schedule.states later).host.heap 0 := by
  obtain ⟨checked, final, ran, quiet⟩ := sampleServed_ends
  let schedule := Machine.Schedule.ending ran
  have members : Machine.Meets Adapter.step (fun _ event => event ∈ sampleServed) sampleAdapter sampleServed :=
    .of_forall (fun _ member _ => member) sampleAdapter
  have kept : ∀ before event after, SampleAlone before →
      event ∈ sampleServed ∧ sampleStartFree before event = true → Adapter.step before event = some after →
      SampleAlone after := fun _ _ _ alone allowed taken => alone.step allowed.1 taken
  have alone := Machine.run_invariant kept .initial (members.and checked) ran
  have met : Machine.Meets Adapter.step OrderlyStep sampleAdapter sampleServed :=
    .of_invariant kept (fun _ _ here allowed => here.orderlyStep allowed.2) .initial (members.and checked)
  have waits : Outstanding (schedule.states 2).host.heap 0 := by
    have observed : (Machine.run Adapter.step sampleAdapter (sampleServed.take 2)).map (fun adapter =>
        ((adapter.host.heap.srbext 0).initOK, (adapter.host.heap.srbext 0).notified,
          (adapter.host.heap.srbext 0).srb.isSome)) = some (true, 0, true) := by decide +kernel
    obtain ⟨middle, before, seen⟩ := Option.map_eq_some_iff.mp observed
    have here : schedule.states 2 = middle := by simp [schedule, Machine.Schedule.ending, before]
    simp only [Prod.mk.injEq] at seen
    rw [here]
    refine ⟨seen.1, seen.2.1, ?_⟩
    intro missing
    simp [missing] at seen
  have deep : ∀ msgid config, (if msgid = 0 then some sampleQueue else none) = some config →
      safeSubmitThreshold < config.depth := by
    intro msgid config configured
    split at configured
    · cases configured
      decide
    · cases configured
  exact ⟨schedule, waits, every_request_answered deep Machine.Schedule.ending_initial
    (Machine.Schedule.ending_meets met) (alone.atRest quiet).fair 0 2 waits⟩

end SpcNvme
