import SpcNvme.Proofs.ExactlyOnce
import SpcNvme.Proofs.Linearization

/-! What the users of a queue can rely on while several processors are in it: every
command that got past its push is completed once, with the entry posted for it. -/

namespace SpcNvme

/-- Commands that are outstanding at the same time have different identifiers if none is replaced. -/
theorem Traced.distinct {state : System} (traced : Traced state) : DistinctOutstanding state := by
  intro first member second also waiting unanswered same
  have settled := traced.orderly.settled
  have one := settled.kept first member (traced.fresh _) (System.answered_eq_false.mp waiting)
  have two := settled.kept second also (traced.fresh _) (System.answered_eq_false.mp unanswered)
  rw [same, two] at one
  apply traced.orderly.steady.layout.host.submission_eq member also
  rw [Option.some.inj one]

private theorem CNvmeQueue.setSubIndex_completesItself (queue : CNvmeQueue) (heap : Heap) (written address : Nat) :
    ((queue.setSubIndex heap written).srbext address).completesItself = (heap.srbext address).completesItself := by
  by_cases here : address = written
  · subst written
    rw [setSubIndex, Heap.put_srbext, Function.update_self]
    rfl
  · rw [setSubIndex, Heap.put_srbext, Function.update_of_ne here]

private theorem SubLock.finishHeap_completesItself (lock : SubLock) (queue : CNvmeQueue) (heap : Heap) (address : Nat) :
    ((lock.finishHeap queue heap).srbext address).completesItself = (heap.srbext address).completesItself := by
  cases lock with
  | write srbext cmd => exact queue.setSubIndex_completesItself heap srbext.address address
  | _ => rfl

namespace SharedQueue
variable {state : SharedQueue} {processor : Nat} {call : CompleteCall}

private theorem completerStep_other {other : Nat} (apart : call.pc.extension ≠ some other) :
    (state.completerStep processor call).heap.srbext other = state.heap.srbext other := by
  obtain ⟨loop, pc⟩ := call
  cases pc with
  | test =>
    simp only [completerStep]
    split <;> rfl
  | pop cid => rfl
  | copy srbext =>
    have elsewhere : other ≠ srbext.address := fun same => apart (congrArg some same.symm)
    exact Function.update_of_ne elsewhere ..
  | callback srbext =>
    have elsewhere : other ≠ srbext.address := fun same => apart (congrArg some same.symm)
    exact (Heap.acts_runCompletionCB srbext.address (some srbext.submission)).elsewhere elsewhere
  | status srbext => rfl
  | complete srbext pc status =>
    have elsewhere : other ≠ srbext.address := fun same => apart (congrArg some same.symm)
    cases pc with
    | store => exact (Heap.acts_storeSrbStatus srbext status).elsewhere elsewhere
    | test => rfl
    | notify => exact (Heap.acts_notifySrb srbext.address status).elsewhere elsewhere
  | cleanUp srbext =>
    have elsewhere : other ≠ srbext.address := fun same => apart (congrArg some same.symm)
    exact Function.update_of_ne elsewhere ..
  | decrement => rfl
  | advance => rfl

private theorem completerStep_history {cid : Nat} {srbext : SrbExtPtr}
    (held : (state.completerStep processor call).queue.history.history cid = some srbext) :
    state.queue.history.history cid = some srbext := by
  obtain ⟨loop, pc⟩ := call
  cases pc with
  | test =>
    simp only [completerStep] at held
    split at held
    · exact held
    · obtain ⟨cplDbl, doorbell⟩ := state.queue.leaveCompleteCmd_eq loop
      rw [doorbell] at held
      exact held
  | pop id =>
    rcases state.queue.history.pop_cases id.toNat loop.srbext with ⟨_, same⟩ | ⟨_, status, same⟩
    · simp only [completerStep, same] at held
      exact held
    · simp only [completerStep, same] at held
      exact Accountable.mem_of_emptied held
  | _ => exact held

end SharedQueue

namespace SharedSystem

def PlainPush (state : SharedSystem) : SharedSystemEvent → Prop
  | .host .holder => ∀ address ∈ state.shared.subLock.pushes, (state.shared.heap.srbext address).completesItself = false
  | _ => True

instance (state : SharedSystem) : DecidablePred state.PlainPush
  | .host .holder => inferInstanceAs (Decidable (∀ address ∈ state.shared.subLock.pushes, _))
  | .host (.prepare ..) | .host (.submit ..) | .host .reset | .host (.enter ..) | .host (.completer _)
  | .host (.scribble ..) | .fetch | .post .. => isTrue trivial

def Plain (state : SharedSystem) : Prop :=
  ∀ cid srbext, state.shared.queue.history.history cid = some srbext →
    (state.shared.heap.srbext srbext.address).completesItself = false

theorem Plain.holder {before : SharedSystem} {after : SharedQueue} {system : System} (plain : Plain before)
    (linearizes : Linearizes before system) (pushes : before.PlainPush (.host .holder))
    (taken : before.shared.step .holder = some after) :
    ∀ cid srbext, after.queue.history.history cid = some srbext →
      (after.heap.srbext srbext.address).completesItself = false := by
  obtain ⟨⟨queue, heap, lock, processors, calls⟩, device, drafts⟩ := before
  cases lock with
  | free => cases taken
  | push pushed cmd =>
    by_cases outside : queue.history.depth ≤ cmd.cid.toNat
    · obtain rfl := Option.some.inj (taken.symm.trans (SharedQueue.push_outside outside))
      exact plain
    · have unfilled : queue.history.history cmd.cid.toNat = none := linearizes.holding.2.1
      obtain rfl := Option.some.inj (taken.symm.trans (SharedQueue.push_free (Nat.lt_of_not_le outside) unfilled))
      intro cid srbext held
      by_cases here : cid = cmd.cid.toNat
      · rw [here] at held
        obtain rfl : pushed = srbext := by
          simpa [SharedQueue.pushed] using held
        exact pushes pushed.address rfl
      · exact plain cid srbext ((Function.update_of_ne here ..).symm.trans held)
  | write written cmd =>
    obtain rfl := Option.some.inj taken
    intro cid srbext held
    rw [CNvmeQueue.setSubIndex_completesItself]
    exact plain cid srbext held
  | count written cmd =>
    obtain rfl := Option.some.inj taken
    exact plain
  | ring =>
    obtain rfl := Option.some.inj taken
    exact plain
  | _ => exact linearizes.holding.elim

theorem Plain.step {before after : SharedSystem} {system : System} {event : SharedSystemEvent} (plain : Plain before)
    (linearizes : Linearizes before system) (cooperative : before.Cooperative event) (pushes : before.PlainPush event)
    (taken : before.step event = some after) : Plain after := by
  cases event with
  | fetch =>
    simp only [SharedSystem.step] at taken
    split at taken
    · cases taken
    · cases taken
      exact plain
  | post index reply =>
    obtain ⟨submission, _, rfl⟩ := Option.map_eq_some_iff.mp taken
    exact plain
  | host event =>
    obtain ⟨shared, moved, rfl⟩ := Option.map_eq_some_iff.mp taken
    cases event with
    | prepare address record =>
      cases moved
      intro cid srbext held
      have apart : srbext.address ≠ address := by
        intro same
        exact linearizes.unused cooperative (.slot cid) (same ▸ SharedQueue.occupies_slot held)
      rw [Heap.put_srbext, Function.update_of_ne apart]
      exact plain cid srbext held
    | submit address cmd =>
      obtain ⟨⟨queue, heap, lock, processors, calls⟩, device, drafts⟩ := before
      obtain ⟨rfl, rfl | ⟨_, _, rfl⟩⟩ := SharedQueue.submit_step moved
      · exact plain
      · exact plain
    | reset => exact cooperative.elim
    | scribble slot written => exact cooperative.elim
    | enter processor maxCount =>
      obtain ⟨_, _, rfl⟩ := SharedQueue.enter_step moved
      exact plain
    | holder => exact plain.holder linearizes pushes moved
    | completer processor =>
      obtain ⟨call, busy, rfl⟩ := Option.map_eq_some_iff.mp moved
      intro cid srbext held
      have present := SharedQueue.completerStep_history held
      rw [SharedQueue.completerStep_other]
      · exact plain cid srbext present
      · intro own
        have called : before.shared.occupies (.call processor) srbext.address := by
          rw [SharedQueue.occupies, busy]
          exact own
        cases linearizes.custody.exclusive called (SharedQueue.occupies_slot present)

theorem Linearizes.quiet {state : SharedSystem} {system : System} {processor : Nat} {loop : CompleteLoop}
    (linearizes : Linearizes state system) (plain : Plain state)
    (busy : state.shared.calls processor = some ⟨loop, .test⟩) : QuietCallbacks system .iterate := by
  intro _ _ srbext held
  have present := linearizes.history_kept held
  have clean := linearizes.clean (.slot _) srbext.address (SharedQueue.occupies_slot present) (by simp)
  have same := linearizes.finishes.heap.cell srbext.address (fun drafted => absurd (clean.symm.trans drafted) (by simp))
  rw [linearizes.single.finishHeap_busy busy] at same
  have record : system.heap.srbext srbext.address =
      (state.shared.subLock.finishHeap state.shared.queue state.shared.heap).srbext srbext.address := same
  rw [record, SubLock.finishHeap_completesItself]
  exact plain _ srbext present

/-- A step takes effect at most once, and what it stands for completes commands once. -/
theorem effect_cases {state : SharedSystem} {system : System} {event : SharedSystemEvent}
    (linearizes : Linearizes state system) (plain : Plain state) (cooperative : state.Cooperative event) :
    state.effect event = [] ∨
    ∃ single, state.effect event = [single] ∧ Unreset single ∧ QuietCallbacks system single := by
  cases event with
  | fetch => exact .inr ⟨.fetch, rfl, ⟨rfl, rfl⟩, trivial⟩
  | post index reply => exact .inr ⟨.post index reply, rfl, ⟨rfl, rfl⟩, trivial⟩
  | host event =>
    cases event with
    | prepare address record => exact .inl rfl
    | submit address cmd => exact .inl rfl
    | reset => exact cooperative.elim
    | scribble slot written => exact cooperative.elim
    | enter processor maxCount => exact .inr ⟨.enter maxCount, rfl, ⟨rfl, rfl⟩, trivial⟩
    | holder =>
      simp only [effect]
      cases state.shared.subLock with
      | push srbext cmd => exact .inr ⟨_, rfl, ⟨rfl, rfl⟩, trivial⟩
      | _ => exact .inl rfl
    | completer processor =>
      simp only [effect]
      cases busy : state.shared.calls processor with
      | none => exact .inl rfl
      | some call =>
        obtain ⟨loop, pc⟩ := call
        cases pc with
        | test =>
          simp only [Option.elim_some, callEffect]
          split
          · exact .inr ⟨.iterate, rfl, ⟨rfl, rfl⟩, linearizes.quiet plain busy⟩
          · exact .inr ⟨.leave, rfl, ⟨rfl, rfl⟩, trivial⟩
        | _ => exact .inl rfl

/-- What holds between the shared queue and a queue pair that completes every command once. -/
structure Completes (state : SharedSystem) (system : System) : Prop where
  linearizes : Linearizes state system
  plain : Plain state
  exact : Exact system

theorem Completes.follows :
    Machine.Follows SharedSystem.step System.step effect (fun state event => state.Cooperative event ∧ state.PlainPush event)
      Completes where
  matched := by
    intro before after system event completes allowed taken
    obtain ⟨linearizes, plain, exact⟩ := completes
    obtain ⟨cooperative, pushes⟩ := allowed
    obtain ⟨next, moved, kept⟩ := Linearizes.follows.matched linearizes cooperative taken
    refine ⟨next, moved, kept, plain.step linearizes cooperative pushes taken, ?_⟩
    rcases effect_cases linearizes plain cooperative with silent | ⟨single, stands, unreset, quiet⟩
    · rw [silent] at moved
      obtain rfl : system = next := Option.some.inj moved
      exact exact
    · rw [stands] at moved
      obtain ⟨middle, stepped, ended⟩ := Machine.run_cons_some moved
      obtain rfl : middle = next := Option.some.inj ended
      have traced := linearizes.traced
      have room := traced.throttled.roomToSubmit traced.orderly.steady.counted single
      exact exact.step unreset room kept.traced.distinct quiet stepped

structure Idle (state : SharedSystem) : Prop where
  unlocked : state.shared.subLock = .free
  returned : ∀ processor < state.shared.processors, state.shared.calls processor = none

def atRest (state : SharedSystem) : System := ⟨state.shared.queue, none, state.device, state.shared.heap⟩

/-- However the steps of the calls are interleaved, once they have all returned the
entries were read in the order they were posted, and every command that was accepted has
been completed once if its entry was read and not at all otherwise. -/
theorem shared_exactly_once {config : QueuePairConfig} (deep : safeSubmitThreshold < config.depth) {srbext : Nat → SrbExt}
    {slotCount : BitVec 3} {processors : Nat} {events : List SharedSystemEvent} {final : SharedSystem}
    (allowed : Machine.Meets SharedSystem.step (fun state event => state.Cooperative event ∧ state.PlainPush event)
      (.initial config srbext slotCount processors) events)
    (ran : Machine.run SharedSystem.step (.initial config srbext slotCount processors) events = some final)
    (idle : final.Idle) : ExactlyOnce final.atRest := by
  have start : Completes (.initial config srbext slotCount processors) (.initial config srbext slotCount) :=
    ⟨.initial deep srbext slotCount processors, fun _ _ held => (by cases held), .initial config srbext slotCount⟩
  obtain ⟨state, _, linearizes, _, exact⟩ := Completes.follows.run start allowed ran
  obtain ⟨inOrder, once, entry, history⟩ := exact.exactlyOnce
  have free : ∀ processor, final.shared.calls processor = none := by
    intro processor
    apply Option.not_isSome_iff_eq_none.mp
    intro busy
    rw [idle.returned processor (linearizes.single.inside busy)] at busy
    cases busy
  have queue : state.queue = final.atRest.queue := by
    rw [linearizes.finishes.queue, SharedQueue.Single.finish_idle free, idle.unlocked]
    rfl
  have log : state.heap.completions = final.atRest.heap.completions := by
    have rest := congrArg Prod.snd linearizes.finishes.heap.rest
    rw [SharedQueue.Single.finishHeap_idle free, idle.unlocked] at rest
    exact rest
  have device : state.device = final.atRest.device := linearizes.finishes.device
  have answered : ∀ number, state.answered number = final.atRest.answered number := by
    intro number
    rw [System.answered, queue]
    rfl
  refine ⟨?_, ?_, ?_, ?_⟩
  · rw [queue, device] at inOrder
    exact inOrder
  · intro submission member
    have settled := once submission (queue ▸ member)
    rw [answered, Heap.settled, log] at settled
    exact settled
  · intro completion recorded number own
    obtain ⟨submission, member, same, slot, posted, answers⟩ := entry completion (log ▸ recorded) number own
    exact ⟨submission, queue ▸ member, same, slot, device ▸ posted, answers⟩
  · intro cid srbext
    have held := history cid srbext
    rw [queue, answered] at held
    exact held

def sampleReturned : List SharedSystemEvent :=
  sampleConcurrent ++ List.replicate 15 (.host (.completer 1)) ++ [.host (.enter 0 0), .host (.completer 0)]

theorem shared_exactly_once_returned :
    ∃ final, Machine.run SharedSystem.step sampleStart sampleReturned = some final ∧ ExactlyOnce final.atRest := by
  have returned : (Machine.run SharedSystem.step sampleStart sampleReturned).any
      (fun final => final.shared.subLock = .free ∧
        ∀ processor < final.shared.processors, final.shared.calls processor = none) = true := by decide +kernel
  obtain ⟨final, ran, quiet⟩ := (Option.any_eq_true ..).mp returned
  obtain ⟨unlocked, free⟩ := of_decide_eq_true quiet
  have allowed : Machine.Meets SharedSystem.step (fun state event => state.Cooperative event ∧ state.PlainPush event)
      sampleStart sampleReturned := by decide +kernel
  exact ⟨final, ran, shared_exactly_once (by decide) allowed ran ⟨unlocked, free⟩⟩

end SharedSystem

end SpcNvme
