import SpcNvme.Proofs.Flow
import Mathlib.Data.List.Perm.Basic
import Mathlib.Data.List.Nodup

/-! As long as the submission ring is not lapped, every accepted command is
fetched once, answered once, and its answer is read at most once. -/

namespace SpcNvme

/-- A command is only accepted while the controller has fetched the slot it is written to. -/
def SubmitInReach (state : System) : Event → Prop
  | .submit _ _ cmd => state.queue.accepts cmd →
      state.queue.trace.submitted.length < state.device.fetched + state.queue.depth
  | _ => True

instance (state : System) : DecidablePred (SubmitInReach state)
  | .submit _ _ cmd => inferInstanceAs (Decidable (state.queue.accepts cmd → _))
  | .fetch | .post .. | .enter _ | .iterate | .leave | .reset | .scribble .. => isTrue trivial

structure Delivered (state : System) : Prop where
  once : (state.device.pending.map (fun submission => some submission.srbext.submission) ++
    state.device.posted.map (·.answers)).Perm ((List.range state.device.fetched).map some)
  unlapped : state.queue.trace.submitted.length ≤ state.device.fetched + state.queue.depth
  read : ∀ consumed ∈ state.queue.trace.consumed, ∃ position < state.queue.trace.passed,
    state.device.posted[position]? = some consumed.slot

namespace Delivered

theorem initial (config : QueuePairConfig) (srbext : Nat → SrbExt) (slotCount : BitVec 3) :
    Delivered (.initial config srbext slotCount) :=
  ⟨.refl _, Nat.zero_le _, fun _ member => absurd member List.not_mem_nil⟩

section Facts
variable {state : System} (delivered : Delivered state)
include delivered

theorem nodup : (state.device.posted.map (·.answers)).Nodup := by
  have all : ((List.range state.device.fetched).map some).Nodup :=
    List.nodup_range.map (Option.some_injective Nat)
  exact (List.nodup_append.mp (delivered.once.nodup_iff.mpr all)).2.1

theorem distinct {first second : Nat} (inside : first < state.device.posted.length)
    (within : second < state.device.posted.length)
    (same : state.device.posted[first].answers = state.device.posted[second].answers) : first = second := by
  have firstInside : first < (state.device.posted.map (·.answers)).length := by simpa using inside
  have secondInside : second < (state.device.posted.map (·.answers)).length := by simpa using within
  have mapped : (state.device.posted.map (·.answers))[first] = (state.device.posted.map (·.answers))[second] := by
    simpa using same
  exact (delivered.nodup.getElem_inj_iff).mp mapped

/-- The submission slots the controller has not fetched still hold what was written to them. -/
theorem unfetched_intact (layout : Layout state) {position : Nat} (unfetched : state.device.fetched ≤ position)
    (inside : position < state.queue.trace.submitted.length) :
    state.queue.subQ (position % state.queue.depth) = state.queue.trace.submitted[position] := by
  have unlapped := delivered.unlapped
  exact layout.host.stored position inside (by omega)

theorem unread {slot : CplSlot} (behind : state.queue.trace.passed < state.device.posted.length)
    (next : slot = state.device.posted[state.queue.trace.passed]) :
    ∀ consumed ∈ state.queue.trace.consumed, consumed.slot.answers ≠ slot.answers := by
  intro consumed member same
  obtain ⟨position, earlier, held⟩ := delivered.read consumed member
  obtain ⟨inside, found⟩ := List.getElem?_eq_some_iff.mp held
  have equal : position = state.queue.trace.passed := by
    apply delivered.distinct inside behind
    rw [found, same, next]
  omega

end Facts

private theorem fetch_once {pending : List Submission} {posted : List CplSlot} {fetched : Nat} {slot : Submission}
    (once : (pending.map (fun submission => some submission.srbext.submission) ++ posted.map (·.answers)).Perm
      ((List.range fetched).map some)) (number : slot.srbext.submission = fetched) :
    ((pending ++ [slot]).map (fun submission => some submission.srbext.submission) ++ posted.map (·.answers)).Perm
      ((List.range (fetched + 1)).map some) := by
  rw [List.range_succ, List.map_append, List.map_append, List.map_singleton, List.map_singleton, number,
    List.append_assoc]
  exact (List.perm_append_comm.append_left _).trans (by
    rw [← List.append_assoc]
    exact once.append_right _)

private theorem post_once {pending : List Submission} {posted : List CplSlot} {index : Nat} {submission : Submission}
    {slot : CplSlot} (held : pending[index]? = some submission) (answers : slot.answers = some submission.srbext.submission) :
    ((pending.eraseIdx index).map (fun submission => some submission.srbext.submission) ++
      (posted ++ [slot]).map (·.answers)).Perm
    (pending.map (fun submission => some submission.srbext.submission) ++ posted.map (·.answers)) := by
  obtain ⟨inside, rfl⟩ := List.getElem?_eq_some_iff.mp held
  have erased := (List.getElem_cons_eraseIdx_perm inside).map fun submission => some submission.srbext.submission
  rw [List.map_cons] at erased
  rw [List.map_append, List.map_singleton, answers, ← List.append_assoc]
  exact (List.perm_append_singleton _ _).trans (erased.append_right _)

theorem step {before after : System} {event : Event} (delivered : Delivered before) (steady : Steady before)
    (conforming : event.conforming = true) (inReach : SubmitInReach before event)
    (taken : before.step event = some after) : Delivered after := by
  obtain ⟨once, unlapped, read⟩ := delivered
  have layout := steady.layout
  cases System.step_transition taken with
  | @accepted address record cmd ready safe inside =>
    have room := inReach ⟨ready, safe, inside⟩
    refine ⟨once, ?_, read⟩
    simp only [System.accepted, CNvmeQueue.accept_submitted, CNvmeQueue.accept_depth, List.length_append,
      List.length_singleton]
    omega
  | refused => exact ⟨once, unlapped, read⟩
  | fetched behind =>
    have strictly : before.device.fetched < before.queue.trace.submitted.length := by
      apply Nat.lt_of_le_of_ne layout.device.fetched
      intro same
      apply behind
      rw [layout.device.sqHead, layout.host.subDbl, same]
    have slot : before.queue.subQ before.device.sqHead = before.queue.trace.submitted[before.device.fetched] := by
      rw [layout.device.sqHead]
      exact layout.host.stored _ strictly unlapped
    refine ⟨fetch_once once ?_, Nat.le_trans unlapped (by simp only [Controller.fetch]; omega), read⟩
    rw [slot]
    exact layout.host.numbered _ strictly
  | posted held =>
    refine ⟨(post_once held rfl).trans once, unlapped, ?_⟩
    intro consumed member
    obtain ⟨position, earlier, found⟩ := read consumed member
    refine ⟨position, earlier, ?_⟩
    rw [← found]
    exact List.getElem?_append_left (List.getElem?_eq_some_iff.mp found).1
  | entered idle => exact ⟨once, unlapped, read⟩
  | @iterated loop running arrival more =>
    obtain ⟨behind, next⟩ := steady.arrived running arrival
    refine ⟨once, unlapped, ?_⟩
    intro consumed member
    simp only [System.iterated, CNvmeQueue.consume_consumed, CNvmeQueue.consume_passed, List.mem_append,
      List.mem_singleton] at member ⊢
    rcases member with old | rfl
    · obtain ⟨position, earlier, found⟩ := read consumed old
      exact ⟨position, by omega, found⟩
    · exact ⟨_, Nat.lt_succ_self _, List.getElem?_eq_some_iff.mpr ⟨behind, next.symm⟩⟩
  | @left loop running ended =>
    obtain ⟨cplDbl, doorbell⟩ := before.queue.leaveCompleteCmd_eq loop
    rw [doorbell]
    exact ⟨once, unlapped, read⟩
  | reset idle =>
    have passed := steady.flow.passed
    rw [steady.reset]
    refine ⟨once, unlapped, ?_⟩
    intro consumed member
    obtain ⟨position, earlier, found⟩ := read consumed member
    exact ⟨position, Nat.lt_of_lt_of_le earlier passed, found⟩
  | scribbled => cases conforming

end Delivered

end SpcNvme
