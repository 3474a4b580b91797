import SpcNvme.Proofs.Layout
import SpcNvme.Lib.SlotTable

/-! What the inflight counter counts. A conforming controller only ever answers
commands that were accepted, so every entry the driver reads carries an
identifier the history has a slot for; the counter is then the number of
occupied slots plus the number of commands replaced since the last reset. -/

namespace SpcNvme

/-- The slot answers an accepted command, under that command's identifier. -/
def Answered (submitted : List Submission) (slot : CplSlot) : Prop :=
  ∃ submission ∈ submitted, slot.entry.cid = submission.cmd.cid ∧ slot.answers = some submission.srbext.submission

theorem Answered.grow {submitted : List Submission} {slot : CplSlot} (answered : Answered submitted slot)
    (added : List Submission) : Answered (submitted ++ added) slot := by
  obtain ⟨submission, member, same⟩ := answered
  exact ⟨submission, List.mem_append_left _ member, same⟩

private theorem Controller.answer_answered {device : Controller} {submitted : List Submission} {submission : Submission}
    (member : submission ∈ submitted) (reply : Reply) : Answered submitted (device.answer submission reply) :=
  ⟨submission, member, rfl, rfl⟩

theorem HostLayout.answered_lt {queue : CNvmeQueue} (host : HostLayout queue) {slot : CplSlot}
    (answered : Answered queue.trace.submitted slot) :
    ∃ number < queue.trace.submitted.length, slot.answers = some number := by
  obtain ⟨submission, member, _, answers⟩ := answered
  obtain ⟨number, inside, rfl⟩ := List.mem_iff_getElem.mp member
  rw [host.numbered number inside] at answers
  exact ⟨number, inside, answers⟩

structure Conformed (state : System) : Prop where
  pending : ∀ submission ∈ state.device.pending, submission ∈ state.queue.trace.submitted
  posted : ∀ slot ∈ state.device.posted, Answered state.queue.trace.submitted slot
  cells : ∀ index, state.queue.cplQ index = ⟨.zero, none⟩ ∨ Answered state.queue.trace.submitted (state.queue.cplQ index)

namespace Conformed

theorem initial (config : QueuePairConfig) (srbext : Nat → SrbExt) (slotCount : BitVec 3) :
    Conformed (.initial config srbext slotCount) :=
  ⟨fun _ member => absurd member List.not_mem_nil, fun _ member => absurd member List.not_mem_nil, fun _ => .inl rfl⟩

theorem step {before after : System} {event : Event} (conformed : Conformed before) (layout : Layout before)
    (conforming : event.conforming = true) (taken : before.step event = some after) : Conformed after := by
  obtain ⟨pending, posted, cells⟩ := conformed
  cases System.step_transition taken with
  | accepted ready safe inside =>
    refine ⟨?_, ?_, ?_⟩
    · intro submission member
      exact List.mem_append_left _ (pending submission member)
    · intro slot member
      exact (posted slot member).grow _
    · intro index
      exact (cells index).imp_right fun answered => answered.grow _
  | refused => exact ⟨pending, posted, cells⟩
  | fetched behind =>
    refine ⟨?_, posted, cells⟩
    intro submission member
    simp only [Controller.fetch, List.mem_append, List.mem_singleton] at member
    rcases member with old | rfl
    · exact pending submission old
    · -- the controller is strictly behind the tail, so the slot it reads has been written
      have strictly : before.device.fetched ≠ before.queue.trace.submitted.length := by
        intro same
        apply behind
        rw [layout.device.sqHead, layout.host.subDbl, same]
      have bounded := layout.device.fetched
      rw [layout.device.sqHead]
      exact layout.host.stored.mem before.queue.depth_pos (by omega)
  | posted held =>
    have member := pending _ (List.mem_of_getElem? held)
    refine ⟨?_, ?_, ?_⟩
    · intro submission kept
      exact pending submission (List.mem_of_mem_eraseIdx kept)
    · intro slot kept
      simp only [System.post, Controller.advance, List.mem_append, List.mem_singleton] at kept
      rcases kept with old | rfl
      · exact posted slot old
      · exact Controller.answer_answered member _
    · intro index
      by_cases written : index = before.device.cqTail
      · subst index
        simp only [System.post, Function.update_self]
        exact .inr (Controller.answer_answered member _)
      · simp only [System.post, Function.update_of_ne written]
        exact cells index
  | entered idle => exact ⟨pending, posted, cells⟩
  | iterated running arrived more => exact ⟨pending, posted, cells⟩
  | @left loop running ended =>
    obtain ⟨cplDbl, doorbell⟩ := before.queue.leaveCompleteCmd_eq loop
    rw [doorbell]
    exact ⟨pending, posted, cells⟩
  | reset idle =>
    obtain ⟨skipped, _, same, _⟩ := layout.reset
    rw [same]
    exact ⟨pending, posted, cells⟩
  | scribbled => cases conforming

theorem cid_lt {state : System} (conformed : Conformed state) (layout : Layout state) (index : Nat) :
    (state.queue.cplQ index).entry.cid.toNat < state.queue.history.depth := by
  rcases conformed.cells index with blank | ⟨submission, member, same, _⟩
  · rw [blank, layout.host.historyDepth]
    exact state.queue.historyDepth_pos
  · rw [same]
    exact layout.host.inRange submission member

end Conformed

def CCmdHistory.occupied (table : CCmdHistory) : Nat := SlotTable.occupied table.history table.depth

theorem popped_of_lt {queue : CNvmeQueue} {loop : CompleteLoop}
    (inside : (queue.cplQ loop.cpl).entry.cid.toNat < queue.history.depth) :
    queue.popped loop = queue.history.history (queue.cplQ loop.cpl).entry.cid.toNat := by
  simp [CNvmeQueue.popped, Nat.not_le_of_lt inside]

theorem poppedHistory_of_lt {queue : CNvmeQueue} {loop : CompleteLoop}
    (inside : (queue.cplQ loop.cpl).entry.cid.toNat < queue.history.depth) :
    queue.poppedHistory loop = Function.update queue.history.history (queue.cplQ loop.cpl).entry.cid.toNat none := by
  simp [CNvmeQueue.poppedHistory, Nat.not_le_of_lt inside]

theorem occupied_accept (queue : CNvmeQueue) (address : Nat) {cmd : NvmeCommand}
    (inside : cmd.cid.toNat < queue.history.depth) :
    (queue.accept address cmd).history.occupied + (queue.accept address cmd).trace.replaced.length =
      queue.history.occupied + queue.trace.replaced.length + 1 := by
  simp only [CCmdHistory.occupied, CNvmeQueue.accept_history, CNvmeQueue.accept_history_depth,
    CNvmeQueue.accept_replaced, CNvmeQueue.replacedBy, List.length_append]
  cases held : queue.history.history cmd.cid.toNat with
  | none =>
    rw [SlotTable.occupied_put inside held]
    simp only [Option.map_none, Option.toList_none, List.length_nil]
    omega
  | some old =>
    rw [SlotTable.occupied_replace inside held]
    simp only [Option.map_some, Option.toList_some, List.length_singleton]
    omega

/-- An iteration over an entry in range lowers the number of occupied slots
exactly when it pops a pointer. -/
theorem occupied_consume {queue : CNvmeQueue} {loop : CompleteLoop}
    (inside : (queue.cplQ loop.cpl).entry.cid.toNat < queue.history.depth) :
    (queue.consume loop).history.occupied + (if (queue.popped loop).isSome then 1 else 0) = queue.history.occupied := by
  simp only [CCmdHistory.occupied, CNvmeQueue.consume_history, CNvmeQueue.consume_history_depth,
    poppedHistory_of_lt inside, popped_of_lt inside]
  have count := SlotTable.occupied_update queue.history.history inside none
  simpa using count

theorem occupied_cleared (queue : CNvmeQueue) (position : Nat) : (queue.cleared position).history.occupied = 0 := by
  rw [CCmdHistory.occupied, SlotTable.occupied_eq_zero_iff]
  intro slot inside
  exact if_pos inside

/-- The counter, wrapped as a `LONG`, against the history and the replaced commands. -/
def Counted (queue : CNvmeQueue) : Prop :=
  queue.inflightCmds = longWrap (queue.history.occupied + queue.trace.replaced.length)

theorem Counted.accept {queue : CNvmeQueue} (counted : Counted queue) (address : Nat) {cmd : NvmeCommand}
    (inside : cmd.cid.toNat < queue.history.depth) : Counted (queue.accept address cmd) := by
  have raised := occupied_accept queue address inside
  unfold Counted at counted ⊢
  rw [CNvmeQueue.accept_inflightCmds, counted, longWrap_longWrap_add]
  congr 1
  omega

theorem Counted.consume {queue : CNvmeQueue} (counted : Counted queue) {loop : CompleteLoop}
    (inside : (queue.cplQ loop.cpl).entry.cid.toNat < queue.history.depth) : Counted (queue.consume loop) := by
  have lowered := occupied_consume inside
  unfold Counted at counted ⊢
  simp only [CNvmeQueue.consume_inflightCmds, CNvmeQueue.poppedInflight, CNvmeQueue.consume_replaced]
  cases taken : queue.popped loop with
  | none =>
    simp only [taken, Option.isSome_none, Bool.false_eq_true, if_false, Nat.add_zero] at lowered ⊢
    rw [counted, lowered]
  | some srbext =>
    simp only [taken, Option.isSome_some, if_true] at lowered ⊢
    rw [counted, Int.sub_eq_add_neg, longWrap_longWrap_add]
    congr 1
    omega

theorem Counted.cleared (queue : CNvmeQueue) (position : Nat) : Counted (queue.cleared position) := by
  have zero : longWrap 0 = 0 := longWrap_of_range (by decide) (by decide)
  unfold Counted
  rw [occupied_cleared]
  exact zero.symm

theorem Counted.initial (config : QueuePairConfig) (srbext : Nat → SrbExt) (slotCount : BitVec 3) :
    Counted (System.initial config srbext slotCount).queue := by
  have zero : longWrap 0 = 0 := longWrap_of_range (by decide) (by decide)
  have empty : (System.initial config srbext slotCount).queue.history.occupied = 0 := SlotTable.occupied_empty _
  unfold Counted
  rw [empty]
  exact zero.symm

theorem Counted.step {before after : System} {event : Event} (counted : Counted before.queue) (layout : Layout before)
    (conformed : Conformed before) (conforming : event.conforming = true) (taken : before.step event = some after) :
    Counted after.queue := by
  cases System.step_transition taken with
  | accepted ready safe inside => exact counted.accept _ inside
  | refused => exact counted
  | fetched behind => exact counted
  | posted held => exact counted
  | entered idle => exact counted
  | iterated running arrived more => exact counted.consume (conformed.cid_lt layout _)
  | @left loop running ended =>
    obtain ⟨cplDbl, doorbell⟩ := before.queue.leaveCompleteCmd_eq loop
    rw [doorbell]
    exact counted
  | reset idle =>
    obtain ⟨skipped, _, same, _⟩ := layout.reset
    rw [same]
    exact .cleared before.queue _
  | scribbled => cases conforming

end SpcNvme
