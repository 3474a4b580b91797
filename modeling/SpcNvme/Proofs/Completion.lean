import SpcNvme.Proofs.Throttle

/-! What the completion log records. An iteration that pops an extension adds one
record for it, except when the extension's callback completes it as well; and
outside of that case and of a pointer left behind by the previous iteration, no
accepted command is ever completed twice. -/

namespace SpcNvme

theorem SrbExt.completesItself_iff {srbext : SrbExt} :
    srbext.completesItself = true ↔
      srbext.completionCB = some .completeFirmwareInfo ∧ ∃ srb, srbext.srb = some srb := by
  simp [completesItself, Option.isSome_iff_exists]

/-- The extension after `CompleteCmd` alone completed it. -/
def SrbExt.finished (srbext : SrbExt) (cpl : NvmeCompletionEntry) : SrbExt :=
  ({ srbext with nvmeCpl := cpl }.completeSrb (nvmeToSrbStatus cpl.status)).cleanUp

@[simp] theorem SrbExt.finished_srbStatus (srbext : SrbExt) (cpl : NvmeCompletionEntry) :
    (srbext.finished cpl).srbStatus = nvmeToSrbStatus cpl.status := completeSrb_srbStatus ..

@[simp] theorem SrbExt.finished_notified (srbext : SrbExt) (cpl : NvmeCompletionEntry) :
    (srbext.finished cpl).notified = srbext.notified + if srbext.srb.isSome then 1 else 0 := completeSrb_notified ..

theorem SrbExt.finished_srb (srbext : SrbExt) (cpl : NvmeCompletionEntry) :
    (srbext.finished cpl).srb =
      srbext.srb.map fun srb => srb.setScsiSenseBySrbStatus (nvmeToSrbStatus cpl.status) := by
  cases present : srbext.srb with
  | none => simp [finished, completeSrb, cleanUp, resetExtBuf, present]
  | some srb => simp [finished, completeSrb, cleanUp, resetExtBuf, present]

/-- A callback that does not complete the extension at most cleans it up. -/
theorem runCompletionCB_plain {heap : Heap} {address : Nat} (submission : Option Nat)
    (plain : (heap.srbext address).completesItself = false) :
    runCompletionCB heap address submission = heap ∨ runCompletionCB heap address submission = heap.cleanUp address := by
  cases callback : (heap.srbext address).completionCB with
  | none =>
    apply Or.inl
    simp [runCompletionCB, callback]
  | some called =>
    cases called with
    | completeScsiReadWrite =>
      apply Or.inr
      simp [runCompletionCB, callback]
    | completeFirmwareInfo =>
      have missing : (heap.srbext address).srb = none := by
        simpa [SrbExt.completesItself, callback] using plain
      apply Or.inl
      simp [runCompletionCB, completeFirmwareInfo, callback, missing]

theorem finishSrbExt_plain {heap : Heap} {address : Nat} (submission : Option Nat) (cpl : NvmeCompletionEntry)
    (plain : (heap.srbext address).completesItself = false) :
    finishSrbExt heap address submission cpl =
      { heap.put address ((heap.srbext address).finished cpl) with
        completions := heap.completions ++ [⟨address, submission, nvmeToSrbStatus cpl.status, cpl⟩] } := by
  have copied : ((heap.put address { heap.srbext address with nvmeCpl := cpl }).srbext address).completesItself =
      false := by simpa [SrbExt.completesItself] using plain
  cases runCompletionCB_plain submission copied with
  | inl same =>
    simp only [finishSrbExt, same]
    simp [Heap.cleanUp, Heap.put, Heap.completeSrb, SrbExt.finished]
  | inr same =>
    simp only [finishSrbExt, same]
    simp [Heap.cleanUp, Heap.put, Heap.completeSrb, SrbExt.finished]

theorem finishSrbExt_completions {heap : Heap} {address : Nat} (submission : Option Nat) (cpl : NvmeCompletionEntry)
    (plain : (heap.srbext address).completesItself = false) :
    (finishSrbExt heap address submission cpl).completions =
      heap.completions ++ [⟨address, submission, nvmeToSrbStatus cpl.status, cpl⟩] := by
  rw [finishSrbExt_plain submission cpl plain]

theorem finishSrbExt_srbext {heap : Heap} {address : Nat} (submission : Option Nat) (cpl : NvmeCompletionEntry)
    (plain : (heap.srbext address).completesItself = false) :
    (finishSrbExt heap address submission cpl).srbext =
      Function.update heap.srbext address ((heap.srbext address).finished cpl) := by
  rw [finishSrbExt_plain submission cpl plain]
  rfl

theorem finishSrbExt_twice {heap : Heap} {address : Nat} (submission : Option Nat) (cpl : NvmeCompletionEntry)
    (twice : (heap.srbext address).completesItself = true) :
    ∃ first second : SrbStatus, (finishSrbExt heap address submission cpl).completions =
      heap.completions ++ [⟨address, submission, first, cpl⟩, ⟨address, submission, second, cpl⟩] := by
  obtain ⟨callback, srb, present⟩ := SrbExt.completesItself_iff.mp twice
  refine ⟨(firmwareInfoResult srb.ioControl heap.slotCount cpl.status).2.1, nvmeToSrbStatus cpl.status, ?_⟩
  simp [finishSrbExt, runCompletionCB, completeFirmwareInfo, callback, present, SrbExt.cleanUp, SrbExt.resetExtBuf,
    Heap.put]

private theorem finishSrbExt_grows (heap : Heap) (address : Nat) (submission : Option Nat) (cpl : NvmeCompletionEntry) :
    heap.completions.length < (finishSrbExt heap address submission cpl).completions.length := by
  cases twice : (heap.srbext address).completesItself with
  | false => simp [finishSrbExt_completions submission cpl twice]
  | true =>
    obtain ⟨first, second, log⟩ := finishSrbExt_twice submission cpl twice
    simp [log]

def Heap.Extends (before after : Heap) : Prop := ∃ later, after.completions = before.completions ++ later

namespace Heap.Extends

theorem refl (heap : Heap) : heap.Extends heap := ⟨[], (List.append_nil _).symm⟩

theorem trans {first second third : Heap} (left : first.Extends second) (right : second.Extends third) :
    first.Extends third := by
  obtain ⟨earlier, first⟩ := left
  obtain ⟨later, second⟩ := right
  exact ⟨earlier ++ later, by rw [second, first, List.append_assoc]⟩

theorem releaseOld (queue : CNvmeQueue) (heap : Heap) (cmd : NvmeCommand) :
    heap.Extends (queue.releaseOld heap cmd) := by
  unfold CNvmeQueue.releaseOld
  split
  · exact refl heap
  · exact ⟨_, rfl⟩

theorem resetUpTo (table : CCmdHistory) (heap : Heap) (count : Nat) :
    heap.Extends (table.resetUpTo heap count).2 := by
  induction count with
  | zero => exact refl heap
  | succ count ih =>
    simp only [CCmdHistory.resetUpTo]
    split
    · exact ih
    · exact ih.trans ⟨_, rfl⟩

theorem finishSrbExt (heap : Heap) (address : Nat) (submission : Option Nat) (cpl : NvmeCompletionEntry) :
    heap.Extends (finishSrbExt heap address submission cpl) := by
  cases twice : (heap.srbext address).completesItself with
  | false => exact ⟨_, finishSrbExt_completions submission cpl twice⟩
  | true =>
    obtain ⟨first, second, log⟩ := finishSrbExt_twice submission cpl twice
    exact ⟨_, log⟩

theorem step {before after : System} {event : Event} (layout : Layout before) (taken : before.step event = some after) :
    before.heap.Extends after.heap := by
  cases System.step_transition taken with
  | @accepted address record cmd ready safe inside => exact releaseOld before.queue (before.heap.put address record) cmd
  | refused => exact refl before.heap
  | fetched => exact refl before.heap
  | posted => exact refl before.heap
  | entered => exact refl before.heap
  | @iterated loop running arrived more =>
    simp only [System.iterated, CNvmeQueue.poppedHeap]
    split
    · exact refl before.heap
    · exact finishSrbExt ..
  | left => exact refl before.heap
  | reset =>
    obtain ⟨skipped, _, same, _⟩ := layout.reset
    rw [same]
    exact resetUpTo ..
  | scribbled => exact refl before.heap

end Heap.Extends

def Heap.settled (heap : Heap) : List Nat := heap.completions.filterMap (·.submission)

@[simp] theorem Heap.put_settled (heap : Heap) (address : Nat) (srbext : SrbExt) :
    (heap.put address srbext).settled = heap.settled := rfl

@[simp] theorem Heap.completeSrb_settled (heap : Heap) (address number : Nat) (status : SrbStatus) :
    (heap.completeSrb address (some number) status).settled = heap.settled ++ [number] := by
  simp [Heap.settled]

private theorem CNvmeQueue.releaseOld_settled (queue : CNvmeQueue) (heap : Heap) (cmd : NvmeCommand) :
    (queue.releaseOld heap cmd).settled = heap.settled ++ queue.replacedBy cmd := by
  unfold releaseOld replacedBy
  cases queue.history.history cmd.cid.toNat with
  | none => simp
  | some old => simp

/-- No accepted command is completed twice, and none that is still in the history was completed. -/
abbrev SettledOnce (table : CCmdHistory) (next : Nat) (heap : Heap) : Prop :=
  SlotTable.Settles SrbExtPtr.submission table.history next heap.settled

theorem SettledOnce.resetUpTo {table : CCmdHistory} {next : Nat} {heap : Heap} (once : SettledOnce table next heap)
    (count : Nat) : SettledOnce (table.resetUpTo heap count).1 next (table.resetUpTo heap count).2 := by
  induction count with
  | zero => exact once
  | succ count ih =>
    simp only [CCmdHistory.resetUpTo]
    cases held : (table.resetUpTo heap count).1.history count with
    | none => exact ih
    | some srbext =>
      simp only [SettledOnce, Heap.completeSrb_settled]
      exact ih.take held

def PopsFromHistory (state : System) (loop : CompleteLoop) : Prop :=
  (state.nextSlot loop).entry.cid.toNat < state.queue.history.depth ∨ loop.srbext = none

def CompletesOnce (state : System) : Event → Prop
  | .iterate => ∀ loop ∈ state.loop, PopsFromHistory state loop ∧
      ∀ srbext ∈ state.queue.popped loop, (state.heap.srbext srbext.address).completesItself = false
  | _ => True

private theorem popped_from_history {state : System} {loop : CompleteLoop} (pops : PopsFromHistory state loop) {srbext : SrbExtPtr}
    (popped : state.queue.popped loop = some srbext) :
    state.queue.history.history (state.nextSlot loop).entry.cid.toNat = some srbext ∧
      state.queue.poppedHistory loop =
        Function.update state.queue.history.history (state.nextSlot loop).entry.cid.toNat none := by
  by_cases inside : (state.nextSlot loop).entry.cid.toNat < state.queue.history.depth
  · exact ⟨(popped_of_lt inside).symm.trans popped, poppedHistory_of_lt inside⟩
  · have left : loop.srbext = none := pops.resolve_left inside
    have outside := Nat.le_of_not_lt inside
    simp only [System.nextSlot] at outside
    simp [CNvmeQueue.popped, outside, left] at popped

theorem SettledOnce.step {before after : System} {event : Event}
    (once : SettledOnce before.queue.history before.queue.trace.submitted.length before.heap) (layout : Layout before)
    (completes : CompletesOnce before event) (taken : before.step event = some after) :
    SettledOnce after.queue.history after.queue.trace.submitted.length after.heap := by
  cases System.step_transition taken with
  | @accepted address record cmd ready safe inside =>
    simp only [SettledOnce, System.accepted, CNvmeQueue.setSubIndex, Heap.put_settled, CNvmeQueue.releaseOld_settled,
      CNvmeQueue.accept_history, CNvmeQueue.accept_submitted, List.length_append, List.length_singleton]
    cases held : before.queue.history.history cmd.cid.toNat with
    | none =>
      simp only [CNvmeQueue.replacedBy, held, Option.map_none, Option.toList_none, List.append_nil]
      exact once.put _ _ rfl
    | some old =>
      simp only [CNvmeQueue.replacedBy, held, Option.map_some, Option.toList_some]
      have released := (once.take held).put cmd.cid.toNat ⟨address, before.queue.trace.submitted.length⟩ rfl
      rwa [Function.update_idem] at released
  | refused => exact once
  | fetched => exact once
  | posted => exact once
  | entered => exact once
  | @iterated loop running arrived more =>
    obtain ⟨pops, plain⟩ := completes loop running
    simp only [SettledOnce, System.iterated, CNvmeQueue.consume_history, CNvmeQueue.consume_submitted,
      CNvmeQueue.poppedHeap]
    cases popped : before.queue.popped loop with
    | none => exact once.drop fun _ _ => Held.kept
    | some srbext =>
      obtain ⟨held, emptied⟩ := popped_from_history pops popped
      simp only [emptied, Heap.settled, finishSrbExt_completions _ _ (plain srbext popped), List.filterMap_append,
        List.filterMap_cons, List.filterMap_nil]
      exact once.take held
  | @left loop running ended =>
    obtain ⟨cplDbl, doorbell⟩ := before.queue.leaveCompleteCmd_eq loop
    rw [doorbell]
    exact once
  | reset =>
    have emptied := once.resetUpTo before.queue.history.depth
    obtain ⟨skipped, _, same, _⟩ := layout.reset
    rw [same]
    apply emptied.drop
    intro cid srbext holds
    rw [resetUpTo_table]
    exact holds
  | scribbled => exact once

/-- The entry under the loop's pointer has no outstanding command. -/
def Unmatched (state : System) (loop : CompleteLoop) : Prop :=
  state.queue.history.depth ≤ (state.nextSlot loop).entry.cid.toNat ∨
    state.queue.history.history (state.nextSlot loop).entry.cid.toNat = none

structure Harmless (before after : System) : Prop where
  completions : after.heap.completions = before.heap.completions
  inflightCmds : after.queue.inflightCmds = before.queue.inflightCmds
  history : after.queue.history.history = before.queue.history.history

private theorem harmless_of_pops {state : System} {loop : CompleteLoop} (unmatched : Unmatched state loop)
    (pops : PopsFromHistory state loop) : Harmless state (state.iterated loop) := by
  have nothing : state.queue.popped loop = none := by
    cases popped : state.queue.popped loop with
    | none => rfl
    | some srbext =>
      obtain ⟨held, _⟩ := popped_from_history pops popped
      rcases unmatched with outside | free
      · have left : loop.srbext = none := pops.resolve_left (Nat.not_lt_of_le outside)
        simp only [System.nextSlot] at outside
        simp [CNvmeQueue.popped, outside, left] at popped
      · rw [free] at held
        cases held
  refine ⟨?_, ?_, ?_⟩
  · simp [System.iterated, CNvmeQueue.poppedHeap, nothing]
  · simp [System.iterated, CNvmeQueue.poppedInflight, nothing]
  · simp only [System.iterated, CNvmeQueue.consume_history, CNvmeQueue.poppedHistory]
    split
    · rfl
    · next inside =>
      rw [popped_of_lt (Nat.lt_of_not_le inside)] at nothing
      apply Function.update_eq_self_iff.mpr
      exact nothing.symm

private theorem pops_of_harmless {state : System} {loop : CompleteLoop} (harmless : Harmless state (state.iterated loop)) :
    PopsFromHistory state loop := by
  by_cases inside : (state.nextSlot loop).entry.cid.toNat < state.queue.history.depth
  · exact .inl inside
  · apply Or.inr
    cases left : loop.srbext with
    | none => rfl
    | some srbext =>
      -- `Pop` leaves the pointer of the previous iteration alone and it is completed again
      have outside := Nat.le_of_not_lt inside
      simp only [System.nextSlot] at outside
      have again : state.queue.popped loop = some srbext := by simp [CNvmeQueue.popped, outside, left]
      have grown := finishSrbExt_grows state.heap srbext.address (some srbext.submission) (state.nextSlot loop).entry
      have same := congrArg List.length harmless.completions
      simp only [System.iterated, CNvmeQueue.poppedHeap, again] at same
      exact absurd same (Nat.ne_of_gt grown)

/-- Whatever a controller writes into its queue, an entry without an outstanding
command does no harm exactly if its identifier is in range or no earlier entry of
the same call was completed; and if that holds all along and no callback
completes on its own, nothing is ever completed twice. -/
theorem unmatched_harmless_iff {config : QueuePairConfig} {srbext : Nat → SrbExt} {slotCount : BitVec 3}
    {events : List Event} {state : System}
    (ran : Machine.run System.step (.initial config srbext slotCount) events = some state) :
    (∀ loop after, state.loop = some loop → state.step .iterate = some after → Unmatched state loop →
      (Harmless state after ↔ PopsFromHistory state loop)) ∧
    (Machine.Meets System.step CompletesOnce (.initial config srbext slotCount) events → state.heap.settled.Nodup) := by
  constructor
  · intro loop after running taken unmatched
    cases System.step_transition taken with
    | @iterated current present arrived more =>
      obtain rfl : current = loop := Option.some.inj (present.symm.trans running)
      exact ⟨pops_of_harmless, harmless_of_pops unmatched⟩
  · intro met
    have kept : ∀ before event after, (Layout before ∧
        SettledOnce before.queue.history before.queue.trace.submitted.length before.heap) →
        CompletesOnce before event → System.step before event = some after →
        Layout after ∧ SettledOnce after.queue.history after.queue.trace.submitted.length after.heap := by
      intro before event after both completes taken
      obtain ⟨layout, once⟩ := both
      exact ⟨layout.step taken, once.step layout completes taken⟩
    have start : SettledOnce (System.initial config srbext slotCount).queue.history 0
        (System.initial config srbext slotCount).heap := .empty _ _
    exact (Machine.run_invariant kept ⟨.initial config srbext slotCount, start⟩ met ran).2.nodup

def sampleStale : List Event :=
  [sampleSubmit 0 0, .fetch, .post 0 sampleReply, .scribble 1 ⟨0, 0, 0xFFFF, ⟨true, 0, 0⟩⟩, .enter 0, .iterate]

theorem unmatched_completes_again :
    ¬ ∀ (config : QueuePairConfig) (srbext : Nat → SrbExt) (slotCount : BitVec 3) (events : List Event)
      (state after : System) (loop : CompleteLoop),
      Machine.run System.step (.initial config srbext slotCount) events = some state → state.loop = some loop →
      state.step .iterate = some after → Unmatched state loop → Harmless state after := by
  intro harmless
  have observed : ((Machine.run System.step sampleSystem sampleStale).bind fun state =>
      state.loop.bind fun loop => (state.step .iterate).map fun after =>
        (decide (state.queue.history.depth ≤ (state.nextSlot loop).entry.cid.toNat),
          state.heap.settled, after.heap.settled)) = some (true, [0], [0, 0]) := by decide +kernel
  simp only [Option.bind_eq_some_iff, Option.map_eq_some_iff, Prod.mk.injEq, decide_eq_true_eq] at observed
  obtain ⟨state, ran, loop, running, after, taken, outside, before, twice⟩ := observed
  have same := (harmless sampleQueue (fun _ => .init none) 1 sampleStale state after loop ran running taken
    (.inl outside)).completions
  rw [Heap.settled, same] at twice
  rw [Heap.settled, twice] at before
  exact absurd before (by decide)

theorem unmatched_harmless_iff_stale :
    ∃ state, Machine.run System.step sampleSystem sampleStale = some state ∧
      ((∀ loop after, state.loop = some loop → state.step .iterate = some after → Unmatched state loop →
        (Harmless state after ↔ PopsFromHistory state loop)) ∧
      (Machine.Meets System.step CompletesOnce sampleSystem sampleStale → state.heap.settled.Nodup)) := by
  obtain ⟨state, ran⟩ := Option.isSome_iff_exists.mp
    (by decide +kernel : (Machine.run System.step sampleSystem sampleStale).isSome = true)
  exact ⟨state, ran, unmatched_harmless_iff ran⟩

end SpcNvme
