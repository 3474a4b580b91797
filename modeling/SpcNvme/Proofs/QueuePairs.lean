import SpcNvme.Proofs.FastForward
import SpcNvme.Proofs.Projection

/-! What the runs of one queue pair keep, in every run of the adapter: as long as no
tag is used twice and the bus is not reset, each queue pair is in a state that its
own runs reach. -/

namespace SpcNvme

/-- The invariants of a queue pair whose commands were neither replaced nor reset. -/
structure Traced (state : System) : Prop where
  orderly : Orderly state
  contiguous : Contiguous state
  throttled : Throttled state.queue
  replaced : state.queue.trace.replaced = []

namespace Traced
variable {state : System}

theorem initial {config : QueuePairConfig} (deep : safeSubmitThreshold < config.depth) (srbext : Nat → SrbExt)
    (slotCount : BitVec 3) : Traced (.initial config srbext slotCount) :=
  ⟨.initial config srbext slotCount, .initial config srbext slotCount, .setup deep, rfl⟩

theorem congr {other : System} (traced : Traced state) (same : state.SameRings other) : Traced other := by
  obtain ⟨queue, loop, device, heap⟩ := other
  obtain ⟨rfl, rfl, rfl⟩ := same
  obtain ⟨⟨⟨layout, conformed, counted, flow⟩, delivered, held, settled⟩, contiguous, throttled, replaced⟩ := traced
  refine ⟨⟨⟨⟨layout.host, layout.device, layout.cpl⟩, ⟨conformed.pending, conformed.posted, conformed.cells⟩, counted, ?_⟩,
    ⟨delivered.once, delivered.unlapped, delivered.read⟩, held, settled⟩,
    ⟨contiguous.behind, contiguous.consumed, contiguous.neverReset⟩, throttled, replaced⟩
  exact ⟨flow.ring, flow.counts, flow.passed, flow.room, flow.ahead⟩

section Facts
variable (traced : Traced state)
include traced

theorem fresh (number : Nat) : ¬ state.queue.stale number := by
  intro stale
  rcases stale with replaced | before
  · rw [traced.replaced] at replaced
    cases replaced
  · rw [traced.contiguous.neverReset] at before
    cases before

theorem step {after : System} {event : Event} (unreset : Unreset event) (nothing : ReplacesNothing state event)
    (taken : state.step event = some after) : Traced after := by
  have fresh := traced.fresh
  obtain ⟨orderly, contiguous, throttled, replaced⟩ := traced
  have steady := orderly.steady
  have room := throttled.roomToSubmit steady.counted event
  have inTime : NoLateCompletion state event := by
    cases event with
    | iterate => exact fun _ _ number _ stale => absurd stale (fresh number)
    | _ => trivial
  exact ⟨orderly.step unreset.1 room (unreset.resetInReach state) (contiguous.submitInReach steady room) inTime taken,
    contiguous.step steady unreset.1 unreset.2 taken, throttled.step steady taken,
    nothing_replaced steady.layout replaced nothing taken⟩

/-- A command the controller still has is in the history, under its identifier. -/
theorem pending_held {submission : Submission} (pending : submission ∈ state.device.pending) :
    state.queue.history.history submission.cmd.cid.toNat = some submission.srbext := by
  have member := traced.orderly.steady.conformed.pending submission pending
  apply traced.orderly.settled.kept submission member (traced.fresh _)
  -- its number is still pending, so no posted entry has it
  intro consumed read answers
  obtain ⟨position, _, found⟩ := traced.orderly.delivered.read consumed read
  have posted := List.mem_of_getElem? found
  have all : ((List.range state.device.fetched).map some).Nodup := List.nodup_range.map (Option.some_injective Nat)
  have apart := (List.nodup_append.mp (traced.orderly.delivered.once.nodup_iff.mpr all)).2.2
  have here := List.mem_map_of_mem (f := fun submission : Submission => some submission.srbext.submission) pending
  have there := List.mem_map_of_mem (f := fun slot : CplSlot => slot.answers) posted
  exact apart _ here _ there answers.symm

end Facts

end Traced

theorem System.step_submitted {before after : System} {event : Event} (own : event.ofQueuePair = true)
    (taken : before.step event = some after) : after.queue.trace.submitted = before.queue.trace.submitted := by
  have finishing : Finishing event := by
    cases event with
    | submit => cases own
    | reset => cases own
    | scribble => cases own
    | _ => exact ⟨⟨rfl, rfl⟩, by simp⟩
  exact (finishing.submitted taken).1

theorem System.step_history {before after : System} {event : Event} (own : event.ofQueuePair = true)
    (taken : before.step event = some after) (cid : Nat) (srbext : SrbExtPtr)
    (held : after.queue.history.history cid = some srbext) : before.queue.history.history cid = some srbext := by
  cases System.step_transition taken with
  | accepted => cases own
  | refused => cases own
  | fetched => exact held
  | posted => exact held
  | entered => exact held
  | @iterated loop running arrived more =>
    simp only [System.iterated, CNvmeQueue.consume_history, CNvmeQueue.poppedHistory] at held
    split at held
    · exact held
    · by_cases here : cid = (before.queue.cplQ loop.cpl).entry.cid.toNat
      · rw [here, Function.update_self] at held
        cases held
      · rwa [Function.update_of_ne here] at held
  | @left loop running ended =>
    obtain ⟨cplDbl, doorbell⟩ := before.queue.leaveCompleteCmd_eq loop
    rw [doorbell] at held
    exact held
  | reset => cases own
  | scribbled => cases own

/-- No bus reset, and what is submitted to one of these queue pairs does not have the
tag of a command that is outstanding there. -/
def TagUnused (pairs : Nat → Prop) (adapter : Adapter) : AdapterEvent → Prop
  | .startIo address .. => ∀ msgid queue, pairs msgid → adapter.host.queue msgid = some queue →
      queue.history.history (adapter.host.heap.srbext address).cid.toNat = none
  | .command _ cmd => ∀ queue, pairs 0 → adapter.host.queue 0 = some queue → queue.history.history cmd.cid.toNat = none
  | .resetBus => False
  | _ => True

def PairsTraced (pairs : Nat → Prop) (adapter : Adapter) : Prop :=
  ∀ msgid queue, pairs msgid → adapter.host.queue msgid = some queue → Traced (adapter.queuePair msgid queue)

namespace PairsTraced
variable {pairs : Nat → Prop} {before after : Adapter} {event : AdapterEvent}

theorem initial {device : CNvmeDevice} {admConfig : Option QueuePairConfig} {ioConfig : Nat → Option QueuePairConfig}
    {srbext : Nat → SrbExt} {slotCount : BitVec 3}
    (deep : ∀ msgid config, pairs msgid → (if msgid = 0 then admConfig else ioConfig (msgid - 1)) = some config →
      safeSubmitThreshold < config.depth) :
    PairsTraced pairs (.initial device admConfig ioConfig srbext slotCount) := by
  intro msgid queue selected present
  have setup : ∃ config, (if msgid = 0 then admConfig else ioConfig (msgid - 1)) = some config ∧
      CNvmeQueue.setup config = queue := by
    rw [← Option.map_eq_some_iff, apply_ite (Option.map CNvmeQueue.setup)]
    exact present
  obtain ⟨config, configured, rfl⟩ := setup
  exact (Traced.initial (deep msgid config selected configured) srbext slotCount).congr ⟨rfl, rfl, rfl⟩

private theorem sends_free {address msgid : Nat} {cmd : NvmeCommand} {queue : CNvmeQueue} (selected : pairs msgid)
    (unused : TagUnused pairs before event) (sends : event.Sends before msgid address cmd)
    (present : before.host.queue msgid = some queue) : queue.history.history cmd.cid.toNat = none := by
  cases event with
  | startIo target processor logpage memory =>
    obtain ⟨rfl, cid⟩ := sends
    rw [cid]
    exact unused msgid queue selected present
  | command target sent =>
    obtain ⟨rfl, rfl, rfl⟩ := sends
    exact unused queue selected present
  | _ => exact sends.elim

theorem step (traced : PairsTraced pairs before) (unused : TagUnused pairs before event)
    (taken : before.step event = some after) : PairsTraced pairs after := by
  intro msgid queue selected found
  cases Adapter.step_pair taken msgid with
  | kept fewer loop device =>
    apply (traced msgid queue selected (fewer queue found)).congr
    exact ⟨rfl, loop.symm, device.symm⟩
  | @submitted _ _ address old cmd sends present accepts now loop device =>
    obtain rfl : old.accept address cmd = queue := Option.some.inj (now.symm.trans found)
    have free := sends_free selected unused sends present
    have submits : (before.queuePair msgid old).step (.submit address (.init none) cmd) =
        some ((before.queuePair msgid old).submit address (.init none) cmd) := rfl
    have nothing : ReplacesNothing (before.queuePair msgid old) (.submit address (.init none) cmd) := fun _ => free
    have next := (traced msgid old selected present).step ⟨rfl, rfl⟩ nothing submits
    apply next.congr
    rcases (before.queuePair msgid old).submit_eq address (.init none) cmd with ⟨_, accepted⟩ | ⟨refuses, _⟩
    · rw [accepted]
      exact ⟨rfl, loop.symm, device.symm⟩
    · exact absurd accepts refuses
  | reset => exact unused.elim
  | @advanced own next old present ofPair stepped =>
    obtain rfl : next.queue = queue := by
      rw [Adapter.queue_withQueuePair, Function.update_self, Option.some.injEq] at found
      exact found
    have unreset : Unreset own ∧ ReplacesNothing (before.queuePair msgid old) own := by
      cases own with
      | submit => cases ofPair
      | reset => cases ofPair
      | scribble => cases ofPair
      | _ => exact ⟨⟨rfl, rfl⟩, trivial⟩
    apply ((traced msgid old selected present).step unreset.1 unreset.2 stepped).congr
    refine ⟨rfl, ?_, ?_⟩
    · simp [Adapter.withQueuePair, Adapter.queuePair]
    · simp [Adapter.withQueuePair, Adapter.queuePair]

/-- A command that is outstanding after a step was before, or the step sent it. -/
theorem held_before {msgid : Nat} {queue : CNvmeQueue} {submission : Submission} (traced : PairsTraced pairs before)
    (unused : TagUnused pairs before event) (selected : pairs msgid) (taken : before.step event = some after)
    (found : after.host.queue msgid = some queue) (member : submission ∈ queue.trace.submitted)
    (held : queue.history.history submission.cmd.cid.toNat = some submission.srbext) :
    (∃ old, before.host.queue msgid = some old ∧ submission ∈ old.trace.submitted ∧
      old.history.history submission.cmd.cid.toNat = some submission.srbext) ∨
    ∃ old, event.Sends before msgid submission.srbext.address submission.cmd ∧ before.host.queue msgid = some old ∧
      queue = old.accept submission.srbext.address submission.cmd := by
  cases Adapter.step_pair taken msgid with
  | kept fewer => exact .inl ⟨queue, fewer queue found, member, held⟩
  | @submitted _ _ address old cmd sends present accepts now loop device =>
    obtain rfl : old.accept address cmd = queue := Option.some.inj (now.symm.trans found)
    rw [CNvmeQueue.accept_submitted, List.mem_append, List.mem_singleton] at member
    rcases member with earlier | rfl
    · refine .inl ⟨old, present, earlier, ?_⟩
      rw [CNvmeQueue.accept_history] at held
      by_cases same : submission.cmd.cid.toNat = cmd.cid.toNat
      · -- the slot has the new command, whose number is higher
        rw [same, Function.update_self, Option.some.injEq] at held
        have layout := (traced msgid old selected present).orderly.steady.layout.host
        obtain ⟨number, inside, rfl⟩ := List.mem_iff_getElem.mp earlier
        have numbered := layout.numbered number inside
        have newest : old.trace.submitted.length = number := (congrArg SrbExtPtr.submission held).trans numbered
        exact absurd inside (Nat.not_lt.mpr (Nat.le_of_eq newest))
      · rwa [Function.update_of_ne same] at held
    · exact .inr ⟨old, sends, present, rfl⟩
  | reset => exact unused.elim
  | @advanced own next old present ofPair stepped =>
    obtain rfl : next.queue = queue := by
      rw [Adapter.queue_withQueuePair, Function.update_self, Option.some.injEq] at found
      exact found
    rw [System.step_submitted ofPair stepped] at member
    exact .inl ⟨old, present, member, System.step_history ofPair stepped _ _ held⟩

end PairsTraced

end SpcNvme
