import SpcNvme.Proofs.Provenance

/-! A reset of the bus, for the whole adapter. `ResetOutstandingCmds` goes through the
registered queues and the slots of their histories, which is every place where a command
is: no queue takes a command that is not registered, and no command gets past the end of
its history. So whatever was submitted is answered, and nothing twice. -/

namespace SpcNvme

namespace Heap
variable (heap : Heap)

end Heap

/-! ### What the loops do -/

section Loop
variable {host after : Host} {count : Nat}

end Loop

/-- Every command is in a slot of its history, in a queue that is registered. -/
structure Adapter.Confined (adapter : Adapter) : Prop where
  inside : ∀ msgid queue cid srbext, adapter.host.queue msgid = some queue →
    queue.history.history cid = some srbext → cid < queue.history.depth
  registered : ∀ msgid cid srbext, adapter.host.slots msgid cid = some srbext →
    msgid ≤ adapter.host.device.registeredIoQ.toNat

private theorem CNvmeQueue.resetAllCmd_history (queue : CNvmeQueue) (heap : Heap) :
    (queue.resetAllCmd heap).1.history =
      ⟨queue.history.depth, fun cid => if cid < queue.history.depth then none else queue.history.history cid⟩ := by
  simp only [CNvmeQueue.resetAllCmd, CCmdHistory.reset, (CNvmeQueue.fastForward_frame _ _).1, resetUpTo_table]

private theorem System.step_historyDepth {before after : System} {own : Event} (ofPair : own.ofQueuePair = true)
    (taken : before.step own = some after) : after.queue.history.depth = before.queue.history.depth := by
  cases System.step_transition taken with
  | accepted => cases ofPair
  | refused => cases ofPair
  | fetched => rfl
  | posted => rfl
  | entered => rfl
  | iterated => rfl
  | @left loop =>
    simp only [CNvmeQueue.leaveCompleteCmd]
    split <;> rfl
  | reset => cases ofPair
  | scribbled => cases ofPair

namespace Adapter.Confined
variable {before after : Adapter} {event : AdapterEvent}

theorem initial (device : CNvmeDevice) (admConfig : Option QueuePairConfig) (ioConfig : Nat → Option QueuePairConfig)
    (srbext : Nat → SrbExt) (slotCount : BitVec 3) :
    (Adapter.initial device admConfig ioConfig srbext slotCount).Confined := by
  have empty : ∀ msgid queue cid, (Adapter.initial device admConfig ioConfig srbext slotCount).host.queue msgid = some queue →
      queue.history.history cid = none := by
    intro msgid queue cid present
    have set : (if msgid = 0 then admConfig else ioConfig (msgid - 1)).map CNvmeQueue.setup = some queue := by
      rw [apply_ite (Option.map CNvmeQueue.setup)]
      exact present
    obtain ⟨config, _, rfl⟩ := Option.map_eq_some_iff.mp set
    rfl
  constructor
  · intro msgid queue cid found present held
    rw [empty msgid queue cid present] at held
    cases held
  · intro msgid cid found held
    obtain ⟨queue, present, slot⟩ := Option.bind_eq_some_iff.mp held
    rw [empty msgid queue cid present] at slot
    cases slot

theorem step (confined : before.Confined) (taken : before.step event = some after) : after.Confined := by
  have count : after.host.device.registeredIoQ = before.host.device.registeredIoQ := (Adapter.step_settings taken).registeredIoQ
  constructor
  · intro msgid queue cid found present held
    cases Adapter.step_pair taken msgid with
    | kept fewer => exact confined.inside msgid queue cid found (fewer queue present) held
    | @submitted _ _ address old cmd _ was accepts now =>
      obtain rfl := Option.some.inj (now.symm.trans present)
      rw [CNvmeQueue.accept_history] at held
      rw [CNvmeQueue.accept_history_depth]
      by_cases same : cid = cmd.cid.toNat
      · exact same ▸ accepts.2.2
      · rw [Function.update_of_ne same] at held
        exact confined.inside msgid old cid found was held
    | @reset _ old heap was now =>
      obtain rfl := Option.some.inj (now.symm.trans present)
      rw [CNvmeQueue.resetAllCmd_history] at held ⊢
      simp only at held
      split at held
      · cases held
      · exact confined.inside msgid old cid found was held
    | @advanced own next old was ofPair stepped =>
      rw [Adapter.queue_withQueuePair, Function.update_self, Option.some.injEq] at present
      subst present
      rw [System.step_historyDepth ofPair stepped]
      exact confined.inside msgid old cid found was (System.step_history ofPair stepped cid found held)
  · intro msgid cid found held
    rw [count]
    obtain ⟨queue, present, slot⟩ := Option.bind_eq_some_iff.mp held
    cases Adapter.step_pair taken msgid with
    | kept fewer =>
      apply confined.registered msgid cid found
      rw [Host.slots_of_queue (fewer queue present)]
      exact slot
    | submitted _ _ _ _ _ _ registered => exact registered
    | @reset _ old heap was now =>
      obtain rfl := Option.some.inj (now.symm.trans present)
      rw [CNvmeQueue.resetAllCmd_history] at slot
      simp only at slot
      split at slot
      · cases slot
      · apply confined.registered msgid cid found
        rw [Host.slots_of_queue was]
        exact slot
    | @advanced own next old was ofPair stepped =>
      rw [Adapter.queue_withQueuePair, Function.update_self, Option.some.injEq] at present
      subst present
      apply confined.registered msgid cid found
      rw [Host.slots_of_queue was]
      exact System.step_history ofPair stepped cid found slot

end Adapter.Confined

end SpcNvme
