import SpcNvme.Proofs.Interrupts

/-! Who uses a queue object while it may be deleted. The DPC object is part of the queue,
and a completion call works on it; `Teardown` waits for neither. -/

namespace SpcNvme

section Kept
variable {host after : Host}

private theorem resetIoQueues_present {count : Nat} (returned : host.resetIoQueues count = some after) {msgid : Nat}
    (present : (host.queue msgid).isSome = true) : (after.queue msgid).isSome = true := by
  induction count generalizing after with
  | zero =>
    cases returned
    exact present
  | succ count ih =>
    simp only [Host.resetIoQueues] at returned
    split at returned
    · cases returned
    · next earlier ran =>
      split at returned
      · cases returned
      · next queue found =>
        cases returned
        have there := ih ran
        by_cases admin : msgid = 0
        · simpa [Host.queue, admin] using there
        · by_cases here : msgid - 1 = count
          · simp [Host.queue, admin, here]
          · simpa [Host.queue, admin, here] using there

private theorem hwResetBus_present (returned : host.hwResetBus = some after) {msgid : Nat}
    (present : (host.queue msgid).isSome = true) : (after.queue msgid).isSome = true := by
  simp only [Host.hwResetBus, Host.resetOutstandingCmds] at returned
  split at returned
  · cases returned
    exact present
  · split at returned
    · cases returned
      exact present
    · obtain ⟨last, ran, rfl⟩ := Option.map_eq_some_iff.mp returned
      apply resetIoQueues_present ran
      by_cases admin : msgid = 0
      · simp [Host.queue, admin]
      · simpa [Host.queue, admin, Host.setState] using present

private theorem teardown_idle (stopped : host.device.isWorking = false) : host.teardown = host := by
  simp [Host.teardown, stopped]

private theorem teardown_queue (working : host.device.isWorking = true) (msgid : Nat) : host.teardown.queue msgid = none := by
  simp [Host.teardown, working, Host.queue]

private theorem Adapter.step_keeps {before after : Adapter} {event : AdapterEvent} (taken : before.step event = some after)
    (stays : event.removesQueues = true → before.host.device.isWorking = false) {msgid : Nat}
    (present : (before.host.queue msgid).isSome = true) : (after.host.queue msgid).isSome = true := by
  cases event with
  | buildIo address srb =>
    obtain ⟨_, rfl⟩ := Adapter.step_buildIo taken
    cases removes : (AdapterEvent.buildIo address srb).removesQueues with
    | false =>
      have same : (before.buildIo address srb).host.queue = before.host.queue := hwBuildIo_queue removes
      rwa [same]
    | true =>
      have stopped : (before.host.putSrbExt address (.init (some srb))).device.isWorking = false := stays removes
      simp only [Adapter.buildIo, hwBuildIo_removes removes, teardown_idle stopped]
      exact present
  | startIo address processor logpage memory =>
    obtain ⟨_, host, returned, rfl⟩ := Adapter.step_startIo taken
    rcases (hwStartIo_started returned).queues with same | ⟨pair, queue, cmd, _, _, _, changed, _⟩
    · exact same ▸ present
    · dsimp only
      rw [changed]
      by_cases here : msgid = pair
      · simp [here]
      · rwa [Function.update_of_ne here]
  | command address cmd =>
    obtain ⟨_, rfl⟩ := Adapter.step_command taken
    rcases Adapter.command_queues before address cmd with same | ⟨queue, _, _, changed⟩
    · exact same ▸ present
    · rw [changed]
      by_cases here : msgid = 0
      · simp [here]
      · rwa [Function.update_of_ne here]
  | resetBus =>
    obtain ⟨host, returned, rfl⟩ := Adapter.step_resetBus taken
    exact hwResetBus_present returned present
  | surpriseRemoval =>
    cases taken
    have stopped := stays rfl
    simpa only [teardown_idle stopped] using present
  | advance pair event =>
    obtain ⟨queue, _, _, next, _, rfl⟩ := Adapter.step_advance taken
    rw [Adapter.queue_withQueuePair]
    by_cases here : msgid = pair
    · simp [here]
    · rwa [Function.update_of_ne here]

private theorem Adapter.step_removes {before after : Adapter} {event : AdapterEvent} (taken : before.step event = some after)
    (removes : event.removesQueues = true) (working : before.host.device.isWorking = true) (msgid : Nat) :
    after.host.queue msgid = none ∧ after.loops = before.loops := by
  cases event with
  | buildIo address srb =>
    obtain ⟨_, rfl⟩ := Adapter.step_buildIo taken
    refine ⟨?_, rfl⟩
    simp only [Adapter.buildIo, hwBuildIo_removes removes]
    have stopped : (before.host.putSrbExt address (.init (some srb))).device.isWorking = true := working
    exact teardown_queue stopped msgid
  | surpriseRemoval =>
    cases taken
    exact ⟨teardown_queue working msgid, rfl⟩
  | _ => cases removes

end Kept

namespace InterruptedAdapter

def Uses (state : InterruptedAdapter) (msgid : Nat) : Prop :=
  state.dpcs msgid = true ∨ (state.adapter.loops msgid).isSome = true

def UsersFindQueue (state : InterruptedAdapter) : Prop :=
  ∀ msgid, state.Uses msgid → (state.adapter.host.queue msgid).isSome = true

def RemovedUnused (state : InterruptedAdapter) (event : InterruptEvent) : Prop :=
  ∀ own, event.stands = some own → own.removesQueues = true → state.adapter.host.device.isWorking = true →
    ∀ msgid, ¬ state.Uses msgid

variable {before after : InterruptedAdapter} {event : InterruptEvent}

private theorem step_loops {before after : Adapter} {event : AdapterEvent} (taken : before.step event = some after) {msgid : Nat}
    (running : (after.loops msgid).isSome = true) :
    (before.loops msgid).isSome = true ∨ (after.host.queue msgid).isSome = true := by
  by_cases advances : ∃ own, event = .advance msgid own
  · obtain ⟨own, rfl⟩ := advances
    obtain ⟨_, _, _, next, _, rfl⟩ := Adapter.step_advance taken
    rw [Adapter.queue_withQueuePair]
    exact .inr (by simp)
  · cases Adapter.step_pair taken msgid with
    | kept _ loop => exact .inl (loop ▸ running)
    | submitted _ _ _ _ loop => exact .inl (loop ▸ running)
    | reset _ _ loop => exact .inl (loop ▸ running)
    | @advanced own => exact absurd ⟨own, rfl⟩ advances

/-- Who uses a queue used it before, or finds it. -/
theorem step_uses (taken : before.step event = some after) {msgid : Nat} (uses : after.Uses msgid) :
    before.Uses msgid ∨ (after.adapter.host.queue msgid).isSome = true := by
  have moves : ∀ {adapter : Adapter} {own : AdapterEvent}, before.adapter.step own = some adapter →
      (before.dpcs msgid = true ∨ (adapter.loops msgid).isSome = true) →
      before.Uses msgid ∨ (adapter.host.queue msgid).isSome = true := by
    intro adapter own moved either
    rcases either with scheduled | running
    · exact .inl (.inl scheduled)
    · exact (step_loops moved running).imp_left .inr
  cases event with
  | adapter own =>
    simp only [step] at taken
    split at taken
    · cases taken
    · obtain ⟨adapter, moved, rfl⟩ := Option.map_eq_some_iff.mp taken
      exact moves moved uses
  | spurious place =>
    cases taken
    exact .inl uses
  | isr place =>
    simp only [step] at taken
    split at taken
    · cases taken
      rcases uses with scheduled | running
      · dsimp only at scheduled
        split at scheduled
        · next issues =>
          by_cases here : msgid = place
          · subst here
            apply Or.inr
            cases found : before.adapter.host.queue msgid with
            | none =>
              rw [Host.nvmeMsixISR, found] at issues
              cases issues
            | some queue => rfl
          · rw [Function.update_of_ne here] at scheduled
            exact .inl (.inl scheduled)
        · exact .inl (.inl scheduled)
      · exact .inl (.inr running)
    · cases taken
  | dpc place =>
    simp only [step] at taken
    split at taken
    · obtain ⟨adapter, moved, rfl⟩ := Option.map_eq_some_iff.mp taken
      apply moves moved
      refine uses.imp_left ?_
      intro scheduled
      by_cases here : msgid = place
      · subst here
        assumption
      · exact (Function.update_of_ne here ..).symm.trans scheduled
    · cases taken
  | poll =>
    obtain ⟨adapter, moved, rfl⟩ := Option.map_eq_some_iff.mp taken
    exact moves moved uses

private theorem step_keeps (taken : before.step event = some after)
    (stays : ∀ own, event.stands = some own → own.removesQueues = true → before.adapter.host.device.isWorking = false)
    {msgid : Nat} (present : (before.adapter.host.queue msgid).isSome = true) :
    (after.adapter.host.queue msgid).isSome = true := by
  have moved := step_stands taken
  cases stands : event.stands with
  | none =>
    rw [stands] at moved
    have same := Option.some.inj moved
    exact same ▸ present
  | some own =>
    rw [stands] at moved
    exact Adapter.step_keeps moved (stays own stands) present

theorem UsersFindQueue.step (finds : before.UsersFindQueue) (unused : before.RemovedUnused event)
    (taken : before.step event = some after) : after.UsersFindQueue := by
  intro msgid uses
  rcases step_uses taken uses with used | found
  · apply step_keeps taken _ (finds msgid used)
    intro own stands removes
    apply Bool.eq_false_of_not_eq_true
    exact fun working => unused own stands removes working msgid used
  · exact found

theorem UsersFindQueue.lost (taken : before.step event = some after) (used : ¬ before.RemovedUnused event) :
    ¬ after.UsersFindQueue := by
  simp only [RemovedUnused] at used
  push Not at used
  obtain ⟨own, stands, removes, working, msgid, uses⟩ := used
  have moved := step_stands taken
  rw [stands] at moved
  obtain ⟨gone, loops⟩ := Adapter.step_removes moved removes working msgid
  intro finds
  have still : after.Uses msgid := by
    refine uses.imp ?_ ?_
    · intro scheduled
      apply step_dpcs taken scheduled
      rintro rfl
      obtain rfl := Option.some.inj stands
      cases removes
    · intro running
      rwa [loops]
  have there := finds msgid still
  rw [gone] at there
  cases there

theorem UsersFindQueue.initial (device : CNvmeDevice) (admConfig : Option QueuePairConfig)
    (ioConfig : Nat → Option QueuePairConfig) (srbext : Nat → SrbExt) (slotCount : BitVec 3) :
    (InterruptedAdapter.initial device admConfig ioConfig srbext slotCount).UsersFindQueue := by
  intro msgid uses
  rcases uses with scheduled | running
  · cases scheduled
  · cases running

end InterruptedAdapter

/-- Throughout a run every scheduled DPC and every completion call has its queue, if and
only if the adapter is never removed by surprise, while it works, with a DPC scheduled
or a completion call in progress. -/
theorem queue_users_iff {device : CNvmeDevice} {admConfig : Option QueuePairConfig}
    {ioConfig : Nat → Option QueuePairConfig} {srbext : Nat → SrbExt} {slotCount : BitVec 3}
    {events : List InterruptEvent} {final : InterruptedAdapter}
    (ran : Machine.run InterruptedAdapter.step (.initial device admConfig ioConfig srbext slotCount) events = some final) :
    Machine.Always InterruptedAdapter.step InterruptedAdapter.UsersFindQueue
        (.initial device admConfig ioConfig srbext slotCount) events ↔
      Machine.Meets InterruptedAdapter.step InterruptedAdapter.RemovedUnused
        (.initial device admConfig ioConfig srbext slotCount) events := by
  refine Machine.always_iff_meets (fun _ finds => finds) ?_ ?_
    (InterruptedAdapter.UsersFindQueue.initial device admConfig ioConfig srbext slotCount) ran
  · exact fun before event after finds unused taken => finds.step unused taken
  · exact fun before event after _ taken used => InterruptedAdapter.UsersFindQueue.lost taken used

def sampleRemoved : List InterruptEvent := sampleInterrupted.take 5 ++ [.adapter .surpriseRemoval]

theorem queue_users_iff_removed :
    Machine.Always InterruptedAdapter.step InterruptedAdapter.UsersFindQueue InterruptedAdapter.sampleStart sampleRemoved ↔
      Machine.Meets InterruptedAdapter.step InterruptedAdapter.RemovedUnused InterruptedAdapter.sampleStart
        sampleRemoved := by
  obtain ⟨final, ran⟩ := Option.isSome_iff_exists.mp
    (by decide +kernel :
      (Machine.run InterruptedAdapter.step InterruptedAdapter.sampleStart sampleRemoved).isSome = true)
  exact queue_users_iff ran

end SpcNvme
