import SpcNvme.Proofs.Serving

/-! What is left of the queue objects after the adapter was removed, or not found,
in every run of the entry points. -/

namespace SpcNvme

namespace Lifecycle

def Ends (before : Lifecycle) : LifecycleEvent → Prop
  | .findAdapter input => ∃ driver, before.driver.hwFindAdapter input = some (false, driver)
  | .removeDevice _ | .surpriseRemoval => True
  | .passiveInitialize _ | .resetBusBegin | .resetBusEnd | .powerCycle => False

/-- No object is stored behind the end of the array, where no pointer to it would be
found again, and nothing is left where nothing may be left. -/
def CleansUp (before : Lifecycle) (event : LifecycleEvent) : Prop :=
  (∀ input, event = .passiveInitialize input → before.phase = .found → ∃ after, before.step event = some after) ∧
    (before.Ends event → ∀ after, before.step event = some after → after.queues.Clean)

/-- Where the calls clean up: a surprise removal of a device that runs or is
stopped, and a search that finds the device stopped and does not fail on the admin
queue, or finds it running and fails. A regular removal never does, unless it stops
the system; and passive initialisation creates no more queues than fit the array. -/
def Removable (before : Lifecycle) : LifecycleEvent → Prop
  | .findAdapter input => before.queues.state = .running ∨
      before.queues.state = .stop ∧ (input.mapped = true → input.admQueueOK = true)
  | .removeDevice bugCheck => bugCheck = true
  | .surpriseRemoval => before.queues.state = .running ∨ before.queues.state = .stop
  | .passiveInitialize input => before.phase = .found → before.driver.Fits input
  | .resetBusBegin | .resetBusEnd | .powerCycle => True

structure Accounted (life : Lifecycle) : Prop where
  owned : life.queues.Owned
  stopped : life.queues.state = .stop → life.queues.Empty

private theorem initial_accounted : initial.Accounted := ⟨DeviceQueues.zeroed_owned, fun _ => ⟨rfl, fun _ => rfl⟩⟩

private theorem Accounted.of_clean {life : Lifecycle} (owned : life.queues.Owned) (clean : life.queues.Clean) : life.Accounted :=
  ⟨owned, fun _ => ⟨clean.admQueue, clean.ioQueue⟩⟩

theorem Accounted.teardown {life : Lifecycle} (accounted : life.Accounted) :
    life.queues.teardown.Owned ∧
      (life.queues.state = .running ∨ life.queues.state = .stop ↔ life.queues.teardown.Clean) := by
  by_cases running : life.queues.state = .running
  · obtain ⟨owned, clean⟩ := DeviceQueues.teardown_clean accounted.owned running
    exact ⟨owned, fun _ => clean, fun _ => .inl running⟩
  · rw [DeviceQueues.teardown_of_ne running]
    refine ⟨accounted.owned, ?_, fun clean => .inr clean.stopped⟩
    intro either
    have stopped := either.resolve_left running
    exact accounted.owned.clean (accounted.stopped stopped) stopped

private theorem step_accounted {before after : Lifecycle} {event : LifecycleEvent} (accounted : before.Accounted)
    (removable : before.Removable event) (taken : before.step event = some after) : after.Accounted := by
  cases event with
  | findAdapter input =>
    obtain ⟨found, driver, returned, rfl⟩ := step_findAdapter taken
    cases Driver.hwFindAdapter_end accounted.owned accounted.stopped returned with
    | refused status =>
      have running := removable.resolve_right fun stopped => status stopped.1
      obtain ⟨owned, clean⟩ := DeviceQueues.teardown_clean accounted.owned running
      exact .of_clean owned clean
    | broken stopped mapped failed left =>
      rcases removable with running | ⟨_, whole⟩
      · exact absurd (stopped.symm.trans running) (by simp)
      · exact absurd (failed.symm.trans (whole mapped)) (by simp)
    | torn stopped whole owned clean => exact .of_clean owned clean
    | found stopped whole owned running =>
      exact ⟨owned, fun halted => absurd (running.symm.trans halted) (by simp)⟩
  | passiveInitialize input =>
    obtain ⟨_, started, driver, returned, rfl⟩ := step_passiveInitialize taken
    rcases Driver.hwPassiveInitialize_owned accounted.owned returned with ⟨owned, running⟩ | rfl
    · exact ⟨owned, fun halted => absurd (running.symm.trans halted) (by simp)⟩
    · exact ⟨accounted.owned, accounted.stopped⟩
  | removeDevice bugCheck => exact absurd ((step_removeDevice taken).1.symm.trans removable) (by simp)
  | surpriseRemoval =>
    cases taken
    obtain ⟨owned, cleans⟩ := accounted.teardown
    exact .of_clean owned (cleans.mp removable)
  | resetBusBegin =>
    obtain ⟨_, rfl | ⟨_, rfl⟩⟩ := step_resetBusBegin taken
    · exact accounted
    · exact ⟨accounted.owned.congr rfl rfl rfl, fun stopped => nomatch stopped⟩
  | resetBusEnd =>
    obtain ⟨_, rfl⟩ := step_resetBusEnd taken
    exact ⟨accounted.owned.congr rfl rfl rfl, fun stopped => nomatch stopped⟩
  | powerCycle =>
    cases taken
    exact ⟨accounted.owned, accounted.stopped⟩

/-- Only a search that gets through `Setup` comes to `InitController`, which may stop the system. -/
theorem hwFindAdapter_stops {driver : Driver} {input : Driver.FindAdapterInput} (stops : driver.hwFindAdapter input = none) :
    driver.queues.state = .stop ∧ (input.mapped = true → input.admQueueOK = true) := by
  cases succeeded : (driver.queues.setup input.registry input.mqes input.mapped input.admQueueOK).1.ntSuccess with
  | false => simp [Driver.hwFindAdapter, succeeded] at stops
  | true =>
    refine ⟨(Driver.setup_unqueued succeeded driver.controller).2, ?_⟩
    intro mapped
    cases admQueueOK : input.admQueueOK with
    | true => rfl
    | false =>
      simp only [DeviceQueues.setup, mapped, admQueueOK, Bool.not_true, Bool.false_eq_true, if_false] at succeeded
      split at succeeded <;> cases succeeded

section Calls
variable {before after : Lifecycle}

private theorem cleansUp_of_step {event : LifecycleEvent} (taken : before.step event = some after)
    (other : ∀ input, event ≠ .passiveInitialize input) : before.CleansUp event ↔ (before.Ends event → after.queues.Clean) := by
  constructor
  · intro cleans ends
    exact cleans.2 ends after taken
  · intro clean
    refine ⟨fun input same => absurd same (other input), ?_⟩
    intro ends next also
    obtain rfl : after = next := Option.some.inj (taken.symm.trans also)
    exact clean ends

private theorem cleansUp_of_not_ends {event : LifecycleEvent} (other : ∀ input, event ≠ .passiveInitialize input)
    (goesOn : ¬ before.Ends event) : before.CleansUp event :=
  ⟨fun input same => absurd same (other input), fun ends => absurd ends goesOn⟩

private theorem findAdapter_cleansUp_iff (accounted : before.Accounted) (input : Driver.FindAdapterInput) :
    before.CleansUp (.findAdapter input) ↔ before.Removable (.findAdapter input) := by
  cases step : before.step (.findAdapter input) with
  | none =>
    have stops : before.driver.hwFindAdapter input = none := by simpa [Lifecycle.step] using step
    refine ⟨fun _ => .inr (hwFindAdapter_stops stops), fun _ => cleansUp_of_not_ends (by simp) ?_⟩
    intro ends
    obtain ⟨driver, returned⟩ := ends
    cases stops.symm.trans returned
  | some after =>
    rw [cleansUp_of_step step (by simp)]
    obtain ⟨found, driver, returned, rfl⟩ := step_findAdapter step
    cases Driver.hwFindAdapter_end accounted.owned accounted.stopped returned with
    | refused status =>
      have cleans := accounted.teardown.2
      constructor
      · intro clean
        exact .inl ((cleans.mpr (clean ⟨_, returned⟩)).resolve_right status)
      · intro removable _
        exact cleans.mp (.inl (removable.resolve_right fun stopped => status stopped.1))
    | broken stopped mapped failed left =>
      constructor
      · intro clean
        exact absurd (clean ⟨_, returned⟩).admQueue left
      · intro removable _
        rcases removable with running | ⟨_, whole⟩
        · exact absurd (stopped.symm.trans running) (by simp)
        · exact absurd (failed.symm.trans (whole mapped)) (by simp)
    | torn stopped whole owned clean => exact ⟨fun _ => .inr ⟨stopped, whole⟩, fun _ _ => clean⟩
    | found stopped whole owned running =>
      refine ⟨fun _ => .inr ⟨stopped, whole⟩, ?_⟩
      intro _ ends
      obtain ⟨other, missed⟩ := ends
      cases returned.symm.trans missed

private theorem cleansUp_iff (accounted : before.Accounted) (fresh : before.Fresh) (event : LifecycleEvent) :
    before.CleansUp event ↔ before.Removable event := by
  cases event with
  | findAdapter input => exact findAdapter_cleansUp_iff accounted input
  | passiveInitialize input =>
    have enabled : before.phase = .found → ((∃ after, before.step (.passiveInitialize input) = some after) ↔
        before.driver.Fits input) := by
      intro found
      rw [← Driver.hwPassiveInitialize_fits fresh.known (fresh.found found) input]
      simp only [step, found, if_true, ← Option.isSome_iff_exists, Option.isSome_map]
    constructor
    · intro cleans found
      exact (enabled found).mp (cleans.1 input rfl found)
    · intro fits
      refine ⟨?_, fun ends => ends.elim⟩
      intro same equal found
      exact (enabled found).mpr (fits found)
  | removeDevice bugCheck =>
    cases bugCheck with
    | true =>
      refine ⟨fun _ => rfl, fun _ => ⟨by simp, ?_⟩⟩
      intro _ after taken
      cases taken
    | false =>
      rw [cleansUp_of_step rfl (by simp)]
      constructor
      · intro clean
        exact absurd (clean trivial).stopped (DeviceQueues.shutdownController_teardown_state before.queues)
      · intro stops
        cases stops
  | surpriseRemoval =>
    rw [cleansUp_of_step rfl (by simp)]
    constructor
    · intro clean
      exact accounted.teardown.2.mpr (clean trivial)
    · intro removable _
      exact accounted.teardown.2.mp removable
  | resetBusBegin => exact ⟨fun _ => trivial, fun _ => cleansUp_of_not_ends (by simp) id⟩
  | resetBusEnd => exact ⟨fun _ => trivial, fun _ => cleansUp_of_not_ends (by simp) id⟩
  | powerCycle => exact ⟨fun _ => trivial, fun _ => cleansUp_of_not_ends (by simp) id⟩

end Calls

/-- In every sequence of the entry points, no queue object is lost and all removals and
failed searches clean up, exactly if each call comes in a state, and with an outcome,
that allows it. -/
theorem meets_cleansUp_iff (events : List LifecycleEvent) :
    Machine.Meets step CleansUp initial events ↔ Machine.Meets step Removable initial events := by
  have agree : ∀ (before : Lifecycle) event, (before.Accounted ∧ before.Fresh) →
      (before.CleansUp event ↔ before.Removable event) := fun _ event both => cleansUp_iff both.1 both.2 event
  have preserved : ∀ (before : Lifecycle) event after, (before.Accounted ∧ before.Fresh) → before.Removable event →
      before.step event = some after → after.Accounted ∧ after.Fresh :=
    fun _ _ _ both removable taken => ⟨step_accounted both.1 removable taken, step_fresh both.2 taken⟩
  exact Machine.meets_congr agree preserved ⟨initial_accounted, initial_fresh⟩ events

/-- A regular removal of a running adapter leaves its queues, and the state `shutdown`. -/
theorem removeDevice_leaves_queues :
    ¬ Machine.Meets step CleansUp initial [.findAdapter sampleFind, .removeDevice false] := by
  intro met
  have clean := (met.2 _ rfl).1.2 trivial _ rfl
  cases clean.stopped

end Lifecycle

end SpcNvme
