import SpcNvme.Lifecycle
import SpcNvme.Lib.Machine
import SpcNvme.Lib.SlotTable

/-! What the calls that end an adapter, or do not find one, leave of its queue objects. -/

namespace SpcNvme

namespace DeviceQueues

def slot (queues : DeviceQueues) : Nat → Option Nat
  | 0 => queues.admQueue
  | index + 1 => queues.ioQueue index

/-- Every object that lives has exactly one pointer, and the pointers lie in the array. -/
structure Owned (queues : DeviceQueues) : Prop where
  settles : SlotTable.Settles id queues.slot queues.created queues.deleted
  covers : SlotTable.Covers id queues.slot queues.created queues.deleted
  inside : ∀ index, maxIoQueueCount ≤ index → queues.ioQueue index = none

/-- No queue object is left, each was torn down exactly once, and `Setup` is accepted. -/
structure Clean (queues : DeviceQueues) : Prop where
  stopped : queues.state = .stop
  admQueue : queues.admQueue = none
  ioQueue : ∀ index, queues.ioQueue index = none
  once : ∀ object, object < queues.created → queues.deleted.count object = 1

structure Empty (queues : DeviceQueues) : Prop where
  admQueue : queues.admQueue = none
  ioQueue : ∀ index, queues.ioQueue index = none

theorem Empty.slot {queues : DeviceQueues} (empty : queues.Empty) : ∀ index, queues.slot index = none
  | 0 => empty.admQueue
  | index + 1 => empty.ioQueue index

theorem Owned.clean {queues : DeviceQueues} (owned : queues.Owned) (empty : queues.Empty)
    (stopped : queues.state = .stop) : queues.Clean :=
  ⟨stopped, empty.admQueue, empty.ioQueue,
    fun _ issued => owned.covers.count_eq_one owned.settles empty.slot issued⟩

theorem Owned.congr {queues other : DeviceQueues} (owned : queues.Owned) (slots : other.slot = queues.slot)
    (created : other.created = queues.created) (deleted : other.deleted = queues.deleted) : other.Owned where
  settles := by
    rw [slots, created, deleted]
    exact owned.settles
  covers := by
    rw [slots, created, deleted]
    exact owned.covers
  inside := by
    intro index outside
    exact (congrFun slots (index + 1)).trans (owned.inside index outside)

theorem zeroed_owned : zeroed.Owned where
  settles := by
    have empty : zeroed.slot = fun _ => none := by
      funext index
      cases index <;> rfl
    rw [empty]
    exact .empty id 0
  covers := fun serial issued => absurd issued (Nat.not_lt_zero serial)
  inside := fun _ _ => rfl

theorem slot_update_ioQueue (queues : DeviceQueues) (index : Nat) (value : Option Nat) :
    { queues with ioQueue := Function.update queues.ioQueue index value }.slot =
      Function.update queues.slot (index + 1) value := by
  funext other
  cases other with
  | zero => rfl
  | succ other =>
    simp only [slot, Function.update_apply, Nat.add_right_cancel_iff]

theorem Owned.putIoQueue {queues : DeviceQueues} (owned : queues.Owned) {index : Nat} (inside : index < maxIoQueueCount)
    (free : queues.ioQueue index = none) (count : BitVec 32) :
    { queues with
      created := queues.created + 1
      ioQueue := Function.update queues.ioQueue index (some queues.created)
      allocatedIoQ := count }.Owned where
  settles := by
    have put := owned.settles.put (index + 1) queues.created rfl
    rw [← slot_update_ioQueue] at put
    exact put
  covers := by
    have empty : queues.slot (index + 1) = none := free
    have put := owned.covers.put empty queues.created rfl
    rw [← slot_update_ioQueue] at put
    exact put
  inside := by
    intro other outside
    have elsewhere : other ≠ index := by omega
    exact (Function.update_of_ne elsewhere ..).trans (owned.inside other outside)

theorem Owned.discard {queues : DeviceQueues} (owned : queues.Owned) :
    { queues with created := queues.created + 1, deleted := queues.deleted ++ [queues.created] }.Owned where
  settles := owned.settles.skip
  covers := owned.covers.skip
  inside := owned.inside

/-- What a free place that is filled passes on from the rest of the loop holds of
every call of `CreateIoQ` that returns. -/
theorem createIoQFrom_induct {setups : Nat → NtStatus} {motive : DeviceQueues → DeviceQueues → Prop}
    (refl : ∀ queues, motive queues queues)
    (discard : ∀ queues, motive queues
      { queues with created := queues.created + 1, deleted := queues.deleted ++ [queues.created] })
    (fill : ∀ (queues after : DeviceQueues) (index : Nat), index < maxIoQueueCount → queues.ioQueue index = none →
      motive
        { queues with
          created := queues.created + 1
          ioQueue := Function.update queues.ioQueue index (some queues.created)
          allocatedIoQ := queues.allocatedIoQ + 1 } after →
      motive queues after)
    {status : NtStatus} {left : Nat} :
    ∀ {queues after : DeviceQueues} {index : Nat},
      queues.createIoQFrom setups index left = some (status, after) → motive queues after := by
  induction left with
  | zero =>
    intro queues after index returned
    cases returned
    exact refl queues
  | succ left ih =>
    intro queues after index returned
    simp only [createIoQFrom] at returned
    split at returned
    · cases returned
    · next inside =>
      split at returned
      · exact ih returned
      · next free =>
        split at returned
        · cases returned
          exact discard queues
        · exact fill queues after index (Nat.lt_of_not_le inside) free (ih returned)

private theorem createIoQFrom_owned {setups : Nat → NtStatus} {status : NtStatus} {left : Nat} {queues after : DeviceQueues}
    {index : Nat} (owned : queues.Owned) (returned : queues.createIoQFrom setups index left = some (status, after)) :
    after.Owned ∧ after.state = queues.state ∧ after.admQueue = queues.admQueue := by
  have passed : queues.Owned → after.Owned ∧ after.state = queues.state ∧ after.admQueue = queues.admQueue := by
    apply createIoQFrom_induct _ _ _ returned
    · intro queues owned
      exact ⟨owned, rfl, rfl⟩
    · intro queues owned
      exact ⟨owned.discard, rfl, rfl⟩
    · intro queues after index inside free rest owned
      exact rest (owned.putIoQueue inside free (queues.allocatedIoQ + 1))
  exact passed owned

/-- The pointers while `DeleteIoQ` has come to `count`: those before it are stale. -/
def slotFrom (queues : DeviceQueues) (count : Nat) : Nat → Option Nat
  | 0 => queues.admQueue
  | index + 1 => if index < count then none else queues.ioQueue index

private theorem slotFrom_zero (queues : DeviceQueues) : queues.slotFrom 0 = queues.slot := by
  funext index
  cases index <;> simp [slotFrom, slot]

private theorem slotFrom_succ (queues : DeviceQueues) (count : Nat) :
    queues.slotFrom (count + 1) = Function.update (queues.slotFrom count) (count + 1) none := by
  funext index
  cases index with
  | zero => rfl
  | succ index =>
    by_cases same : index = count
    · simp [slotFrom, same]
    · have before : index < count + 1 ↔ index < count := by omega
      simp [slotFrom, same, before]

theorem deleteIoQUpTo_frame (queues : DeviceQueues) (count : Nat) :
    (queues.deleteIoQUpTo count).slot = queues.slot ∧ (queues.deleteIoQUpTo count).created = queues.created ∧
      (queues.deleteIoQUpTo count).state = queues.state ∧ (queues.deleteIoQUpTo count).ioQueue = queues.ioQueue := by
  induction count with
  | zero => exact ⟨rfl, rfl, rfl, rfl⟩
  | succ count ih =>
    simp only [deleteIoQUpTo]
    split <;> exact ih

private theorem deleteIoQUpTo_owned {queues : DeviceQueues} (owned : queues.Owned) (count : Nat) :
    SlotTable.Settles id (queues.slotFrom count) queues.created (queues.deleteIoQUpTo count).deleted ∧
      SlotTable.Covers id (queues.slotFrom count) queues.created (queues.deleteIoQUpTo count).deleted := by
  induction count with
  | zero =>
    rw [slotFrom_zero]
    exact ⟨owned.settles, owned.covers⟩
  | succ count ih =>
    obtain ⟨settles, covers⟩ := ih
    have pointer : queues.slotFrom count (count + 1) = queues.ioQueue count := by simp [slotFrom]
    simp only [deleteIoQUpTo, (queues.deleteIoQUpTo_frame count).2.2.2, slotFrom_succ]
    split
    · next missing =>
      have same : Function.update (queues.slotFrom count) (count + 1) none = queues.slotFrom count := by
        rw [Function.update_eq_self_iff, pointer, missing]
      rw [same]
      exact ⟨settles, covers⟩
    · next object held =>
      exact ⟨settles.take (pointer.trans held), covers.take (pointer.trans held)⟩

private theorem deleteIoQ_owned {queues : DeviceQueues} (owned : queues.Owned) : queues.deleteIoQ.Owned := by
  obtain ⟨slots, created, _, _⟩ := queues.deleteIoQUpTo_frame maxIoQueueCount
  obtain ⟨settles, covers⟩ := deleteIoQUpTo_owned owned maxIoQueueCount
  have all : queues.deleteIoQ.slot = queues.slotFrom maxIoQueueCount := by
    funext index
    cases index with
    | zero => exact congrFun slots 0
    | succ index =>
      show none = if index < maxIoQueueCount then none else queues.ioQueue index
      split
      · rfl
      · next outside => exact (owned.inside index (Nat.le_of_not_lt outside)).symm
  refine ⟨?_, ?_, fun _ _ => rfl⟩
  · rw [all]
    exact created ▸ settles
  · rw [all]
    exact created ▸ covers

private theorem deleteAdmQ_owned {queues : DeviceQueues} (owned : queues.Owned) : queues.deleteAdmQ.2.Owned := by
  unfold deleteAdmQ
  split
  · exact owned
  · next object held =>
    have cleared : { queues with admQueue := none, deleted := queues.deleted ++ [object] }.slot =
        Function.update queues.slot 0 none := by
      funext index
      cases index <;> rfl
    have present : queues.slot 0 = some object := held
    refine ⟨?_, ?_, owned.inside⟩
    · rw [cleared]
      exact owned.settles.take present
    · rw [cleared]
      exact owned.covers.take present

private theorem deleteAdmQ_empty (queues : DeviceQueues) (empty : ∀ index, queues.ioQueue index = none) :
    queues.deleteAdmQ.2.Empty := by
  unfold deleteAdmQ
  split
  · next missing => exact ⟨missing, empty⟩
  · exact ⟨rfl, empty⟩

/-- `Teardown` of a working device leaves nothing, and of any other device everything. -/
theorem teardown_clean {queues : DeviceQueues} (owned : queues.Owned) (working : queues.state = .running) :
    queues.teardown.Owned ∧ queues.teardown.Clean := by
  have entered : (queues.setState .teardown).Owned := owned.congr rfl rfl rfl
  have freed := deleteAdmQ_owned (deleteIoQ_owned entered)
  have empty := (queues.setState .teardown).deleteIoQ.deleteAdmQ_empty fun _ => rfl
  simp only [teardown, isWorking, working, beq_self_eq_true, Bool.not_true]
  have kept : ((queues.setState .teardown).deleteIoQ.deleteAdmQ.2.setState .stop).Owned := freed.congr rfl rfl rfl
  exact ⟨kept, kept.clean ⟨empty.admQueue, empty.ioQueue⟩ rfl⟩

theorem teardown_of_ne {queues : DeviceQueues} (idle : queues.state ≠ .running) : queues.teardown = queues := by
  simp [teardown, isWorking, idle]

/-- A regular removal never gets the device to stop: `ShutdownController` leaves a
state in which `Teardown` does nothing. -/
theorem shutdownController_teardown_state (queues : DeviceQueues) :
    queues.shutdownController.teardown.state ≠ .stop := by
  have halted : queues.shutdownController.state ≠ .running ∧ queues.shutdownController.state ≠ .stop := by
    cases state : queues.state <;> simp [shutdownController, isStop, isWorking, setState, state]
  rw [teardown_of_ne halted.1]
  exact halted.2

private theorem initVars_owned {queues : DeviceQueues} (owned : queues.Owned) (empty : queues.Empty) : queues.initVars.Owned := by
  refine owned.congr ?_ rfl rfl
  funext index
  rw [empty.slot index]
  cases index <;> rfl

private theorem createAdmQ_owned {queues : DeviceQueues} (owned : queues.Owned) (initOK : Bool) :
    (queues.createAdmQ initOK).2.Owned := by
  unfold createAdmQ
  split
  · exact owned
  · next free =>
    have filled : { queues with admQueue := some queues.created, created := queues.created + 1 }.slot =
        Function.update queues.slot 0 (some queues.created) := by
      funext index
      cases index <;> rfl
    have empty : queues.slot 0 = none := free
    refine ⟨?_, ?_, owned.inside⟩
    · rw [filled]
      exact owned.settles.put 0 queues.created rfl
    · rw [filled]
      exact owned.covers.put empty queues.created rfl

/-- How `Setup` ends: refused, without registers, without a working admin queue, or well. -/
inductive SetupEnd (queues : DeviceQueues) : Bool → Bool → NtStatus → DeviceQueues → Prop where
  | refused (status : queues.state ≠ .stop) (mapped admQueueOK : Bool) :
      SetupEnd queues mapped admQueueOK .invalidDeviceState queues
  | unmapped {after : DeviceQueues} (admQueueOK : Bool) (stopped : queues.state = .stop) (owned : after.Owned)
      (empty : after.Empty) (same : after.state = .stop) : SetupEnd queues false admQueueOK .notMappedData after
  | broken {after : DeviceQueues} (stopped : queues.state = .stop) (left : after.admQueue ≠ none)
      (same : after.state = .stop) : SetupEnd queues true false .memoryNotAllocated after
  | ready {after : DeviceQueues} (stopped : queues.state = .stop) (owned : after.Owned)
      (running : after.state = .running) : SetupEnd queues true true .success after

private theorem setup_end {queues : DeviceQueues} (owned : queues.Owned) (empty : queues.state = .stop → queues.Empty)
    (registry : Registry) (mqes : BitVec 16) (mapped admQueueOK : Bool) :
    queues.SetupEnd mapped admQueueOK (queues.setup registry mqes mapped admQueueOK).1
      (queues.setup registry mqes mapped admQueueOK).2 := by
  unfold setup
  split
  · next refused => exact .refused refused mapped admQueueOK
  · next accepted =>
    have stopped : queues.state = .stop := by simpa using accepted
    have fresh : (queues.setState .setup).initVars.Owned :=
      initVars_owned (owned.congr rfl rfl rfl) ⟨(empty stopped).admQueue, (empty stopped).ioQueue⟩
    cases mapped with
    | false => exact .unmapped admQueueOK stopped (fresh.congr rfl rfl rfl) ⟨rfl, fun _ => rfl⟩ rfl
    | true =>
      cases admQueueOK with
      | false => exact .broken stopped (Option.some_ne_none queues.created) rfl
      | true =>
        have created := createAdmQ_owned fresh true
        exact .ready stopped (created.congr rfl rfl rfl) rfl

end DeviceQueues

namespace Driver

private theorem registerFrom_queues {replies : PairReplies} {status : NtStatus} {left : Nat} :
    ∀ {driver after : Driver} {index : Nat}, driver.registerFrom replies index left = some (status, after) →
      ∃ count, after.queues = { driver.queues with registeredIoQ := count } := by
  induction left with
  | zero =>
    intro driver after index returned
    cases returned
    exact ⟨driver.queues.registeredIoQ, rfl⟩
  | succ left ih =>
    intro driver after index returned
    simp only [registerFrom] at returned
    split at returned
    · cases returned
    · split at returned
      · cases returned
      · split at returned
        · cases returned
          exact ⟨_, rfl⟩
        · cases returned
          exact ⟨_, rfl⟩
        · split at returned
          · cases returned
            exact ⟨_, rfl⟩
          · cases returned
            exact ⟨_, rfl⟩
          · obtain ⟨count, same⟩ := ih returned
            exact ⟨count, same⟩

theorem registerIoQueues_queues {driver after : Driver} {replies : PairReplies} {status : NtStatus}
    (returned : driver.registerIoQueues replies = some (status, after)) :
    ∃ count, after.queues = { driver.queues with registeredIoQ := count } := by
  simp only [registerIoQueues, Option.map_eq_some_iff] at returned
  obtain ⟨⟨result, last⟩, looped, same⟩ := returned
  cases same
  split at looped
  · cases looped
    exact ⟨_, rfl⟩
  · exact registerFrom_queues looped

theorem setNumberOfIoQueue_queues (driver : Driver) (reply : AdminReply) :
    ∃ params, (driver.setNumberOfIoQueue reply).2.queues = { driver.queues with params := params } := by
  unfold setNumberOfIoQueue
  split
  · exact ⟨_, rfl⟩
  · split
    · exact ⟨_, rfl⟩
    · split <;> exact ⟨_, rfl⟩

private theorem createIoQ_owned {driver after : Driver} {setups : Nat → NtStatus} {status : NtStatus}
    (owned : driver.queues.Owned) (returned : driver.createIoQ setups = some (status, after)) :
    after.queues.Owned ∧ after.queues.state = driver.queues.state := by
  simp only [createIoQ, Option.map_eq_some_iff] at returned
  obtain ⟨⟨result, queues⟩, created, same⟩ := returned
  cases same
  obtain ⟨kept, state, _⟩ := DeviceQueues.createIoQFrom_owned owned created
  exact ⟨kept, state⟩

private theorem createIoQueues_owned {driver after : Driver} {reply : AdminReply} {setups : Nat → NtStatus} {status : NtStatus}
    (owned : driver.queues.Owned) (returned : driver.createIoQueues false reply setups = some (status, after)) :
    after.queues.Owned ∧ after.queues.state = driver.queues.state := by
  simp only [createIoQueues, Bool.false_eq_true, if_false] at returned
  split at returned
  · obtain ⟨params, same⟩ := driver.setNumberOfIoQueue_queues reply
    have kept : (driver.setNumberOfIoQueue reply).2.queues.Owned := by
      rw [same]
      exact owned.congr rfl rfl rfl
    have state : (driver.setNumberOfIoQueue reply).2.queues.state = driver.queues.state := by rw [same]
    split at returned
    · cases returned
      exact ⟨kept, state⟩
    · obtain ⟨last, unchanged⟩ := createIoQ_owned kept returned
      exact ⟨last, unchanged.trans state⟩
  · exact createIoQ_owned owned returned

/-- Passive initialisation adds objects to a working device and leaves its state
alone; of any other device it changes nothing. -/
theorem hwPassiveInitialize_owned {driver after : Driver} {input : PassiveInitializeInput} {started : Bool}
    (owned : driver.queues.Owned) (returned : driver.hwPassiveInitialize input = some (started, after)) :
    after.queues.Owned ∧ after.queues.state = .running ∨ after = driver := by
  simp only [hwPassiveInitialize] at returned
  split at returned
  · cases returned
    exact .inr rfl
  · next working =>
    have running : driver.queues.state = .running := by simpa [isWorking, DeviceQueues.isWorking] using working
    split at returned
    · cases returned
      exact .inr rfl
    · split at returned
      · cases returned
        exact .inr rfl
      · split at returned
        · cases returned
        · next created =>
          obtain ⟨kept, state⟩ := createIoQueues_owned owned created
          split at returned
          · cases returned
            exact .inl ⟨kept, state.trans running⟩
          · split at returned
            · cases returned
            · next registered =>
              cases returned
              obtain ⟨count, same⟩ := registerIoQueues_queues registered
              rw [same]
              exact .inl ⟨kept.congr rfl rfl rfl, state.trans running⟩

private theorem initController_owned {driver : Driver} (owned : driver.queues.Owned) (reply : InitReply) :
    (driver.initController reply).2.queues.Owned ∧
      (driver.initController reply).2.queues.state = driver.queues.state := by
  unfold initController
  split
  · exact ⟨owned, rfl⟩
  · exact ⟨owned.congr rfl rfl rfl, rfl⟩

/-- How `HwFindAdapter` ends where it returns. `refused` is a device that is not
stopped, and `broken` one whose admin queue failed. -/
inductive FindEnd (driver : Driver) (input : FindAdapterInput) : Bool → Driver → Prop where
  | refused (status : driver.queues.state ≠ .stop) : FindEnd driver input false driver.teardown
  | broken {after : Driver} (stopped : driver.queues.state = .stop) (mapped : input.mapped = true)
      (failed : input.admQueueOK = false) (left : after.queues.admQueue ≠ none) : FindEnd driver input false after
  | torn {after : Driver} (stopped : driver.queues.state = .stop) (whole : input.mapped = true → input.admQueueOK = true)
      (owned : after.queues.Owned) (clean : after.queues.Clean) : FindEnd driver input false after
  | found {after : Driver} (stopped : driver.queues.state = .stop) (whole : input.mapped = true → input.admQueueOK = true)
      (owned : after.queues.Owned) (running : after.queues.state = .running) : FindEnd driver input true after

theorem hwFindAdapter_end {driver after : Driver} {input : FindAdapterInput} {found : Bool}
    (owned : driver.queues.Owned) (empty : driver.queues.state = .stop → driver.queues.Empty)
    (returned : driver.hwFindAdapter input = some (found, after)) : driver.FindEnd input found after := by
  have ended := DeviceQueues.setup_end owned empty input.registry input.mqes input.mapped input.admQueueOK
  simp only [hwFindAdapter] at returned
  generalize result : driver.queues.setup input.registry input.mqes input.mapped input.admQueueOK = outcome at ended returned
  obtain ⟨status, queues⟩ := outcome
  generalize mapping : input.mapped = mapped at ended
  generalize admin : input.admQueueOK = admQueueOK at ended
  cases ended with
  | refused refused =>
    cases returned
    exact .refused refused
  | unmapped _ stopped kept nothing same =>
    cases returned
    have idle : queues.state ≠ .running := by
      rw [same]
      decide
    have left : (Driver.teardown { driver with queues := queues }).queues = queues := DeviceQueues.teardown_of_ne idle
    refine .torn stopped (fun present => absurd (mapping.symm.trans present) (by simp)) ?_ ?_
    · rw [left]
      exact kept
    · rw [left]
      exact kept.clean nothing same
  | broken stopped left same =>
    cases returned
    have idle : queues.state ≠ .running := by
      rw [same]
      decide
    refine .broken stopped mapping admin ?_
    show queues.teardown.admQueue ≠ none
    rw [DeviceQueues.teardown_of_ne idle]
    exact left
  | ready stopped kept running =>
    have whole : input.mapped = true → input.admQueueOK = true := fun _ => admin
    have succeeded : NtStatus.success.ntSuccess = true := rfl
    have ready : ({ driver with queues := queues } : Driver).queues.Owned := kept
    simp only [succeeded, Bool.not_true, Bool.false_eq_true, if_false] at returned
    split at returned
    · cases returned
    · next reply _ =>
      obtain ⟨still, same⟩ := initController_owned ready reply
      obtain ⟨tornOwned, tornClean⟩ := DeviceQueues.teardown_clean still (same.trans running)
      split at returned
      · cases returned
        exact .torn stopped whole tornOwned tornClean
      · split at returned
        · cases returned
          exact .torn stopped whole tornOwned tornClean
        · cases returned
          exact .found stopped whole still (same.trans running)

end Driver

namespace Lifecycle

/-! What a call has asked for and does, one lemma for each. -/

section Calls
variable {before after : Lifecycle}

theorem step_findAdapter {input : Driver.FindAdapterInput} (taken : before.step (.findAdapter input) = some after) :
    ∃ found driver, before.driver.hwFindAdapter input = some (found, driver) ∧
      { before with driver := driver, phase := if found then .found else .idle } = after := by
  simp only [step, Option.map_eq_some_iff] at taken
  obtain ⟨⟨found, driver⟩, returned, same⟩ := taken
  exact ⟨found, driver, returned, same⟩

theorem step_passiveInitialize {input : Driver.PassiveInitializeInput}
    (taken : before.step (.passiveInitialize input) = some after) :
    before.phase = .found ∧ ∃ started driver, before.driver.hwPassiveInitialize input = some (started, driver) ∧
      { before with driver := driver, phase := if started then .started else .idle } = after := by
  simp only [step] at taken
  split at taken
  · next found =>
    simp only [Option.map_eq_some_iff] at taken
    obtain ⟨⟨started, driver⟩, returned, same⟩ := taken
    exact ⟨found, started, driver, returned, same⟩
  · cases taken

theorem step_removeDevice {bugCheck : Bool} (taken : before.step (.removeDevice bugCheck) = some after) :
    bugCheck = false ∧ before.withQueues before.queues.shutdownController.teardown = after := by
  cases bugCheck with
  | false => exact ⟨rfl, Option.some.inj taken⟩
  | true => cases taken

/-- A device that works is running, as a reset does not begin twice. -/
theorem step_resetBusBegin (taken : before.step .resetBusBegin = some after) :
    before.resetting = false ∧ (before = after ∨ before.queues.state = .running ∧
      { before.withQueues (before.queues.setState .resetbus) with resetting := true } = after) := by
  simp only [step] at taken
  split at taken
  · cases taken
  · next calm =>
    refine ⟨Bool.eq_false_iff.mpr calm, ?_⟩
    split at taken
    · exact .inl (Option.some.inj taken)
    · next active =>
      refine .inr ⟨?_, Option.some.inj taken⟩
      simp only [DeviceQueues.isWorking, Bool.or_eq_true, Bool.not_eq_true', not_or, Bool.not_eq_false,
        beq_iff_eq] at active
      exact active.1

theorem step_resetBusEnd (taken : before.step .resetBusEnd = some after) :
    before.resetting = true ∧
      { before.withQueues (before.queues.setState .running) with resetting := false } = after := by
  simp only [step] at taken
  split at taken
  · next resetting => exact ⟨resetting, Option.some.inj taken⟩
  · cases taken

end Calls

def answeredSuccess (dw0 : BitVec 32) : AdminReply := .answered ⟨false, 0, 0⟩ dw0

def sampleFind : Driver.FindAdapterInput := ⟨⟨none, none, some 2⟩, 1023, true, true, some ⟨.success, true⟩, .success⟩

def samplePassiveInitialize : Driver.PassiveInitializeInput :=
  ⟨.success, .success, answeredSuccess 1, fun _ => .success, fun _ => (answeredSuccess 0, answeredSuccess 0)⟩

end Lifecycle

end SpcNvme
