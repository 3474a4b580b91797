import SpcNvme.Doorbells
import SpcNvme.Proofs.QueueArray

/-! Which doorbells and which interrupt message belong to a queue, in every state
that the entry points lead to. -/

namespace SpcNvme

/-- What a queue of a slot needs of the object it is in: the admin queue is slot 0, and
`IoQueue[i]` slot `i + 1`. -/
structure QueueAligned (dstrd : BitVec 4) (queues : DeviceQueues) (bar0Size : BitVec 32) (slot object : Nat)
    (rings : QueueRings) : Prop where
  qid : rings.request.qid.toNat = slot
  subDbl : rings.subDbl = some (0x1000 + 2 * slot * (4 <<< dstrd.toNat))
  cplDbl : rings.cplDbl = some (0x1000 + (2 * slot + 1) * (4 <<< dstrd.toNat))
  inside : ∀ doorbell, rings.Uses doorbell → doorbell + 4 ≤ bar0Size.toNat
  scheduled : ∀ srbext cplQPA, queues.nvmeMsixISR (rings.vector srbext cplQPA).toNat =
    if queues.isWorking then some object else none

namespace WiredLifecycle

/-- Every queue that exists has its own doorbells and its own vector. -/
structure Aligned (wired : WiredLifecycle) (dstrd : BitVec 4) : Prop where
  each : ∀ slot object, wired.queues.slot slot = some object → ∃ rings, wired.wiring.objects object = some rings ∧
    QueueAligned dstrd wired.queues wired.wiring.bar0Size slot object rings
  unshared : ∀ slot object other elsewhere, wired.queues.slot slot = some object →
    wired.queues.slot other = some elsewhere → slot ≠ other →
    ∀ rings others, wired.wiring.objects object = some rings → wired.wiring.objects elsewhere = some others →
      ∀ doorbell, rings.Uses doorbell → ¬ others.Uses doorbell

/-- Without a stride the doorbells of so many queues fit the registers. -/
def Fits (wired : WiredLifecycle) (dstrd : BitVec 4) : Prop :=
  wired.queues.admQueue = none ∨
    dstrd = 0 ∧ doorbellsOffset + 8 * (wired.queues.allocatedIoQ.toNat + 1) ≤ wired.wiring.bar0Size.toNat

end WiredLifecycle

namespace Wiring

/-- The object of a slot got the doorbells of the slot, as if there were no stride. -/
def Rings (wiring : Wiring) (slot object : Nat) : Prop :=
  ∃ queue, wiring.objects object = some queue ∧ queue.request.qid.toNat = slot ∧ (queue.type = .admQueue ↔ slot = 0) ∧
    queue.subDbl = some (doorbellsOffset + 8 * slot) ∧ queue.cplDbl = some (doorbellsOffset + 8 * slot + 4)

theorem Rings.put {wiring : Wiring} {slot object new : Nat} {queue : QueueRings} (rings : wiring.Rings slot object)
    (different : object ≠ new) : (wiring.put new queue).Rings slot object := by
  obtain ⟨held, present, others⟩ := rings
  exact ⟨held, (Function.update_of_ne different ..).trans present, others⟩

private theorem getQueueDbl_eq {wiring : Wiring} (mapped : wiring.doorbells = some doorbellsOffset) (qid : BitVec 16) :
    wiring.getQueueDbl (qid.setWidth 32) =
      (some (doorbellsOffset + 8 * qid.toNat), some (doorbellsOffset + 8 * qid.toNat + 4)) := by
  have bounded := qid.isLt
  have double : (qid.setWidth 32 * 2).toNat = 2 * qid.toNat := by
    rw [BitVec.toNat_mul, BitVec.toNat_setWidth]
    show _ % _ * 2 % _ = _
    omega
  have next : (qid.setWidth 32 * 2 + 1).toNat = 2 * qid.toNat + 1 := by
    rw [BitVec.toNat_add, double]
    show (_ + 1) % _ = _
    omega
  simp only [getQueueDbl, mapped, double, next, Prod.mk.injEq, Option.some.injEq]
  omega

end Wiring

structure Wired (queues : DeviceQueues) (wiring : Wiring) : Prop where
  filled : queues.Filled
  issued : ∀ slot object, queues.slot slot = some object → object < queues.created
  rings : ∀ slot object, queues.slot slot = some object → wiring.Rings slot object
  admin : ∀ index, queues.ioQueue index ≠ none → queues.admQueue ≠ none
  ready : queues.state = .running ∨ queues.state = .resetbus →
    wiring.doorbells = some doorbellsOffset ∧ queues.admQueue ≠ none

namespace Wired
variable {queues other after : DeviceQueues} {wiring : Wiring}

theorem congr (wired : Wired queues wiring) (admQueue : other.admQueue = queues.admQueue)
    (ioQueue : other.ioQueue = queues.ioQueue) (created : other.created = queues.created)
    (allocated : other.allocatedIoQ = queues.allocatedIoQ) (state : other.state = queues.state) : Wired other wiring := by
  have slots : other.slot = queues.slot := by
    funext slot
    cases slot with
    | zero => exact admQueue
    | succ index => exact congrFun ioQueue index
  refine ⟨wired.filled.congr allocated ioQueue, ?_, ?_, ?_, ?_⟩
  · rw [slots, created]
    exact wired.issued
  · rw [slots]
    exact wired.rings
  · rw [ioQueue, admQueue]
    exact wired.admin
  · rw [state, admQueue]
    exact wired.ready

theorem setState (wired : Wired queues wiring) {state : NvmeState}
    (ready : state = .running ∨ state = .resetbus → wiring.doorbells = some doorbellsOffset ∧ queues.admQueue ≠ none) :
    Wired (queues.setState state) wiring :=
  ⟨wired.filled.congr rfl rfl, wired.issued, wired.rings, wired.admin, ready⟩

theorem of_empty (empty : queues.Empty) (allocated : queues.allocatedIoQ = 0)
    (idle : ¬ (queues.state = .running ∨ queues.state = .resetbus)) (wiring : Wiring) : Wired queues wiring := by
  refine ⟨.of_empty allocated empty.ioQueue, ?_, ?_, ?_, fun busy => absurd busy idle⟩
  · intro slot object held
    cases (empty.slot slot).symm.trans held
  · intro slot object held
    cases (empty.slot slot).symm.trans held
  · intro index held
    exact absurd (empty.ioQueue index) held

theorem teardown (wired : Wired queues wiring) : Wired queues.teardown wiring := by
  cases working : queues.isWorking with
  | false =>
    have same : queues.teardown = queues := by simp [DeviceQueues.teardown, working]
    rw [same]
    exact wired
  | true =>
    have filled := DeviceQueues.teardown_filled wired.filled
    have none := (Driver.teardown_forgets working).2.2
    have empty : queues.teardown.Empty := by
      refine ⟨?_, none⟩
      simp only [DeviceQueues.teardown, working, Bool.not_true, Bool.false_eq_true, if_false, DeviceQueues.setState,
        DeviceQueues.deleteAdmQ]
      split
      · next missing => exact missing
      · rfl
    have stopped : queues.teardown.state = .stop := by
      simp only [DeviceQueues.teardown, working, Bool.not_true, Bool.false_eq_true, if_false]
      rfl
    exact of_empty empty (filled.allocatedIoQ_eq_zero none) (by simp [stopped]) wiring

theorem issue (wired : Wired queues wiring) (rings : QueueRings) :
    Wired { queues with created := queues.created + 1 } (wiring.put queues.created rings) := by
  refine ⟨wired.filled.congr rfl rfl, ?_, ?_, wired.admin, wired.ready⟩
  · intro slot object held
    exact Nat.lt_succ_of_lt (wired.issued slot object held)
  · intro slot object held
    have old := wired.issued slot object held
    exact (wired.rings slot object held).put (Nat.ne_of_lt old)

theorem fill (wired : Wired queues wiring) {index object : Nat} (inside : index < maxIoQueueCount)
    (first : queues.allocatedIoQ.toNat = index) (issued : object < queues.created)
    (rings : wiring.Rings (index + 1) object) (admin : queues.admQueue ≠ none) :
    Wired { queues with
      ioQueue := Function.update queues.ioQueue index (some object)
      allocatedIoQ := queues.allocatedIoQ + 1 } wiring := by
  have slots : ∀ {slot found : Nat}, Function.update queues.slot (index + 1) (some object) slot = some found →
      slot = index + 1 ∧ found = object ∨ queues.slot slot = some found := by
    intro slot found held
    by_cases here : slot = index + 1
    · rw [here, Function.update_self] at held
      exact .inl ⟨here, (Option.some.inj held).symm⟩
    · rw [Function.update_of_ne here] at held
      exact .inr held
  have table := DeviceQueues.slot_update_ioQueue { queues with allocatedIoQ := queues.allocatedIoQ + 1 } index (some object)
  refine ⟨wired.filled.put inside first rfl rfl, ?_, ?_, fun _ _ => admin, wired.ready⟩
  · intro slot found held
    rw [table] at held
    obtain ⟨_, same⟩ | held := slots held
    · exact same ▸ issued
    · exact wired.issued slot found held
  · intro slot found held
    rw [table] at held
    obtain ⟨rfl, rfl⟩ | held := slots held
    · exact rings
    · exact wired.rings slot found held

private theorem createIoQ_qid (params : QueueParams) {index : Nat} (inside : index < maxIoQueueCount) :
    (QueuePairRequest.createIoQ params (BitVec.ofNat 16 index)).qid.toNat = index + 1 := by
  have one : (1 : BitVec 16).toNat = 1 := rfl
  simp only [maxIoQueueCount] at inside
  simp only [QueuePairRequest.createIoQ, BitVec.toNat_add, BitVec.toNat_ofNat, one]
  omega

/-- The loop of `CreateIoQ` gives every new queue its own doorbells. -/
theorem createIoQFrom {setups : Nat → NtStatus} {status : NtStatus} {left : Nat} :
    ∀ {queues : DeviceQueues} {wiring : Wiring} {index : Nat}, Wired queues wiring → index ≤ queues.allocatedIoQ.toNat →
      wiring.doorbells = some doorbellsOffset → queues.admQueue ≠ none →
      queues.createIoQFrom setups index left = some (status, after) →
      Wired after (wiring.createIoQFrom queues setups index left) := by
  induction left with
  | zero =>
    intro queues wiring index wired _ _ _ returned
    cases returned
    exact wired
  | succ left ih =>
    intro queues wiring index wired upTo mapped admin returned
    simp only [DeviceQueues.createIoQFrom] at returned
    simp only [Wiring.createIoQFrom]
    split at returned
    · cases returned
    · next inside =>
      have inside := Nat.lt_of_not_le inside
      rw [if_neg (Nat.not_le_of_lt inside)]
      cases held : queues.ioQueue index with
      | some object =>
        simp only [held] at returned ⊢
        have below := (wired.filled.held index).mp (by simp [held])
        exact ih wired below mapped admin returned
      | none =>
        simp only [held] at returned ⊢
        cases ready : (setups index).ntSuccess with
        | false =>
          simp only [ready, Bool.not_false, if_true] at returned ⊢
          cases returned
          exact (wired.issue _).congr rfl rfl rfl rfl rfl
        | true =>
          simp only [ready, Bool.not_true, Bool.false_eq_true, if_false] at returned ⊢
          have above : ¬ index < queues.allocatedIoQ.toNat := by
            rw [← wired.filled.held, held]
            exact Bool.false_ne_true
          have first : queues.allocatedIoQ.toNat = index := by omega
          have qid := createIoQ_qid queues.params inside
          rw [wiring.getQueueDbl_eq mapped, qid]
          refine ih ((wired.issue _).fill inside first (Nat.lt_succ_self _) ?_ admin) ?_ mapped admin returned
          · have type : QueueType.ioQueue ≠ .admQueue := by simp
            exact ⟨_, Function.update_self .., qid, iff_of_false type (Nat.succ_ne_zero index), rfl, rfl⟩
          · exact Nat.le_of_eq (DeviceQueues.allocatedIoQ_succ inside first).symm

theorem setup (wired : Wired queues wiring) (registry : Registry) (mqes : BitVec 16) (resources : BusResources)
    (admQueueOK : Bool) :
    Wired (queues.setup registry mqes resources.mapped.isSome admQueueOK).2 (wiring.setup queues registry mqes resources) := by
  unfold DeviceQueues.setup Wiring.setup
  split
  · exact wired
  · cases mapped : resources.mapped with
    | none =>
      refine of_empty ⟨rfl, fun _ => rfl⟩ rfl ?_ _
      exact nofun
    | some range =>
      -- the state alone tells whether the new object's own setup succeeded
      have fresh : ∀ (queues : DeviceQueues) (started : Wiring), queues.allocatedIoQ = 0 →
          (∀ index, queues.ioQueue index = none) → started.doorbells = some doorbellsOffset →
          Wired { queues with admQueue := some queues.created, created := queues.created + 1 }
            (started.createAdmQ queues.created (.setup registry mqes)) := by
        intro queues started allocated empty mapped
        have doorbells := started.getQueueDbl_eq mapped 0
        refine ⟨.of_empty allocated empty, ?_, ?_, ?_, fun _ => ⟨mapped, nofun⟩⟩
        · intro slot object held
          cases slot with
          | zero => exact Option.some.inj held ▸ Nat.lt_succ_self _
          | succ index => cases (empty index).symm.trans held
        · intro slot object held
          cases slot with
          | zero =>
            obtain rfl := Option.some.inj held
            refine ⟨_, Function.update_self .., rfl, iff_of_true rfl rfl, ?_, ?_⟩
            · exact congrArg Prod.fst doorbells
            · exact congrArg Prod.snd doorbells
          | succ index => cases (empty index).symm.trans held
        · exact fun _ _ => nofun
      have created := fresh { (queues.setState .setup).initVars with params := .setup registry mqes }
        { wiring with doorbells := some doorbellsOffset, bar0Size := range.rangeLength } rfl (fun _ => rfl) rfl
      cases admQueueOK with
      | false => exact created
      | true => exact created.setState fun _ => ⟨rfl, nofun⟩

theorem createIoQ {driver after : Driver} {setups : Nat → NtStatus} {status : NtStatus} (wired : Wired driver.queues wiring)
    (mapped : wiring.doorbells = some doorbellsOffset) (admin : driver.queues.admQueue ≠ none)
    (returned : driver.createIoQ setups = some (status, after)) :
    Wired after.queues (wiring.createIoQ driver.queues setups) := by
  simp only [Driver.createIoQ, Option.map_eq_some_iff] at returned
  obtain ⟨⟨result, queues⟩, created, same⟩ := returned
  cases same
  exact wired.createIoQFrom (Nat.zero_le _) mapped admin created

theorem createIoQueues {driver after : Driver} {reply : AdminReply} {setups : Nat → NtStatus} {status : NtStatus}
    (wired : Wired driver.queues wiring) (mapped : wiring.doorbells = some doorbellsOffset)
    (admin : driver.queues.admQueue ≠ none)
    (returned : driver.createIoQueues false reply setups = some (status, after)) :
    Wired after.queues (wiring.createIoQueues driver reply setups) := by
  simp only [Driver.createIoQueues, Bool.false_eq_true, if_false] at returned
  unfold Wiring.createIoQueues
  by_cases unasked : driver.queues.params.desiredIoQ = 0
  · rw [if_pos unasked] at returned ⊢
    obtain ⟨params, same⟩ := driver.setNumberOfIoQueue_queues reply
    have kept : Wired (driver.setNumberOfIoQueue reply).2.queues wiring := by
      rw [same]
      exact wired.congr rfl rfl rfl rfl rfl
    have still : (driver.setNumberOfIoQueue reply).2.queues.admQueue ≠ none := by
      rw [same]
      exact admin
    cases granted : (driver.setNumberOfIoQueue reply).1.ntSuccess with
    | false =>
      simp only [granted, Bool.not_false, if_true] at returned ⊢
      cases returned
      exact kept
    | true =>
      simp only [granted, Bool.not_true, Bool.false_eq_true, if_false] at returned ⊢
      exact kept.createIoQ mapped still returned
  · rw [if_neg unasked] at returned ⊢
    exact wired.createIoQ mapped admin returned

theorem hwPassiveInitialize {driver after : Driver} {input : Driver.PassiveInitializeInput} {started : Bool}
    (wired : Wired driver.queues wiring) (returned : driver.hwPassiveInitialize input = some (started, after)) :
    Wired after.queues (wiring.hwPassiveInitialize driver input) := by
  simp only [Driver.hwPassiveInitialize] at returned
  unfold Wiring.hwPassiveInitialize
  cases working : driver.isWorking with
  | false =>
    simp only [working, Bool.not_false, if_true] at returned ⊢
    cases returned
    exact wired
  | true =>
    have running : driver.queues.state = .running := by simpa [Driver.isWorking, DeviceQueues.isWorking] using working
    obtain ⟨mapped, admin⟩ := wired.ready (.inl running)
    simp only [working, Bool.not_true, Bool.false_eq_true, if_false] at returned ⊢
    split at returned
    · next failed =>
      cases returned
      rw [if_pos failed]
      exact wired
    · next first =>
      rw [if_neg first]
      split at returned
      · next failed =>
        cases returned
        rw [if_pos failed]
        exact wired
      · next second =>
        rw [if_neg second]
        split at returned
        · cases returned
        · next created =>
          have kept := wired.createIoQueues mapped admin created
          split at returned
          · cases returned
            exact kept
          · split at returned
            · cases returned
            · next registered =>
              cases returned
              obtain ⟨count, same⟩ := Driver.registerIoQueues_queues registered
              rw [same]
              exact kept.congr rfl rfl rfl rfl rfl

theorem hwFindAdapter {driver after : Driver} {input : Driver.FindAdapterInput} {resources : BusResources} {found : Bool}
    (wired : Wired driver.queues wiring)
    (returned : driver.hwFindAdapter { input with mapped := resources.mapped.isSome } = some (found, after)) :
    Wired after.queues (wiring.setup driver.queues input.registry input.mqes resources) := by
  have started := wired.setup input.registry input.mqes resources input.admQueueOK
  simp only [Driver.hwFindAdapter] at returned
  generalize driver.queues.setup input.registry input.mqes resources.mapped.isSome input.admQueueOK = outcome at started returned
  obtain ⟨status, queues⟩ := outcome
  simp only at started returned
  split at returned
  · cases returned
    exact started.teardown
  · split at returned
    · cases returned
    · next reply _ =>
      have kept : ∀ {driver : Driver} {wiring : Wiring}, Wired driver.queues wiring →
          Wired (driver.initController reply).2.queues wiring := by
        intro driver wiring wired
        unfold Driver.initController
        split
        · exact wired
        · exact wired.congr rfl rfl rfl rfl rfl
      have initialised := @kept { driver with queues := queues } _ started
      split at returned
      · cases returned
        exact initialised.teardown
      · split at returned
        · cases returned
          exact initialised.teardown
        · cases returned
          exact initialised

theorem shutdownController (wired : Wired queues wiring) : Wired queues.shutdownController wiring := by
  unfold DeviceQueues.shutdownController
  split
  · exact wired
  · exact wired.setState nofun

end Wired

/-! During a bus reset no entry point changes the queues. -/

namespace Driver
variable {driver after : Driver}

private theorem hwFindAdapter_resetbus {input : FindAdapterInput} {found : Bool} (resetbus : driver.queues.state = .resetbus)
    (returned : driver.hwFindAdapter input = some (found, after)) : after = driver := by
  have refused : driver.queues.setup input.registry input.mqes input.mapped input.admQueueOK =
      (.invalidDeviceState, driver.queues) := by
    simp [DeviceQueues.setup, resetbus]
  have idle : driver.queues.state ≠ .running := by simp [resetbus]
  simp only [hwFindAdapter, refused] at returned
  cases returned
  simp only [teardown, DeviceQueues.teardown_of_ne idle]

private theorem hwPassiveInitialize_resetbus {input : PassiveInitializeInput} {started : Bool}
    (resetbus : driver.queues.state = .resetbus) (returned : driver.hwPassiveInitialize input = some (started, after)) :
    after = driver := by
  have idle : driver.isWorking = false := by simp [isWorking, DeviceQueues.isWorking, resetbus]
  simp only [hwPassiveInitialize, idle, Bool.not_false, if_true] at returned
  cases returned
  rfl

end Driver

private theorem DeviceQueues.shutdown_teardown_resetbus {queues : DeviceQueues} (resetbus : queues.state = .resetbus) :
    queues.shutdownController.teardown = queues := by
  have kept : queues.shutdownController = queues := by
    simp [shutdownController, isStop, isWorking, resetbus]
  rw [kept]
  exact teardown_of_ne (by simp [resetbus])

namespace WiredLifecycle

structure Kept (device : WiredLifecycle) : Prop where
  wired : Wired device.queues device.wiring
  resetting : device.life.resetting = true → device.queues.state = .resetbus

theorem initial_kept : initial.Kept where
  wired := by
    have idle : ¬ (NvmeState.stop = .running ∨ NvmeState.stop = .resetbus) := by simp
    exact .of_empty ⟨rfl, fun _ => rfl⟩ rfl idle _
  resetting := nofun

theorem step_kept {before after : WiredLifecycle} {event : WiredEvent} (kept : before.Kept)
    (taken : before.step event = some after) : after.Kept := by
  obtain ⟨event, resources⟩ := event
  cases event with
  | findAdapter input =>
    obtain ⟨life, stepped, rfl⟩ := Option.map_eq_some_iff.mp taken
    obtain ⟨found, driver, returned, rfl⟩ := Lifecycle.step_findAdapter stepped
    refine ⟨kept.wired.hwFindAdapter returned, ?_⟩
    intro resetting
    have state := kept.resetting resetting
    have unchanged := Driver.hwFindAdapter_resetbus state returned
    exact (congrArg (fun driver => driver.queues.state) unchanged).trans state
  | passiveInitialize input =>
    obtain ⟨life, stepped, rfl⟩ := Option.map_eq_some_iff.mp taken
    obtain ⟨_, started, driver, returned, rfl⟩ := Lifecycle.step_passiveInitialize stepped
    refine ⟨kept.wired.hwPassiveInitialize returned, ?_⟩
    intro resetting
    have state := kept.resetting resetting
    have unchanged := Driver.hwPassiveInitialize_resetbus state returned
    exact (congrArg (fun driver => driver.queues.state) unchanged).trans state
  | removeDevice bugCheck =>
    obtain ⟨life, stepped, rfl⟩ := Option.map_eq_some_iff.mp taken
    obtain ⟨_, rfl⟩ := Lifecycle.step_removeDevice stepped
    refine ⟨kept.wired.shutdownController.teardown, ?_⟩
    intro resetting
    have state := kept.resetting resetting
    show (before.queues.shutdownController.teardown).state = .resetbus
    rw [DeviceQueues.shutdown_teardown_resetbus state]
    exact state
  | surpriseRemoval =>
    cases taken
    refine ⟨kept.wired.teardown, ?_⟩
    intro resetting
    have state := kept.resetting resetting
    show before.queues.teardown.state = .resetbus
    rw [DeviceQueues.teardown_of_ne (by simp [state])]
    exact state
  | resetBusBegin =>
    obtain ⟨life, stepped, rfl⟩ := Option.map_eq_some_iff.mp taken
    obtain ⟨_, rfl | ⟨running, rfl⟩⟩ := Lifecycle.step_resetBusBegin stepped
    · exact kept
    · exact ⟨kept.wired.setState fun _ => kept.wired.ready (.inl running), fun _ => rfl⟩
  | resetBusEnd =>
    obtain ⟨life, stepped, rfl⟩ := Option.map_eq_some_iff.mp taken
    obtain ⟨resetting, rfl⟩ := Lifecycle.step_resetBusEnd stepped
    have state := kept.resetting resetting
    refine ⟨kept.wired.setState fun _ => kept.wired.ready (.inr state), ?_⟩
    intro still
    cases still
  | powerCycle =>
    cases taken
    exact ⟨kept.wired, kept.resetting⟩

private theorem run_kept {final : WiredLifecycle} {events : List WiredEvent} (ran : Machine.run step initial events = some final) :
    final.Kept :=
  Machine.run_invariant_of_step (fun _ _ _ kept taken => step_kept kept taken) initial_kept ran

end WiredLifecycle

private theorem buildCmdRegIoCplQ_iv (srbext : SrbExt) (queue : QueuePairRequest) (cplQPA : BitVec 64) :
    (buildCmdRegIoCplQ srbext queue cplQPA).nvmeCmd.cdw11.extractLsb' 16 16 = queue.qid := by
  show (queue.qid ++ (0 : BitVec 14) ++ (1 : BitVec 1) ++ (1 : BitVec 1)).extractLsb' 16 16 = queue.qid
  ext bit inside
  have first : ¬ 16 + bit < 1 := by omega
  have second : ¬ 16 + bit - 1 < 1 := by omega
  have third : ¬ 16 + bit - 1 - 1 < 14 := by omega
  have place : 16 + bit - 1 - 1 - 14 = bit := by omega
  simp only [BitVec.getElem_extractLsb', BitVec.getLsbD_append, if_neg first, if_neg second, if_neg third, place]
  exact BitVec.getLsbD_eq_getElem inside

private theorem QueueRings.vector_toNat {queue : QueueRings} {slot : Nat} (qid : queue.request.qid.toNat = slot)
    (type : queue.type = .admQueue ↔ slot = 0) (srbext : SrbExt) (cplQPA : BitVec 64) :
    (queue.vector srbext cplQPA).toNat = slot := by
  unfold vector
  split
  · next admin => exact (type.mp admin).symm
  · rw [buildCmdRegIoCplQ_iv, qid]

private theorem DeviceQueues.nvmeMsixISR_slot {queues : DeviceQueues} {slot object : Nat} (held : queues.slot slot = some object) :
    queues.nvmeMsixISR slot = if queues.isWorking then some object else none := by
  have picked : (if slot = 0 then queues.admQueue else queues.ioQueue (slot - 1)) = some object := by
    cases slot with
    | zero => exact held
    | succ index => exact held
  unfold nvmeMsixISR
  rw [picked]
  cases queues.isWorking <;> simp

namespace Wired
variable {queues : DeviceQueues} {wiring : Wiring}

private theorem slot_le (wired : Wired queues wiring) {slot object : Nat} (held : queues.slot slot = some object) :
    slot ≤ queues.allocatedIoQ.toNat := by
  cases slot with
  | zero => exact Nat.zero_le _
  | succ index => exact (wired.filled.held index).mp (Option.isSome_of_mem held)

private theorem slot_last (wired : Wired queues wiring) (admin : queues.admQueue ≠ none) :
    ∃ object, queues.slot queues.allocatedIoQ.toNat = some object := by
  rw [← Option.isSome_iff_exists]
  cases count : queues.allocatedIoQ.toNat with
  | zero => exact Option.isSome_iff_ne_none.mpr admin
  | succ index => exact (wired.filled.held index).mpr (by omega)

/-- Without a stride and with room for it, the queue of a slot is aligned. -/
theorem queueAligned (wired : Wired queues wiring) {slot object : Nat} (held : queues.slot slot = some object)
    (room : doorbellsOffset + 8 * (queues.allocatedIoQ.toNat + 1) ≤ wiring.bar0Size.toNat) :
    ∃ rings, wiring.objects object = some rings ∧ QueueAligned 0 queues wiring.bar0Size slot object rings := by
  obtain ⟨rings, present, qid, type, subDbl, cplDbl⟩ := wired.rings slot object held
  have last := wired.slot_le held
  have stride : 4 <<< (0 : BitVec 4).toNat = 4 := rfl
  refine ⟨rings, present, qid, ?_, ?_, ?_, ?_⟩
  · rw [subDbl, stride, Option.some.injEq, doorbellsOffset]
    omega
  · rw [cplDbl, stride, Option.some.injEq, doorbellsOffset]
    omega
  · intro doorbell uses
    obtain uses | uses := uses
    · obtain rfl := Option.some.inj (subDbl.symm.trans uses)
      omega
    · obtain rfl := Option.some.inj (cplDbl.symm.trans uses)
      omega
  · intro srbext cplQPA
    rw [rings.vector_toNat qid type, DeviceQueues.nvmeMsixISR_slot held]

end Wired

private theorem Wiring.Rings.unshared {wiring : Wiring} {slot object other elsewhere : Nat} (here : wiring.Rings slot object)
    (there : wiring.Rings other elsewhere) (different : slot ≠ other) {rings others : QueueRings}
    (present : wiring.objects object = some rings) (found : wiring.objects elsewhere = some others) (doorbell : Nat)
    (uses : rings.Uses doorbell) : ¬ others.Uses doorbell := by
  obtain ⟨_, same, _, _, subDbl, cplDbl⟩ := here
  obtain rfl := Option.some.inj (same.symm.trans present)
  obtain ⟨_, same, _, _, otherSubDbl, otherCplDbl⟩ := there
  obtain rfl := Option.some.inj (same.symm.trans found)
  intro shares
  simp only [QueueRings.Uses, subDbl, cplDbl, otherSubDbl, otherCplDbl, Option.some.injEq] at uses shares
  omega

namespace WiredLifecycle

private theorem stride_eq_zero {dstrd : BitVec 4} (same : doorbellsOffset + 8 * 0 + 4 = 0x1000 + (2 * 0 + 1) * (4 <<< dstrd.toNat)) :
    dstrd = 0 := by
  have stride : 4 * 2 ^ dstrd.toNat = 4 := by
    rw [Nat.shiftLeft_eq, doorbellsOffset] at same
    omega
  have power : 2 ^ dstrd.toNat = 2 ^ 0 := by omega
  exact BitVec.eq_of_toNat_eq (Nat.pow_right_injective (Nat.le_refl 2) power)

/-- In every state that the entry points lead to, every queue has its doorbells and its vector exactly if there
is none, or the controller has no stride and the registers hold the doorbells of the queues. -/
theorem run_aligned_iff {final : WiredLifecycle} {events : List WiredEvent}
    (ran : Machine.run step initial events = some final) (dstrd : BitVec 4) :
    final.Aligned dstrd ↔ final.Fits dstrd := by
  have wired := (run_kept ran).wired
  constructor
  · intro aligned
    by_cases admin : final.queues.admQueue = none
    · exact .inl admin
    · right
      have zero : dstrd = 0 := by
        obtain ⟨object, held⟩ := Option.ne_none_iff_exists'.mp admin
        obtain ⟨rings, present, right⟩ := aligned.each 0 object held
        obtain ⟨_, same, _, _, _, cplDbl⟩ := wired.rings 0 object held
        obtain rfl := Option.some.inj (same.symm.trans present)
        exact stride_eq_zero (Option.some.inj (cplDbl.symm.trans right.cplDbl))
      obtain ⟨object, held⟩ := wired.slot_last admin
      obtain ⟨rings, present, right⟩ := aligned.each _ object held
      obtain ⟨_, same, _, _, _, cplDbl⟩ := wired.rings _ object held
      obtain rfl := Option.some.inj (same.symm.trans present)
      have inside := right.inside _ (.inr cplDbl)
      exact ⟨zero, by omega⟩
  · intro fits
    obtain none | ⟨zero, room⟩ := fits
    · have empty : final.queues.Empty := by
        refine ⟨none, ?_⟩
        intro index
        by_contra some
        exact wired.admin index some none
      refine ⟨?_, ?_⟩
      · intro slot object held
        cases (empty.slot slot).symm.trans held
      · intro slot object other elsewhere held
        cases (empty.slot slot).symm.trans held
    · subst zero
      refine ⟨fun slot object held => wired.queueAligned held room, ?_⟩
      intro slot object other elsewhere here there different rings others present found doorbell uses
      exact (wired.rings slot object here).unshared (wired.rings other elsewhere there) different present found doorbell uses

def sampleBus : BusResources := ⟨0xF0000004, 0, [⟨0xF0000000, 0x4000⟩], fun _ => true⟩

def sampleEvents : List WiredEvent :=
  [⟨.findAdapter ⟨⟨none, none, some 2⟩, 1023, true, true, some ⟨.success, true⟩, .success⟩, sampleBus⟩,
    ⟨.passiveInitialize ⟨.success, .success, Lifecycle.answeredSuccess 0, fun _ => .success,
      fun _ => (Lifecycle.answeredSuccess 0, Lifecycle.answeredSuccess 0)⟩, sampleBus⟩]

theorem run_aligned_sample : ∃ final, Machine.run step initial sampleEvents = some final ∧
    (final.Aligned 0 ↔ final.Fits 0) :=
  ⟨_, rfl, @run_aligned_iff _ sampleEvents rfl 0⟩

/-- A stride of eight bytes puts the completion doorbell of the admin queue elsewhere. -/
theorem run_misses_stride : ∃ final, Machine.run step initial sampleEvents = some final ∧ ¬ final.Aligned 1 := by
  refine ⟨_, rfl, ?_⟩
  intro aligned
  obtain ⟨rings, present, right⟩ := aligned.each 0 0 rfl
  obtain rfl := Option.some.inj present
  have cplDbl := right.cplDbl
  revert cplDbl
  decide

end WiredLifecycle

end SpcNvme
