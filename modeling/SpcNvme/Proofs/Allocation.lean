import SpcNvme.Allocation
import SpcNvme.ReplyWrites
import SpcNvme.Proofs.Buffers
import SpcNvme.Proofs.Entries
import SpcNvme.Proofs.IoctlAccess

/-! Which of the calls that allocate stand a shortage of memory. They should follow
no NULL pointer, submit no command whose PRPs could not be built, and fail. -/

namespace SpcNvme

def prpBuilt (memory : Memory) (buffer bufSize : Nat) : Bool := (buildPrp memory (.init none) .zero buffer bufSize).1

private theorem prpBuilt_eq_false {memory : Memory} {buffer bufSize : Nat} :
    prpBuilt memory buffer bufSize = false ↔
      getDistanceToNextPage buffer + pageSize < bufSize ∧ memory.prp2Pool = none := by
  simp only [prpBuilt, buildPrp]
  split
  · next inside => simp only [Bool.true_eq_false, false_iff]; omega
  · split
    · next short => simp only [Bool.true_eq_false, false_iff]; omega
    · next long =>
      have beyond : getDistanceToNextPage buffer + pageSize < bufSize := by omega
      cases present : memory.prp2Pool <;> simp [beyond]

/-- It does not depend on the extension or the command. -/
theorem buildPrp_fst (memory : Memory) (srbext : SrbExt) (cmd : NvmeCommand) (buffer bufSize : Nat) :
    (buildPrp memory srbext cmd buffer bufSize).1 = prpBuilt memory buffer bufSize := by
  simp only [prpBuilt, buildPrp]
  split
  · rfl
  · split
    · rfl
    · cases memory.prp2Pool <;> rfl

def SrbStatus.Fails (status : SrbStatus) : Prop := status ≠ .success ∧ status ≠ .pending

namespace Waiter

/-- The caller gave the address of a list that it could not allocate. -/
def listMissing : Waiter → Bool
  | identifyActiveNamespaceIdList _ nsidList _ => nsidList == 0
  | _ => false

def asks (waiter : Waiter) (host : Host) : Bool :=
  match waiter with
  | identifyController srbext .. | identifyNamespace srbext .. => host.device.isWorking && srbext.isNone
  | identifyActiveNamespaceIdList srbext nsidList _ => host.device.isWorking && nsidList != 0 && srbext.isNone
  | setNumberOfIoQueue _ => host.device.isWorking

def callAllocating (waiter : Waiter) (host : Host) (memory : Memory) (pool : Option Nat) (stalls : List (Host → Host)) :
    Ending (NtStatus × Host) :=
  match waiter with
  | identifyController srbext ident poll => host.identifyControllerAllocating memory pool srbext ident poll stalls
  | identifyNamespace srbext nsid data => host.identifyNamespaceAllocating memory pool srbext nsid data stalls
  | identifyActiveNamespaceIdList srbext nsidList contents =>
      (host.identifyActiveNamespaceIdListAllocating memory pool srbext nsidList contents stalls).map
        fun (status, _, host) => (status, host)
  | setNumberOfIoQueue count => host.setNumberOfIoQueueAllocating pool count stalls

private theorem callAllocating_eq (waiter : Waiter) (host : Host) (memory : Memory) (pool : Option Nat)
    (stalls : List (Host → Host)) :
    waiter.callAllocating host memory pool stalls =
      .allocating (waiter.asks host) pool fun pool => waiter.call host memory pool stalls := by
  cases waiter with
  | identifyActiveNamespaceIdList srbext nsidList contents => exact Ending.map_allocating ..
  | _ => rfl

private theorem built_of_listMissing {waiter : Waiter} (missing : waiter.listMissing = true) (host : Host) (memory : Memory)
    (pool : Nat) : waiter.built host memory pool = none := by
  cases waiter with
  | identifyActiveNamespaceIdList srbext nsidList contents =>
    have null : nsidList = 0 := by simpa [listMissing] using missing
    simp [built, null]
  | _ => simp [listMissing] at missing

end Waiter

namespace BufferedCall

def buffer (host : Host) : BufferedCall → Option (Nat × Nat)
  | readWrite _ _ address _ => some ((host.heap.srbext address).dataBuf, (host.heap.srbext address).dataBufLen.toNat)
  | wait (.identifyController _ ident _) _ => some (ident, sizeofIdentifyData)
  | wait (.identifyNamespace _ _ data) _ => some (data, sizeofIdentifyData)
  | wait (.identifyActiveNamespaceIdList _ nsidList _) _ => some (nsidList, pageSize)
  | wait (.setNumberOfIoQueue _) _ => none
  | firmwareGetInfo _ logpage => some (logpage, sizeofFirmwareSlotInfoLog)

structure LosesPrp (call : BufferedCall) (host : Host) (memory : Memory) : Prop where
  builds : (call.built host memory).isSome = true
  fails : ∃ buffer bufSize, call.buffer host = some (buffer, bufSize) ∧ prpBuilt memory buffer bufSize = false

structure SendsHalfBuilt (call : BufferedCall) (host : Host) (memory : Memory) : Prop where
  loses : call.LosesPrp host memory
  accepted : ∃ address ready, call.built host memory = some (address, ready) ∧
    call.Accepted ready (ready.heap.srbext address).nvmeCmd

private theorem readWrite_built_eq (host : Host) (memory : Memory) (format : CdbFormat) (isWrite : Bool) (address processor : Nat) :
    (readWrite format isWrite address processor).built host memory =
      if host.device.isInValidIoRange ((host.heap.srbext address).lun.setWidth 32 + 1)
          (format.parse (host.heap.srbext address).cdb).1 (format.parse (host.heap.srbext address).cdb).2 = false then none
      else some (address, host.putSrbExt address (buiildCmdReadWrite memory (host.heap.srbext address)
        (format.parse (host.heap.srbext address).cdb).1 (format.parse (host.heap.srbext address).cdb).2 isWrite)) := by
  simp only [built, Bool.not_eq_true']

private theorem not_losesPrp {call : BufferedCall} {host : Host}
    (small : ∀ buffer bufSize, call.buffer host = some (buffer, bufSize) → bufSize ≤ pageSize) (memory : Memory) :
    ¬ call.LosesPrp host memory := by
  intro loses
  obtain ⟨buffer, bufSize, present, fails⟩ := loses.fails
  have long := (prpBuilt_eq_false.mp fails).1
  have fits := small buffer bufSize present
  omega

private theorem wait_not_losesPrp (waiter : Waiter) (pool : Nat) (host : Host) (memory : Memory) :
    ¬ (wait waiter pool).LosesPrp host memory := by
  apply not_losesPrp
  intro buffer bufSize present
  cases waiter <;> cases present <;> exact Nat.le_refl _

private theorem firmwareGetInfo_not_losesPrp (address logpage : Nat) (host : Host) (memory : Memory) :
    ¬ (firmwareGetInfo address logpage).LosesPrp host memory := by
  apply not_losesPrp
  intro buffer bufSize present
  cases present
  simp [sizeofFirmwareSlotInfoLog, pageSize]

end BufferedCall

namespace Host

private theorem submitIoCmd_fails_iff (host : Host) (address processor : Nat) :
    (∃ status after, host.submitIoCmd address processor = some (status, after) ∧ status.ntSuccess = false) ↔
      host.device.isWorking = false ∨ host.device.registeredIoQ ≠ 0 ∧
        ∃ queue, host.device.ioQueue (processor % host.device.registeredIoQ.toNat) = some queue ∧
          ¬ queue.accepts (host.heap.srbext address).nvmeCmd := by
  by_cases accepts : ∃ queue, host.AcceptsIo processor (host.heap.srbext address).nvmeCmd queue
  · obtain ⟨queue, accepts⟩ := accepts
    rw [submitIoCmd_accepts accepts]
    apply iff_of_false
    · intro failing
      obtain ⟨status, after, same, fails⟩ := failing
      cases same
      exact absurd fails (by simp [NtStatus.ntSuccess])
    · intro refused
      obtain stopped | ⟨_, other, selected, refuses⟩ := refused
      · exact Bool.false_ne_true (stopped.symm.trans accepts.working)
      · obtain rfl : queue = other := Option.some.inj (accepts.selected.symm.trans selected)
        exact refuses accepts.accepts
  · have refuses : ∀ queue, ¬ host.AcceptsIo processor (host.heap.srbext address).nvmeCmd queue :=
      fun queue taken => accepts ⟨queue, taken⟩
    cases working : host.device.isWorking with
    | false => simp [submitIoCmd, working, NtStatus.ntSuccess]
    | true =>
      by_cases registered : host.device.registeredIoQ = 0
      · simp [submitIoCmd, working, registered]
      cases selected : host.device.ioQueue (processor % host.device.registeredIoQ.toNat) with
      | none => simp [submitIoCmd, working, putSrbExt, selected]
      | some queue =>
        have refusesCmd : ¬ queue.accepts (host.heap.srbext address).nvmeCmd :=
          fun taken => refuses queue ⟨working, registered, selected, taken⟩
        refine iff_of_true ?_ (.inr ⟨registered, queue, rfl, refusesCmd⟩)
        obtain ⟨status, after, returned⟩ : ∃ status after, host.submitIoCmd address processor = some (status, after) := by
          simpa [submitIoCmd, working, putSrbExt, selected] using registered
        exact ⟨status, after, returned, (submitIoCmd_refuses refuses returned).1⟩

private theorem acceptedHeap_extBuf (queue : CNvmeQueue) (heap : Heap) (address : Nat) :
    ((acceptedHeap queue heap address).srbext address).extBuf = (heap.srbext address).extBuf := by
  have released : ((queue.releaseOld heap (heap.srbext address).nvmeCmd).srbext address).extBuf =
      (heap.srbext address).extBuf := by
    unfold CNvmeQueue.releaseOld
    split
    · rfl
    · next old _ =>
      by_cases same : address = old.address
      · subst same
        cases present : (heap.srbext old.address).srb <;> simp [SrbExt.completeSrb, present]
      · simp [same]
  simpa [acceptedHeap, CNvmeQueue.setSubIndex] using released

private theorem firmwareGetInfoCmd_extBuf (host : Host) (memory : Memory) (srbext : SrbExt) (logpage : Nat) :
    (host.firmwareGetInfoCmd memory srbext logpage).extBuf = some logpage := by
  have kept : ∀ cmd, (({ srbext.resetExtBuf (some logpage) with
      completionCB := some .completeFirmwareInfo } : SrbExt).withBuffer memory cmd logpage
        sizeofFirmwareSlotInfoLog).extBuf = some logpage := by
    intro cmd
    obtain ⟨prp1, prp2, freePrp2List, prp2VA, prp2List, prp2PA, built⟩ :=
      SrbExt.withBuffer_eq { srbext.resetExtBuf (some logpage) with
        completionCB := some .completeFirmwareInfo } memory cmd logpage sizeofFirmwareSlotInfoLog
    rw [built]
    rfl
  unfold firmwareGetInfoCmd
  dsimp only
  split
  · apply kept
  · apply kept

theorem firmwareGetInfoAllocating_some (host : Host) (memory : Memory) (address logpage : Nat) :
    host.firmwareGetInfoAllocating memory address (some logpage) = host.firmwareGetInfo memory address logpage := by
  have same : (host.firmwareGetInfoCmd memory (host.heap.srbext address) logpage).resetExtBuf (some logpage) =
      host.firmwareGetInfoCmd memory (host.heap.srbext address) logpage := by
    rw [← host.firmwareGetInfoCmd_extBuf memory (host.heap.srbext address) logpage]
    rfl
  simp only [firmwareGetInfoAllocating, Option.getD_some, same]
  rfl

/-- The request was submitted and stays as the submission left it, or it has failed. -/
theorem firmwareGetInfoAllocating_cases (host : Host) (memory : Memory) (address : Nat) (logpage : Option Nat) :
    (∃ queue, host.AcceptsAdm (host.firmwareGetInfoCmd memory (host.heap.srbext address) (logpage.getD 0)).nvmeCmd queue) ∧
      (∃ after, host.firmwareGetInfoAllocating memory address logpage = (.pending, after) ∧
        (after.heap.srbext address).extBuf = logpage) ∨
    (∀ queue, ¬ host.AcceptsAdm (host.firmwareGetInfoCmd memory (host.heap.srbext address) (logpage.getD 0)).nvmeCmd queue) ∧
      ∃ after, host.firmwareGetInfoAllocating memory address logpage = (.internalError, after) := by
  let srbext := (host.firmwareGetInfoCmd memory (host.heap.srbext address) (logpage.getD 0)).resetExtBuf logpage
  let ready := host.putSrbExt address srbext
  have built : ready.heap.srbext address = srbext := by simp [ready, putSrbExt]
  have called : host.firmwareGetInfoAllocating memory address logpage =
      (if (ready.submitAdmCmd address).1.ntSuccess then .pending else .internalError, (ready.submitAdmCmd address).2) := by
    simp only [firmwareGetInfoAllocating]
    split <;> simp_all [ready, srbext]
  rw [called]
  obtain ⟨queue, accepts, submitted⟩ | ⟨refuses, status, fails, submitted⟩ := ready.submitAdmCmd_spec address
  · rw [built] at accepts
    refine .inl ⟨⟨queue, accepts.working, accepts.selected, accepts.accepts⟩, ready.acceptedAdm address queue, ?_, ?_⟩
    · rw [submitted]
      rfl
    · exact (acceptedHeap_extBuf queue ready.heap address).trans (by rw [built]; rfl)
  · rw [built] at refuses
    refine .inr ⟨?_, ready, ?_⟩
    · intro queue accepts
      exact refuses queue ⟨accepts.working, accepts.selected, accepts.accepts⟩
    · rw [submitted, fails]
      rfl

end Host

private theorem firmwareInfoResult_success (ioctl : SrbIoControl) (slotCount : BitVec 3) (status : NvmeCommandStatus) :
    ((firmwareInfoResult ioctl slotCount status).2.1 = .success ↔
      (firmwareInfoResult ioctl slotCount status).2.2.isSome = true) ∧
    ((firmwareInfoResult ioctl slotCount status).2.2.isSome = true → nvmeToSrbStatus status = .success) := by
  have clean : nvmeStatus2FirmwareStatus status = .success → nvmeToSrbStatus status = .success := by
    intro success
    have zero : status.sct = 0 ∧ status.sc = 0 := by
      by_contra other
      simp only [nvmeStatus2FirmwareStatus, other, if_false] at success
      split at success
      · split at success <;> cases success
      · cases success
    simp [nvmeToSrbStatus, zero.1, zero.2]
  simp only [firmwareInfoResult]
  split
  · simp
  · split
    · simp
    · split
      · next success => split <;> simp [clean success]
      · simp

def Heap.statusesSince (before after : Heap) : List SrbStatus :=
  (after.completions.drop before.completions.length).map Completion.status

private theorem finishSrbExt_statuses (heap : Heap) (address : Nat) (submission : Option Nat) (cpl : NvmeCompletionEntry) :
    (∀ status ∈ heap.statusesSince (finishSrbExt heap address submission cpl), status.Fails) ↔
      nvmeToSrbStatus cpl.status ≠ .success := by
  have final := nvmeToSrbStatus_final cpl.status
  cases twice : (heap.srbext address).completesItself with
  | false => simp [Heap.statusesSince, finishSrbExt_completions submission cpl twice, SrbStatus.Fails, final]
  | true =>
    obtain ⟨callback, srb, present⟩ := SrbExt.completesItself_iff.mp twice
    have log : heap.statusesSince (finishSrbExt heap address submission cpl) =
        [(firmwareInfoResult srb.ioControl heap.slotCount cpl.status).2.1, nvmeToSrbStatus cpl.status] := by
      simp [Heap.statusesSince, finishSrbExt, runCompletionCB, completeFirmwareInfo, callback, present, SrbExt.cleanUp,
        SrbExt.resetExtBuf, Heap.put]
    obtain ⟨filled, clean⟩ := firmwareInfoResult_success srb.ioControl heap.slotCount cpl.status
    rw [log, List.forall_mem_cons, List.forall_mem_singleton]
    constructor
    · intro fails
      exact fails.2.1
    · intro failed
      exact ⟨⟨fun success => failed (clean (filled.mp success)), firmwareInfoResult_final _ _ _⟩, failed, final⟩

private theorem completeFirmwareInfoReads_success {heap : Heap} {address : Nat} {cpl : NvmeCompletionEntry}
    (reads : completeFirmwareInfoReads (heap.put address { heap.srbext address with nvmeCpl := cpl }) address = true) :
    nvmeToSrbStatus cpl.status = .success := by
  simp only [completeFirmwareInfoReads, Heap.put_srbext, Function.update_self] at reads
  split at reads
  · next srb _ _ => exact (firmwareInfoResult_success srb.ioControl _ cpl.status).2 reads
  · cases reads

/-- A firmware request from `Firmware_GetInfo` to its completion, up to which the
rest of the memory may change: the statuses it is completed with. -/
def Host.firmwareRequest (host : Host) (memory : Memory) (address : Nat) (logpage : Option Nat) (meanwhile : Heap)
    (cpl : NvmeCompletionEntry) : Ending (List SrbStatus) :=
  let (status, after) := host.firmwareGetInfoAllocating memory address logpage
  if status = .pending then
    let heap := meanwhile.put address (after.heap.srbext address)
    (finishSrbExtAllocating heap address none cpl).map heap.statusesSince
  else .returned [status]

private theorem Host.firmwareRequest_follows (host : Host) (memory : Memory) (address logpage : Nat) (meanwhile : Heap)
    (cpl : NvmeCompletionEntry) :
    host.firmwareRequest memory address (some logpage) meanwhile cpl ≠ .nullDereference := by
  obtain ⟨_, after, called, extBuf⟩ | ⟨_, after, called⟩ :=
    host.firmwareGetInfoAllocating_cases memory address (some logpage)
  · simp [firmwareRequest, called, finishSrbExtAllocating, extBuf, Ending.map]
  · simp [firmwareRequest, called]

private theorem Host.firmwareRequest_fails_iff (host : Host) (memory : Memory) (address : Nat) (meanwhile : Heap)
    (cpl : NvmeCompletionEntry) :
    (∃ statuses, host.firmwareRequest memory address none meanwhile cpl = .returned statuses ∧
      ∀ status ∈ statuses, status.Fails) ↔
    (∀ queue, ¬ host.AcceptsAdm (host.firmwareGetInfoCmd memory (host.heap.srbext address) 0).nvmeCmd queue) ∨
      nvmeToSrbStatus cpl.status ≠ .success := by
  obtain ⟨accepted, after, called, extBuf⟩ | ⟨refuses, after, called⟩ :=
    host.firmwareGetInfoAllocating_cases memory address none
  · let heap := meanwhile.put address (after.heap.srbext address)
    have missing : (heap.srbext address).extBuf = none := by simpa [heap] using extBuf
    have taken : ¬ ∀ queue, ¬ host.AcceptsAdm (host.firmwareGetInfoCmd memory (host.heap.srbext address) 0).nvmeCmd queue :=
      fun refuses => accepted.elim fun queue accepts => refuses queue accepts
    rw [or_iff_right taken]
    simp only [firmwareRequest, called, if_true]
    cases reads : completeFirmwareInfoReads (heap.put address { heap.srbext address with nvmeCpl := cpl }) address with
    | true =>
      have success := completeFirmwareInfoReads_success reads
      have crashes : finishSrbExtAllocating heap address none cpl = .nullDereference := by
        simp only [finishSrbExtAllocating]
        rw [reads, missing]
        rfl
      simp only [heap] at crashes
      simp [crashes, Ending.map, success]
    | false =>
      have done : finishSrbExtAllocating heap address none cpl = .returned (finishSrbExt heap address none cpl) := by
        simp only [finishSrbExtAllocating, reads]
        rfl
      rw [← finishSrbExt_statuses heap address none cpl]
      simp only [heap] at done ⊢
      simp [done, Ending.map]
  · refine iff_of_true ⟨[.internalError], ?_, ?_⟩ (.inl refuses)
    · simp [firmwareRequest, called]
    · simp [SrbStatus.Fails]

namespace DeviceQueues

/-- A loop of `CreateIoQ` over these places comes to this one and finds it free, if
it gets its objects. -/
structure AllocatesAt (queues : DeviceQueues) (setups : Nat → NtStatus) (first last place : Nat) : Prop where
  started : first ≤ place
  before : place < last
  inside : place < maxIoQueueCount
  free : queues.ioQueue place = none
  ready : ∀ earlier, first ≤ earlier → earlier < place → queues.ioQueue earlier = none →
    (setups earlier).ntSuccess = true

section
variable {queues next : DeviceQueues} {setups : Nat → NtStatus} {objects : Nat → Bool} {index last place : Nat}

theorem AllocatesAt.here (before : index < last) (inside : index < maxIoQueueCount) (free : queues.ioQueue index = none) :
    queues.AllocatesAt setups index last index where
  started := Nat.le_refl _
  before := before
  inside := inside
  free := free
  ready := by
    intro earlier from_ less
    omega

private theorem allocatesAt_turn (before : index < last) (inside : index < maxIoQueueCount)
    (same : ∀ other, index < other → next.ioQueue other = queues.ioQueue other) :
    queues.AllocatesAt setups index last place ↔
      place = index ∧ queues.ioQueue index = none ∨
      (queues.ioQueue index = none → (setups index).ntSuccess = true) ∧
        next.AllocatesAt setups (index + 1) last place := by
  constructor
  · intro there
    have started := there.started
    by_cases here : place = index
    · subst here
      exact .inl ⟨rfl, there.free⟩
    · refine .inr ⟨there.ready index (Nat.le_refl _) (by omega), by omega, there.before, there.inside, ?_, ?_⟩
      · rw [same place (by omega), there.free]
      · intro earlier from_ less free
        rw [same earlier from_] at free
        exact there.ready earlier (by omega) less free
  · intro there
    obtain ⟨rfl, free⟩ | ⟨ready, later⟩ := there
    · exact .here before inside free
    · have started := later.started
      refine ⟨by omega, later.before, later.inside, ?_, ?_⟩
      · rw [← same place (by omega), later.free]
      · intro earlier from_ less free
        by_cases here : earlier = index
        · subst here
          exact ready free
        · exact later.ready earlier (by omega) less (by rw [same earlier (by omega), free])

def GetsObjects (queues : DeviceQueues) (setups : Nat → NtStatus) (objects : Nat → Bool) (first last : Nat) : Prop :=
  ∀ place, queues.AllocatesAt setups first last place → objects place = true

private theorem getsObjects_turn (before : index < last) (inside : index < maxIoQueueCount)
    (same : ∀ other, index < other → next.ioQueue other = queues.ioQueue other) :
    queues.GetsObjects setups objects index last ↔
      (queues.ioQueue index = none → objects index = true) ∧
      ((queues.ioQueue index = none → (setups index).ntSuccess = true) →
        next.GetsObjects setups objects (index + 1) last) := by
  simp only [GetsObjects, allocatesAt_turn before inside same]
  constructor
  · intro gets
    exact ⟨fun free => gets index (.inl ⟨rfl, free⟩), fun ready place later => gets place (.inr ⟨ready, later⟩)⟩
  · intro gets place there
    obtain ⟨rfl, free⟩ | ⟨ready, later⟩ := there
    · exact gets.1 free
    · exact gets.2 ready place later

private theorem getsObjects_of_outside (outside : index ≥ maxIoQueueCount) : queues.GetsObjects setups objects index last := by
  intro place there
  have started := there.started
  have inside := there.inside
  omega

open Classical in
/-- The loop goes on as if all objects were there, or it comes to a missing one. -/
theorem createIoQFromAllocating_eq {left : Nat} :
    queues.createIoQFromAllocating objects setups index left =
      if queues.GetsObjects setups objects index (index + left) then .ofOption (queues.createIoQFrom setups index left)
      else .nullDereference := by
  induction left generalizing queues index with
  | zero =>
    have gets : queues.GetsObjects setups objects index (index + 0) :=
      fun place there => absurd there.before (Nat.not_lt_of_le there.started)
    rw [if_pos gets]
    rfl
  | succ left ih =>
    have last : index + 1 + left = index + (left + 1) := by omega
    have more : index < index + (left + 1) := by omega
    by_cases outside : index ≥ maxIoQueueCount
    · simp only [createIoQFromAllocating, createIoQFrom, getsObjects_of_outside outside, outside, if_true]
      rfl
    have inside : index < maxIoQueueCount := Nat.lt_of_not_le outside
    simp only [createIoQFromAllocating, createIoQFrom, outside, if_false]
    cases held : queues.ioQueue index with
    | some object =>
      have turn : queues.GetsObjects setups objects index _ ↔ _ := getsObjects_turn more inside fun _ _ => rfl
      simp only [ih, last, turn]
      simp [held]
    | none =>
      let next : DeviceQueues := { queues with
        created := queues.created + 1
        ioQueue := Function.update queues.ioQueue index (some queues.created)
        allocatedIoQ := queues.allocatedIoQ + 1 }
      have later : ∀ place, index < place → next.ioQueue place = queues.ioQueue place :=
        fun place above => Function.update_of_ne (Nat.ne_of_gt above) ..
      have turn : queues.GetsObjects setups objects index _ ↔ _ := getsObjects_turn more inside later
      cases present : objects index with
      | false => simp [turn, held, present]
      | true =>
        cases ready : (setups index).ntSuccess with
        | false =>
          simp only [turn, held, present, ready]
          simp [Ending.ofOption]
        | true =>
          simp only [ih, last, Bool.not_true, Bool.false_eq_true, if_false]
          simp only [turn, held, present, ready, forall_const, true_and]
          rfl

private theorem createIoQFrom_fails {left : Nat}
    (reached : ∃ place, queues.AllocatesAt setups index (index + left) place ∧ (setups place).ntSuccess = false) :
    ∃ status after, queues.createIoQFrom setups index left = some (status, after) ∧ status.ntSuccess = false := by
  obtain ⟨place, there, failed⟩ := reached
  induction left generalizing queues index with
  | zero => exact absurd there.before (Nat.not_lt_of_le there.started)
  | succ left ih =>
    have last : index + 1 + left = index + (left + 1) := by omega
    have more : index < index + (left + 1) := by omega
    have inside : index < maxIoQueueCount := Nat.lt_of_le_of_lt there.started there.inside
    simp only [createIoQFrom, Nat.not_le_of_lt inside, if_false]
    cases held : queues.ioQueue index with
    | some object =>
      have kept : ∀ other, index < other → queues.ioQueue other = queues.ioQueue other := fun _ _ => rfl
      obtain ⟨_, free⟩ | ⟨_, later⟩ := (allocatesAt_turn more inside kept).mp there
      · rw [held] at free
        cases free
      · rw [← last] at later
        exact ih later
    | none =>
      let next : DeviceQueues := { queues with
        created := queues.created + 1
        ioQueue := Function.update queues.ioQueue index (some queues.created)
        allocatedIoQ := queues.allocatedIoQ + 1 }
      have kept : ∀ other, index < other → next.ioQueue other = queues.ioQueue other :=
        fun other above => Function.update_of_ne (Nat.ne_of_gt above) ..
      cases ready : (setups index).ntSuccess with
      | false => exact ⟨_, _, rfl, ready⟩
      | true =>
        simp only [Bool.not_true, Bool.false_eq_true, if_false]
        obtain ⟨same, _⟩ | ⟨_, later⟩ := (allocatesAt_turn more inside kept).mp there
        · rw [same, ready] at failed
          cases failed
        · rw [← last] at later
          exact ih later

end

end DeviceQueues

/-- The VPD pages that are built in a block from the pool. -/
def asksForPage (srbext : SrbExt) : Prop :=
  (Cdb.byte srbext.cdb 1).getLsbD 0 = true ∧ (Cdb.byte srbext.cdb 2).toNat ∈ [0x00, 0x83, 0xB0, 0xB1]

/-- The inquiry handler follows the pointer where `inquiry6Writes` has no result. -/
def inquiryAllocating (device : CNvmeDevice) (srbext : SrbExt) (page : Bool) : Ending SrbStatus :=
  match inquiry6Writes device srbext page with
  | none => .nullDereference
  | some answer => .returned answer.reply.status

/-- The requests and internal calls that allocate, each with everything it works on
and what the pool has for it. -/
inductive PoolCall where
  | readWrite (host : Host) (memory : Memory) (format : CdbFormat) (isWrite : Bool) (address processor : Nat)
  | inquiry (device : CNvmeDevice) (srbext : SrbExt) (page : Bool)
  | firmwareGetInfo (host : Host) (memory : Memory) (address : Nat) (logpage : Option Nat) (meanwhile : Heap)
      (cpl : NvmeCompletionEntry)
  | wait (host : Host) (memory : Memory) (waiter : Waiter) (pool : Option Nat) (stalls : List (Host → Host))
  | createAdmQ (queues : DeviceQueues) (object initOK : Bool)
  | createIoQ (queues : DeviceQueues) (objects : Nat → Bool) (setups : Nat → NtStatus)
  | registerIoQueues (driver : Driver) (temp : Bool) (replies : PairReplies)
  | unregisterIoQueues (driver : Driver) (temp : Bool) (replies : PairReplies)

namespace PoolCall

/-- Whatever is missing, the call follows no NULL pointer, submits no command without
its PRPs, and fails. -/
def Withstands : PoolCall → Prop
  | readWrite host memory format isWrite address processor =>
      let call := BufferedCall.readWrite format isWrite address processor
      (Ending.ofOption (format.handler host memory address processor isWrite)).Withstands (fun result => result.1.Fails)
        (call.LosesPrp host memory) (call.SendsHalfBuilt host memory)
  | inquiry device srbext page =>
      (inquiryAllocating device srbext page).Withstands SrbStatus.Fails (asksForPage srbext ∧ page = false) False
  | firmwareGetInfo host memory address logpage meanwhile cpl =>
      let call := BufferedCall.firmwareGetInfo address (logpage.getD 0)
      (host.firmwareRequest memory address logpage meanwhile cpl).Withstands
        (fun statuses => ∀ status ∈ statuses, status.Fails)
        (logpage = none ∨ call.LosesPrp host memory) (call.SendsHalfBuilt host memory)
  | wait host memory waiter pool stalls =>
      let call := BufferedCall.wait waiter (pool.getD 0)
      (waiter.callAllocating host memory pool stalls).Withstands (fun result => result.1.ntSuccess = false)
        (waiter.asks host = true ∧ pool = none ∨ waiter.listMissing = true ∨ call.LosesPrp host memory)
        (call.SendsHalfBuilt host memory)
  | createAdmQ queues object initOK =>
      (queues.createAdmQAllocating object initOK).Withstands (fun result => result.1.ntSuccess = false)
        (queues.admQueue = none ∧ (object = false ∨ initOK = false)) False
  | createIoQ queues objects setups =>
      (queues.createIoQAllocating objects setups).Withstands (fun result => result.1.ntSuccess = false)
        (∃ place, queues.AllocatesAt setups 0 queues.params.desiredIoQ.toNat place ∧
          (objects place = false ∨ setups place = .memoryNotAllocated)) False
  | registerIoQueues driver temp replies =>
      (driver.registerIoQueuesAllocating temp replies).Withstands (fun result => result.1.ntSuccess = false)
        (temp = false) False
  | unregisterIoQueues driver temp replies =>
      (driver.unregisterIoQueuesAllocating temp replies).Withstands (fun result => result.1.ntSuccess = false)
        (temp = false) False

def Endures : PoolCall → Prop
  | readWrite host memory format isWrite address processor =>
      let srbext := host.heap.srbext address
      let (offset, len) := format.parse srbext.cdb
      let cmd := (buiildCmdReadWrite memory srbext offset len isWrite).nvmeCmd
      memory.prp2Pool ≠ none ∨ srbext.dataBufLen.toNat ≤ getDistanceToNextPage srbext.dataBuf + pageSize ∨
        host.device.isInValidIoRange (srbext.lun.setWidth 32 + 1) offset len = false ∨
        host.device.isWorking = false ∨ host.device.registeredIoQ ≠ 0 ∧
          ∃ queue, host.device.ioQueue (processor % host.device.registeredIoQ.toNat) = some queue ∧ ¬ queue.accepts cmd
  | inquiry _ srbext page => page = true ∨ ¬ asksForPage srbext ∨ (Cdb.byte srbext.cdb 2).toNat = 0x00
  | firmwareGetInfo host memory address logpage _ cpl =>
      logpage ≠ none ∨
        (∀ queue, ¬ host.AcceptsAdm (host.firmwareGetInfoCmd memory (host.heap.srbext address) 0).nvmeCmd queue) ∨
        nvmeToSrbStatus cpl.status ≠ .success
  | wait host _ waiter pool _ => pool ≠ none ∨ waiter.asks host = false
  | createAdmQ queues object _ => object = true ∨ queues.admQueue ≠ none
  | createIoQ queues objects setups => queues.GetsObjects setups objects 0 queues.params.desiredIoQ.toNat
  | registerIoQueues driver temp _ =>
      temp = true ∨ driver.isWorking = false ∧ driver.queues.registeredIoQ ≠ driver.queues.params.desiredIoQ
  | unregisterIoQueues driver temp _ => temp = true ∨ driver.queues.registeredIoQ ≠ driver.queues.params.desiredIoQ

private theorem readWrite_withstands_of_enough {host : Host} {memory : Memory} {format : CdbFormat} {isWrite : Bool}
    {address : Nat} (processor : Nat)
    (enough : ¬ (BufferedCall.readWrite format isWrite address processor).LosesPrp host memory) :
    (readWrite host memory format isWrite address processor).Withstands :=
  (Ending.withstands_of_enough enough fun sends => enough sends.loses).mpr (Ending.ofOption_ne_nullDereference _)

private theorem readWrite_withstands_iff (host : Host) (memory : Memory) (format : CdbFormat) (isWrite : Bool)
    (address processor : Nat) :
    (readWrite host memory format isWrite address processor).Withstands ↔
      (readWrite host memory format isWrite address processor).Endures := by
  let srbext := host.heap.srbext address
  let call := BufferedCall.readWrite format isWrite address processor
  let ready := host.putSrbExt address
    (buiildCmdReadWrite memory srbext (format.parse srbext.cdb).1 (format.parse srbext.cdb).2 isWrite)
  have builds := BufferedCall.readWrite_built_eq host memory format isWrite address processor
  simp only [Endures]
  by_cases outside : host.device.isInValidIoRange (srbext.lun.setWidth 32 + 1) (format.parse srbext.cdb).1
      (format.parse srbext.cdb).2 = false
  · refine iff_of_true (readWrite_withstands_of_enough processor ?_) (.inr (.inr (.inl outside)))
    intro loses
    have built := loses.builds
    rw [builds, if_pos outside] at built
    cases built
  rw [if_neg outside] at builds
  by_cases fits : prpBuilt memory srbext.dataBuf srbext.dataBufLen.toNat = true
  · have plenty : memory.prp2Pool ≠ none ∨
        srbext.dataBufLen.toNat ≤ getDistanceToNextPage srbext.dataBuf + pageSize := by
      by_contra short
      rw [not_or, not_not, Nat.not_le] at short
      exact Bool.false_ne_true ((prpBuilt_eq_false.mpr short.symm).symm.trans fits)
    refine iff_of_true (readWrite_withstands_of_enough processor ?_) (plenty.imp_right Or.inl)
    intro loses
    obtain ⟨buffer, bufSize, present, fails⟩ := loses.fails
    cases present
    exact Bool.false_ne_true (fails.symm.trans fits)
  have fails := Bool.eq_false_of_not_eq_true fits
  obtain ⟨long, missing⟩ := prpBuilt_eq_false.mp fails
  have loses : call.LosesPrp host memory := ⟨by rw [builds]; rfl, _, _, rfl, fails⟩
  have handled := BufferedCall.readWrite_built host memory format isWrite address processor
  rw [builds] at handled
  dsimp only at handled
  have command : (ready.heap.srbext address).nvmeCmd = (buiildCmdReadWrite memory srbext (format.parse srbext.cdb).1
      (format.parse srbext.cdb).2 isWrite).nvmeCmd := by simp [ready, Host.putSrbExt]
  have refused_iff := ready.submitIoCmd_fails_iff address processor
  rw [command] at refused_iff
  constructor
  · intro withstands
    obtain ⟨result, returned, failed⟩ := withstands.fails loses
    rw [Ending.ofOption_eq_returned, handled] at returned
    obtain ⟨submitted, called, rfl⟩ := Option.map_eq_some_iff.mp returned
    refine .inr (.inr (.inr (refused_iff.mp ⟨submitted.1, submitted.2, called, ?_⟩)))
    by_contra success
    exact failed.2 (if_pos (Bool.eq_true_of_not_eq_false success))
  · intro endures
    have refused : ∃ status after, ready.submitIoCmd address processor = some (status, after) ∧
        status.ntSuccess = false := by
      obtain present | short | invalid | refused := endures
      · exact absurd missing present
      · exact absurd long (Nat.not_lt_of_le short)
      · exact absurd invalid outside
      · exact refused_iff.mpr refused
    obtain ⟨status, after, called, failed⟩ := refused
    refine ⟨Ending.ofOption_ne_nullDereference _, ?_, ?_⟩
    · intro sends
      obtain ⟨other, last, same, queue, accepts⟩ := sends.accepted
      rw [builds] at same
      cases same
      have accepted := Host.submitIoCmd_accepts accepts
      rw [show (host.putSrbExt address _).submitIoCmd address processor = some (status, after) from called] at accepted
      cases accepted
      exact absurd failed (by simp [NtStatus.ntSuccess])
    · intro _
      refine ⟨(if status = .deviceBusy then .busy else .error, after), ?_, ?_⟩
      · rw [handled, called]
        simp [Ending.ofOption, failed]
      · simp only [SrbStatus.Fails]
        split <;> simp

private theorem inquiryAllocating_missing {device : CNvmeDevice} {srbext : SrbExt} (asks : asksForPage srbext) :
    inquiryAllocating device srbext false =
      if (Cdb.byte srbext.cdb 2).toNat = 0x00 then .returned .insufficientResources else .nullDereference := by
  obtain ⟨vital, page⟩ := asks
  simp only [List.mem_cons, List.not_mem_nil, or_false] at page
  obtain code | code | code | code := page <;>
    simp [inquiryAllocating, inquiry6Writes, vital, handleInquiryVPDWrites, code, BufferReply.unwritten, DataReply.sized]

private theorem inquiryAllocating_follows {device : CNvmeDevice} {srbext : SrbExt} {page : Bool}
    (enough : ¬ (asksForPage srbext ∧ page = false)) : inquiryAllocating device srbext page ≠ .nullDereference := by
  have present : (inquiry6Writes device srbext page).isSome = true := by
    unfold inquiry6Writes
    split
    · next vital =>
      unfold handleInquiryVPDWrites
      split
      · split <;> rfl
      · dsimp only
        split <;> rfl
      · next code => simp_all [asksForPage]
      · next code => simp_all [asksForPage]
      · next code => simp_all [asksForPage]
      · rfl
    · split
      · rfl
      · split <;> rfl
  obtain ⟨answer, answered⟩ := Option.isSome_iff_exists.mp present
  simp [inquiryAllocating, answered]

private theorem inquiry_withstands_iff (device : CNvmeDevice) (srbext : SrbExt) (page : Bool) :
    (inquiry device srbext page).Withstands ↔ (inquiry device srbext page).Endures := by
  simp only [Withstands, Endures]
  by_cases lacks : asksForPage srbext ∧ page = false
  · obtain ⟨asks, missing⟩ := lacks
    subst missing
    rw [inquiryAllocating_missing asks]
    split
    · next supported =>
      refine iff_of_true ((Ending.withstands_of_short ⟨asks, rfl⟩ not_false).mpr ?_) (.inr (.inr supported))
      simp [SrbStatus.Fails]
    · next other => simp [other, asks, Ending.not_withstands_nullDereference]
  · refine iff_of_true ((Ending.withstands_of_enough lacks not_false).mpr (inquiryAllocating_follows lacks)) ?_
    cases page with
    | false => exact .inr (.inl fun asks => lacks ⟨asks, rfl⟩)
    | true => exact .inl rfl

private theorem firmwareGetInfo_withstands_iff (host : Host) (memory : Memory) (address : Nat) (logpage : Option Nat)
    (meanwhile : Heap) (cpl : NvmeCompletionEntry) :
    (firmwareGetInfo host memory address logpage meanwhile cpl).Withstands ↔
      (firmwareGetInfo host memory address logpage meanwhile cpl).Endures := by
  have builds := BufferedCall.firmwareGetInfo_not_losesPrp address (logpage.getD 0) host memory
  have sends : ¬ (BufferedCall.firmwareGetInfo address (logpage.getD 0)).SendsHalfBuilt host memory :=
    fun sends => builds sends.loses
  simp only [Withstands, Endures]
  cases logpage with
  | some logpage =>
    refine iff_of_true ?_ (.inl (by simp))
    exact (Ending.withstands_of_enough (by simpa using builds) sends).mpr (host.firmwareRequest_follows _ _ _ _ _)
  | none =>
    rw [← host.firmwareRequest_fails_iff memory address meanwhile cpl, or_iff_right (not_not.mpr rfl)]
    constructor
    · intro withstands
      exact withstands.fails (.inl rfl)
    · intro fails
      obtain ⟨statuses, returned, all⟩ := fails
      rw [returned]
      exact (Ending.withstands_of_short (.inl rfl) sends).mpr all

private theorem wait_withstands_iff (host : Host) (memory : Memory) (waiter : Waiter) (pool : Option Nat)
    (stalls : List (Host → Host)) :
    (wait host memory waiter pool stalls).Withstands ↔ (wait host memory waiter pool stalls).Endures := by
  have builds := BufferedCall.wait_not_losesPrp waiter (pool.getD 0) host memory
  simp only [Withstands, Endures, Waiter.callAllocating_eq]
  by_cases lacks : waiter.asks host = true ∧ pool = none
  · refine iff_of_false ?_ ?_
    · intro withstands
      exact withstands.follows (Ending.allocating_eq_nullDereference.mpr lacks)
    · simp [lacks.1, lacks.2]
  · refine iff_of_true ⟨?_, fun sends => builds sends.loses, ?_⟩ ?_
    · intro follows
      exact lacks (Ending.allocating_eq_nullDereference.mp follows)
    · intro short
      obtain asks | missing | loses := short
      · exact absurd asks lacks
      · have unbuilt := Waiter.built_of_listMissing missing host memory (pool.getD 0)
        obtain ⟨status, fails, called⟩ := Waiter.call_unbuilt unbuilt stalls
        refine ⟨(status, host), ?_, fails⟩
        rw [Ending.allocating_of_not _ lacks, called]
        rfl
      · exact absurd loses builds
    · by_cases absent : pool = none
      · exact .inr (Bool.eq_false_of_not_eq_true fun asks => lacks ⟨asks, absent⟩)
      · exact .inl absent

private theorem createAdmQ_withstands_iff (queues : DeviceQueues) (object initOK : Bool) :
    (createAdmQ queues object initOK).Withstands ↔ (createAdmQ queues object initOK).Endures := by
  simp only [Withstands, Endures]
  cases present : queues.admQueue with
  | some other =>
    refine iff_of_true ((Ending.withstands_of_enough (by simp) not_false).mpr ?_) (.inr (by simp))
    simp [DeviceQueues.createAdmQAllocating, present]
  | none =>
    cases object with
    | false => simp [DeviceQueues.createAdmQAllocating, present, Ending.not_withstands_nullDereference]
    | true =>
      refine iff_of_true ⟨?_, not_false, ?_⟩ (.inl rfl)
      · simp [DeviceQueues.createAdmQAllocating]
      · intro short
        have failed : initOK = false := by simpa using short
        refine ⟨queues.createAdmQ initOK, by simp [DeviceQueues.createAdmQAllocating], ?_⟩
        simp [DeviceQueues.createAdmQ, present, failed, NtStatus.ntSuccess]

private theorem createIoQ_withstands_iff (queues : DeviceQueues) (objects : Nat → Bool) (setups : Nat → NtStatus) :
    (createIoQ queues objects setups).Withstands ↔ (createIoQ queues objects setups).Endures := by
  simp only [Withstands, Endures, DeviceQueues.createIoQAllocating]
  rw [DeviceQueues.createIoQFromAllocating_eq, Nat.zero_add]
  split
  · next gets =>
    refine iff_of_true ⟨Ending.ofOption_ne_nullDereference _, not_false, ?_⟩ gets
    intro short
    obtain ⟨place, there, missing | refused⟩ := short
    · exact absurd (missing.symm.trans (gets place there)) Bool.false_ne_true
    · rw [← Nat.zero_add queues.params.desiredIoQ.toNat] at there
      obtain ⟨status, after, returned, fails⟩ :=
        DeviceQueues.createIoQFrom_fails ⟨place, there, by rw [refused]; rfl⟩
      exact ⟨(status, after), Ending.ofOption_eq_returned.mpr returned, fails⟩
  · next lacks => exact iff_of_false Ending.not_withstands_nullDereference lacks

private theorem registerIoQueues_withstands_iff (driver : Driver) (temp : Bool) (replies : PairReplies) :
    (registerIoQueues driver temp replies).Withstands ↔ (registerIoQueues driver temp replies).Endures := by
  simp only [Withstands, Endures]
  cases temp with
  | true =>
    refine iff_of_true ((Ending.withstands_of_enough (by simp) not_false).mpr ?_) (.inl rfl)
    simp [Driver.registerIoQueuesAllocating]
  | false =>
    cases working : driver.isWorking with
    | false =>
      have returned : driver.registerIoQueuesAllocating false replies =
          .returned (driver.registrationStatus .invalidDeviceState, driver) := by
        simp [Driver.registerIoQueuesAllocating, Driver.registerIoQueues, working, Ending.ofOption]
      rw [returned, Ending.withstands_of_short rfl not_false]
      simp only [Driver.registrationStatus]
      split <;> simp_all [NtStatus.ntSuccess]
    | true =>
      refine iff_of_false ?_ (by simp)
      by_cases empty : driver.queues.allocatedIoQ = 0
      · have returned : driver.registerIoQueuesAllocating false replies =
            .returned (driver.registrationStatus .success, driver) := by
          simp [Driver.registerIoQueuesAllocating, Driver.registerIoQueues, working, empty, Driver.registerFrom,
            Ending.ofOption]
        rw [returned, Ending.withstands_of_short rfl not_false]
        simp only [Driver.registrationStatus]
        split <;> simp [NtStatus.ntSuccess]
      · have follows : driver.registerIoQueuesAllocating false replies = .nullDereference := by
          simpa [Driver.registerIoQueuesAllocating, working] using empty
        rw [follows]
        exact Ending.not_withstands_nullDereference

private theorem unregisterIoQueues_withstands_iff (driver : Driver) (temp : Bool) (replies : PairReplies) :
    (unregisterIoQueues driver temp replies).Withstands ↔ (unregisterIoQueues driver temp replies).Endures := by
  simp only [Withstands, Endures]
  cases temp with
  | true =>
    refine iff_of_true ((Ending.withstands_of_enough (by simp) not_false).mpr ?_) (.inl rfl)
    simp [Driver.unregisterIoQueuesAllocating]
  | false =>
    have returned : ∃ status, status.ntSuccess = false ∧ driver.unregisterIoQueuesAllocating false replies =
        .returned (driver.registrationStatus status, driver) := by
      cases working : driver.isWorking with
      | false =>
        refine ⟨.invalidDeviceState, rfl, ?_⟩
        simp [Driver.unregisterIoQueuesAllocating, Driver.unregisterIoQueues, working, Ending.ofOption]
      | true => exact ⟨.memoryNotAllocated, rfl, by simp [Driver.unregisterIoQueuesAllocating, working]⟩
    obtain ⟨status, fails, returned⟩ := returned
    rw [returned, Ending.withstands_of_short rfl not_false]
    simp only [Driver.registrationStatus]
    split <;> simp_all [NtStatus.ntSuccess]

/-- For every call that allocates and whatever the pool refuses it. -/
theorem withstands_iff (call : PoolCall) : call.Withstands ↔ call.Endures := by
  cases call with
  | readWrite => exact readWrite_withstands_iff ..
  | inquiry => exact inquiry_withstands_iff ..
  | firmwareGetInfo => exact firmwareGetInfo_withstands_iff ..
  | wait => exact wait_withstands_iff ..
  | createAdmQ => exact createAdmQ_withstands_iff ..
  | createIoQ => exact createIoQ_withstands_iff ..
  | registerIoQueues => exact registerIoQueues_withstands_iff ..
  | unregisterIoQueues => exact unregisterIoQueues_withstands_iff ..

def longRead : Srb :=
  { sampleSrb with
    cdb := [0x28, 0, 0, 0, 0, 0, 0, 0, 32, 0]
    dataBuffer := 0x1000
    dataTransferLength := 0x4000 }

def exhausted : Memory := ⟨BitVec.ofNat 64, none⟩

/-- The read is submitted with its second PRP field zero. -/
theorem longRead_sent_half_built : ¬ ∀ call : PoolCall, call.Withstands := by
  intro all
  let host := Host.sampleHost (.init (some longRead))
  have withstands : (readWrite host exhausted .ten false 0 0).Withstands := all _
  have builds := BufferedCall.readWrite_built_eq host exhausted .ten false 0 0
  rw [if_neg (by decide +kernel)] at builds
  apply withstands.sends
  refine ⟨⟨by rw [builds]; rfl, 0x1000, 0x4000, rfl, by decide +kernel⟩, _, _, builds, .setup sampleQueue, rfl, ?_, rfl, ?_⟩
  · exact ne_of_beq_false rfl
  · decide +kernel

end PoolCall

end SpcNvme
