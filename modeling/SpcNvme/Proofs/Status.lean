import SpcNvme.Device
import SpcNvme.Proofs.Completion

/-! How the status a controller reports reaches the owner of a command: the field
in the extension, the request handed back to StorPort, and the functions that
poll the field. The short cut of `NvmeToSrbStatus` takes every status whose type
and code have no common bit for a success. -/

namespace SpcNvme

def NvmeCommandStatus.Succeeded (status : NvmeCommandStatus) : Prop := status.sct = 0 ∧ status.sc = 0

/-- No error of this status is lost in the bitwise and of its fields. -/
def NvmeCommandStatus.Distinguished (status : NvmeCommandStatus) : Prop :=
  status.sct.setWidth 8 &&& status.sc ≠ 0 ∨ status.Succeeded

private theorem nvmeGenericToSrbStatus_ne_success (status : NvmeCommandStatus) : nvmeGenericToSrbStatus status ≠ .success := by
  unfold nvmeGenericToSrbStatus
  split <;> simp

theorem nvmeToSrbStatus_eq_success {status : NvmeCommandStatus} :
    nvmeToSrbStatus status = .success ↔ status.sct.setWidth 8 &&& status.sc = 0 := by
  unfold nvmeToSrbStatus
  constructor
  · intro success
    split at success
    · assumption
    · split at success
      · exact absurd success (nvmeGenericToSrbStatus_ne_success status)
      · cases success
      · cases success
      · cases success
  · intro masked
    exact if_pos masked

private theorem nvmeToSrbStatus_exact_iff {status : NvmeCommandStatus} :
    (nvmeToSrbStatus status = .success ↔ status.Succeeded) ↔ status.Distinguished := by
  rw [nvmeToSrbStatus_eq_success]
  constructor
  · intro same
    by_cases masked : status.sct.setWidth 8 &&& status.sc = 0
    · exact .inr (same.mp masked)
    · exact .inl masked
  · intro distinguished
    cases distinguished with
    | inl seen =>
      refine ⟨fun masked => absurd masked seen, ?_⟩
      intro succeeded
      simp [succeeded.1, succeeded.2] at seen
    | inr succeeded =>
      refine ⟨fun _ => succeeded, ?_⟩
      intro _
      simp [succeeded.1, succeeded.2]

inductive Waiter where
  | identifyController (srbext : Option Nat) (ident : Nat) (poll : Bool)
  | identifyNamespace (srbext : Option Nat) (nsid : BitVec 32) (data : Nat)
  | identifyActiveNamespaceIdList (srbext : Option Nat) (nsidList : Nat) (contents : List (BitVec 32))
  | setNumberOfIoQueue (count : BitVec 16)

namespace Waiter

def address (pool : Nat) : Waiter → Nat
  | identifyController srbext .. | identifyNamespace srbext .. | identifyActiveNamespaceIdList srbext .. =>
      srbext.getD pool
  | setNumberOfIoQueue _ => pool

def call (waiter : Waiter) (host : Host) (memory : Memory) (pool : Nat) (stalls : List (Host → Host)) :
    Option (NtStatus × Host) :=
  match waiter with
  | identifyController srbext ident poll => host.identifyController memory pool srbext ident poll stalls
  | identifyNamespace srbext nsid data => host.identifyNamespace memory pool srbext nsid data stalls
  | identifyActiveNamespaceIdList srbext nsidList contents =>
      (host.identifyActiveNamespaceIdList memory pool srbext nsidList contents stalls).map fun (status, _, host) =>
        (status, host)
  | setNumberOfIoQueue count => host.setNumberOfIoQueue pool count stalls

end Waiter

private theorem submitAndWait_success {host final : Host} {poll : Bool} {address : Nat} {stalls : List (Host → Host)}
    (returned : host.submitAndWait poll address stalls = some (.success, final)) :
    (final.heap.srbext address).srbStatus = .success := by
  simp only [Host.submitAndWait] at returned
  split at returned
  · next failed =>
    simp only [Option.some.injEq, Prod.mk.injEq] at returned
    simp [returned.1, NtStatus.ntSuccess] at failed
  · split at returned
    · cases returned
    · next waited =>
      simp only [Option.some.injEq, Prod.mk.injEq] at returned
      obtain ⟨status, rfl⟩ := returned
      by_contra other
      simp [other] at status

private theorem ownSrbExt_address (host : Host) (srbext : Option Nat) (pool : Nat) :
    (host.ownSrbExt srbext pool).1 = srbext.getD pool := by
  cases srbext <;> rfl

private theorem Waiter.call_success {waiter : Waiter} {host final : Host} {memory : Memory} {pool : Nat}
    {stalls : List (Host → Host)} (returned : waiter.call host memory pool stalls = some (.success, final)) :
    (final.heap.srbext (waiter.address pool)).srbStatus = .success := by
  cases waiter with
  | identifyController srbext ident poll =>
    simp only [call, Host.identifyController, ownSrbExt_address] at returned
    split at returned
    · cases returned
    · split at returned
      · cases returned
      · next waited =>
        have polled := submitAndWait_success waited
        cases returned
        exact polled
      · next other _ =>
        cases returned
        exact absurd rfl other
  | identifyNamespace srbext nsid data =>
    simp only [call, Host.identifyNamespace, ownSrbExt_address] at returned
    split at returned
    · cases returned
    · exact submitAndWait_success returned
  | identifyActiveNamespaceIdList srbext nsidList contents =>
    simp only [call, Option.map_eq_some_iff, Prod.mk.injEq] at returned
    obtain ⟨⟨status, count, host⟩, listed, rfl, rfl⟩ := returned
    simp only [Host.identifyActiveNamespaceIdList, ownSrbExt_address] at listed
    split at listed
    · cases listed
    · split at listed
      · cases listed
      · split at listed
        · cases listed
        · next waited =>
          have polled := submitAndWait_success waited
          cases listed
          exact polled
        · next other _ =>
          cases listed
          exact absurd rfl other
  | setNumberOfIoQueue count =>
    simp only [call, Host.setNumberOfIoQueue] at returned
    split at returned
    · cases returned
    · split at returned
      · cases returned
      · next waited =>
        have polled := submitAndWait_success waited
        cases returned
        exact polled
      · next other _ =>
        cases returned
        exact absurd rfl other

/-- Everyone who learns how the command in this extension ended learns what the
controller reported: the status field, the request given back to StorPort, and a
function that waited for this completion. -/
structure ReportsDevice (after : System) (address : Nat) (status : NvmeCommandStatus) : Prop where
  srbStatus : (after.heap.srbext address).srbStatus = .success ↔ status.Succeeded
  storPort : ∀ srb, (after.heap.srbext address).srb = some srb → (srb.srbStatus = .success ↔ status.Succeeded)
  waiters : ∀ (waiter : Waiter) (host final : Host) (memory : Memory) (pool : Nat) (stalls : List (Host → Host)),
    waiter.address pool = address → waiter.call host memory pool stalls = some (.success, final) →
    final.heap.srbext address = after.heap.srbext address → status.Succeeded

private theorem finishSrbExt_status {heap : Heap} {address : Nat} (submission : Option Nat) (cpl : NvmeCompletionEntry)
    (plain : (heap.srbext address).completionCB ≠ some .completeFirmwareInfo) :
    ((finishSrbExt heap address submission cpl).srbext address).srbStatus = nvmeToSrbStatus cpl.status ∧
    ∀ srb, ((finishSrbExt heap address submission cpl).srbext address).srb = some srb →
      srb.srbStatus = nvmeToSrbStatus cpl.status := by
  have quiet : (heap.srbext address).completesItself = false := by simp [SrbExt.completesItself, plain]
  rw [finishSrbExt_srbext submission cpl quiet, Function.update_self]
  refine ⟨SrbExt.finished_srbStatus .., ?_⟩
  intro srb present
  rw [SrbExt.finished_srb] at present
  obtain ⟨before, _, rfl⟩ := Option.map_eq_some_iff.mp present
  exact setScsiSenseBySrbStatus_srbStatus ..

/-- In every reachable state and with any controller: the completion of an
outstanding command without a callback that completes it is reported as what the
controller said if and only if the bitwise and of type and code is not zero, or
both are zero. -/
theorem reported_success_iff {config : QueuePairConfig} {srbext : Nat → SrbExt} {slotCount : BitVec 3}
    {events : List Event} {state after : System} {loop : CompleteLoop} {owner : SrbExtPtr}
    (ran : Machine.run System.step (.initial config srbext slotCount) events = some state)
    (running : state.loop = some loop) (taken : state.step .iterate = some after)
    (outstanding : state.queue.history.history (state.nextSlot loop).entry.cid.toNat = some owner)
    (plain : (state.heap.srbext owner.address).completionCB ≠ some .completeFirmwareInfo) :
    ReportsDevice after owner.address (state.nextSlot loop).entry.status ↔
      (state.nextSlot loop).entry.status.Distinguished := by
  obtain ⟨_, held⟩ := Held.run ran
  have popped : state.queue.popped loop = some owner := (popped_of_lt (held.inside _ _ outstanding)).trans outstanding
  cases System.step_transition taken with
  | @iterated current present arrived more =>
    obtain rfl : current = loop := Option.some.inj (present.symm.trans running)
    have heap : (state.iterated current).heap =
        finishSrbExt state.heap owner.address (some owner.submission) (state.nextSlot current).entry := by
      simp only [System.iterated, CNvmeQueue.poppedHeap, popped, System.nextSlot]
    obtain ⟨field, request⟩ :=
      finishSrbExt_status (some owner.submission) (state.nextSlot current).entry plain
    rw [← nvmeToSrbStatus_exact_iff]
    constructor
    · intro reports
      have reported := reports.srbStatus
      rwa [heap, field] at reported
    · intro exact
      refine ⟨?_, ?_, ?_⟩
      · rw [heap, field]
        exact exact
      · intro srb present
        rw [heap] at present
        rw [request srb present]
        exact exact
      · intro waiter host final memory pool stalls same returned polled
        have success := Waiter.call_success returned
        rw [same, polled, heap, field] at success
        exact exact.mp success

def sampleError : List Event := [sampleSubmit 0 0, .fetch, .post 0 ⟨0, 0, 0x06⟩, .enter 0]

private theorem sampleError_run :
    ∃ state loop after, Machine.run System.step sampleSystem sampleError = some state ∧ state.loop = some loop ∧
      state.step .iterate = some after ∧
      state.queue.history.history (state.nextSlot loop).entry.cid.toNat = some ⟨0, 0⟩ ∧
      (state.heap.srbext 0).completionCB = none ∧ (state.nextSlot loop).entry.status.sc = 0x06 ∧
      (after.heap.srbext 0).srbStatus = .success := by
  have observed : ((Machine.run System.step sampleSystem sampleError).bind fun state =>
      state.loop.bind fun loop => (state.step .iterate).map fun after =>
        (state.queue.history.history (state.nextSlot loop).entry.cid.toNat, (state.heap.srbext 0).completionCB,
          (state.nextSlot loop).entry.status.sc, (after.heap.srbext 0).srbStatus)) =
      some (some ⟨0, 0⟩, none, 0x06, .success) := by decide +kernel
  simp only [Option.bind_eq_some_iff, Option.map_eq_some_iff, Prod.mk.injEq] at observed
  obtain ⟨state, ran, loop, running, after, taken, outstanding, callback, code, success⟩ := observed
  exact ⟨state, loop, after, ran, running, taken, outstanding, callback, code, success⟩

theorem device_error_reported_success :
    ¬ ∀ (config : QueuePairConfig) (srbext : Nat → SrbExt) (slotCount : BitVec 3) (events : List Event)
      (state after : System) (loop : CompleteLoop) (owner : SrbExtPtr),
      Machine.run System.step (.initial config srbext slotCount) events = some state → state.loop = some loop →
      state.step .iterate = some after →
      state.queue.history.history (state.nextSlot loop).entry.cid.toNat = some owner →
      (state.heap.srbext owner.address).completionCB = none →
      ReportsDevice after owner.address (state.nextSlot loop).entry.status := by
  intro always
  obtain ⟨state, loop, after, ran, running, taken, outstanding, callback, code, success⟩ := sampleError_run
  have reports := always sampleQueue (fun _ => .init none) 1 sampleError state after loop ⟨0, 0⟩ ran running taken
    outstanding callback
  obtain ⟨_, sc⟩ := reports.srbStatus.mp success
  rw [sc] at code
  exact absurd code (by decide)

theorem reported_success_iff_error :
    ∃ (state after : System) (loop : CompleteLoop),
      Machine.run System.step sampleSystem sampleError = some state ∧ state.step .iterate = some after ∧
      (ReportsDevice after 0 (state.nextSlot loop).entry.status ↔
        (state.nextSlot loop).entry.status.Distinguished) := by
  obtain ⟨state, loop, after, ran, running, taken, outstanding, callback, _, _⟩ := sampleError_run
  exact ⟨state, after, loop, ran, taken, reported_success_iff ran running taken outstanding (by simp [callback])⟩

end SpcNvme
