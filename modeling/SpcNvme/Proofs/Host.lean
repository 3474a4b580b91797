import SpcNvme.Device
import SpcNvme.Proofs.Steps

/-! What submitting through the device extension does: the queue the command goes
to accepts it, which is one update of that queue and of the memory, or the call
fails and no queue changes. -/

namespace SpcNvme.Host

structure AcceptsIo (host : Host) (processor : Nat) (cmd : NvmeCommand) (queue : CNvmeQueue) : Prop where
  working : host.device.isWorking = true
  registered : host.device.registeredIoQ ≠ 0
  selected : host.device.ioQueue (processor % host.device.registeredIoQ.toNat) = some queue
  accepts : queue.accepts cmd

structure AcceptsAdm (host : Host) (cmd : NvmeCommand) (queue : CNvmeQueue) : Prop where
  working : host.device.isWorking = true
  selected : host.device.admQueue = some queue
  accepts : queue.accepts cmd

def acceptedHeap (queue : CNvmeQueue) (heap : Heap) (address : Nat) : Heap :=
  queue.setSubIndex (queue.releaseOld heap (heap.srbext address).nvmeCmd) address

def indexedHeap (host : Host) (address processor : Nat) : Heap :=
  host.heap.put address
    ((host.heap.srbext address).setIoQueueIndex (processor % host.device.registeredIoQ.toNat))

@[simp] theorem indexedHeap_nvmeCmd (host : Host) (address processor : Nat) :
    ((host.indexedHeap address processor).srbext address).nvmeCmd = (host.heap.srbext address).nvmeCmd := by
  simp [indexedHeap, SrbExt.setIoQueueIndex]

def acceptedIo (host : Host) (address processor : Nat) (queue : CNvmeQueue) : Host where
  device := { host.device with
    ioQueue := Function.update host.device.ioQueue (processor % host.device.registeredIoQ.toNat)
      (some (queue.accept address (host.heap.srbext address).nvmeCmd)) }
  heap := acceptedHeap queue (host.indexedHeap address processor) address

def acceptedAdm (host : Host) (address : Nat) (queue : CNvmeQueue) : Host where
  device := { host.device with admQueue := some (queue.accept address (host.heap.srbext address).nvmeCmd) }
  heap := acceptedHeap queue host.heap address

theorem submitIoCmd_accepts {host : Host} {address processor : Nat} {queue : CNvmeQueue}
    (accepts : host.AcceptsIo processor (host.heap.srbext address).nvmeCmd queue) :
    host.submitIoCmd address processor = some (.success, host.acceptedIo address processor queue) := by
  have accepted := queue.submitCmd_accepts (host.indexedHeap address processor) address accepts.accepts
  simp only [indexedHeap] at accepted
  simp only [submitIoCmd, accepts.working, accepts.registered, putSrbExt, accepts.selected, Bool.not_true,
    Bool.false_eq_true, if_false, Heap.put_srbext, Function.update_self, SrbExt.setIoQueueIndex] at accepted ⊢
  rw [accepted]
  simp only [acceptedIo, acceptedHeap, indexedHeap_nvmeCmd]
  rfl

theorem submitIoCmd_refuses {host after : Host} {address processor : Nat} {status : NtStatus}
    (refuses : ∀ queue, ¬ host.AcceptsIo processor (host.heap.srbext address).nvmeCmd queue)
    (returned : host.submitIoCmd address processor = some (status, after)) :
    status.ntSuccess = false ∧ (after = host ∨ after = { host with heap := host.indexedHeap address processor }) := by
  cases working : host.device.isWorking with
  | false =>
    obtain ⟨rfl, rfl⟩ : status = .deviceNotReady ∧ after = host := by simpa [submitIoCmd, working, eq_comm] using returned
    exact ⟨rfl, .inl rfl⟩
  | true =>
    by_cases registered : host.device.registeredIoQ = 0
    · simp [submitIoCmd, working, registered] at returned
    cases selected : host.device.ioQueue (processor % host.device.registeredIoQ.toNat) with
    | none => simp [submitIoCmd, working, putSrbExt, selected] at returned
    | some queue =>
      have refusesCmd : ¬ queue.accepts (host.heap.srbext address).nvmeCmd :=
        fun accepts => refuses queue ⟨working, registered, selected, accepts⟩
      have kept : Function.update host.device.ioQueue (processor % host.device.registeredIoQ.toNat) (some queue) =
          host.device.ioQueue := Function.update_eq_self_iff.mpr selected.symm
      obtain ⟨failed, fails, refused⟩ := queue.submitCmd_refuses (host.indexedHeap address processor) address refusesCmd
      rw [← host.indexedHeap_nvmeCmd address processor, indexedHeap] at refused
      simp only [submitIoCmd, working, registered, putSrbExt, selected, Bool.not_true, Bool.false_eq_true, if_false,
        refused, Option.some.injEq, Prod.mk.injEq, kept] at returned
      obtain ⟨rfl, rfl⟩ := returned
      exact ⟨fails, .inr rfl⟩

theorem submitAdmCmd_spec (host : Host) (address : Nat) :
    (∃ queue, host.AcceptsAdm (host.heap.srbext address).nvmeCmd queue ∧
      host.submitAdmCmd address = (.success, host.acceptedAdm address queue)) ∨
    ((∀ queue, ¬ host.AcceptsAdm (host.heap.srbext address).nvmeCmd queue) ∧
      ∃ status, status.ntSuccess = false ∧ host.submitAdmCmd address = (status, host)) := by
  cases selected : host.device.admQueue with
  | none =>
    refine .inr ⟨?_, .deviceNotReady, rfl, by simp [submitAdmCmd, selected]⟩
    intro queue accepts
    simp [accepts.selected] at selected
  | some queue =>
    cases working : host.device.isWorking with
    | false =>
      refine .inr ⟨?_, .deviceNotReady, rfl, by simp [submitAdmCmd, selected, working]⟩
      intro queue accepts
      simp [accepts.working] at working
    | true =>
      by_cases accepts : queue.accepts (host.heap.srbext address).nvmeCmd
      · refine .inl ⟨queue, ⟨working, selected, accepts⟩, ?_⟩
        simp only [submitAdmCmd, selected, working, queue.submitCmd_accepts host.heap address accepts]
        rfl
      · obtain ⟨status, fails, refused⟩ := queue.submitCmd_refuses host.heap address accepts
        refine .inr ⟨?_, status, fails, ?_⟩
        · intro other also
          have equal : queue = other := Option.some.inj (selected.symm.trans also.selected)
          exact accepts (equal ▸ also.accepts)
        · have kept : { host.device with admQueue := some queue } = host.device := by rw [← selected]
          simp only [submitAdmCmd, selected, working, refused, Bool.not_true, Bool.false_eq_true, if_false, kept]

/-- A running device with one I/O queue and a namespace of 100 blocks of 512
bytes; every extension of the memory is the given one. -/
def sampleHost (record : SrbExt) : Host where
  device := {
    state := .running
    nvmeVerMNR := 3
    ctrlIdentMDTS := 5
    ctrlIdentSUBNQN := []
    minPageSize := 4096
    maxTxSize := 131072
    maxTxPages := 32
    namespaceCount := 1
    nsData := fun _ => ⟨100, 0, fun _ => 9⟩
    desiredIoQ := 1
    registeredIoQ := 1
    admQueue := some (.setup sampleQueue)
    ioQueue := fun index => if index = 0 then some (.setup sampleQueue) else none }
  heap := ⟨fun _ => record, 1, []⟩

def sampleMemory : Memory := ⟨BitVec.ofNat 64, some 0x10000⟩

end SpcNvme.Host
