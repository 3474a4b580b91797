import SpcNvme.Proofs.Registration

/-! The array of I/O queues holds its objects without gaps, in every sequence of the
functions that create, delete or forget queues. -/

namespace SpcNvme

namespace DeviceQueues

/-- The places below the count are those that hold an object. -/
structure Filled (queues : DeviceQueues) : Prop where
  few : queues.allocatedIoQ.toNat ≤ maxIoQueueCount
  held : ∀ index, (queues.ioQueue index).isSome = true ↔ index < queues.allocatedIoQ.toNat

theorem Filled.congr {queues other : DeviceQueues} (filled : queues.Filled)
    (allocated : other.allocatedIoQ = queues.allocatedIoQ) (array : other.ioQueue = queues.ioQueue) : other.Filled :=
  ⟨allocated ▸ filled.few, allocated ▸ array ▸ filled.held⟩

theorem Filled.of_empty {queues : DeviceQueues} (allocated : queues.allocatedIoQ = 0)
    (empty : ∀ index, queues.ioQueue index = none) : queues.Filled := by
  refine ⟨?_, ?_⟩
  · rw [allocated]
    decide
  · intro index
    simp [allocated, empty index]

theorem Filled.allocatedIoQ_eq_zero {queues : DeviceQueues} (filled : queues.Filled)
    (empty : ∀ index, queues.ioQueue index = none) : queues.allocatedIoQ = 0 := by
  apply BitVec.eq_of_toNat_eq
  apply Nat.eq_zero_of_not_pos
  intro some
  have held := (filled.held 0).mpr some
  rw [empty 0] at held
  cases held

theorem allocatedIoQ_succ {queues : DeviceQueues} {index : Nat} (inside : index < maxIoQueueCount)
    (first : queues.allocatedIoQ.toNat = index) : (queues.allocatedIoQ + 1).toNat = index + 1 := by
  have one : (1 : BitVec 32).toNat = 1 := rfl
  rw [BitVec.toNat_add, one, first]
  simp only [maxIoQueueCount] at inside
  omega

theorem Filled.put {queues : DeviceQueues} (filled : queues.Filled) {index object : Nat} (inside : index < maxIoQueueCount)
    (first : queues.allocatedIoQ.toNat = index) {after : DeviceQueues}
    (allocated : after.allocatedIoQ = queues.allocatedIoQ + 1)
    (array : after.ioQueue = Function.update queues.ioQueue index (some object)) : after.Filled := by
  have grown : after.allocatedIoQ.toNat = index + 1 := allocated ▸ allocatedIoQ_succ inside first
  refine ⟨by omega, ?_⟩
  intro other
  rw [grown, array]
  by_cases here : other = index
  · subst here
    simp
  · rw [Function.update_of_ne here, filled.held]
    omega

private theorem createIoQFrom_filled {setups : Nat → NtStatus} {status : NtStatus} {left : Nat} :
    ∀ {queues after : DeviceQueues} {index : Nat}, queues.Filled → index ≤ queues.allocatedIoQ.toNat →
      queues.createIoQFrom setups index left = some (status, after) → after.Filled := by
  induction left with
  | zero =>
    intro queues after index filled _ returned
    cases returned
    exact filled
  | succ left ih =>
    intro queues after index filled upTo returned
    simp only [createIoQFrom] at returned
    split at returned
    · cases returned
    · next inside =>
      split at returned
      · next held =>
        have below := (filled.held index).mp (by simp [held])
        exact ih filled below returned
      · next free =>
        split at returned
        · cases returned
          exact filled.congr rfl rfl
        · have above : ¬ index < queues.allocatedIoQ.toNat := by
            rw [← filled.held, free]
            exact Bool.false_ne_true
          have first : queues.allocatedIoQ.toNat = index := by omega
          refine ih (filled.put (Nat.lt_of_not_le inside) first rfl rfl) ?_ returned
          exact Nat.le_of_eq (allocatedIoQ_succ (Nat.lt_of_not_le inside) first).symm

private theorem deleteIoQUpTo_allocatedIoQ {queues : DeviceQueues} (filled : queues.Filled) (count : Nat) :
    (queues.deleteIoQUpTo count).allocatedIoQ.toNat = queues.allocatedIoQ.toNat - count := by
  induction count with
  | zero => rfl
  | succ count ih =>
    simp only [deleteIoQUpTo, (queues.deleteIoQUpTo_frame count).2.2.2]
    split
    · next missing =>
      have above : ¬ count < queues.allocatedIoQ.toNat := by
        rw [← filled.held, missing]
        exact Bool.false_ne_true
      omega
    · next held =>
      have below := (filled.held count).mp (by simp [held])
      have one : (1 : BitVec 32).toNat = 1 := rfl
      rw [BitVec.toNat_sub, ih, one]
      omega

private theorem deleteIoQ_filled {queues : DeviceQueues} (filled : queues.Filled) : queues.deleteIoQ.Filled := by
  apply Filled.of_empty
  · have none := deleteIoQUpTo_allocatedIoQ filled maxIoQueueCount
    have few := filled.few
    apply BitVec.eq_of_toNat_eq
    show (queues.deleteIoQUpTo maxIoQueueCount).allocatedIoQ.toNat = 0
    omega
  · exact fun _ => rfl

theorem teardown_filled {queues : DeviceQueues} (filled : queues.Filled) : queues.teardown.Filled := by
  unfold teardown
  split
  · exact filled
  · have emptied : (queues.setState .teardown).deleteIoQ.Filled := deleteIoQ_filled (filled.congr rfl rfl)
    refine emptied.congr ?_ ?_ <;> (unfold deleteAdmQ; split <;> rfl)

private theorem setup_filled {queues : DeviceQueues} (filled : queues.Filled) (registry : Registry) (mqes : BitVec 16)
    (mapped admQueueOK : Bool) : (queues.setup registry mqes mapped admQueueOK).2.Filled := by
  unfold setup
  split
  · exact filled
  · cases mapped with
    | false => exact .of_empty rfl fun _ => rfl
    | true => cases admQueueOK <;> exact .of_empty rfl fun _ => rfl

end DeviceQueues

namespace Driver

/-- Unregistering queues changes nothing of the device but the counter, either. -/
theorem unregisterFrom_queues {replies : PairReplies} {left : Nat} :
    ∀ {driver after : Driver} {index : Nat} {status last : NtStatus},
      driver.unregisterFrom replies index status left = some (last, after) →
      ∃ count, after.queues = { driver.queues with registeredIoQ := count } := by
  induction left with
  | zero =>
    intro driver after index status last returned
    cases returned
    exact ⟨driver.queues.registeredIoQ, rfl⟩
  | succ left ih =>
    intro driver after index status last returned
    obtain ⟨inside, object, held⟩ := unregisterFrom_running returned
    cases driver.unregisterFrom_turn replies status left inside held with
    | stopped _ _ _ ends =>
      cases ends.symm.trans returned
      exact ⟨_, rfl⟩
    | halfway _ _ _ _ _ _ ends =>
      cases ends.symm.trans returned
      exact ⟨_, rfl⟩
    | counted _ _ _ _ _ _ goes =>
      rw [goes] at returned
      obtain ⟨count, same⟩ := ih returned
      exact ⟨count, same⟩

private theorem createIoQ_filled {driver after : Driver} {setups : Nat → NtStatus} {status : NtStatus}
    (filled : driver.queues.Filled) (returned : driver.createIoQ setups = some (status, after)) : after.queues.Filled := by
  simp only [createIoQ, Option.map_eq_some_iff] at returned
  obtain ⟨⟨result, queues⟩, created, same⟩ := returned
  cases same
  exact DeviceQueues.createIoQFrom_filled filled (Nat.zero_le _) created

private theorem createIoQueues_filled {driver after : Driver} {force : Bool} {reply : AdminReply} {setups : Nat → NtStatus}
    {status : NtStatus} (filled : driver.queues.Filled)
    (returned : driver.createIoQueues force reply setups = some (status, after)) : after.queues.Filled := by
  have unforced : ∀ {driver : Driver}, driver.queues.Filled →
      driver.createIoQueues false reply setups = some (status, after) → after.queues.Filled := by
    intro driver filled returned
    simp only [createIoQueues, Bool.false_eq_true, if_false] at returned
    split at returned
    · obtain ⟨params, same⟩ := driver.setNumberOfIoQueue_queues reply
      have kept : (driver.setNumberOfIoQueue reply).2.queues.Filled := by
        rw [same]
        exact filled.congr rfl rfl
      split at returned
      · cases returned
        exact kept
      · exact createIoQ_filled kept returned
    · exact createIoQ_filled filled returned
  cases force with
  | false => exact unforced filled returned
  | true =>
    have restarted : Driver.createIoQueues { driver with queues := driver.queues.deleteIoQ } false reply setups =
      some (status, after) := returned
    exact unforced (DeviceQueues.deleteIoQ_filled filled) restarted

private theorem call_filled {driver after : Driver} {call : QueueCall} (filled : driver.queues.Filled)
    (taken : driver.call call = some after) : after.queues.Filled := by
  cases call with
  | setup registry mqes mapped admQueueOK =>
    cases taken
    exact DeviceQueues.setup_filled filled registry mqes mapped admQueueOK
  | initController reply =>
    cases taken
    unfold initController
    split
    · exact filled
    · exact filled.congr rfl rfl
  | createIoQueues force reply setups =>
    simp only [Driver.call, Option.map_eq_some_iff] at taken
    obtain ⟨⟨status, last⟩, returned, same⟩ := taken
    cases same
    exact createIoQueues_filled filled returned
  | registerIoQueues replies =>
    simp only [Driver.call, Option.map_eq_some_iff] at taken
    obtain ⟨⟨status, last⟩, returned, same⟩ := taken
    cases same
    obtain ⟨count, same⟩ := registerIoQueues_queues returned
    rw [same]
    exact filled.congr rfl rfl
  | unregisterIoQueues replies =>
    simp only [Driver.call, unregisterIoQueues, Option.map_eq_some_iff] at taken
    obtain ⟨_, ⟨⟨status, last⟩, looped, rfl⟩, rfl⟩ := taken
    split at looped
    · cases looped
      exact filled
    · obtain ⟨count, same⟩ := unregisterFrom_queues looped
      rw [same]
      exact filled.congr rfl rfl
  | teardown =>
    cases taken
    exact DeviceQueues.teardown_filled filled
  | powerCycle =>
    cases taken
    exact filled

/-- The array has no gaps after any sequence of the calls. -/
theorem run_filled {driver : Driver} {calls : List QueueCall} (ran : Machine.run call initial calls = some driver) :
    driver.queues.Filled := by
  have empty : initial.queues.Filled := .of_empty rfl fun _ => rfl
  have kept : ∀ before event after, before.queues.Filled → call before event = some after → after.queues.Filled := by
    intro before event after filled taken
    exact call_filled filled taken
  exact Machine.run_invariant_of_step kept empty ran

end Driver

end SpcNvme
