import Mathlib.Data.Finset.Card
import Mathlib.Data.Finset.Range
import SpcNvme.Proofs.Removal

/-! How many queue pairs `CreateIoQueues` makes, against what the controller would
grant: the loop's end, the places it fills and the count it asks for. -/

namespace SpcNvme

/-- `DW0` of the answer to Set Features with Number of Queues, both zero-based. -/
structure QueueGrant where
  ncqa : BitVec 16
  nsqa : BitVec 16

namespace QueueGrant

def dw0 (grant : QueueGrant) : BitVec 32 := grant.ncqa ++ grant.nsqa

def pairs (grant : QueueGrant) : Nat := min grant.nsqa.toNat grant.ncqa.toNat + 1

end QueueGrant

namespace AdminReply

def granting (reply : AdminReply) (grant : QueueGrant) : AdminReply :=
  match reply with
  | refused status failed => refused status failed
  | answered status _ => answered status grant.dw0

def isAnswered : AdminReply → Bool
  | refused .. => false
  | answered .. => true

end AdminReply

/-- The numbers of submission and completion queues a Set Features command asks for. -/
def NvmeCommand.queuesAsked (cmd : NvmeCommand) : Nat × Nat :=
  ((cmd.cdw11.extractLsb' 0 16).toNat + 1, (cmd.cdw11.extractLsb' 16 16).toNat + 1)

namespace DeviceQueues

/-- Where the loop of `CreateIoQ` ends: at its last index, or at the first free
place whose object cannot be set up. -/
structure LoopEnds (queues : DeviceQueues) (setups : Nat → NtStatus) (index last stop : Nat) : Prop where
  started : index ≤ stop
  upTo : stop ≤ last
  inside : ∀ place, index ≤ place → place < stop → place < maxIoQueueCount
  ready : ∀ place, index ≤ place → place < stop → queues.ioQueue place = none → (setups place).ntSuccess = true
  ended : stop = last ∨ (stop < maxIoQueueCount ∧ queues.ioQueue stop = none ∧ (setups stop).ntSuccess = false)

def freeBelow (queues : DeviceQueues) (stop : Nat) : Finset Nat :=
  (Finset.range stop).filter fun place => queues.ioQueue place = none

def newPairs (before after : DeviceQueues) : Finset Nat :=
  (Finset.range maxIoQueueCount).filter fun place =>
    before.ioQueue place = none ∧ (after.ioQueue place).isSome = true

def FilledUpTo (before after : DeviceQueues) (index stop : Nat) : Prop :=
  ∀ place, (after.ioQueue place).isSome = true ↔
    (before.ioQueue place).isSome = true ∨ (index ≤ place ∧ place < stop)

namespace LoopEnds
variable {queues next : DeviceQueues} {setups : Nat → NtStatus} {index last stop : Nat}

theorem unique {other : Nat} (first : queues.LoopEnds setups index last stop)
    (second : queues.LoopEnds setups index last other) : stop = other := by
  have least : ∀ {early late : Nat}, queues.LoopEnds setups index last early →
      queues.LoopEnds setups index last late → ¬ early < late := by
    intro early late here there before
    obtain last_ | ⟨_, free, failed⟩ := here.ended
    · have bound := there.upTo
      omega
    · have ready := there.ready early here.started before free
      exact Bool.false_ne_true (failed.symm.trans ready)
  have above := least first second
  have below := least second first
  omega

theorem turn (ends : next.LoopEnds setups (index + 1) last stop) (inside : index < maxIoQueueCount)
    (ready : queues.ioQueue index = none → (setups index).ntSuccess = true)
    (same : ∀ place, index < place → next.ioQueue place = queues.ioQueue place) :
    queues.LoopEnds setups index last stop where
  started := Nat.le_of_succ_le ends.started
  upTo := ends.upTo
  inside := by
    intro place from_ before
    by_cases here : place = index
    · omega
    · exact ends.inside place (by omega) before
  ready := by
    intro place from_ before free
    by_cases here : place = index
    · rw [here]
      exact ready (here ▸ free)
    · exact ends.ready place (by omega) before (by rw [same place (by omega), free])
  ended := by
    have later := ends.started
    rw [← same stop (by omega)]
    exact ends.ended

theorem rest (ends : queues.LoopEnds setups index last stop) (later : index < stop)
    (same : ∀ place, index < place → next.ioQueue place = queues.ioQueue place) :
    next.LoopEnds setups (index + 1) last stop where
  started := later
  upTo := ends.upTo
  inside := fun place from_ before => ends.inside place (by omega) before
  ready := fun place from_ before free => ends.ready place (by omega) before (by rw [← same place from_, free])
  ended := by
    rw [same stop later]
    exact ends.ended

theorem later (ends : queues.LoopEnds setups index last stop) (more : index < last)
    (ready : queues.ioQueue index = none → (setups index).ntSuccess = true) : index < stop := by
  have started := ends.started
  by_contra stopped
  obtain rfl : stop = index := by omega
  obtain ended | ⟨_, free, failed⟩ := ends.ended
  · omega
  · exact Bool.false_ne_true (failed.symm.trans (ready free))

theorem here (upTo : index ≤ last)
    (ended : index = last ∨ (index < maxIoQueueCount ∧ queues.ioQueue index = none ∧ (setups index).ntSuccess = false)) :
    queues.LoopEnds setups index last index := by
  refine ⟨Nat.le_refl _, upTo, ?_, ?_, ended⟩
  · intro place from_ before
    omega
  · intro place from_ before
    omega

end LoopEnds

theorem FilledUpTo.refl (queues : DeviceQueues) (index : Nat) : queues.FilledUpTo queues index index := by
  intro place
  constructor
  · exact Or.inl
  · rintro (held | ⟨from_, before⟩)
    · exact held
    · omega

theorem FilledUpTo.turn {queues next after : DeviceQueues} {index stop : Nat}
    (filled : next.FilledUpTo after (index + 1) stop) (later : index < stop)
    (placed : (next.ioQueue index).isSome = true)
    (same : ∀ place, place ≠ index → next.ioQueue place = queues.ioQueue place) :
    queues.FilledUpTo after index stop := by
  intro place
  rw [filled place]
  by_cases here : place = index
  · simp [here, placed, later]
  · have range : index + 1 ≤ place ∧ place < stop ↔ index ≤ place ∧ place < stop := by omega
    rw [range, same place here]

/-- The loop returns exactly if it ends inside the array, and fills the places up to its end. -/
theorem createIoQFrom_ends {setups : Nat → NtStatus} {left : Nat} :
    ∀ {queues : DeviceQueues} {index : Nat},
      (∀ status after, queues.createIoQFrom setups index left = some (status, after) →
        ∃ stop, queues.LoopEnds setups index (index + left) stop ∧ queues.FilledUpTo after index stop) ∧
      (∀ stop, queues.LoopEnds setups index (index + left) stop →
        ∃ status after, queues.createIoQFrom setups index left = some (status, after)) := by
  induction left with
  | zero =>
    intro queues index
    constructor
    · intro status after returned
      obtain rfl : queues = after := congrArg Prod.snd (Option.some.inj returned)
      exact ⟨index, .here (Nat.le_refl _) (.inl rfl), .refl queues index⟩
    · intro _ _
      exact ⟨_, _, rfl⟩
  | succ left ih =>
    intro queues index
    have last : index + 1 + left = index + (left + 1) := by omega
    have more : index < index + (left + 1) := by omega
    simp only [createIoQFrom]
    by_cases outside : index ≥ maxIoQueueCount
    · simp only [outside, if_true]
      constructor
      · intro status after returned
        cases returned
      · intro stop ends
        obtain ended | ⟨inside, _⟩ := ends.ended
        · have within := ends.inside index (Nat.le_refl index) (by omega)
          omega
        · have started := ends.started
          omega
    · have inside : index < maxIoQueueCount := Nat.lt_of_not_le outside
      simp only [outside, if_false]
      cases held : queues.ioQueue index with
      | some object =>
        have ready : queues.ioQueue index = none → (setups index).ntSuccess = true := by simp [held]
        have placed : (queues.ioQueue index).isSome = true := by simp [held]
        obtain ⟨returns, exists_⟩ := @ih queues (index + 1)
        rw [last] at returns exists_
        constructor
        · intro status after returned
          obtain ⟨stop, ends, filled⟩ := returns status after returned
          exact ⟨stop, ends.turn inside ready (fun _ _ => rfl), filled.turn ends.started placed (fun _ _ => rfl)⟩
        · intro stop ends
          exact exists_ stop (ends.rest (ends.later more ready) (fun _ _ => rfl))
      | none =>
        cases ready : (setups index).ntSuccess with
        | false =>
          simp only [Bool.not_false, if_true]
          constructor
          · intro status after returned
            obtain ⟨rfl, rfl⟩ := Prod.mk.inj (Option.some.inj returned)
            exact ⟨index, .here (Nat.le_of_lt more) (.inr ⟨inside, held, ready⟩), .refl queues index⟩
          · intro _ _
            exact ⟨_, _, rfl⟩
        | true =>
          simp only [Bool.not_true, Bool.false_eq_true, if_false]
          let next : DeviceQueues := { queues with
            created := queues.created + 1
            ioQueue := Function.update queues.ioQueue index (some queues.created)
            allocatedIoQ := queues.allocatedIoQ + 1 }
          have placed : (next.ioQueue index).isSome = true := by simp [next]
          have same : ∀ place, place ≠ index → next.ioQueue place = queues.ioQueue place :=
            fun _ other => Function.update_of_ne other ..
          have later : ∀ place, index < place → next.ioQueue place = queues.ioQueue place :=
            fun place above => same place (by omega)
          obtain ⟨returns, exists_⟩ := @ih next (index + 1)
          rw [last] at returns exists_
          constructor
          · intro status after returned
            obtain ⟨stop, ends, filled⟩ := returns status after returned
            exact ⟨stop, ends.turn inside (fun _ => ready) later, filled.turn ends.started placed same⟩
          · intro stop ends
            exact exists_ stop (ends.rest (ends.later more fun _ => ready) later)

private theorem LoopEnds.le_max {queues : DeviceQueues} {setups : Nat → NtStatus} {last stop : Nat}
    (ends : queues.LoopEnds setups 0 last stop) : stop ≤ maxIoQueueCount := by
  by_contra past
  have inside := ends.inside (stop - 1) (Nat.zero_le _) (by omega)
  omega

private theorem newPairs_eq {before after : DeviceQueues} {stop : Nat} (filled : before.FilledUpTo after 0 stop)
    (inside : stop ≤ maxIoQueueCount) : before.newPairs after = before.freeBelow stop := by
  ext place
  simp only [newPairs, freeBelow, Finset.mem_filter, Finset.mem_range, filled place, Nat.zero_le, true_and]
  constructor
  · rintro ⟨_, free, held | reached⟩
    · simp [free] at held
    · exact ⟨reached, free⟩
  · rintro ⟨reached, free⟩
    exact ⟨by omega, free, .inr reached⟩

private theorem createIoQ_newPairs_iff (queues : DeviceQueues) (setups : Nat → NtStatus) (most : Nat) :
    (∃ status after, queues.createIoQ setups = some (status, after) ∧ (queues.newPairs after).card ≤ most) ↔
      ∃ stop, queues.LoopEnds setups 0 queues.params.desiredIoQ.toNat stop ∧ (queues.freeBelow stop).card ≤ most := by
  obtain ⟨returns, exists_⟩ := @createIoQFrom_ends setups queues.params.desiredIoQ.toNat queues 0
  rw [Nat.zero_add] at returns exists_
  constructor
  · rintro ⟨status, after, returned, few⟩
    obtain ⟨stop, ends, filled⟩ := returns status after returned
    rw [newPairs_eq filled ends.le_max] at few
    exact ⟨stop, ends, few⟩
  · rintro ⟨stop, ends, few⟩
    obtain ⟨status, after, returned⟩ := exists_ stop ends
    obtain ⟨other, also, filled⟩ := returns status after returned
    rw [← also.unique ends, ← newPairs_eq filled also.le_max] at few
    exact ⟨status, after, returned, few⟩

end DeviceQueues

namespace Driver

def startingQueues (driver : Driver) (force : Bool) : DeviceQueues :=
  if force then driver.queues.deleteIoQ else driver.queues

def queueCountCommand (driver : Driver) (reply : AdminReply) : Option NvmeCommand :=
  let desiredIoQ := driver.queues.params.desiredIoQ
  if desiredIoQ = 0 ∧ driver.isWorking = true ∧ reply.isAnswered = true then
    some (buildCmdSetIoQueueCount (.init none) (desiredIoQ.setWidth 16)).nvmeCmd
  else none

/-- `CreateIoQueues` returns, asks for a number of queues that exists, and makes
no more pairs than the controller grants. -/
structure CreatesWithin (driver : Driver) (force : Bool) (reply : AdminReply) (grant : QueueGrant)
    (setups : Nat → NtStatus) : Prop where
  asked : ∀ cmd, driver.queueCountCommand (reply.granting grant) = some cmd →
    (1 ≤ cmd.queuesAsked.1 ∧ cmd.queuesAsked.1 ≤ 65535) ∧ 1 ≤ cmd.queuesAsked.2 ∧ cmd.queuesAsked.2 ≤ 65535
  returned : ∃ status after, driver.createIoQueues force (reply.granting grant) setups = some (status, after) ∧
    ((driver.startingQueues force).newPairs after.queues).card ≤ grant.pairs

/-- No count is negotiated, and the configured one fits the array and the grant;
a count of zero is harmless only where its command is not submitted. -/
def CountFits (driver : Driver) (force : Bool) (reply : AdminReply) (grant : QueueGrant)
    (setups : Nat → NtStatus) : Prop :=
  if driver.queues.params.desiredIoQ = 0 then driver.isWorking = false ∨ reply.isAnswered = false
  else ∃ stop, (driver.startingQueues force).LoopEnds setups 0 driver.queues.params.desiredIoQ.toNat stop ∧
    ((driver.startingQueues force).freeBelow stop).card ≤ grant.pairs

@[simp] theorem isAnswered_granting (reply : AdminReply) (grant : QueueGrant) :
    (reply.granting grant).isAnswered = reply.isAnswered := by
  cases reply <;> rfl

private theorem deleteIoQUpTo_params (queues : DeviceQueues) (count : Nat) :
    (queues.deleteIoQUpTo count).params = queues.params := by
  induction count with
  | zero => rfl
  | succ count ih =>
    simp only [DeviceQueues.deleteIoQUpTo]
    split <;> exact ih

private theorem startingQueues_frame (driver : Driver) (force : Bool) :
    (driver.startingQueues force).params = driver.queues.params ∧
      (driver.startingQueues force).isWorking = driver.isWorking := by
  cases force with
  | false => exact ⟨rfl, rfl⟩
  | true =>
    obtain ⟨_, _, state, _⟩ := driver.queues.deleteIoQUpTo_frame maxIoQueueCount
    exact ⟨deleteIoQUpTo_params driver.queues maxIoQueueCount, congrArg (· == NvmeState.running) state⟩

private theorem createIoQueues_eq (driver : Driver) (force : Bool) (reply : AdminReply) (setups : Nat → NtStatus) :
    driver.createIoQueues force reply setups =
      createIoQueues { driver with queues := driver.startingQueues force } false reply setups := by
  cases force <;> rfl

private theorem newPairs_self (queues : DeviceQueues) : (queues.newPairs queues).card = 0 := by
  rw [Finset.card_eq_zero, DeviceQueues.newPairs, Finset.filter_eq_empty_iff]
  rintro place _ ⟨free, held⟩
  simp [free] at held

/-- A count of zero that is not negotiated ends the call before its loop. -/
theorem createIoQueues_unasked {driver : Driver} (zero : driver.queues.params.desiredIoQ = 0) {reply : AdminReply}
    (unasked : driver.isWorking = false ∨ reply.isAnswered = false) (setups : Nat → NtStatus) :
    ∃ status, driver.createIoQueues false reply setups = some (status, driver) := by
  simp only [createIoQueues, Bool.false_eq_true, if_false, zero, if_true, setNumberOfIoQueue]
  cases working : driver.isWorking with
  | false => exact ⟨.invalidDeviceState, rfl⟩
  | true =>
    cases reply with
    | refused status failed => exact ⟨status, by simp [failed]⟩
    | answered status dw0 => simp [working, AdminReply.isAnswered] at unasked

/-- The command for a count of zero asks for 65536 queues of either kind. -/
theorem queuesAsked_zero : (buildCmdSetIoQueueCount (.init none) 0).nvmeCmd.queuesAsked = (65536, 65536) := rfl

theorem createIoQueues_createsWithin_iff (driver : Driver) (force : Bool) (reply : AdminReply) (grant : QueueGrant)
    (setups : Nat → NtStatus) :
    driver.CreatesWithin force reply grant setups ↔ driver.CountFits force reply grant setups := by
  obtain ⟨params, working⟩ := driver.startingQueues_frame force
  unfold CountFits
  split
  · next zero =>
    constructor
    · intro within
      by_contra submitted
      simp only [not_or, Bool.not_eq_false] at submitted
      have command : driver.queueCountCommand (reply.granting grant) =
          some (buildCmdSetIoQueueCount (.init none) 0).nvmeCmd := by
        simp [queueCountCommand, zero, submitted]
      have most := (within.asked _ command).1.2
      rw [queuesAsked_zero] at most
      omega
    · intro unasked
      constructor
      · intro cmd submitted
        simp only [queueCountCommand, isAnswered_granting] at submitted
        split at submitted
        · next both =>
          obtain stopped | refused := unasked
          · cases stopped.symm.trans both.2.1
          · cases refused.symm.trans both.2.2
        · cases submitted
      · have stops : (Driver.mk (driver.startingQueues force) driver.controller).isWorking = false ∨
            (reply.granting grant).isAnswered = false := by
          rw [isAnswered_granting]
          exact unasked.imp_left working.trans
        obtain ⟨status, returned⟩ := createIoQueues_unasked (params ▸ zero) stops setups
        refine ⟨status, _, (createIoQueues_eq driver force _ setups).trans returned, ?_⟩
        rw [newPairs_self]
        exact Nat.zero_le _
  · next configured =>
    have asked : driver.queueCountCommand (reply.granting grant) = none := if_neg fun both => configured both.1
    have loop : driver.createIoQueues force (reply.granting grant) setups =
        createIoQ { driver with queues := driver.startingQueues force } setups := by
      rw [createIoQueues_eq]
      simp only [createIoQueues, Bool.false_eq_true, if_false, params, configured]
    have counted := (driver.startingQueues force).createIoQ_newPairs_iff setups grant.pairs
    rw [params] at counted
    rw [← counted]
    constructor
    · intro within
      obtain ⟨status, after, returned, few⟩ := within.returned
      rw [loop, createIoQ, Option.map_eq_some_iff] at returned
      obtain ⟨⟨_, queues⟩, created, same⟩ := returned
      obtain ⟨rfl, rfl⟩ := Prod.mk.inj same
      exact ⟨_, _, created, few⟩
    · rintro ⟨status, after, created, few⟩
      constructor
      · intro cmd submitted
        cases asked.symm.trans submitted
      · refine ⟨status, { driver with queues := after }, ?_, few⟩
        rw [loop, createIoQ, created]
        rfl

/-- The adapter as `Setup` leaves it without registry values: the array is empty, and 16 pairs are wanted. -/
def unconfigured : Driver :=
  ⟨(DeviceQueues.zeroed.setup ⟨none, none, none⟩ 255 true true).2, .none⟩

/-- A controller that grants one pair does not keep the driver from making 16. -/
theorem unconfigured_creates_too_many :
    ¬ unconfigured.CreatesWithin false (.answered ⟨false, 0, 0⟩ 0) ⟨0, 0⟩ (fun _ => .success) := by
  intro within
  obtain ⟨status, after, returned, few⟩ := within.returned
  have made : (unconfigured.createIoQueues false (.answered ⟨false, 0, 0⟩ 0) fun _ => .success).map
      (fun result => ((unconfigured.startingQueues false).newPairs result.2.queues).card) = some 16 := by
    decide +kernel
  have returned : unconfigured.createIoQueues false (.answered ⟨false, 0, 0⟩ 0) (fun _ => .success) =
      some (status, after) := returned
  rw [returned, Option.map_some, Option.some.injEq] at made
  rw [made] at few
  exact absurd few (by decide)

end Driver

end SpcNvme
