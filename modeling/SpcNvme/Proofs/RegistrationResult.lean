import SpcNvme.Proofs.QueueArray

/-! What `RegisterIoQueues` tells its caller, against the queue pairs that came into
being during the call, wherever the loop over the queues stops. -/

namespace SpcNvme

namespace Driver

structure Creates (driver : Driver) (replies : PairReplies) (index : Nat) : Prop where
  cqReal : (replies index).1.Real
  cqFree : driver.controller.cq (index + 1) = none
  sqReal : (replies index).2.Real
  sqFree : driver.controller.sq (index + 1) = none

def RefusedAt (driver : Driver) (replies : PairReplies) (index : Nat) : Prop :=
  (replies index).1.Refused ∨
    (replies index).1.Reported (driver.controller.cq (index + 1) = none) ∧ (replies index).2.Refused

structure PairMade (before after : Driver) (index : Nat) : Prop where
  cqNew : before.controller.cq (index + 1) = none
  sqNew : before.controller.sq (index + 1) = none
  made : ∃ object, before.queues.ioQueue index = some object ∧ after.controller.cq (index + 1) = some object ∧
    after.controller.sq (index + 1) = some object

theorem Creates.reported {driver : Driver} {replies : PairReplies} {index : Nat} (creates : driver.Creates replies index) :
    driver.CreatesReported replies index := by
  have reported : ∀ {reply : AdminReply} {possible : Prop}, reply.Real → possible → reply.Reported possible := by
    intro reply possible real held
    cases reply with
    | refused => exact absurd real id
    | answered status dw0 => exact ⟨NvmeCommandStatus.reported_of_isSuccess real, fun _ => held⟩
  exact ⟨reported creates.cqReal creates.cqFree, reported creates.sqReal creates.sqFree⟩

/-! What one turn does. -/

/-- The driver counts the turn, and the pair is made exactly if the controller creates both queues. -/
structure TurnCounted (driver : Driver) (replies : PairReplies) (index : Nat) (controller : ControllerQueues) : Prop where
  reported : driver.CreatesReported replies index
  same : driver.controller.SameBut (index + 1) controller
  made : driver.PairMade (driver.withController controller) index ↔ driver.Creates replies index

structure TurnStopped (driver : Driver) (replies : PairReplies) (index : Nat) (status : NtStatus)
    (controller : ControllerQueues) : Prop where
  unreported : ¬ driver.CreatesReported replies index
  same : driver.controller.SameBut (index + 1) controller
  missed : ¬ driver.PairMade (driver.withController controller) index
  status : driver.RefusedAt replies index ∧ status = .requestAborted ∨
    ¬ driver.RefusedAt replies index ∧ status = .success

variable {driver : Driver} {replies : PairReplies} {index object : Nat} {first controller : ControllerQueues}

private theorem turnStopped_of_cq (unreported : ¬ (replies index).1.Reported (driver.controller.cq (index + 1) = none))
    {status : NtStatus} (told : (replies index).1.Told status) :
    driver.TurnStopped replies index status driver.controller := by
  refine ⟨fun reported => unreported reported.1, .refl .., ?_, ?_⟩
  · rintro ⟨cqNew, _, object, _, cq, _⟩
    cases cqNew.symm.trans cq
  · have agree : driver.RefusedAt replies index ↔ (replies index).1.Refused :=
      or_iff_left fun both => unreported both.1
    rwa [agree]

private theorem turnStopped_of_sq (reported : (replies index).1.Reported (driver.controller.cq (index + 1) = none))
    (same : driver.controller.SameBut (index + 1) first) (sq : first.sq = driver.controller.sq)
    (unreported : ¬ (replies index).2.Reported (driver.controller.sq (index + 1) = none))
    {status : NtStatus} (told : (replies index).2.Told status) :
    driver.TurnStopped replies index status first := by
  refine ⟨fun both => unreported both.2, same, ?_, ?_⟩
  · rintro ⟨_, sqNew, object, _, _, made⟩
    have kept : first.sq (index + 1) = none := (congrFun sq _).trans sqNew
    cases kept.symm.trans made
  · have agree : driver.RefusedAt replies index ↔ (replies index).2.Refused :=
      (or_iff_right reported.not_refused).trans (and_iff_right reported)
    rwa [agree]

structure CqCounted (driver : Driver) (reply : AdminReply) (index object : Nat) (first : ControllerQueues) : Prop where
  reported : reply.Reported (driver.controller.cq (index + 1) = none)
  same : driver.controller.SameBut (index + 1) first
  sq : first.sq = driver.controller.sq
  made : driver.controller.cq (index + 1) = none → (first.cq (index + 1) = some object ↔ reply.Real)

private theorem createCq_counted {reply : AdminReply}
    (ended : reply.command (driver.controller.createCq (index + 1) object) = .succeeded first) :
    driver.CqCounted reply index object first := by
  have ends := driver.controller.createCq_ends (index + 1) object reply
  rw [ended] at ends
  cases ends with
  | executed reported real absent =>
    refine ⟨reported, driver.controller.withCq_sameBut (index + 1) (some object), rfl, ?_⟩
    intro _
    exact iff_of_true (ControllerQueues.withCq_self ..) real
  | pretended reported unreal =>
    refine ⟨reported, .refl .., rfl, ?_⟩
    intro free
    refine iff_of_false ?_ unreal
    intro held
    cases free.symm.trans held

private theorem createSq_counted (held : driver.queues.ioQueue index = some object)
    (counted : driver.CqCounted (replies index).1 index object first)
    (ended : (replies index).2.command (first.createSq (index + 1) object) = .succeeded controller) :
    driver.TurnCounted replies index controller := by
  have ends := first.createSq_ends (index + 1) object (replies index).2
  rw [ended, counted.sq] at ends
  cases ends with
  | executed reported real absent =>
    have same := counted.same.trans (attachSq_sameBut first (index + 1) object)
    refine ⟨⟨counted.reported, reported⟩, same, ?_, ?_⟩
    · rintro ⟨cqNew, sqNew, other, mine, cq, _⟩
      obtain rfl : object = other := Option.some.inj (held.symm.trans mine)
      have kept : (first.attachSq (index + 1) object).cq = first.cq := by
        unfold ControllerQueues.attachSq
        split <;> rfl
      have made : first.cq (index + 1) = some object := (congrFun kept _).symm.trans cq
      exact ⟨(counted.made cqNew).mp made, cqNew, real, sqNew⟩
    · rintro ⟨cqReal, cqFree, _, sqFree⟩
      have made := (counted.made cqFree).mpr cqReal
      refine ⟨cqFree, sqFree, object, held, ?_, ?_⟩ <;> simp [withController, ControllerQueues.attachSq, made]
  | pretended reported unreal =>
    refine ⟨⟨counted.reported, reported⟩, counted.same, ?_, fun creates => absurd creates.sqReal unreal⟩
    rintro ⟨_, sqNew, other, _, _, made⟩
    have kept : first.sq (index + 1) = none := (congrFun counted.sq _).trans sqNew
    cases kept.symm.trans made

private theorem registerFrom_ends (inside : index < maxIoQueueCount) (held : driver.queues.ioQueue index = some object)
    (left : Nat) :
    (∃ controller, driver.TurnCounted replies index controller ∧ driver.registerFrom replies index (left + 1) =
      (driver.withController controller).countPair.registerFrom replies (index + 1) left) ∨
    ∃ status controller, driver.TurnStopped replies index status controller ∧
      driver.registerFrom replies index (left + 1) = some (status, driver.withController controller) := by
  cases driver.registerFrom_turn replies left inside held with
  | stopped status missed told stops =>
    exact .inr ⟨status, driver.controller, turnStopped_of_cq missed told, stops⟩
  | halfway status first ended reported missed told stops =>
    have counted := createCq_counted ended
    exact .inr ⟨status, first, turnStopped_of_sq reported counted.same counted.sq missed told, stops⟩
  | counted first second ended _ finished _ goes =>
    exact .inl ⟨second, createSq_counted held (createCq_counted ended) finished, goes⟩

/-! What the loop does. Turns at other indexes leave a turn what it was. -/

/-- Two states look the same to the turn at an index. -/
structure Alike (driver other : Driver) (index : Nat) : Prop where
  ioQueue : other.queues.ioQueue index = driver.queues.ioQueue index
  cq : other.controller.cq (index + 1) = driver.controller.cq (index + 1)
  sq : other.controller.sq (index + 1) = driver.controller.sq (index + 1)

namespace Alike
variable {other after : Driver}

private theorem reported_iff (alike : driver.Alike other index) :
    other.CreatesReported replies index ↔ driver.CreatesReported replies index := by
  rw [CreatesReported, CreatesReported, alike.cq, alike.sq]

theorem refused_iff (alike : driver.Alike other index) :
    other.RefusedAt replies index ↔ driver.RefusedAt replies index := by
  rw [RefusedAt, RefusedAt, alike.cq]

theorem symm (alike : driver.Alike other index) : other.Alike driver index :=
  ⟨alike.ioQueue.symm, alike.cq.symm, alike.sq.symm⟩

private theorem creates (alike : driver.Alike other index) (creates : driver.Creates replies index) :
    other.Creates replies index :=
  ⟨creates.cqReal, alike.cq.trans creates.cqFree, creates.sqReal, alike.sq.trans creates.sqFree⟩

private theorem creates_iff (alike : driver.Alike other index) :
    other.Creates replies index ↔ driver.Creates replies index := ⟨alike.symm.creates, alike.creates⟩

theorem made (alike : driver.Alike other index) (made : driver.PairMade after index) : other.PairMade after index := by
  obtain ⟨object, held, created⟩ := made.made
  exact ⟨alike.cq.trans made.cqNew, alike.sq.trans made.sqNew, object, alike.ioQueue.trans held, created⟩

private theorem made_iff (alike : driver.Alike other index) : other.PairMade after index ↔ driver.PairMade after index :=
  ⟨alike.symm.made, alike.made⟩

private theorem made_later (alike : after.Alike other index) (made : driver.PairMade after index) : driver.PairMade other index := by
  obtain ⟨object, held, cq, sq⟩ := made.made
  exact ⟨made.cqNew, made.sqNew, object, held, alike.cq.trans cq, alike.sq.trans sq⟩

private theorem made_of_later (alike : after.Alike other index) : driver.PairMade other index ↔ driver.PairMade after index :=
  ⟨alike.symm.made_later, alike.made_later⟩

theorem refl (driver : Driver) (index : Nat) : driver.Alike driver index := ⟨rfl, rfl, rfl⟩

private theorem of_sameBut {place : Nat} (same : driver.controller.SameBut (index + 1) controller) (elsewhere : place ≠ index) :
    driver.Alike (driver.withController controller) place :=
  ⟨rfl, same.cq _ (by omega), same.sq _ (by omega)⟩

theorem countPair (alike : driver.Alike other index) : driver.Alike other.countPair index :=
  ⟨alike.ioQueue, alike.cq, alike.sq⟩

private theorem not_made (alike : driver.Alike after index) : ¬ driver.PairMade after index := by
  rintro ⟨cqNew, _, object, _, cq, _⟩
  cases cqNew.symm.trans (alike.cq.symm.trans cq)

theorem trans {third : Driver} (left : driver.Alike other index) (right : other.Alike third index) :
    driver.Alike third index :=
  ⟨right.ioQueue.trans left.ioQueue, right.cq.trans left.cq, right.sq.trans left.sq⟩

end Alike

/-- So many turns are counted, and then the loop is at its end or stops. -/
structure LoopEnded (driver : Driver) (replies : PairReplies) (index left turns : Nat) (status : NtStatus) (after : Driver) :
    Prop where
  within : turns ≤ left
  reported : ∀ place, index ≤ place → place < index + turns → driver.CreatesReported replies place
  queues : after.queues =
    { driver.queues with registeredIoQ := driver.queues.registeredIoQ + BitVec.ofNat 32 turns }
  before : ∀ place, place < index → driver.Alike after place
  made : ∀ place, index ≤ place → place < index + left →
    (driver.PairMade after place ↔ place < index + turns ∧ driver.Creates replies place)
  ended : turns = left ∧ status = .success ∨
    turns < left ∧ ¬ driver.CreatesReported replies (index + turns) ∧
      (driver.RefusedAt replies (index + turns) ∧ status = .requestAborted ∨
        ¬ driver.RefusedAt replies (index + turns) ∧ status = .success)

private theorem loopEnded_done (driver : Driver) (replies : PairReplies) (index : Nat) :
    driver.LoopEnded replies index 0 0 .success driver where
  within := Nat.le_refl _
  reported := fun place from_ before => absurd before (by omega)
  queues := by simp
  before := fun place _ => .refl driver place
  made := fun place from_ before => absurd before (by omega)
  ended := .inl ⟨rfl, rfl⟩

private theorem TurnStopped.loopEnded {left : Nat} {status : NtStatus} (stopped : driver.TurnStopped replies index status controller) :
    driver.LoopEnded replies index (left + 1) 0 status (driver.withController controller) where
  within := Nat.zero_le _
  reported := fun place from_ before => absurd before (by omega)
  queues := by simp [withController]
  before := fun place before => .of_sameBut stopped.same (by omega)
  made := by
    intro place from_ _
    refine iff_of_false ?_ fun both => absurd both.1 (by omega)
    by_cases here : place = index
    · exact here ▸ stopped.missed
    · exact (Alike.of_sameBut stopped.same here).not_made
  ended := .inr ⟨Nat.succ_pos left, stopped.unreported, stopped.status⟩

private theorem TurnCounted.loopEnded {left turns : Nat} {status : NtStatus} {after : Driver}
    (counted : driver.TurnCounted replies index controller)
    (ended : (driver.withController controller).countPair.LoopEnded replies (index + 1) left turns status after) :
    driver.LoopEnded replies index (left + 1) (turns + 1) status after := by
  have alike : ∀ place, place ≠ index → driver.Alike (driver.withController controller).countPair place := by
    intro place elsewhere
    exact (Alike.of_sameBut counted.same elsewhere).countPair
  have next : index + (turns + 1) = index + 1 + turns := by omega
  refine ⟨Nat.succ_le_succ ended.within, ?_, ?_, ?_, ?_, ?_⟩
  · intro place from_ before
    by_cases here : place = index
    · exact here ▸ counted.reported
    · exact (alike place here).reported_iff.mp (ended.reported place (by omega) (by omega))
  · have sum : driver.queues.registeredIoQ + 1 + BitVec.ofNat 32 turns =
        driver.queues.registeredIoQ + BitVec.ofNat 32 (turns + 1) := by
      rw [BitVec.add_assoc, BitVec.ofNat_add, BitVec.add_comm 1]
      rfl
    rw [ended.queues, ← sum]
    rfl
  · intro place before
    exact (alike place (by omega)).trans (ended.before place (by omega))
  · intro place from_ before
    by_cases here : place = index
    · subst here
      have later : driver.PairMade after place ↔ driver.PairMade (driver.withController controller) place :=
        ((Alike.refl _ place).countPair.trans (ended.before place (Nat.lt_succ_self place))).made_of_later
      exact (later.trans counted.made).trans ⟨fun creates => ⟨by omega, creates⟩, And.right⟩
    · rw [← (alike place here).made_iff, ended.made place (by omega) (by omega), (alike place here).creates_iff, next]
  · obtain ⟨all, done⟩ | ⟨fewer, unreported, ended⟩ := ended.ended
    · exact .inl ⟨congrArg (· + 1) all, done⟩
    · have last := alike (index + 1 + turns) (by omega)
      rw [last.reported_iff] at unreported
      rw [last.refused_iff] at ended
      exact .inr ⟨Nat.succ_lt_succ fewer, next ▸ unreported, next ▸ ended⟩

/-- The loop over queues that all exist comes to its end, or stops where a turn is not counted. -/
theorem registerFrom_ended (replies : PairReplies) {left : Nat} : ∀ {driver : Driver} {index : Nat}, index + left ≤ maxIoQueueCount →
    (∀ place, index ≤ place → place < index + left → (driver.queues.ioQueue place).isSome = true) →
    ∃ turns status after, driver.registerFrom replies index left = some (status, after) ∧
      driver.LoopEnded replies index left turns status after := by
  induction left with
  | zero =>
    intro driver index _ _
    exact ⟨0, .success, driver, rfl, loopEnded_done driver replies index⟩
  | succ left ih =>
    intro driver index inside filled
    obtain ⟨object, held⟩ := Option.isSome_iff_exists.mp (filled index (Nat.le_refl _) (by omega))
    obtain ⟨controller, counted, same⟩ | ⟨status, controller, stopped, same⟩ :=
      registerFrom_ends (by omega) held left
    · obtain ⟨turns, status, after, returned, ended⟩ := @ih (driver.withController controller).countPair (index + 1)
        (by omega) fun place from_ before => filled place (by omega) (by omega)
      exact ⟨turns + 1, status, after, same.trans returned, counted.loopEnded ended⟩
    · exact ⟨0, status, _, same, stopped.loopEnded⟩

/-! What the caller learns. -/

def AllCreated (before after : Driver) : Prop :=
  ∀ index, index < before.queues.allocatedIoQ.toNat → before.PairMade after index

/-- The returned status tells whether every queue was created, and so does that of a passed extension. -/
structure Truthful (before : Driver) (passed : Bool) (result : NtStatus × Option SrbStatus × Driver) : Prop where
  returned : result.1 = .success ↔ before.AllCreated result.2.2
  completed : passed = true → (result.2.1 = some .success ↔ before.AllCreated result.2.2)

def Agrees (driver : Driver) (turns : Nat) : Prop :=
  driver.queues.registeredIoQ + BitVec.ofNat 32 turns = driver.queues.params.desiredIoQ

/-- Where the caller learns the truth: all queues are created, and an extension sees that many
counted; a command cannot be submitted while another number is counted; or nothing is done. -/
inductive TellsTruth (driver : Driver) (passed : Bool) (replies : PairReplies) : Prop where
  | created (working : driver.isWorking = true)
      (creates : ∀ index, index < driver.queues.allocatedIoQ.toNat → driver.Creates replies index)
      (agrees : passed = true → driver.Agrees driver.queues.allocatedIoQ.toNat)
  | refused (working : driver.isWorking = true) (index : Nat) (inside : index < driver.queues.allocatedIoQ.toNat)
      (earlier : ∀ place, place < index → driver.CreatesReported replies place)
      (refused : driver.RefusedAt replies index) (differs : ¬ driver.Agrees index)
  | idle (stopped : driver.isWorking = false) (agrees : driver.Agrees 0 ↔ driver.queues.allocatedIoQ = 0)

/-- What `END` makes of the state it comes to. -/
theorem truthful_iff {before after : Driver} {passed : Bool} {status : NtStatus} {completion : Option SrbStatus}
    (completed : completion = if passed then some after.registrationSrbStatus else none) :
    before.Truthful passed (after.registrationStatus status, completion, after) ↔
      (after.Agrees 0 ∨ status = .success ↔ before.AllCreated after) ∧
        (passed = true → (after.Agrees 0 ↔ before.AllCreated after)) := by
  have returned : after.registrationStatus status = .success ↔ after.Agrees 0 ∨ status = .success := by
    unfold registrationStatus Agrees
    split <;> simp_all
  have seen : passed = true → (completion = some .success ↔ after.Agrees 0) := by
    intro taken
    rw [completed, if_pos taken]
    unfold registrationSrbStatus Agrees
    split <;> simp_all
  constructor
  · intro truthful
    exact ⟨returned.symm.trans truthful.returned, fun taken => (seen taken).symm.trans (truthful.completed taken)⟩
  · rintro ⟨status, extension⟩
    exact ⟨returned.trans status, fun taken => (seen taken).trans (extension taken)⟩

theorem RefusedAt.unreported (refused : driver.RefusedAt replies index) : ¬ driver.CreatesReported replies index := by
  intro reported
  rcases refused with first | ⟨_, second⟩
  · exact reported.1.not_refused first
  · exact reported.2.not_refused second

namespace LoopEnded
variable {left turns : Nat} {status : NtStatus} {after : Driver}

private theorem agrees_iff (ended : driver.LoopEnded replies index left turns status after) :
    after.Agrees 0 ↔ driver.Agrees turns := by
  simp [Agrees, ended.queues]

private theorem allCreated_iff (ended : driver.LoopEnded replies 0 driver.queues.allocatedIoQ.toNat turns status after) :
    driver.AllCreated after ↔ turns = driver.queues.allocatedIoQ.toNat ∧
      ∀ place, place < driver.queues.allocatedIoQ.toNat → driver.Creates replies place := by
  constructor
  · intro all
    have made := fun place inside => (ended.made place (Nat.zero_le _) (by omega)).mp (all place inside)
    refine ⟨?_, fun place inside => (made place inside).2⟩
    by_contra fewer
    have within := ended.within
    have counted := (made turns (by omega)).1
    omega
  · rintro ⟨whole, creates⟩ place inside
    exact (ended.made place (Nat.zero_le _) (by omega)).mpr ⟨by omega, creates place inside⟩

/-- At the end of the loop the caller learns the truth as described. -/
theorem tellsTruth_iff (ended : driver.LoopEnded replies 0 driver.queues.allocatedIoQ.toNat turns status after)
    (working : driver.isWorking = true) (passed : Bool) :
    ((after.Agrees 0 ∨ status = .success ↔ driver.AllCreated after) ∧
        (passed = true → (after.Agrees 0 ↔ driver.AllCreated after))) ↔ driver.TellsTruth passed replies := by
  rw [ended.agrees_iff, ended.allCreated_iff]
  have busy : driver.isWorking ≠ false := by simp [working]
  have reported : ∀ place, place < turns → driver.CreatesReported replies place := by
    intro place before
    exact ended.reported place (Nat.zero_le _) (by omega)
  rcases ended.ended with ⟨whole, success⟩ | ⟨fewer, unreported, ended⟩
  · subst whole
    constructor
    · rintro ⟨status, extension⟩
      obtain ⟨_, creates⟩ := status.mp (.inr success)
      exact .created working creates fun taken => (extension taken).mpr ⟨rfl, creates⟩
    · intro truth
      cases truth with
      | created _ creates agrees =>
        have all := And.intro (Eq.refl driver.queues.allocatedIoQ.toNat) creates
        exact ⟨iff_of_true (.inr success) all, fun taken => iff_of_true (agrees taken) all⟩
      | refused _ place inside _ refused => exact absurd (reported place inside) refused.unreported
      | idle stopped => exact absurd stopped busy
  · rw [Nat.zero_add] at unreported ended
    have stop : ∀ place, (∀ other, other < place → driver.CreatesReported replies other) →
        driver.RefusedAt replies place → place = turns := by
      intro place earlier refused
      have lower : ¬ place < turns := fun before => refused.unreported (reported place before)
      have upper : ¬ turns < place := fun before => unreported (earlier turns before)
      omega
    have missed : ¬ (turns = driver.queues.allocatedIoQ.toNat ∧
        ∀ place, place < driver.queues.allocatedIoQ.toNat → driver.Creates replies place) := fun all => by omega
    rcases ended with ⟨refused, failed⟩ | ⟨submitted, success⟩
    · subst failed
      constructor
      · rintro ⟨status, _⟩
        exact .refused working turns fewer reported refused fun agrees => missed (status.mp (.inl agrees))
      · intro truth
        cases truth with
        | created _ creates => exact absurd (creates turns fewer).reported unreported
        | refused _ place inside earlier stopped differs =>
          obtain rfl := stop place earlier stopped
          refine ⟨iff_of_false ?_ missed, fun _ => iff_of_false differs missed⟩
          rintro (agrees | success)
          · exact differs agrees
          · cases success
        | idle stopped => exact absurd stopped busy
    · constructor
      · rintro ⟨status, _⟩
        exact absurd (status.mp (.inr success)) missed
      · intro truth
        cases truth with
        | created _ creates => exact absurd (creates turns fewer).reported unreported
        | refused _ place inside earlier stopped =>
          exact absurd (stop place earlier stopped ▸ stopped) submitted
        | idle stopped => exact absurd stopped busy

end LoopEnded

/-- A device that is not running creates nothing. -/
theorem allCreated_self_iff (driver : Driver) : driver.AllCreated driver ↔ driver.queues.allocatedIoQ = 0 := by
  constructor
  · intro all
    by_contra some
    have inside : 0 < driver.queues.allocatedIoQ.toNat := by
      rw [Nat.pos_iff_ne_zero]
      intro none
      exact some (BitVec.eq_of_toNat_eq none)
    exact (Alike.refl driver 0).not_made (all 0 inside)
  · intro none index inside
    simp [none] at inside

private theorem idle_tellsTruth_iff (stopped : driver.isWorking = false) (passed : Bool) (replies : PairReplies) :
    ((driver.Agrees 0 ∨ NtStatus.invalidDeviceState = .success ↔ driver.AllCreated driver) ∧
        (passed = true → (driver.Agrees 0 ↔ driver.AllCreated driver))) ↔ driver.TellsTruth passed replies := by
  rw [allCreated_self_iff]
  constructor
  · rintro ⟨status, _⟩
    have failed : ¬ NtStatus.invalidDeviceState = .success := nofun
    exact .idle stopped (by rwa [or_iff_left failed] at status)
  · intro truth
    cases truth with
    | created working => exact absurd (stopped.symm.trans working) Bool.false_ne_true
    | refused working => exact absurd (stopped.symm.trans working) Bool.false_ne_true
    | idle _ agrees =>
      have failed : ¬ NtStatus.invalidDeviceState = .success := nofun
      exact ⟨(or_iff_left failed).trans agrees, fun _ => agrees⟩

/-- Whatever led to the state, `RegisterIoQueues` returns, and its caller learns the truth exactly as described. -/
theorem registerIoQueuesFor_truthful_iff {driver : Driver} {calls : List QueueCall}
    (ran : Machine.run call initial calls = some driver) (passed : Bool) (replies : PairReplies) :
    ∃ result, driver.registerIoQueuesFor passed replies = some result ∧
      (driver.Truthful passed result ↔ driver.TellsTruth passed replies) := by
  have filled := run_filled ran
  cases working : driver.isWorking with
  | false =>
    have ended : driver.registerIoQueuesFor passed replies = some (driver.registrationStatus .invalidDeviceState,
        if passed then some driver.registrationSrbStatus else none, driver) := by
      simp only [registerIoQueuesFor, registerIoQueues, working, Bool.not_false, if_true, Option.map_some]
    exact ⟨_, ended, (truthful_iff rfl).trans (idle_tellsTruth_iff working passed replies)⟩
  | true =>
    have few : 0 + driver.queues.allocatedIoQ.toNat ≤ maxIoQueueCount := (Nat.zero_add _).symm ▸ filled.few
    obtain ⟨turns, status, after, looped, told⟩ := registerFrom_ended replies few fun place _ before =>
      (filled.held place).mpr (by omega)
    have ended : driver.registerIoQueuesFor passed replies = some (after.registrationStatus status,
        if passed then some after.registrationSrbStatus else none, after) := by
      simp only [registerIoQueuesFor, registerIoQueues, working, Bool.not_true, Bool.false_eq_true, if_false,
        looped, Option.map_some]
    exact ⟨_, ended, (truthful_iff rfl).trans (told.tellsTruth_iff working passed)⟩

/-- Two queues are set up, and the controller creates what it is asked for. -/
theorem registerIoQueuesFor_truthful_sample :
    ∃ driver, Machine.run call initial (sampleCalls.take 2) = some driver ∧
      ∃ result, driver.registerIoQueuesFor true (fun _ => (Lifecycle.answeredSuccess 0, Lifecycle.answeredSuccess 0)) =
        some result ∧ (driver.Truthful true result ↔
          driver.TellsTruth true fun _ => (Lifecycle.answeredSuccess 0, Lifecycle.answeredSuccess 0)) :=
  ⟨_, rfl, @registerIoQueuesFor_truthful_iff _ (sampleCalls.take 2) rfl true _⟩

def refusingCq : PairReplies := fun _ => (.answered .invalidQueueIdentifier 0, Lifecycle.answeredSuccess 0)

/-- `RegisterIoQueues` returns `STATUS_SUCCESS` then, though neither of the two queues was created. -/
theorem registerIoQueuesFor_hides_failure :
    ∃ driver, Machine.run call initial (sampleCalls.take 2) = some driver ∧
      ∃ result, driver.registerIoQueuesFor false refusingCq = some result ∧ ¬ driver.Truthful false result := by
  refine ⟨_, rfl, _, rfl, ?_⟩
  intro truthful
  have all := truthful.returned.mp rfl
  obtain ⟨_, _, object, _, created, _⟩ := all 0 (by decide)
  cases created

end Driver

end SpcNvme
