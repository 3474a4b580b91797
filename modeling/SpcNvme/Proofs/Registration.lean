import SpcNvme.Lib.Machine
import SpcNvme.Proofs.Removal
import SpcNvme.Proofs.Status

/-! How `RegisteredIoQ` follows the queue pairs that exist in the controller, in
every sequence of the functions that create, delete or forget queues on either side. -/

namespace SpcNvme

/-- The driver takes the command for done. An answer that the controller means as
a success counts only where the command is possible. -/
def AdminReply.Reported (possible : Prop) : AdminReply → Prop
  | refused .. => False
  | answered status _ => nvmeToSrbStatus status = .success ∧ (status.isSuccess = true → possible)

def AdminReply.Real : AdminReply → Prop
  | refused .. => False
  | answered status _ => status.isSuccess = true

def AdminReply.Refused : AdminReply → Prop
  | refused .. => True
  | answered .. => False

theorem AdminReply.command_aborted {reply : AdminReply}
    {execute : NvmeCommandStatus → NvmeCommandStatus × ControllerQueues} :
    reply.command execute = .aborted ↔ reply.Refused := by
  cases reply with
  | refused status failed => exact ⟨fun _ => trivial, fun _ => rfl⟩
  | answered status dw0 =>
    simp only [command, Refused, iff_false]
    split <;> simp

private theorem AdminReply.not_refused_of_failed {reply : AdminReply} {reached : ControllerQueues}
    {execute : NvmeCommandStatus → NvmeCommandStatus × ControllerQueues} (failed : reply.command execute = .failed reached) :
    ¬ reply.Refused := by
  intro refused
  cases (AdminReply.command_aborted.mpr refused).symm.trans failed

theorem AdminReply.Reported.not_refused {reply : AdminReply} {possible : Prop} (reported : reply.Reported possible) :
    ¬ reply.Refused := by
  cases reply with
  | refused status failed => exact reported.elim
  | answered status dw0 => exact id

/-- The status with which the loops over the queues stop at a command. -/
def AdminReply.Told (reply : AdminReply) (status : NtStatus) : Prop :=
  reply.Refused ∧ status = .requestAborted ∨ ¬ reply.Refused ∧ status = .success

theorem AdminReply.Told.fails_iff {reply : AdminReply} {status : NtStatus} (told : reply.Told status) :
    status.ntSuccess = false ↔ reply.Refused := by
  rcases told with ⟨refused, rfl⟩ | ⟨submitted, rfl⟩
  · exact ⟨fun _ => refused, fun _ => rfl⟩
  · exact ⟨nofun, fun refused => absurd refused submitted⟩

/-- How a command ends that leads to `done` where it is possible. -/
inductive AdminReply.Ends (reply : AdminReply) (possible : Prop) (controller done : ControllerQueues) :
    CommandResult → Prop where
  | aborted (missed : ¬ reply.Reported possible) : Ends reply possible controller done .aborted
  | failed (missed : ¬ reply.Reported possible) : Ends reply possible controller done (.failed controller)
  | executed (reported : reply.Reported possible) (real : reply.Real) (held : possible) :
      Ends reply possible controller done (.succeeded done)
  | pretended (reported : reply.Reported possible) (unreal : ¬ reply.Real) :
      Ends reply possible controller done (.succeeded controller)

namespace AdminReply.Ends
variable {reply : AdminReply} {possible : Prop} {controller done reached : ControllerQueues}

theorem missed_of_aborted (ends : reply.Ends possible controller done .aborted) : ¬ reply.Reported possible := by
  cases ends with
  | aborted missed => exact missed

theorem missed_of_failed (ends : reply.Ends possible controller done (.failed reached)) :
    ¬ reply.Reported possible ∧ reached = controller := by
  cases ends with
  | failed missed => exact ⟨missed, rfl⟩

theorem reported (ends : reply.Ends possible controller done (.succeeded reached)) : reply.Reported possible := by
  cases ends with
  | executed reported _ _ => exact reported
  | pretended reported _ => exact reported

theorem reaches (ends : reply.Ends possible controller done (.succeeded reached)) : reached = controller ∨ reached = done := by
  cases ends with
  | executed _ _ _ => exact .inr rfl
  | pretended _ _ => exact .inl rfl

end AdminReply.Ends

namespace NvmeCommandStatus

theorem reported_of_isSuccess {status : NvmeCommandStatus} (success : status.isSuccess = true) :
    nvmeToSrbStatus status = .success := by
  simp only [isSuccess, Bool.and_eq_true, beq_iff_eq] at success
  simp [nvmeToSrbStatus_eq_success, success]

end NvmeCommandStatus

/-- A command that leaves the controller alone unless its answer is a success, and
answers with an error that the driver sees where it is not possible. -/
theorem AdminReply.command_ends {execute : NvmeCommandStatus → NvmeCommandStatus × ControllerQueues}
    {possible : Prop} {controller done : ControllerQueues}
    (fails : ∀ status, status.isSuccess = false → execute status = (status, controller))
    (impossible : ∀ status, status.isSuccess = true → ¬ possible →
      execute status = (.invalidQueueIdentifier, controller))
    (executes : ∀ status, status.isSuccess = true → possible →
      nvmeToSrbStatus (execute status).1 = .success ∧ (execute status).2 = done)
    (reply : AdminReply) : reply.Ends possible controller done (reply.command execute) := by
  cases reply with
  | refused status failed => exact .aborted id
  | answered status dw0 =>
    cases means : status.isSuccess with
    | false =>
      have unreal : ¬ (AdminReply.answered status dw0).Real := by simp [Real, means]
      simp only [command, fails status means]
      split
      · next taken => exact .pretended ⟨taken, fun success => absurd (means.symm.trans success) Bool.false_ne_true⟩ unreal
      · next missed => exact .failed fun reported => missed reported.1
    | true =>
      by_cases held : possible
      · obtain ⟨taken, same⟩ := executes status means held
        simp only [command, taken, if_true, same]
        exact .executed ⟨NvmeCommandStatus.reported_of_isSuccess means, fun _ => held⟩ means held
      · have seen : nvmeToSrbStatus .invalidQueueIdentifier ≠ .success := by decide
        simp only [command, impossible status means held, seen, if_false]
        exact .failed fun reported => held (reported.2 means)

namespace ControllerQueues

def Attached (controller : ControllerQueues) : Prop := ∀ qid, controller.cq qid = .none → controller.sq qid = .none

structure SameBut (qid : Nat) (controller other : ControllerQueues) : Prop where
  cq : ∀ elsewhere, elsewhere ≠ qid → other.cq elsewhere = controller.cq elsewhere
  sq : ∀ elsewhere, elsewhere ≠ qid → other.sq elsewhere = controller.sq elsewhere

theorem SameBut.refl (qid : Nat) (controller : ControllerQueues) : SameBut qid controller controller :=
  ⟨fun _ _ => rfl, fun _ _ => rfl⟩

theorem SameBut.trans {qid : Nat} {first second third : ControllerQueues} (left : SameBut qid first second)
    (right : SameBut qid second third) : SameBut qid first third :=
  ⟨fun other different => (right.cq other different).trans (left.cq other different),
    fun other different => (right.sq other different).trans (left.sq other different)⟩

/-! What each command leads to where it is possible. Two of the refusals carry a
status that the driver takes for a success. -/

def withCq (controller : ControllerQueues) (qid : Nat) (value : Option Nat) : ControllerQueues :=
  { controller with cq := Function.update controller.cq qid value }

@[simp] theorem withCq_self (controller : ControllerQueues) (qid : Nat) (value : Option Nat) :
    (controller.withCq qid value).cq qid = value := Function.update_self ..

theorem withCq_sameBut (controller : ControllerQueues) (qid : Nat) (value : Option Nat) :
    controller.SameBut qid (controller.withCq qid value) :=
  ⟨fun _ different => Function.update_of_ne different .., fun _ _ => rfl⟩

theorem createCq_ends (controller : ControllerQueues) (qid object : Nat) (reply : AdminReply) :
    reply.Ends (controller.cq qid = .none) controller (controller.withCq qid (some object))
      (reply.command (controller.createCq qid object)) := by
  apply AdminReply.command_ends
  · intro status means
    simp [createCq, means]
  · intro status means present
    simp [createCq, means, Option.isSome_iff_ne_none.mpr present]
  · intro status means absent
    simp [createCq, means, absent, NvmeCommandStatus.reported_of_isSuccess means, withCq]

theorem createCq_reaches {controller first : ControllerQueues} {qid object : Nat} {reply : AdminReply}
    (ended : reply.command (controller.createCq qid object) = .succeeded first) :
    first = controller ∨ first = controller.withCq qid (some object) := by
  have ends := controller.createCq_ends qid object reply
  rw [ended] at ends
  exact ends.reaches

def attachSq (controller : ControllerQueues) (qid object : Nat) : ControllerQueues :=
  if (controller.cq qid).isNone then controller else {
    cq := controller.cq
    sq := Function.update controller.sq qid (some object)
    paired := if controller.cq qid = some object then controller.paired ++ [object] else controller.paired }

theorem createSq_ends (controller : ControllerQueues) (qid object : Nat) (reply : AdminReply) :
    reply.Ends (controller.sq qid = .none) controller (controller.attachSq qid object)
      (reply.command (controller.createSq qid object)) := by
  apply AdminReply.command_ends
  · intro status means
    simp [createSq, means]
  · intro status means present
    simp [createSq, means, Option.isSome_iff_ne_none.mpr present]
  · intro status means absent
    have unseen : nvmeToSrbStatus .completionQueueInvalid = .success := rfl
    by_cases lone : (controller.cq qid).isNone = true
    · simp [createSq, attachSq, means, absent, lone, unseen]
    · simp [createSq, attachSq, means, absent, lone, NvmeCommandStatus.reported_of_isSuccess means]

def withoutSq (controller : ControllerQueues) (qid : Nat) : ControllerQueues :=
  { controller with sq := Function.update controller.sq qid .none }

private theorem deleteSq_ends (controller : ControllerQueues) (qid : Nat) (reply : AdminReply) :
    reply.Ends (controller.sq qid ≠ .none) controller (controller.withoutSq qid)
      (reply.command (controller.deleteSq qid)) := by
  apply AdminReply.command_ends
  · intro status means
    simp [deleteSq, means]
  · intro status means absent
    simp [deleteSq, means, Classical.not_not.mp absent]
  · intro status means present
    simp [deleteSq, means, present, NvmeCommandStatus.reported_of_isSuccess means, withoutSq]

def detachCq (controller : ControllerQueues) (qid : Nat) : ControllerQueues :=
  if (controller.sq qid).isSome then controller else controller.withCq qid .none

private theorem deleteCq_ends (controller : ControllerQueues) (qid : Nat) (reply : AdminReply) :
    reply.Ends (controller.cq qid ≠ .none) controller (controller.detachCq qid)
      (reply.command (controller.deleteCq qid)) := by
  apply AdminReply.command_ends
  · intro status means
    simp [deleteCq, means]
  · intro status means absent
    simp [deleteCq, means, Classical.not_not.mp absent]
  · intro status means present
    have unseen : nvmeToSrbStatus .invalidQueueDeletion = .success := rfl
    by_cases used : (controller.sq qid).isSome = true
    · simp [deleteCq, detachCq, means, present, used, unseen]
    · simp [deleteCq, detachCq, means, present, used, NvmeCommandStatus.reported_of_isSuccess means, withCq]

end ControllerQueues

namespace Driver

def pairTable (driver : Driver) (index : Nat) : Option Nat :=
  (driver.queues.ioQueue index).filter fun object =>
    driver.controller.cq (index + 1) == some object && driver.controller.sq (index + 1) == some object

def pairs (driver : Driver) : Nat := SlotTable.occupied driver.pairTable maxIoQueueCount

def Mirrors (driver : Driver) : Prop := driver.queues.registeredIoQ.toNat = driver.pairs

instance (driver : Driver) : Decidable driver.Mirrors := inferInstanceAs (Decidable (_ = _))

/-- No pointer and no queue of the controller belongs to an object of the future. -/
structure Issued (driver : Driver) : Prop where
  ioQueue : ∀ index object, driver.queues.ioQueue index = some object → object < driver.queues.created
  cq : ∀ qid object, driver.controller.cq qid = some object → object < driver.queues.created
  attached : driver.controller.Attached

def initial : Driver := ⟨.zeroed, .none⟩

private theorem initial_issued : initial.Issued := ⟨nofun, nofun, fun _ _ => rfl⟩

private theorem pairTable_eq_some {driver : Driver} {index object : Nat} :
    driver.pairTable index = some object ↔ driver.queues.ioQueue index = some object ∧
      driver.controller.cq (index + 1) = some object ∧ driver.controller.sq (index + 1) = some object := by
  simp [pairTable, Option.filter_eq_some_iff]

private theorem pairTable_of_ioQueue {driver : Driver} {index : Nat} (free : driver.queues.ioQueue index = none) :
    driver.pairTable index = none := by
  simp [pairTable, free]

private theorem pairTable_of_cq {driver : Driver} {index : Nat} (absent : driver.controller.cq (index + 1) = none) :
    driver.pairTable index = none := by
  rw [Option.eq_none_iff_forall_not_mem]
  intro object paired
  have held := (pairTable_eq_some.mp paired).2.1
  rw [absent] at held
  cases held

private theorem pairTable_of_sq {driver : Driver} {index : Nat} (absent : driver.controller.sq (index + 1) = none) :
    driver.pairTable index = none := by
  rw [Option.eq_none_iff_forall_not_mem]
  intro object paired
  have held := (pairTable_eq_some.mp paired).2.2
  rw [absent] at held
  cases held

private theorem pairs_congr {driver other : Driver} (same : ∀ index, index < maxIoQueueCount → other.pairTable index = driver.pairTable index) :
    other.pairs = driver.pairs := SlotTable.occupied_congr same

private theorem pairs_le (driver : Driver) : driver.pairs ≤ maxIoQueueCount := SlotTable.occupied_le ..

private theorem pairs_of_ioQueue {driver : Driver} (empty : ∀ index, driver.queues.ioQueue index = none) : driver.pairs = 0 :=
  SlotTable.occupied_eq_zero_iff.mpr fun _ _ => pairTable_of_ioQueue (empty _)

private theorem pairs_reset (driver : Driver) : (driver.withController driver.controller.reset).pairs = 0 :=
  SlotTable.occupied_eq_zero_iff.mpr fun _ _ => pairTable_of_cq rfl

private theorem pairs_withController {driver : Driver} {controller : ControllerQueues} {index : Nat} (inside : index < maxIoQueueCount)
    (same : driver.controller.SameBut (index + 1) controller) :
    (driver.withController controller).pairs + (if (driver.pairTable index).isSome then 1 else 0) =
      driver.pairs + if ((driver.withController controller).pairTable index).isSome then 1 else 0 := by
  have table : (driver.withController controller).pairTable =
      Function.update driver.pairTable index ((driver.withController controller).pairTable index) := by
    rw [Function.eq_update_iff]
    refine ⟨rfl, ?_⟩
    intro other different
    have elsewhere : other + 1 ≠ index + 1 := by omega
    simp only [pairTable, withController, same.cq _ elsewhere, same.sq _ elsewhere]
  have count := SlotTable.occupied_update driver.pairTable inside ((driver.withController controller).pairTable index)
  rw [← table] at count
  exact count

private theorem pairs_unpaired {driver : Driver} {controller : ControllerQueues} {index : Nat} (inside : index < maxIoQueueCount)
    (same : driver.controller.SameBut (index + 1) controller) (before : driver.pairTable index = none)
    (after : (driver.withController controller).pairTable index = none) :
    (driver.withController controller).pairs = driver.pairs := by
  have count := pairs_withController inside same
  simpa [before, after] using count

private theorem pairs_countPair (driver : Driver) : driver.countPair.pairs = driver.pairs := rfl

theorem Issued.countPair {driver : Driver} (issued : driver.Issued) : driver.countPair.Issued :=
  ⟨issued.ioQueue, issued.cq, issued.attached⟩

theorem Issued.withCq {driver : Driver} (issued : driver.Issued) {qid object : Nat} (old : object < driver.queues.created) :
    (driver.withController (driver.controller.withCq qid (some object))).Issued := by
  refine ⟨issued.ioQueue, ?_, ?_⟩
  · intro other found held
    by_cases same : other = qid
    · subst other
      have new : some object = some found := (driver.controller.withCq_self qid (some object)).symm.trans held
      exact Option.some.inj new ▸ old
    · have kept := (driver.controller.withCq_sameBut qid (some object)).cq other same
      exact issued.cq other found (kept.symm.trans held)
  · intro other absent
    have elsewhere : other ≠ qid := by
      intro same
      subst other
      cases (driver.controller.withCq_self qid (some object)).symm.trans absent
    have kept := (driver.controller.withCq_sameBut qid (some object)).cq other elsewhere
    exact issued.attached other (kept.symm.trans absent)

theorem Issued.attachSq {driver : Driver} (issued : driver.Issued) (qid object : Nat) :
    (driver.withController (driver.controller.attachSq qid object)).Issued := by
  by_cases lone : (driver.controller.cq qid).isNone = true
  · simp only [ControllerQueues.attachSq, lone, if_true]
    exact issued
  · simp only [ControllerQueues.attachSq, lone, Bool.false_eq_true, if_false]
    refine ⟨issued.ioQueue, issued.cq, ?_⟩
    intro other absent
    have elsewhere : other ≠ qid := by
      intro same
      subst other
      exact lone (Option.isNone_iff_eq_none.mpr absent)
    exact (Function.update_of_ne elsewhere ..).trans (issued.attached other absent)

theorem attachSq_sameBut (controller : ControllerQueues) (qid object : Nat) :
    controller.SameBut qid (controller.attachSq qid object) := by
  unfold ControllerQueues.attachSq
  split
  · exact .refl ..
  · exact ⟨fun _ _ => rfl, fun _ different => Function.update_of_ne different ..⟩

/-- A turn of the two loops over the queues: it leaves the loop where the driver
does not take both commands for done, and counts otherwise. -/
inductive PairTurn (driver : Driver) (answers : AdminReply × AdminReply) (possible alsoPossible : Prop)
    (command : NvmeCommandStatus → NvmeCommandStatus × ControllerQueues)
    (andThen : ControllerQueues → NvmeCommandStatus → NvmeCommandStatus × ControllerQueues)
    (next : Driver → Option (NtStatus × Driver)) (result : Option (NtStatus × Driver)) : Prop where
  | stopped (status : NtStatus) (missed : ¬ answers.1.Reported possible)
      (told : answers.1.Told status) (stops : result = some (status, driver))
  | halfway (status : NtStatus) (first : ControllerQueues) (ended : answers.1.command command = .succeeded first)
      (reported : answers.1.Reported possible) (missed : ¬ answers.2.Reported alsoPossible)
      (told : answers.2.Told status) (stops : result = some (status, driver.withController first))
  | counted (first second : ControllerQueues) (ended : answers.1.command command = .succeeded first)
      (reported : answers.1.Reported possible)
      (finished : answers.2.command (andThen first) = .succeeded second) (alsoReported : answers.2.Reported alsoPossible)
      (goes : result = next (driver.withController second).countPair)

private theorem pairTurn_of_commands {driver : Driver} {answers : AdminReply × AdminReply} {possible alsoPossible : Prop}
    {command : NvmeCommandStatus → NvmeCommandStatus × ControllerQueues}
    {andThen : ControllerQueues → NvmeCommandStatus → NvmeCommandStatus × ControllerQueues}
    {next : Driver → Option (NtStatus × Driver)} {done : ControllerQueues}
    (ends : answers.1.Ends possible driver.controller done (answers.1.command command))
    (alsoEnds : ∀ first, answers.1.command command = .succeeded first →
      ∃ andDone, answers.2.Ends alsoPossible first andDone (answers.2.command (andThen first))) :
    driver.PairTurn answers possible alsoPossible command andThen next
      (match answers.1.command command with
        | .aborted => some (.requestAborted, driver)
        | .failed controller => some (.success, driver.withController controller)
        | .succeeded first =>
            match answers.2.command (andThen first) with
            | .aborted => some (.requestAborted, driver.withController first)
            | .failed controller => some (.success, driver.withController controller)
            | .succeeded second => next (driver.withController second).countPair) := by
  cases ended : answers.1.command command with
  | aborted =>
    rw [ended] at ends
    exact .stopped _ ends.missed_of_aborted (.inl ⟨AdminReply.command_aborted.mp ended, rfl⟩) rfl
  | failed controller =>
    rw [ended] at ends
    obtain ⟨missed, rfl⟩ := ends.missed_of_failed
    exact .stopped _ missed (.inr ⟨AdminReply.not_refused_of_failed ended, rfl⟩) rfl
  | succeeded first =>
    obtain ⟨_, next⟩ := alsoEnds first ended
    rw [ended] at ends
    dsimp only
    cases finished : answers.2.command (andThen first) with
    | aborted =>
      rw [finished] at next
      exact .halfway _ first ended ends.reported next.missed_of_aborted
        (.inl ⟨AdminReply.command_aborted.mp finished, rfl⟩) rfl
    | failed controller =>
      rw [finished] at next
      obtain ⟨missed, rfl⟩ := next.missed_of_failed
      exact .halfway _ _ ended ends.reported missed (.inr ⟨AdminReply.not_refused_of_failed finished, rfl⟩) rfl
    | succeeded second =>
      rw [finished] at next
      exact .counted first second ended ends.reported finished next.reported rfl

/-! One turn of `RegisterIoQueues`. -/

def CreatesReported (driver : Driver) (replies : PairReplies) (index : Nat) : Prop :=
  (replies index).1.Reported (driver.controller.cq (index + 1) = none) ∧
    (replies index).2.Reported (driver.controller.sq (index + 1) = none)

/-- The controller creates the submission queue, over a completion queue that is
of the same object. -/
def CreatesReal (driver : Driver) (replies : PairReplies) (index : Nat) : Prop :=
  (replies index).2.Real ∧
    ((replies index).1.Real ∨ driver.controller.cq (index + 1) = driver.queues.ioQueue index)

structure CqCreated (driver : Driver) (reply : AdminReply) (index object : Nat) (controller : ControllerQueues) : Prop where
  reported : reply.Reported (driver.controller.cq (index + 1) = none)
  issued : (driver.withController controller).Issued
  same : driver.controller.SameBut (index + 1) controller
  sq : controller.sq = driver.controller.sq
  cq : controller.cq (index + 1) = some object ↔ reply.Real ∨ driver.controller.cq (index + 1) = some object
  pairs : (driver.withController controller).pairs = driver.pairs

private theorem createCq_created {driver : Driver} {reply : AdminReply} {index object : Nat} {controller : ControllerQueues}
    (issued : driver.Issued) (inside : index < maxIoQueueCount) (held : driver.queues.ioQueue index = some object)
    (ended : reply.command (driver.controller.createCq (index + 1) object) = .succeeded controller) :
    driver.CqCreated reply index object controller := by
  have ends := driver.controller.createCq_ends (index + 1) object reply
  rw [ended] at ends
  cases ends with
  | executed reported real absent =>
    have same := driver.controller.withCq_sameBut (index + 1) (some object)
    have unpaired : (driver.withController (driver.controller.withCq (index + 1) (some object))).pairTable index = none :=
      pairTable_of_sq (issued.attached _ absent)
    exact ⟨reported, issued.withCq (issued.ioQueue _ _ held), same, rfl,
      ⟨fun _ => .inl real, fun _ => ControllerQueues.withCq_self ..⟩, pairs_unpaired inside same (pairTable_of_cq absent) unpaired⟩
  | pretended reported unreal =>
    exact ⟨reported, issued, .refl .., rfl, ⟨.inr, fun either => either.resolve_left unreal⟩, rfl⟩

structure PairCreated (driver : Driver) (replies : PairReplies) (index : Nat) (controller : ControllerQueues) : Prop where
  reported : driver.CreatesReported replies index
  issued : (driver.withController controller).Issued
  same : driver.controller.SameBut (index + 1) controller
  made : driver.CreatesReal replies index → (driver.withController controller).pairs = driver.pairs + 1
  missed : ¬ driver.CreatesReal replies index → (driver.withController controller).pairs = driver.pairs

private theorem createSq_created {driver : Driver} {replies : PairReplies} {index object : Nat} {first controller : ControllerQueues}
    (inside : index < maxIoQueueCount) (held : driver.queues.ioQueue index = some object)
    (created : driver.CqCreated (replies index).1 index object first)
    (ended : (replies index).2.command (first.createSq (index + 1) object) = .succeeded controller) :
    driver.PairCreated replies index controller := by
  have ends := first.createSq_ends (index + 1) object (replies index).2
  rw [ended] at ends
  have real : driver.CreatesReal replies index ↔ (replies index).2.Real ∧ first.cq (index + 1) = some object := by
    rw [CreatesReal, held, created.cq]
  cases ends with
  | executed reported means absent =>
    have free : driver.controller.sq (index + 1) = none := created.sq ▸ absent
    have same := created.same.trans (attachSq_sameBut first (index + 1) object)
    have count := pairs_withController inside same
    simp only [pairTable_of_sq free, Option.isSome_none, Bool.false_eq_true, if_false] at count
    refine ⟨⟨created.reported, created.sq ▸ reported⟩, created.issued.attachSq (index + 1) object, same, ?_, ?_⟩
    · intro makes
      have cq := (real.mp makes).2
      have pairs : (driver.withController (first.attachSq (index + 1) object)).pairTable index = some object := by
        rw [pairTable_eq_some]
        refine ⟨held, ?_, ?_⟩ <;> simp [withController, ControllerQueues.attachSq, cq]
      simpa [pairs] using count
    · intro misses
      have cq : first.cq (index + 1) ≠ some object := fun present => misses (real.mpr ⟨means, present⟩)
      have unpaired : (driver.withController (first.attachSq (index + 1) object)).pairTable index = none := by
        rw [Option.eq_none_iff_forall_not_mem]
        intro other paired
        obtain ⟨mine, both, _⟩ := pairTable_eq_some.mp paired
        obtain rfl : object = other := Option.some.inj (held.symm.trans mine)
        have kept : (first.attachSq (index + 1) object).cq = first.cq := by
          unfold ControllerQueues.attachSq
          split <;> rfl
        exact cq ((congrFun kept (index + 1)).symm.trans both)
      simpa [unpaired] using count
  | pretended reported unreal =>
    exact ⟨⟨created.reported, created.sq ▸ reported⟩, created.issued, created.same,
      fun makes => absurd makes.1 unreal, fun _ => created.pairs⟩

/-- From `index` on, a turn that the driver counts creates its pair. -/
def Faithful (driver : Driver) (replies : PairReplies) (index : Nat) : Nat → Prop
  | 0 => True
  | left + 1 => driver.CreatesReported replies index →
      driver.CreatesReal replies index ∧ driver.Faithful replies (index + 1) left

private theorem faithful_congr {driver other : Driver} {replies : PairReplies} {left : Nat} :
    ∀ {index : Nat}, other.queues.ioQueue = driver.queues.ioQueue →
      (∀ qid, index < qid → other.controller.cq qid = driver.controller.cq qid) →
      (∀ qid, index < qid → other.controller.sq qid = driver.controller.sq qid) →
      (other.Faithful replies index left ↔ driver.Faithful replies index left) := by
  induction left with
  | zero => exact fun _ _ _ => Iff.rfl
  | succ left ih =>
    intro index objects cq sq
    have rest := @ih (index + 1) objects (fun qid later => cq qid (by omega)) fun qid later => sq qid (by omega)
    have here := Nat.lt_succ_self index
    simp only [Faithful, CreatesReported, CreatesReal, objects, cq _ here, sq _ here, rest]

private theorem countPair_registeredIoQ {driver : Driver} (room : driver.queues.registeredIoQ.toNat ≤ 2 * maxIoQueueCount) :
    driver.countPair.queues.registeredIoQ.toNat = driver.queues.registeredIoQ.toNat + 1 := by
  have one : (1 : BitVec 32).toNat = 1 := rfl
  simp only [countPair, BitVec.toNat_add, one, maxIoQueueCount] at *
  omega

private theorem registerFrom_running {driver after : Driver} {replies : PairReplies} {status : NtStatus} {index left : Nat}
    (returned : driver.registerFrom replies index (left + 1) = some (status, after)) :
    ∃ object, index < maxIoQueueCount ∧ driver.queues.ioQueue index = some object := by
  simp only [registerFrom] at returned
  split at returned
  · cases returned
  · next inside =>
    split at returned
    · cases returned
    · next object held => exact ⟨object, Nat.lt_of_not_le inside, held⟩

theorem registerFrom_turn (driver : Driver) (replies : PairReplies) {index object : Nat} (left : Nat)
    (inside : index < maxIoQueueCount) (held : driver.queues.ioQueue index = some object) :
    driver.PairTurn (replies index) (driver.controller.cq (index + 1) = none) (driver.controller.sq (index + 1) = none)
      (driver.controller.createCq (index + 1) object) (fun first => first.createSq (index + 1) object)
      (fun turned => turned.registerFrom replies (index + 1) left) (driver.registerFrom replies index (left + 1)) := by
  simp only [registerFrom, Nat.not_le.mpr inside, if_false, held]
  refine pairTurn_of_commands (driver.controller.createCq_ends (index + 1) object (replies index).1) ?_
  intro first ended
  have ends := first.createSq_ends (index + 1) object (replies index).2
  have kept : first.sq = driver.controller.sq := by
    rcases ControllerQueues.createCq_reaches ended with rfl | rfl <;> rfl
  rw [kept] at ends
  exact ⟨_, ends⟩

/-- The loop of `RegisterIoQueues`, started with the counter `gap` ahead of the
pairs. It never falls back, and stays where it was exactly if no turn is counted
without its pair. -/
theorem registerFrom_mirrors {replies : PairReplies} {status : NtStatus} {left : Nat} :
    ∀ {driver after : Driver} {index gap : Nat}, driver.Issued →
      driver.queues.registeredIoQ.toNat = driver.pairs + gap →
      driver.queues.registeredIoQ.toNat ≤ maxIoQueueCount + index →
      driver.registerFrom replies index left = some (status, after) →
      after.Issued ∧ after.pairs + gap ≤ after.queues.registeredIoQ.toNat ∧
        (after.queues.registeredIoQ.toNat = after.pairs + gap ↔ driver.Faithful replies index left) := by
  induction left with
  | zero =>
    intro driver after index gap issued ahead low returned
    cases returned
    exact ⟨issued, Nat.le_of_eq ahead.symm, fun _ => trivial, fun _ => ahead⟩
  | succ left ih =>
    intro driver after index gap issued ahead low returned
    -- the ways out of the loop leave the pairs and the counter as the turn found them
    have stops : ∀ controller, (driver.withController controller).Issued →
        (driver.withController controller).pairs = driver.pairs → ¬ driver.CreatesReported replies index →
        (driver.withController controller).Issued ∧
          (driver.withController controller).pairs + gap ≤ driver.queues.registeredIoQ.toNat ∧
          (driver.queues.registeredIoQ.toNat = (driver.withController controller).pairs + gap ↔
            driver.Faithful replies index (left + 1)) := by
      intro controller kept same unreported
      rw [same]
      exact ⟨kept, Nat.le_of_eq ahead.symm, fun _ reported => absurd reported unreported, fun _ => ahead⟩
    obtain ⟨object, inside, held⟩ := registerFrom_running returned
    cases driver.registerFrom_turn replies left inside held with
    | stopped stopped missed _ ends =>
      cases ends.symm.trans returned
      exact stops driver.controller issued rfl fun reported => missed reported.1
    | halfway stopped first ended _ missed _ ends =>
      cases ends.symm.trans returned
      have created := createCq_created issued inside held ended
      exact stops first created.issued created.pairs fun reported => missed reported.2
    | counted first controller ended _ finished _ goes =>
      rw [goes] at returned
      have pair := createSq_created inside held (createCq_created issued inside held ended) finished
      have counted : (driver.withController controller).countPair.queues.registeredIoQ.toNat =
          driver.queues.registeredIoQ.toNat + 1 := countPair_registeredIoQ (by simp only [withController]; omega)
      have onward : (driver.withController controller).countPair.Faithful replies (index + 1) left ↔
          driver.Faithful replies (index + 1) left := by
        refine faithful_congr ?_ ?_ ?_
        · rfl
        · exact fun qid later => pair.same.cq qid (by omega)
        · exact fun qid later => pair.same.sq qid (by omega)
      by_cases makes : driver.CreatesReal replies index
      · have more := pair.made makes
        have level : (driver.withController controller).countPair.queues.registeredIoQ.toNat =
            (driver.withController controller).countPair.pairs + gap := by
          rw [counted, pairs_countPair, more, ahead]
          omega
        obtain ⟨last, behind, exactly⟩ := ih pair.issued.countPair level (by rw [counted]; omega) returned
        refine ⟨last, behind, ?_⟩
        rw [exactly, onward]
        exact ⟨fun faithful _ => ⟨makes, faithful⟩, fun faithful => (faithful pair.reported).2⟩
      · have same := pair.missed makes
        have further : (driver.withController controller).countPair.queues.registeredIoQ.toNat =
            (driver.withController controller).countPair.pairs + (gap + 1) := by
          rw [counted, pairs_countPair, same, ahead]
          omega
        obtain ⟨last, behind, _⟩ := ih pair.issued.countPair further (by rw [counted]; omega) returned
        refine ⟨last, by omega, ?_⟩
        constructor
        · intro equal
          omega
        · intro faithful
          exact absurd (faithful pair.reported).1 makes

/-! One turn of `UnregisterIoQueues`. -/

def DeletesReported (driver : Driver) (replies : PairReplies) (index : Nat) : Prop :=
  (replies index).1.Reported (driver.controller.sq (index + 1) ≠ none) ∧
    (replies index).2.Reported (driver.controller.cq (index + 1) ≠ none)

structure SqDeleted (driver : Driver) (reply : AdminReply) (index : Nat) (controller : ControllerQueues) : Prop where
  reported : reply.Reported (driver.controller.sq (index + 1) ≠ none)
  issued : (driver.withController controller).Issued
  cq : controller.cq = driver.controller.cq
  pairs_le : (driver.withController controller).pairs ≤ driver.pairs
  kept_iff : (driver.withController controller).pairs = driver.pairs ↔ (reply.Real → driver.pairTable index = none)

private theorem deleteSq_deleted {driver : Driver} {reply : AdminReply} {index : Nat} {controller : ControllerQueues}
    (issued : driver.Issued) (inside : index < maxIoQueueCount)
    (ended : reply.command (driver.controller.deleteSq (index + 1)) = .succeeded controller) :
    driver.SqDeleted reply index controller := by
  have ends := driver.controller.deleteSq_ends (index + 1) reply
  rw [ended] at ends
  cases ends with
  | executed reported real present =>
    have same : driver.controller.SameBut (index + 1) (driver.controller.withoutSq (index + 1)) :=
      ⟨fun _ _ => rfl, fun _ different => Function.update_of_ne different ..⟩
    have unpaired : (driver.withController (driver.controller.withoutSq (index + 1))).pairTable index = none :=
      pairTable_of_sq (Function.update_self ..)
    have attached : (driver.controller.withoutSq (index + 1)).Attached := by
      intro qid absent
      by_cases here : qid = index + 1
      · subst qid
        exact Function.update_self ..
      · exact (same.sq qid here).trans (issued.attached qid absent)
    have count := pairs_withController inside same
    simp only [unpaired, Option.isSome_none, Bool.false_eq_true, if_false, Nat.add_zero] at count
    refine ⟨reported, ⟨issued.ioQueue, issued.cq, attached⟩, rfl, by omega, ?_⟩
    constructor
    · intro kept _
      rw [kept] at count
      have empty : ¬ (driver.pairTable index).isSome := by
        intro paired
        rw [if_pos paired] at count
        omega
      exact Option.not_isSome_iff_eq_none.mp empty
    · intro empty
      simpa [empty real] using count
  | pretended reported unreal =>
    exact ⟨reported, issued, rfl, Nat.le_refl _, fun _ real => absurd real unreal, fun _ => rfl⟩

private theorem deleteCq_deleted {driver : Driver} {reply : AdminReply} {index : Nat} {controller : ControllerQueues}
    (issued : driver.Issued) (inside : index < maxIoQueueCount)
    (ended : reply.command (driver.controller.deleteCq (index + 1)) = .succeeded controller) :
    reply.Reported (driver.controller.cq (index + 1) ≠ none) ∧ (driver.withController controller).Issued ∧
      (driver.withController controller).pairs = driver.pairs := by
  have ends := driver.controller.deleteCq_ends (index + 1) reply
  rw [ended] at ends
  cases ends with
  | pretended reported unreal => exact ⟨reported, issued, rfl⟩
  | executed reported real present =>
    by_cases used : (driver.controller.sq (index + 1)).isSome = true
    · simp only [ControllerQueues.detachCq, used, if_true]
      exact ⟨reported, issued, rfl⟩
    · have free : driver.controller.sq (index + 1) = none := Option.not_isSome_iff_eq_none.mp used
      have same := driver.controller.withCq_sameBut (index + 1) none
      simp only [ControllerQueues.detachCq, used, Bool.false_eq_true, if_false]
      refine ⟨reported, ⟨issued.ioQueue, ?_, ?_⟩, ?_⟩
      · intro qid object held
        by_cases here : qid = index + 1
        · subst qid
          cases (driver.controller.withCq_self (index + 1) none).symm.trans held
        · exact issued.cq qid object ((same.cq qid here).symm.trans held)
      · intro qid absent
        by_cases here : qid = index + 1
        · subst qid
          exact free
        · exact issued.attached qid ((same.cq qid here).symm.trans absent)
      · exact pairs_unpaired inside same (pairTable_of_sq free) (pairTable_of_cq (ControllerQueues.withCq_self ..))

/-- The first turn deletes no queue of a pair, and is not counted. -/
def Untouched (driver : Driver) (replies : PairReplies) (index : Nat) : Nat → Prop
  | 0 => True
  | _ + 1 => ¬ driver.DeletesReported replies index ∧
      ((replies index).1.Reported (driver.controller.sq (index + 1) ≠ none) → (replies index).1.Real →
        driver.pairTable index = none)

theorem unregisterFrom_running {driver after : Driver} {replies : PairReplies} {first status : NtStatus} {index left : Nat}
    (returned : driver.unregisterFrom replies index first (left + 1) = some (status, after)) :
    index < maxIoQueueCount ∧ ∃ object, driver.queues.ioQueue index = some object := by
  simp only [unregisterFrom] at returned
  split at returned
  · cases returned
  · next inside =>
    split at returned
    · cases returned
    · next object held => exact ⟨Nat.lt_of_not_le inside, object, held⟩

theorem unregisterFrom_turn (driver : Driver) (replies : PairReplies) {index object : Nat} (first : NtStatus) (left : Nat)
    (inside : index < maxIoQueueCount) (held : driver.queues.ioQueue index = some object) :
    driver.PairTurn (replies index) (driver.controller.sq (index + 1) ≠ none) (driver.controller.cq (index + 1) ≠ none)
      (driver.controller.deleteSq (index + 1)) (fun deleted => deleted.deleteCq (index + 1))
      (fun turned => turned.unregisterFrom replies (index + 1) .success left)
      (driver.unregisterFrom replies index first (left + 1)) := by
  simp only [unregisterFrom, Nat.not_le.mpr inside, if_false, held]
  have sqEnds := driver.controller.deleteSq_ends (index + 1) (replies index).1
  refine pairTurn_of_commands sqEnds ?_
  intro deleted ended
  have ends := deleted.deleteCq_ends (index + 1) (replies index).2
  have kept : deleted.cq = driver.controller.cq := by
    rw [ended] at sqEnds
    rcases sqEnds.reaches with rfl | rfl <;> rfl
  rw [kept] at ends
  exact ⟨_, ends⟩

/-- The loop of `UnregisterIoQueues`: the pairs only get fewer and the counter only
goes up, and both stay only where the first turn already ends the loop. -/
theorem unregisterFrom_mirrors {replies : PairReplies} {status : NtStatus} {left : Nat} :
    ∀ {driver after : Driver} {index : Nat} {first : NtStatus}, driver.Issued →
      driver.queues.registeredIoQ.toNat ≤ maxIoQueueCount + index →
      driver.unregisterFrom replies index first left = some (status, after) →
      after.Issued ∧ after.pairs ≤ driver.pairs ∧
        driver.queues.registeredIoQ.toNat ≤ after.queues.registeredIoQ.toNat ∧
        (after.pairs = driver.pairs ∧ after.queues.registeredIoQ.toNat = driver.queues.registeredIoQ.toNat ↔
          driver.Untouched replies index left) := by
  induction left with
  | zero =>
    intro driver after index first issued low returned
    cases returned
    exact ⟨issued, Nat.le_refl _, Nat.le_refl _, fun _ => trivial, fun _ => ⟨rfl, rfl⟩⟩
  | succ left ih =>
    intro driver after index first issued low returned
    obtain ⟨inside, object, held⟩ := unregisterFrom_running returned
    cases driver.unregisterFrom_turn replies first left inside held with
    | stopped stopped missed _ ends =>
      cases ends.symm.trans returned
      -- where the first command is not taken for done, nothing happens
      have idle : driver.Untouched replies index (left + 1) :=
        ⟨fun reported => missed reported.1, fun reported => absurd reported missed⟩
      exact ⟨issued, Nat.le_refl _, Nat.le_refl _, fun _ => idle, fun _ => ⟨rfl, rfl⟩⟩
    | halfway stopped controller ended _ missed _ ends =>
      cases ends.symm.trans returned
      have deleted := deleteSq_deleted issued inside ended
      refine ⟨deleted.issued, deleted.pairs_le, Nat.le_refl _, ?_⟩
      -- where only the second one is not, the submission queue may be gone
      constructor
      · intro unchanged
        exact ⟨fun reported => missed reported.2, fun _ => deleted.kept_iff.mp unchanged.1⟩
      · intro untouched
        exact ⟨deleted.kept_iff.mpr (untouched.2 deleted.reported), rfl⟩
    | counted sqDeleted controller ended _ finished _ goes =>
      rw [goes] at returned
      have deleted := deleteSq_deleted issued inside ended
      obtain ⟨reported, kept, same⟩ := deleteCq_deleted deleted.issued inside finished
      have both : driver.DeletesReported replies index := ⟨deleted.reported, deleted.cq ▸ reported⟩
      have counted : (driver.withController controller).countPair.queues.registeredIoQ.toNat =
          driver.queues.registeredIoQ.toNat + 1 := countPair_registeredIoQ (by simp only [withController]; omega)
      obtain ⟨last, fewer, more, _⟩ := ih kept.countPair (by
        show (driver.withController controller).countPair.queues.registeredIoQ.toNat ≤ _
        omega) returned
      have behind : (driver.withController controller).countPair.queues.registeredIoQ.toNat ≤
          after.queues.registeredIoQ.toNat := more
      have fewest := Nat.le_trans (Nat.le_trans fewer (Nat.le_of_eq same)) deleted.pairs_le
      refine ⟨last, fewest, by omega, ?_⟩
      constructor
      · intro unchanged
        omega
      · intro untouched
        exact absurd both untouched.1

/-! The calls that create or forget queue objects. -/

/-- New objects only fill places that were free, with numbers that were not used. -/
structure Grows (queues after : DeviceQueues) : Prop where
  created : queues.created ≤ after.created
  registeredIoQ : after.registeredIoQ = queues.registeredIoQ
  ioQueue : ∀ index, after.ioQueue index = queues.ioQueue index ∨
    queues.ioQueue index = none ∧ ∃ object, after.ioQueue index = some object ∧
      queues.created ≤ object ∧ object < after.created

theorem Grows.refl (queues : DeviceQueues) : Grows queues queues := ⟨Nat.le_refl _, rfl, fun _ => .inl rfl⟩

theorem Grows.trans {first second third : DeviceQueues} (left : Grows first second) (right : Grows second third) :
    Grows first third := by
  refine ⟨Nat.le_trans left.created right.created, right.registeredIoQ.trans left.registeredIoQ, ?_⟩
  intro index
  rcases left.ioQueue index with kept | ⟨free, object, held, fresh, old⟩
  · rcases right.ioQueue index with same | ⟨free, object, held, fresh, old⟩
    · exact .inl (same.trans kept)
    · exact .inr ⟨kept.symm.trans free, object, held, Nat.le_trans left.created fresh, old⟩
  · rcases right.ioQueue index with same | ⟨empty, _⟩
    · exact .inr ⟨free, object, same.trans held, fresh, Nat.lt_of_lt_of_le old right.created⟩
    · cases held.symm.trans empty

private theorem createIoQFrom_grows {setups : Nat → NtStatus} {status : NtStatus} {left : Nat} {queues after : DeviceQueues}
    {index : Nat} (returned : queues.createIoQFrom setups index left = some (status, after)) : Grows queues after := by
  apply DeviceQueues.createIoQFrom_induct _ _ _ returned
  · exact Grows.refl
  · intro queues
    exact ⟨Nat.le_succ _, rfl, fun _ => .inl rfl⟩
  · intro queues after index _ free rest
    refine Grows.trans ?_ rest
    refine ⟨Nat.le_succ _, rfl, ?_⟩
    intro other
    by_cases same : other = index
    · subst other
      exact .inr ⟨free, queues.created, Function.update_self .., Nat.le_refl _, Nat.lt_succ_self _⟩
    · exact .inl (Function.update_of_ne same ..)

/-- A pair needs a queue in the controller, which no new object has. -/
theorem Issued.grow {driver : Driver} (issued : driver.Issued) {queues : DeviceQueues} (grows : Grows driver.queues queues) :
    Issued { driver with queues := queues } ∧ pairs { driver with queues := queues } = driver.pairs := by
  refine ⟨⟨?_, ?_, issued.attached⟩, ?_⟩
  · intro index object held
    rcases grows.ioQueue index with same | ⟨_, new, filled, _, old⟩
    · exact Nat.lt_of_lt_of_le (issued.ioQueue index object (same.symm.trans held)) grows.created
    · obtain rfl : new = object := Option.some.inj (filled.symm.trans held)
      exact old
  · intro qid object held
    exact Nat.lt_of_lt_of_le (issued.cq qid object held) grows.created
  · apply pairs_congr
    intro index _
    rcases grows.ioQueue index with same | ⟨free, new, filled, fresh, _⟩
    · simp only [pairTable, same]
    · rw [pairTable_of_ioQueue free, Option.eq_none_iff_forall_not_mem]
      intro object paired
      obtain ⟨mine, present, _⟩ := pairTable_eq_some.mp paired
      obtain rfl : new = object := Option.some.inj (filled.symm.trans mine)
      have old := issued.cq _ _ present
      omega

private theorem createIoQ_grows {driver after : Driver} {setups : Nat → NtStatus} {status : NtStatus}
    (returned : driver.createIoQ setups = some (status, after)) :
    ∃ queues, Grows driver.queues queues ∧ after = { driver with queues := queues } := by
  simp only [createIoQ, Option.map_eq_some_iff] at returned
  obtain ⟨⟨result, queues⟩, created, same⟩ := returned
  cases same
  exact ⟨queues, createIoQFrom_grows created, rfl⟩

private theorem setNumberOfIoQueue_grows (driver : Driver) (reply : AdminReply) :
    ∃ queues, Grows driver.queues queues ∧ (driver.setNumberOfIoQueue reply).2 = { driver with queues := queues } := by
  unfold setNumberOfIoQueue
  split
  · exact ⟨_, .refl _, rfl⟩
  · split
    · exact ⟨_, .refl _, rfl⟩
    · split
      · next dw0 _ =>
        let params := { driver.queues.params with desiredIoQ := 0xFFFF &&& (dw0 + 1) }
        exact ⟨{ driver.queues with params := params }, ⟨Nat.le_refl _, rfl, fun _ => .inl rfl⟩, rfl⟩
      · exact ⟨_, .refl _, rfl⟩

private theorem createIoQueues_grows {driver after : Driver} {reply : AdminReply} {setups : Nat → NtStatus} {status : NtStatus}
    (returned : driver.createIoQueues false reply setups = some (status, after)) :
    ∃ queues, Grows driver.queues queues ∧ after = { driver with queues := queues } := by
  simp only [createIoQueues, Bool.false_eq_true, if_false] at returned
  split at returned
  · obtain ⟨queues, grows, same⟩ := driver.setNumberOfIoQueue_grows reply
    split at returned
    · cases returned
      exact ⟨queues, grows, same⟩
    · rw [same] at returned
      obtain ⟨last, more, equal⟩ := createIoQ_grows returned
      exact ⟨last, grows.trans more, equal⟩
  · exact createIoQ_grows returned

private theorem deleteIoQUpTo_registeredIoQ (queues : DeviceQueues) (count : Nat) :
    (queues.deleteIoQUpTo count).registeredIoQ = queues.registeredIoQ := by
  induction count with
  | zero => rfl
  | succ count ih =>
    simp only [DeviceQueues.deleteIoQUpTo]
    split <;> exact ih

private theorem deleteIoQ_frame (queues : DeviceQueues) :
    queues.deleteIoQ.created = queues.created ∧ queues.deleteIoQ.registeredIoQ = queues.registeredIoQ :=
  ⟨(queues.deleteIoQUpTo_frame maxIoQueueCount).2.1, deleteIoQUpTo_registeredIoQ queues maxIoQueueCount⟩

private theorem Issued.forget {driver : Driver} (issued : driver.Issued) {queues : DeviceQueues}
    (created : driver.queues.created ≤ queues.created) (empty : ∀ index, queues.ioQueue index = none) :
    Issued { driver with queues := queues } ∧ pairs { driver with queues := queues } = 0 := by
  refine ⟨⟨?_, ?_, issued.attached⟩, pairs_of_ioQueue empty⟩
  · intro index object held
    cases (empty index).symm.trans held
  · intro qid object held
    exact Nat.lt_of_lt_of_le (issued.cq qid object held) created

theorem teardown_forgets {queues : DeviceQueues} (working : queues.isWorking = true) :
    queues.teardown.created = queues.created ∧ queues.teardown.registeredIoQ = queues.registeredIoQ ∧
      ∀ index, queues.teardown.ioQueue index = none := by
  obtain ⟨created, registered⟩ := deleteIoQ_frame (queues.setState .teardown)
  simp only [DeviceQueues.teardown, working, Bool.not_true, Bool.false_eq_true, if_false, DeviceQueues.deleteAdmQ]
  split <;> exact ⟨created, registered, fun _ => rfl⟩

theorem setup_forgets (queues : DeviceQueues) (registry : Registry) (mqes : BitVec 16) (mapped admQueueOK : Bool) :
    (queues.setup registry mqes mapped admQueueOK).2 = queues ∨
      queues.created ≤ (queues.setup registry mqes mapped admQueueOK).2.created ∧
        (queues.setup registry mqes mapped admQueueOK).2.registeredIoQ = 0 ∧
        ∀ index, (queues.setup registry mqes mapped admQueueOK).2.ioQueue index = none := by
  unfold DeviceQueues.setup
  split
  · exact .inl rfl
  · right
    cases mapped with
    | false => exact ⟨Nat.le_refl _, rfl, fun _ => rfl⟩
    | true => cases admQueueOK <;> exact ⟨Nat.le_succ _, rfl, fun _ => rfl⟩

/-- Where the counter follows the pairs: nothing but `InitController` resets it, so
the pairs may not go where only the objects, or only the queues, are dropped. -/
def Counts (driver : Driver) : QueueCall → Prop
  | .setup .. => True
  | .initController reply => driver.isWorking = true → reply.reset = true ∨ driver.pairs = 0
  | .createIoQueues force _ _ => force = true → driver.pairs = 0
  | .registerIoQueues replies => driver.isWorking = true → driver.Faithful replies 0 driver.queues.allocatedIoQ.toNat
  | .unregisterIoQueues replies =>
      driver.isWorking = true → driver.Untouched replies 0 driver.queues.params.desiredIoQ.toNat
  | .teardown => driver.isWorking = true → driver.pairs = 0
  | .powerCycle => driver.pairs = 0

private theorem registerIoQueues_mirrors {driver after : Driver} {replies : PairReplies} (issued : driver.Issued)
    (mirrors : driver.Mirrors) (taken : driver.call (.registerIoQueues replies) = some after) :
    after.Issued ∧ (after.Mirrors ↔ driver.Counts (.registerIoQueues replies)) := by
  simp only [call, registerIoQueues, Option.map_eq_some_iff] at taken
  obtain ⟨_, ⟨⟨status, last⟩, looped, rfl⟩, rfl⟩ := taken
  split at looped
  · next idle =>
    cases looped
    have idle : ¬ driver.isWorking = true := by simpa using idle
    exact ⟨issued, fun _ working => absurd working idle, fun _ => mirrors⟩
  · next working =>
    have working : driver.isWorking = true := by simpa using working
    have low : driver.queues.registeredIoQ.toNat ≤ maxIoQueueCount + 0 := mirrors ▸ driver.pairs_le
    obtain ⟨kept, _, exactly⟩ := @registerFrom_mirrors _ _ _ _ _ _ 0 issued mirrors low looped
    exact ⟨kept, exactly.trans ⟨fun faithful _ => faithful, fun counts => counts working⟩⟩

private theorem unregisterIoQueues_mirrors {driver after : Driver} {replies : PairReplies} (issued : driver.Issued)
    (mirrors : driver.Mirrors) (taken : driver.call (.unregisterIoQueues replies) = some after) :
    after.Issued ∧ (after.Mirrors ↔ driver.Counts (.unregisterIoQueues replies)) := by
  simp only [call, unregisterIoQueues, Option.map_eq_some_iff] at taken
  obtain ⟨_, ⟨⟨status, last⟩, looped, rfl⟩, rfl⟩ := taken
  split at looped
  · next idle =>
    cases looped
    have idle : ¬ driver.isWorking = true := by simpa using idle
    exact ⟨issued, fun _ working => absurd working idle, fun _ => mirrors⟩
  · next working =>
    have working : driver.isWorking = true := by simpa using working
    have low : driver.queues.registeredIoQ.toNat ≤ maxIoQueueCount + 0 := mirrors ▸ driver.pairs_le
    obtain ⟨kept, fewer, more, exactly⟩ := unregisterFrom_mirrors issued low looped
    have equal : driver.queues.registeredIoQ.toNat = driver.pairs := mirrors
    have both : last.Mirrors ↔ last.pairs = driver.pairs ∧
        last.queues.registeredIoQ.toNat = driver.queues.registeredIoQ.toNat := by
      unfold Mirrors
      omega
    exact ⟨kept, (both.trans exactly).trans ⟨fun untouched _ => untouched, fun counts => counts working⟩⟩

/-- A counter that mirrored the pairs and stays while they go mirrors none. -/
theorem mirrors_of_forgotten {driver after : Driver} (mirrors : driver.Mirrors)
    (registered : after.queues.registeredIoQ = driver.queues.registeredIoQ) (gone : after.pairs = 0) :
    after.Mirrors ↔ driver.pairs = 0 := by
  unfold Mirrors at *
  rw [registered, gone, mirrors]

private theorem createIoQueues_mirrors {driver after : Driver} {force : Bool} {reply : AdminReply} {setups : Nat → NtStatus}
    (issued : driver.Issued) (mirrors : driver.Mirrors)
    (taken : driver.call (.createIoQueues force reply setups) = some after) :
    after.Issued ∧ (after.Mirrors ↔ driver.Counts (.createIoQueues force reply setups)) := by
  simp only [call, Option.map_eq_some_iff] at taken
  obtain ⟨⟨status, last⟩, returned, rfl⟩ := taken
  cases force with
  | false =>
    obtain ⟨queues, grows, rfl⟩ := createIoQueues_grows returned
    obtain ⟨kept, same⟩ := issued.grow grows
    refine ⟨kept, fun _ forced => absurd forced Bool.false_ne_true, ?_⟩
    intro _
    unfold Mirrors
    rw [same, grows.registeredIoQ]
    exact mirrors
  | true =>
    have restarted : Driver.createIoQueues { driver with queues := driver.queues.deleteIoQ } false reply setups =
      some (status, last) := returned
    obtain ⟨created, registered⟩ := deleteIoQ_frame driver.queues
    obtain ⟨still, none⟩ := issued.forget (Nat.le_of_eq created.symm) fun _ => rfl
    obtain ⟨queues, grows, rfl⟩ := createIoQueues_grows restarted
    obtain ⟨kept, same⟩ := still.grow grows
    have agree := mirrors_of_forgotten mirrors (grows.registeredIoQ.trans registered) (same.trans none)
    exact ⟨kept, agree.trans ⟨fun gone _ => gone, fun counts => counts rfl⟩⟩

theorem Issued.reset {driver : Driver} (issued : driver.Issued) (count : BitVec 32) :
    Issued ⟨{ driver.queues with registeredIoQ := count }, driver.controller.reset⟩ := by
  refine ⟨issued.ioQueue, ?_, fun _ _ => rfl⟩
  intro qid object held
  cases held

/-- After each call the counter mirrors the pairs exactly where its condition holds. -/
theorem call_mirrors {driver after : Driver} {call : QueueCall} (issued : driver.Issued) (mirrors : driver.Mirrors)
    (taken : driver.call call = some after) : after.Issued ∧ (after.Mirrors ↔ driver.Counts call) := by
  cases call with
  | setup registry mqes mapped admQueueOK =>
    cases taken
    rcases setup_forgets driver.queues registry mqes mapped admQueueOK with same | ⟨created, registered, empty⟩
    · rw [same]
      exact ⟨issued, fun _ => trivial, fun _ => mirrors⟩
    · obtain ⟨kept, none⟩ := issued.forget created empty
      refine ⟨kept, fun _ => trivial, ?_⟩
      intro _
      unfold Mirrors
      rw [none, registered]
      rfl
  | initController reply =>
    cases taken
    unfold initController
    split
    · next idle =>
      have idle : ¬ driver.isWorking = true := by simpa using idle
      exact ⟨issued, fun _ working => absurd working idle, fun _ => mirrors⟩
    · next working =>
      have working : driver.isWorking = true := by simpa using working
      cases drop : reply.reset with
      | true =>
        simp only [if_true]
        exact ⟨issued.reset _, fun _ _ => .inl drop, fun _ => (pairs_reset driver).symm⟩
      | false =>
        simp only [Bool.false_eq_true, if_false]
        refine ⟨⟨issued.ioQueue, issued.cq, issued.attached⟩, fun zero _ => .inr zero.symm, ?_⟩
        intro counts
        have none := (counts working).resolve_left fun taken => Bool.false_ne_true (drop.symm.trans taken)
        exact none.symm
  | createIoQueues force reply setups => exact createIoQueues_mirrors issued mirrors taken
  | registerIoQueues replies => exact registerIoQueues_mirrors issued mirrors taken
  | unregisterIoQueues replies => exact unregisterIoQueues_mirrors issued mirrors taken
  | teardown =>
    cases taken
    cases working : driver.isWorking with
    | true =>
      obtain ⟨created, registered, empty⟩ := teardown_forgets working
      obtain ⟨kept, none⟩ := issued.forget (Nat.le_of_eq created.symm) empty
      have agree : driver.teardown.Mirrors ↔ driver.pairs = 0 := mirrors_of_forgotten mirrors registered none
      exact ⟨kept, agree.trans ⟨fun gone _ => gone, fun counts => counts working⟩⟩
    | false =>
      have same : driver.queues.teardown = driver.queues := by
        have idle : driver.queues.isWorking = false := working
        simp [DeviceQueues.teardown, idle]
      simp only [Driver.teardown, same]
      exact ⟨issued, fun _ busy => absurd (working.symm.trans busy) Bool.false_ne_true, fun _ => mirrors⟩
  | powerCycle =>
    cases taken
    exact ⟨issued.reset _, mirrors_of_forgotten mirrors rfl (pairs_reset driver)⟩

/-- In every run of the calls the counter mirrors the pairs throughout exactly if
each call comes where, and with answers such that, it can follow them. -/
theorem always_mirrors_iff {final : Driver} {calls : List QueueCall}
    (ran : Machine.run call initial calls = some final) :
    Machine.Always call Mirrors initial calls ↔ Machine.Meets call Counts initial calls := by
  have preserved : ∀ (before : Driver) event after, before.Issued ∧ before.Mirrors → before.Counts event →
      before.call event = some after → after.Issued ∧ after.Mirrors := by
    intro before event after kept counts taken
    obtain ⟨issued, agree⟩ := call_mirrors kept.1 kept.2 taken
    exact ⟨issued, agree.mpr counts⟩
  have breaks : ∀ (before : Driver) event after, before.Issued ∧ before.Mirrors →
      before.call event = some after → ¬ before.Counts event → ¬ after.Mirrors := by
    intro before event after kept taken broken mirrors
    exact broken ((call_mirrors kept.1 kept.2 taken).2.mp mirrors)
  have none : initial.pairs = 0 := pairs_of_ioQueue fun _ => rfl
  exact Machine.always_iff_meets (fun _ kept => kept.2) preserved breaks ⟨initial_issued, none.symm⟩ ran

def sampleCalls : List QueueCall :=
  [.setup ⟨none, none, some 2⟩ 1023 true true, .createIoQueues false (Lifecycle.answeredSuccess 0) fun _ => .success,
    .registerIoQueues fun _ => (Lifecycle.answeredSuccess 0, Lifecycle.answeredSuccess 0)]

theorem always_mirrors_sample : ∃ final, Machine.run call initial sampleCalls = some final ∧
    (Machine.Always call Mirrors initial sampleCalls ↔ Machine.Meets call Counts initial sampleCalls) :=
  ⟨_, rfl, always_mirrors_iff rfl⟩

/-- Unregistering the two queues again brings the counter to four. -/
theorem unregisterIoQueues_counts_up : ¬ Machine.Always call Mirrors initial (sampleCalls ++
    [.unregisterIoQueues fun _ => (Lifecycle.answeredSuccess 0, Lifecycle.answeredSuccess 0)]) := by
  intro always
  have last := (((always.2 _ rfl).2 _ rfl).2 _ rfl).2 _ rfl
  revert last
  decide

end Driver

end SpcNvme
