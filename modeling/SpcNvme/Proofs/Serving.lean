import SpcNvme.Proofs.Registration

/-! The queue that `SubmitIoCmd` selects, in every run of the entry points: what
the way from `HwFindAdapter` to the end of `HwPassiveInitialize` makes of it, and
what keeps it afterwards. -/

namespace SpcNvme

/-- Every object that has a pointer, or was deleted, was created. -/
structure DeviceQueues.Past (queues : DeviceQueues) : Prop where
  slot : ∀ index object, queues.slot index = some object → object < queues.created
  deleted : ∀ object ∈ queues.deleted, object < queues.created

namespace DeviceQueues

private theorem zeroed_past : zeroed.Past := by
  refine ⟨?_, nofun⟩
  intro index object held
  cases index <;> cases held

theorem Past.drop {queues other : DeviceQueues} (past : queues.Past) (created : queues.created ≤ other.created)
    (deleted : other.deleted = queues.deleted)
    (kept : ∀ index object, other.slot index = some object → queues.slot index = some object) : other.Past := by
  refine ⟨?_, ?_⟩
  · intro index object held
    exact Nat.lt_of_lt_of_le (past.slot index object (kept index object held)) created
  · intro object member
    rw [deleted] at member
    exact Nat.lt_of_lt_of_le (past.deleted object member) created

private theorem Past.delete {queues other : DeviceQueues} (past : queues.Past) {object : Nat} (old : object < queues.created)
    (created : other.created = queues.created) (deleted : other.deleted = queues.deleted ++ [object])
    (kept : ∀ index object, other.slot index = some object → queues.slot index = some object) : other.Past := by
  refine ⟨?_, ?_⟩
  · intro index object held
    rw [created]
    exact past.slot index object (kept index object held)
  · intro other member
    rw [created]
    rw [deleted] at member
    rcases List.mem_append.mp member with before | last
    · exact past.deleted other before
    · rw [List.mem_singleton.mp last]
      exact old

theorem Past.initVars {queues : DeviceQueues} (past : queues.Past) : queues.initVars.Past := by
  refine past.drop ?_ ?_ ?_
  · exact Nat.le_refl queues.created
  · rfl
  · intro index object held
    cases index <;> cases held

theorem Past.createAdmQ {queues : DeviceQueues} (past : queues.Past) (initOK : Bool) : (queues.createAdmQ initOK).2.Past := by
  unfold DeviceQueues.createAdmQ
  split
  · exact past
  · refine ⟨?_, fun object member => Nat.lt_succ_of_lt (past.deleted object member)⟩
    intro index object held
    cases index with
    | zero =>
      obtain rfl : queues.created = object := Option.some.inj held
      exact Nat.lt_succ_self _
    | succ index => exact Nat.lt_succ_of_lt (past.slot (index + 1) object held)

theorem Past.setup {queues : DeviceQueues} (past : queues.Past) (registry : Registry) (mqes : BitVec 16)
    (mapped admQueueOK : Bool) : (queues.setup registry mqes mapped admQueueOK).2.Past := by
  have same {other : DeviceQueues} (past : other.Past) (state : NvmeState) (params : QueueParams) :
      { other with state := state, params := params }.Past := ⟨past.slot, past.deleted⟩
  unfold DeviceQueues.setup
  split
  · exact past
  · have fresh : (queues.setState .setup).initVars.Past := (same past .setup queues.params).initVars
    cases mapped with
    | false => exact same fresh _ _
    | true =>
      have created := (same fresh .stop ((QueueParams.initVars.loadRegistry registry).readCtrlCap mqes)).createAdmQ admQueueOK
      cases admQueueOK with
      | false => exact created
      | true => exact same created .running _

theorem Past.deleteIoQUpTo {queues : DeviceQueues} (past : queues.Past) (count : Nat) : (queues.deleteIoQUpTo count).Past := by
  induction count with
  | zero => exact past
  | succ count ih =>
    obtain ⟨slots, created, _, pointers⟩ := queues.deleteIoQUpTo_frame count
    simp only [DeviceQueues.deleteIoQUpTo]
    split
    · exact ih
    · next object held =>
      exact ih.delete (ih.slot (count + 1) object held) rfl rfl fun _ _ => id

theorem Past.teardown {queues : DeviceQueues} (past : queues.Past) : queues.teardown.Past := by
  have entered : (queues.setState .teardown).Past := ⟨past.slot, past.deleted⟩
  have freed : (queues.setState .teardown).deleteIoQ.Past := by
    refine (entered.deleteIoQUpTo maxIoQueueCount).drop ?_ ?_ ?_
    · exact Nat.le_refl _
    · rfl
    · intro index object held
      cases index with
      | zero => exact held
      | succ index => cases held
  unfold DeviceQueues.teardown
  split
  · exact past
  · have last : ((queues.setState .teardown).deleteIoQ.deleteAdmQ.2).Past := by
      unfold DeviceQueues.deleteAdmQ
      split
      · exact freed
      · next object held =>
        refine freed.delete (freed.slot 0 object held) ?_ ?_ ?_
        · rfl
        · rfl
        · intro index other present
          cases index with
          | zero => cases present
          | succ index => exact present
    exact ⟨last.slot, last.deleted⟩

theorem Past.putIoQueue {queues : DeviceQueues} (past : queues.Past) (index : Nat) (count : BitVec 32) :
    { queues with
      created := queues.created + 1
      ioQueue := Function.update queues.ioQueue index (some queues.created)
      allocatedIoQ := count }.Past := by
  refine ⟨?_, fun object member => Nat.lt_succ_of_lt (past.deleted object member)⟩
  intro place object held
  rw [slot_update_ioQueue { queues with created := queues.created + 1, allocatedIoQ := count },
    Function.update_apply] at held
  split at held
  · obtain rfl : queues.created = object := Option.some.inj held
    exact Nat.lt_succ_self _
  · exact Nat.lt_succ_of_lt (past.slot place object held)

theorem Past.discard {queues : DeviceQueues} (past : queues.Past) :
    { queues with created := queues.created + 1, deleted := queues.deleted ++ [queues.created] }.Past := by
  refine ⟨fun place object held => Nat.lt_succ_of_lt (past.slot place object held), ?_⟩
  intro object member
  rcases List.mem_append.mp member with old | last
  · exact Nat.lt_succ_of_lt (past.deleted object old)
  · rw [List.mem_singleton.mp last]
    exact Nat.lt_succ_self _

private theorem createIoQFrom_past {setups : Nat → NtStatus} {status : NtStatus} {left : Nat} {queues after : DeviceQueues}
    {index : Nat} (past : queues.Past) (returned : queues.createIoQFrom setups index left = some (status, after)) :
    after.Past ∧ queues.created ≤ after.created ∧ after.state = queues.state := by
  have passed : queues.Past → after.Past ∧ queues.created ≤ after.created ∧ after.state = queues.state := by
    apply createIoQFrom_induct _ _ _ returned
    · intro queues past
      exact ⟨past, Nat.le_refl _, rfl⟩
    · intro queues past
      exact ⟨past.discard, Nat.le_succ _, rfl⟩
    · intro queues after index _ _ rest past
      obtain ⟨kept, more, state⟩ := rest (past.putIoQueue index (queues.allocatedIoQ + 1))
      exact ⟨kept, Nat.le_of_succ_le more, state⟩
  exact passed past

def filled (queues : DeviceQueues) (index count : Nat) : DeviceQueues :=
  { queues with
    ioQueue := fun place => if index ≤ place ∧ place < index + count then some (queues.created + (place - index))
      else queues.ioQueue place
    allocatedIoQ := queues.allocatedIoQ + BitVec.ofNat 32 count
    created := queues.created + count }

private theorem filled_zero (queues : DeviceQueues) (index : Nat) : queues.filled index 0 = queues := by
  have none : ∀ place, ¬ (index ≤ place ∧ place < index + 0) := by
    intro place
    omega
  simp only [filled, none, if_false]
  simp

private theorem filled_succ (queues : DeviceQueues) (index count : Nat) :
    { queues with
      ioQueue := Function.update queues.ioQueue index (some queues.created)
      allocatedIoQ := queues.allocatedIoQ + 1
      created := queues.created + 1 }.filled (index + 1) count = queues.filled index (count + 1) := by
  have pointers : (fun place => if index + 1 ≤ place ∧ place < index + 1 + count then
        some (queues.created + 1 + (place - (index + 1)))
      else Function.update queues.ioQueue index (some queues.created) place) =
      fun place => if index ≤ place ∧ place < index + (count + 1) then some (queues.created + (place - index))
        else queues.ioQueue place := by
    funext place
    by_cases here : place = index
    · subst place
      have outside : ¬ (index + 1 ≤ index ∧ index < index + 1 + count) := by omega
      have inside : index ≤ index ∧ index < index + (count + 1) := by omega
      rw [if_neg outside, if_pos inside, Function.update_self, Nat.sub_self, Nat.add_zero]
    · have same : index + 1 ≤ place ∧ place < index + 1 + count ↔ index ≤ place ∧ place < index + (count + 1) := by omega
      rw [Function.update_of_ne here]
      by_cases inside : index + 1 ≤ place ∧ place < index + 1 + count
      · rw [if_pos inside, if_pos (same.mp inside)]
        congr 1
        omega
      · rw [if_neg inside, if_neg fun other => inside (same.mpr other)]
  have allocated : queues.allocatedIoQ + 1 + BitVec.ofNat 32 count = queues.allocatedIoQ + BitVec.ofNat 32 (count + 1) := by
    rw [BitVec.add_assoc, Nat.add_comm count 1, BitVec.ofNat_add]
    rfl
  have created : queues.created + 1 + count = queues.created + (count + 1) := by omega
  simp only [filled, pointers, allocated, created]

private theorem createIoQFrom_free {setups : Nat → NtStatus} {left : Nat} :
    ∀ {queues : DeviceQueues} {index : Nat}, (∀ place, index ≤ place → queues.ioQueue place = none) →
      ((∀ place, index ≤ place → place < index + left → place < maxIoQueueCount → (setups place).ntSuccess = true) →
        queues.createIoQFrom setups index left =
          if index + left ≤ max index maxIoQueueCount then some (.success, queues.filled index left) else none) ∧
      ((∃ place, index ≤ place ∧ place < index + left ∧ place < maxIoQueueCount ∧ (setups place).ntSuccess = false) →
        ∃ status after, status.ntSuccess = false ∧ queues.createIoQFrom setups index left = some (status, after)) := by
  induction left with
  | zero =>
    intro queues index free
    constructor
    · intro _
      have fits : index + 0 ≤ max index maxIoQueueCount := Nat.le_max_left ..
      rw [if_pos fits, filled_zero]
      rfl
    · rintro ⟨place, from_, before, _⟩
      omega
  | succ left ih =>
    intro queues index free
    simp only [createIoQFrom, free index (Nat.le_refl index)]
    by_cases inside : index ≥ maxIoQueueCount
    · simp only [inside, if_true]
      constructor
      · intro _
        rw [if_neg]
        omega
      · rintro ⟨place, from_, _, within, _⟩
        omega
    · simp only [inside, if_false]
      cases ready : (setups index).ntSuccess with
      | false =>
        simp only [Bool.not_false, if_true]
        constructor
        · intro each
          exact absurd (ready.symm.trans (each index (Nat.le_refl _) (by omega) (by omega))) Bool.false_ne_true
        · intro _
          exact ⟨setups index, _, ready, rfl⟩
      | true =>
        simp only [Bool.not_true, Bool.false_eq_true, if_false]
        have still : ∀ place, index + 1 ≤ place →
            Function.update queues.ioQueue index (some queues.created) place = none := by
          intro place later
          rw [Function.update_of_ne (by omega)]
          exact free place (by omega)
        obtain ⟨succeeds, fails⟩ := @ih { queues with
          created := queues.created + 1
          ioQueue := Function.update queues.ioQueue index (some queues.created)
          allocatedIoQ := queues.allocatedIoQ + 1 } (index + 1) still
        constructor
        · intro each
          rw [succeeds fun place from_ before => each place (by omega) (by omega), filled_succ]
          have same : index + 1 + left ≤ max (index + 1) maxIoQueueCount ↔ index + (left + 1) ≤ max index maxIoQueueCount := by
            omega
          simp only [same]
        · rintro ⟨place, from_, before, within, failed⟩
          apply fails
          have elsewhere : place ≠ index := by
            intro here
            subst place
            exact absurd (failed.symm.trans ready) Bool.false_ne_true
          exact ⟨place, by omega, by omega, within, failed⟩

end DeviceQueues

namespace Driver

/-- A turn from `index` on that the loop comes to cannot submit one of its commands. -/
def Aborts (driver : Driver) (replies : PairReplies) (index : Nat) : Nat → Prop
  | 0 => False
  | left + 1 => (replies index).1.Refused ∨
      (replies index).1.Reported (driver.controller.cq (index + 1) = none) ∧ (replies index).2.Refused ∨
      driver.CreatesReported replies index ∧ driver.Aborts replies (index + 1) left

def Genuine (driver : Driver) (replies : PairReplies) (index : Nat) : Nat → Prop
  | 0 => True
  | left + 1 => driver.CreatesReported replies index →
      ((replies index).1.Real ∧ (replies index).2.Real) ∧ driver.Genuine replies (index + 1) left

private theorem aborts_congr {driver other : Driver} {replies : PairReplies} {left : Nat} :
    ∀ {index : Nat}, (∀ qid, index < qid → other.controller.cq qid = driver.controller.cq qid) →
      (∀ qid, index < qid → other.controller.sq qid = driver.controller.sq qid) →
      ((other.Aborts replies index left ↔ driver.Aborts replies index left) ∧
        (other.Genuine replies index left ↔ driver.Genuine replies index left)) := by
  induction left with
  | zero => exact fun _ _ => ⟨Iff.rfl, Iff.rfl⟩
  | succ left ih =>
    intro index cq sq
    obtain ⟨aborts, genuine⟩ := @ih (index + 1) (fun qid later => cq qid (by omega)) fun qid later => sq qid (by omega)
    have here := Nat.lt_succ_self index
    simp only [Aborts, Genuine, CreatesReported, cq _ here, sq _ here, aborts, genuine, and_self]

/-- What a counted turn for a new object does to the controller: it adds the pair
if the controller meant both answers. -/
structure NewPair (controller second : ControllerQueues) (answers : AdminReply × AdminReply) (index object : Nat) : Prop where
  same : controller.SameBut (index + 1) second
  cq : second.cq (index + 1) = controller.cq (index + 1) ∨ second.cq (index + 1) = some object
  real : answers.1.Real ∧ answers.2.Real → second.paired = controller.paired ++ [object]
  unreal : ¬ (answers.1.Real ∧ answers.2.Real) → second.paired = controller.paired

private theorem createPair_newPair {controller first second : ControllerQueues} {answers : AdminReply × AdminReply} {index object : Nat}
    (fresh : controller.cq (index + 1) ≠ some object)
    (cqEnded : answers.1.command (controller.createCq (index + 1) object) = .succeeded first)
    (sqEnded : answers.2.command (first.createSq (index + 1) object) = .succeeded second) :
    NewPair controller second answers index object := by
  have cqEnds := controller.createCq_ends (index + 1) object answers.1
  have sqEnds := first.createSq_ends (index + 1) object answers.2
  rw [cqEnded] at cqEnds
  rw [sqEnded] at sqEnds
  have attached := attachSq_sameBut first (index + 1) object
  have kept : (first.attachSq (index + 1) object).cq = first.cq := by
    unfold ControllerQueues.attachSq
    split <;> rfl
  cases cqEnds with
  | executed reported real absent =>
    have same := controller.withCq_sameBut (index + 1) (some object)
    have filled := controller.withCq_self (index + 1) (some object)
    cases sqEnds with
    | executed alsoReported alsoReal free =>
      refine ⟨same.trans attached, .inr ?_, ?_, fun unreal => absurd ⟨real, alsoReal⟩ unreal⟩
      · rw [kept]
        exact filled
      · intro _
        simp [ControllerQueues.attachSq, ControllerQueues.withCq]
    | pretended alsoReported unreal =>
      exact ⟨same, .inr filled, fun both => absurd both.2 unreal, fun _ => rfl⟩
  | pretended reported unreal =>
    cases sqEnds with
    | executed alsoReported alsoReal free =>
      refine ⟨attached, .inl (congrFun kept (index + 1)), fun both => absurd both.1 unreal, ?_⟩
      intro _
      simp only [ControllerQueues.attachSq, fresh, if_false]
      split <;> rfl
    | pretended alsoReported alsoUnreal => exact ⟨.refl .., .inl rfl, fun both => absurd both.1 unreal, fun _ => rfl⟩

namespace NewPair
variable {controller second : ControllerQueues} {answers : AdminReply × AdminReply} {base index : Nat}

private theorem oldCq (created : NewPair controller second answers index (base + index))
    (old : ∀ qid object, controller.cq qid = some object → object < base + index) :
    ∀ qid object, second.cq qid = some object → object < base + (index + 1) := by
  intro qid object present
  by_cases here : qid = index + 1
  · subst qid
    rcases created.cq with kept | new
    · have before := old _ _ (kept.symm.trans present)
      omega
    · obtain rfl : base + index = object := Option.some.inj (new.symm.trans present)
      omega
  · have before := old _ _ ((created.same.cq qid here).symm.trans present)
    omega

theorem mem {object new : Nat} (created : NewPair controller second answers index new) (member : object ∈ second.paired) :
    object ∈ controller.paired ∨ object = new := by
  by_cases means : answers.1.Real ∧ answers.2.Real
  · rw [created.real means] at member
    exact (List.mem_append.mp member).imp_right List.mem_singleton.mp
  · rw [created.unreal means] at member
    exact .inl member

theorem keeps {object new : Nat} (created : NewPair controller second answers index new)
    (member : object ∈ controller.paired) : object ∈ second.paired := by
  by_cases means : answers.1.Real ∧ answers.2.Real
  · rw [created.real means]
    exact List.mem_append_left _ member
  · rw [created.unreal means]
    exact member

private theorem oldPairs (created : NewPair controller second answers index (base + index))
    (old : ∀ object ∈ controller.paired, object < base + index) : ∀ object ∈ second.paired, object < base + (index + 1) := by
  intro object member
  rcases created.mem member with before | rfl
  · have less := old object before
    omega
  · omega

end NewPair

/-- What `RegisterIoQueues` leaves after it counted `count` new objects, numbered from `base + index` on. -/
structure Registered (driver : Driver) (replies : PairReplies) (base index left : Nat) (status : NtStatus) (after : Driver)
    (count : Nat) : Prop where
  queues : after.queues = { driver.queues with registeredIoQ := driver.queues.registeredIoQ + BitVec.ofNat 32 count }
  bounded : count ≤ left
  aborted : status.ntSuccess = false ↔ driver.Aborts replies index left
  incomplete : driver.Aborts replies index left → count < left
  counted : 0 < count ↔ 0 < left ∧ driver.CreatesReported replies index
  genuine : driver.Genuine replies index left ↔ ∀ turn, turn < count → base + index + turn ∈ after.controller.paired
  kept : ∀ object ∈ driver.controller.paired, object ∈ after.controller.paired
  paired : ∀ object ∈ after.controller.paired,
    object ∈ driver.controller.paired ∨ base + index ≤ object ∧ object < base + index + left
  cq : ∀ qid object, after.controller.cq qid = some object →
    driver.controller.cq qid = some object ∨ object < base + index + left

theorem Registered.stop {driver : Driver} {replies : PairReplies} {base index left : Nat} {status : NtStatus}
    {controller : ControllerQueues} (unreported : ¬ driver.CreatesReported replies index)
    (aborted : status.ntSuccess = false ↔ (replies index).1.Refused ∨
      (replies index).1.Reported (driver.controller.cq (index + 1) = none) ∧ (replies index).2.Refused)
    (paired : controller.paired = driver.controller.paired)
    (cq : ∀ qid object, controller.cq qid = some object →
      driver.controller.cq qid = some object ∨ object = base + index) :
    driver.Registered replies base index (left + 1) status (driver.withController controller) 0 where
  queues := by simp [withController]
  bounded := Nat.zero_le _
  aborted := by
    rw [aborted]
    simp only [Aborts, unreported, false_and, or_false]
  incomplete := fun _ => Nat.succ_pos left
  counted := ⟨fun counted => absurd counted (Nat.lt_irrefl 0), fun both => absurd both.2 unreported⟩
  genuine := ⟨fun _ turn before => absurd before (Nat.not_lt_zero turn), fun _ reported => absurd reported unreported⟩
  kept := by
    intro object member
    rw [← paired] at member
    exact member
  paired := by
    intro object member
    rw [withController, paired] at member
    exact .inl member
  cq := by
    intro qid object held
    rcases cq qid object held with old | new
    · exact .inl old
    · right
      omega

theorem Registered.turn {driver after : Driver} {replies : PairReplies} {base index left count : Nat} {status : NtStatus}
    {second : ControllerQueues}
    (rest : (driver.withController second).countPair.Registered replies base (index + 1) left status after count)
    (both : driver.CreatesReported replies index)
    (created : NewPair driver.controller second (replies index) index (base + index))
    (oldCq : ∀ qid object, driver.controller.cq qid = some object → object < base + index)
    (oldPairs : ∀ object ∈ driver.controller.paired, object < base + index) :
    driver.Registered replies base index (left + 1) status after (count + 1) := by
  have onward := @aborts_congr driver (driver.withController second).countPair replies left (index + 1)
    (fun qid later => created.same.cq qid (by omega)) fun qid later => created.same.sq qid (by omega)
  have unrefused : ¬ ((replies index).1.Refused ∨
      (replies index).1.Reported (driver.controller.cq (index + 1) = none) ∧ (replies index).2.Refused) := by
    rintro (refused | ⟨_, refused⟩)
    · exact both.1.not_refused refused
    · exact both.2.not_refused refused
  have later : driver.Aborts replies index (left + 1) ↔ driver.Aborts replies (index + 1) left := by
    simp only [Aborts, ← or_assoc, unrefused, both, true_and, false_or]
  have mine : base + index ∈ after.controller.paired ↔ (replies index).1.Real ∧ (replies index).2.Real := by
    constructor
    · intro member
      apply Classical.byContradiction
      intro means
      rcases rest.paired _ member with old | new
      · have old : base + index ∈ second.paired := old
        rw [created.unreal means] at old
        exact Nat.lt_irrefl _ (oldPairs _ old)
      · omega
    · intro means
      apply rest.kept
      show base + index ∈ second.paired
      rw [created.real means]
      exact List.mem_append_right _ (List.mem_singleton.mpr rfl)
  refine ⟨?_, ?_, ?_, ?_, ?_, ?_, ?_, ?_, ?_⟩
  · rw [rest.queues]
    simp only [countPair, withController, BitVec.add_assoc, Nat.add_comm count 1, BitVec.ofNat_add]
    rfl
  · exact Nat.succ_le_succ rest.bounded
  · rw [rest.aborted, later, onward.1]
  · intro aborts
    exact Nat.succ_lt_succ (rest.incomplete (onward.1.mpr (later.mp aborts)))
  · exact ⟨fun _ => ⟨Nat.succ_pos left, both⟩, fun _ => Nat.succ_pos count⟩
  · simp only [Genuine, both, true_implies, ← onward.2, rest.genuine]
    constructor
    · rintro ⟨means, others⟩ turn before
      cases turn with
      | zero => exact mine.mpr means
      | succ turn =>
        have member := others turn (by omega)
        rwa [show base + (index + 1) + turn = base + index + (turn + 1) by omega] at member
    · intro all
      refine ⟨mine.mp (all 0 (Nat.succ_pos count)), ?_⟩
      intro turn before
      have member := all (turn + 1) (by omega)
      rwa [show base + index + (turn + 1) = base + (index + 1) + turn by omega] at member
  · exact fun object member => rest.kept object (created.keeps member)
  · intro object member
    rcases rest.paired object member with old | new
    · rcases created.mem old with older | rfl
      · exact .inl older
      · right
        omega
    · right
      omega
  · intro qid object present
    rcases rest.cq qid object present with old | new
    · have before := created.oldCq oldCq qid object old
      right
      omega
    · right
      omega

private theorem createCq_paired {controller first : ControllerQueues} {reply : AdminReply} {qid object : Nat}
    (ended : reply.command (controller.createCq qid object) = .succeeded first) : first.paired = controller.paired := by
  rcases ControllerQueues.createCq_reaches ended with rfl | rfl <;> rfl

private theorem createCq_cq {controller first : ControllerQueues} {reply : AdminReply} {qid object : Nat}
    (ended : reply.command (controller.createCq qid object) = .succeeded first) (other found : Nat)
    (present : first.cq other = some found) : controller.cq other = some found ∨ found = object := by
  rcases ControllerQueues.createCq_reaches ended with rfl | rfl
  · exact .inl present
  · by_cases here : other = qid
    · subst other
      rw [ControllerQueues.withCq_self] at present
      exact .inr (Option.some.inj present).symm
    · have same := (controller.withCq_sameBut qid (some object)).cq other here
      exact .inl (same.symm.trans present)

/-- The loop over objects that are all newer than anything the controller knows. -/
theorem registerFrom_registered {replies : PairReplies} {base left : Nat} :
    ∀ {driver : Driver} {index : Nat}, index + left ≤ maxIoQueueCount →
      (∀ place, index ≤ place → place < index + left → driver.queues.ioQueue place = some (base + place)) →
      (∀ qid object, driver.controller.cq qid = some object → object < base + index) →
      (∀ object ∈ driver.controller.paired, object < base + index) →
      ∃ status after count, driver.registerFrom replies index left = some (status, after) ∧
        driver.Registered replies base index left status after count := by
  induction left with
  | zero =>
    intro driver index _ _ _ _
    refine ⟨.success, driver, 0, rfl, ?_⟩
    refine ⟨by simp, Nat.le_refl 0, ⟨nofun, False.elim⟩, False.elim, ?_, ?_, fun _ => id, fun _ => .inl, fun _ _ => .inl⟩
    · exact ⟨fun counted => absurd counted (Nat.lt_irrefl 0), fun both => absurd both.1 (Nat.lt_irrefl 0)⟩
    · exact ⟨fun _ turn before => absurd before (Nat.not_lt_zero turn), fun _ => trivial⟩
  | succ left ih =>
    intro driver index fits objects oldCq oldPairs
    have held : driver.queues.ioQueue index = some (base + index) := objects index (Nat.le_refl _) (by omega)
    cases driver.registerFrom_turn replies left (by omega) held with
    | stopped status missed told ends =>
      refine ⟨status, driver, 0, ends, .stop (fun reported => missed reported.1) ?_ rfl fun _ _ => .inl⟩
      exact told.fails_iff.trans ⟨.inl, fun either => either.resolve_right fun both => missed both.1⟩
    | halfway status first ended reported missed told ends =>
      refine ⟨status, _, 0, ends, .stop (fun both => missed both.2) ?_ (createCq_paired ended) (createCq_cq ended)⟩
      exact told.fails_iff.trans ⟨fun refused => .inr ⟨reported, refused⟩,
        fun either => (either.resolve_left reported.not_refused).2⟩
    | counted first second ended reported finished alsoReported goes =>
      have fresh : driver.controller.cq (index + 1) ≠ some (base + index) :=
        fun present => Nat.lt_irrefl _ (oldCq _ _ present)
      have created := createPair_newPair fresh ended finished
      have objects' : ∀ place, index + 1 ≤ place → place < index + 1 + left →
          driver.queues.ioQueue place = some (base + place) := fun place _ _ => objects place (by omega) (by omega)
      obtain ⟨status, after, count, returned, rest⟩ := @ih (driver.withController second).countPair (index + 1) (by omega)
        objects' (created.oldCq oldCq) (created.oldPairs oldPairs)
      exact ⟨status, after, count + 1, goes.trans returned, rest.turn ⟨reported, alsoReported⟩ created oldCq oldPairs⟩

/-- Every processor finds a queue, which lives and which the controller was given. -/
def Serving (driver : Driver) : Prop :=
  ∀ processor, ∃ object, driver.queues.submitIoQueue processor = some object ∧
    object ∉ driver.queues.deleted ∧ object ∈ driver.controller.paired

structure Known (driver : Driver) : Prop where
  past : driver.queues.Past
  cq : ∀ qid object, driver.controller.cq qid = some object → object < driver.queues.created
  paired : ∀ object ∈ driver.controller.paired, object < driver.queues.created

structure Unqueued (driver : Driver) : Prop where
  ioQueue : ∀ index, driver.queues.ioQueue index = none
  registeredIoQ : driver.queues.registeredIoQ = 0
  allocatedIoQ : driver.queues.allocatedIoQ = 0

/-- How many queues `CreateIoQueues` is to create: what the registry asks for, or
else what the controller grants. -/
def queuesWanted (driver : Driver) (reply : AdminReply) : Option (BitVec 32) :=
  if driver.queues.params.desiredIoQ = 0 then
    match reply with
    | .refused .. => none
    | .answered status dw0 => if nvmeToSrbStatus status = .success then some (0xFFFF &&& (dw0 + 1)) else none
  else some driver.queues.params.desiredIoQ

def Registers (driver : Driver) (input : PassiveInitializeInput) : Prop :=
  driver.isWorking = true → input.stage1.ntSuccess = true → input.stage2.ntSuccess = true →
    ∀ count, driver.queuesWanted input.queueCount = some count →
    (∀ place, place < count.toNat → place < maxIoQueueCount → (input.setups place).ntSuccess = true) →
    count.toNat ≤ maxIoQueueCount ∧
      (driver.Aborts input.replies 0 count.toNat ∨
        0 < count.toNat ∧ driver.CreatesReported input.replies 0 ∧ driver.Genuine input.replies 0 count.toNat)

private theorem createIoQueues_wanted {driver : Driver} (working : driver.isWorking = true) (reply : AdminReply)
    (setups : Nat → NtStatus) :
    (driver.queuesWanted reply = none → ∃ status, status.ntSuccess = false ∧
      driver.createIoQueues false reply setups = some (status, driver)) ∧
    ∀ count, driver.queuesWanted reply = some count → ∃ params : QueueParams, params.desiredIoQ = count ∧
      driver.createIoQueues false reply setups =
        createIoQ { driver with queues := { driver.queues with params := params } } setups := by
  simp only [queuesWanted, createIoQueues, Bool.false_eq_true, if_false]
  split
  · cases reply with
    | refused status failed =>
      simp only [setNumberOfIoQueue, working, Bool.not_true, Bool.false_eq_true, if_false, failed, Bool.not_false, if_true]
      exact ⟨fun _ => ⟨status, failed, rfl⟩, fun _ wanted => absurd wanted (by simp)⟩
    | answered status dw0 =>
      simp only [setNumberOfIoQueue, working, Bool.not_true, Bool.false_eq_true, if_false]
      split
      · refine ⟨fun refused => absurd refused (by simp), ?_⟩
        intro count wanted
        exact ⟨{ driver.queues.params with desiredIoQ := 0xFFFF &&& (dw0 + 1) }, Option.some.inj wanted, rfl⟩
      · exact ⟨fun _ => ⟨.unsuccessful, rfl, rfl⟩, fun _ wanted => absurd wanted (by simp)⟩
  · refine ⟨fun refused => absurd refused (by simp), ?_⟩
    intro count wanted
    exact ⟨driver.queues.params, Option.some.inj wanted, rfl⟩

/-- The queue pointers of a freshly filled array serve every processor exactly if
some were counted and the controller has all of those. -/
theorem serving_iff {driver : Driver} {base count wanted : Nat} (counted : driver.queues.registeredIoQ.toNat = count)
    (bounded : count ≤ wanted)
    (objects : ∀ place, place < wanted → driver.queues.ioQueue place = some (base + place))
    (live : ∀ object ∈ driver.queues.deleted, object < base) :
    driver.Serving ↔ 0 < count ∧ ∀ turn, turn < count → base + turn ∈ driver.controller.paired := by
  have registered : driver.queues.registeredIoQ = 0 ↔ count = 0 := by
    rw [← counted, BitVec.toNat_eq]
    rfl
  have selects : 0 < count → ∀ processor, driver.queues.submitIoQueue processor = some (base + processor % count) := by
    intro positive processor
    have inside := Nat.mod_lt processor positive
    have some_ : driver.queues.registeredIoQ ≠ 0 := fun zero => by
      rw [registered.mp zero] at positive
      exact Nat.lt_irrefl 0 positive
    simp only [DeviceQueues.submitIoQueue, some_, if_false, counted]
    exact objects _ (by omega)
  constructor
  · intro serving
    have positive : 0 < count := by
      apply Nat.pos_of_ne_zero
      intro zero
      obtain ⟨object, selected, _⟩ := serving 0
      simp [DeviceQueues.submitIoQueue, registered.mpr zero] at selected
    refine ⟨positive, ?_⟩
    intro turn before
    obtain ⟨object, selected, _, paired⟩ := serving turn
    rw [selects positive, Nat.mod_eq_of_lt before] at selected
    exact Option.some.inj selected ▸ paired
  · rintro ⟨positive, paired⟩ processor
    refine ⟨base + processor % count, selects positive processor, ?_, paired _ (Nat.mod_lt processor positive)⟩
    intro member
    have old := live _ member
    omega

/-- The device as `CreateIoQ` leaves it where every queue is set up. -/
def filled (driver : Driver) (params : QueueParams) : Driver :=
  { driver with queues := { driver.queues with params := params }.filled 0 params.desiredIoQ.toNat }

namespace Registered
variable {driver after : Driver} {params : QueueParams} {replies : PairReplies} {status : NtStatus} {count : Nat}

private theorem filled_ioQueue (driver : Driver) (params : QueueParams) {place : Nat} (before : place < params.desiredIoQ.toNat) :
    (driver.filled params).queues.ioQueue place = some (driver.queues.created + place) := by
  have inside : 0 ≤ place ∧ place < 0 + params.desiredIoQ.toNat := by omega
  exact if_pos inside

private theorem known (registered : (driver.filled params).Registered replies driver.queues.created 0 params.desiredIoQ.toNat
      status after count) (known : driver.Known) (unqueued : driver.Unqueued) : after.Known := by
  refine ⟨⟨?_, ?_⟩, ?_, ?_⟩ <;> rw [registered.queues]
  · intro index object held
    cases index with
    | zero => exact Nat.lt_of_lt_of_le (known.past.slot 0 object held) (Nat.le_add_right ..)
    | succ index =>
      by_cases inside : index < params.desiredIoQ.toNat
      · obtain rfl : driver.queues.created + index = object :=
          Option.some.inj ((filled_ioQueue driver params inside).symm.trans held)
        show _ < driver.queues.created + params.desiredIoQ.toNat
        omega
      · have free : (driver.filled params).queues.ioQueue index = none := by
          have outside : ¬ (0 ≤ index ∧ index < 0 + params.desiredIoQ.toNat) := by omega
          exact (if_neg outside).trans (unqueued.ioQueue index)
        cases free.symm.trans held
  · exact fun object member => Nat.lt_of_lt_of_le (known.past.deleted object member) (Nat.le_add_right ..)
  · intro qid object present
    show object < driver.queues.created + params.desiredIoQ.toNat
    rcases registered.cq qid object present with old | new
    · have before := known.cq qid object old
      omega
    · omega
  · intro object member
    show object < driver.queues.created + params.desiredIoQ.toNat
    rcases registered.paired object member with old | new
    · have before := known.paired object old
      omega
    · omega

private theorem registeredIoQ (registered : (driver.filled params).Registered replies driver.queues.created 0
      params.desiredIoQ.toNat status after count) (unqueued : driver.Unqueued) : after.queues.registeredIoQ.toNat = count := by
  have small : count < 2 ^ 32 := Nat.lt_of_le_of_lt registered.bounded params.desiredIoQ.isLt
  rw [registered.queues]
  show (driver.queues.registeredIoQ + BitVec.ofNat 32 count).toNat = count
  simpa [unqueued.registeredIoQ] using small

/-- `END` turns no failure of the loop into a success: the loop failed before it
had registered all. -/
private theorem fails_iff (registered : (driver.filled params).Registered replies driver.queues.created 0
      params.desiredIoQ.toNat status after count) (unqueued : driver.Unqueued) :
    (after.registrationStatus status).ntSuccess = false ↔ driver.Aborts replies 0 params.desiredIoQ.toNat := by
  have same := @aborts_congr driver (driver.filled params) replies params.desiredIoQ.toNat 0 (fun _ _ => rfl) fun _ _ => rfl
  have desired : after.queues.params.desiredIoQ = params.desiredIoQ := by
    rw [registered.queues]
    rfl
  rw [← same.1, ← registered.aborted]
  unfold registrationStatus
  split
  · next equal =>
    have whole : count = params.desiredIoQ.toNat := by rw [← registered.registeredIoQ unqueued, equal, desired]
    constructor
    · intro aborted
      cases aborted
    · intro failed
      have less := registered.incomplete (registered.aborted.mp failed)
      omega
  · exact Iff.rfl

private theorem serves_iff (registered : (driver.filled params).Registered replies driver.queues.created 0
      params.desiredIoQ.toNat status after count) (known : driver.Known) (unqueued : driver.Unqueued) :
    after.Serving ↔ 0 < params.desiredIoQ.toNat ∧ driver.CreatesReported replies 0 ∧
      driver.Genuine replies 0 params.desiredIoQ.toNat := by
  have same := @aborts_congr driver (driver.filled params) replies params.desiredIoQ.toNat 0 (fun _ _ => rfl) fun _ _ => rfl
  have live : ∀ object ∈ after.queues.deleted, object < driver.queues.created := by
    rw [registered.queues]
    exact known.past.deleted
  have pointers : ∀ place, place < params.desiredIoQ.toNat →
      after.queues.ioQueue place = some (driver.queues.created + place) := by
    intro place before
    rw [registered.queues]
    exact filled_ioQueue driver params before
  have genuine : driver.Genuine replies 0 params.desiredIoQ.toNat ↔
      ∀ turn, turn < count → driver.queues.created + turn ∈ after.controller.paired := same.2.symm.trans registered.genuine
  rw [serving_iff (registered.registeredIoQ unqueued) registered.bounded pointers live, genuine, registered.counted, and_assoc]
  exact Iff.rfl

end Registered

private theorem registerIoQueues_filled {driver : Driver} (known : driver.Known) (unqueued : driver.Unqueued) (params : QueueParams)
    (working : driver.isWorking = true) (fits : params.desiredIoQ.toNat ≤ maxIoQueueCount) (replies : PairReplies) :
    ∃ status after, (driver.filled params).registerIoQueues replies = some (status, after) ∧
      after.Known ∧ after.queues.state = driver.queues.state ∧
      (status.ntSuccess = false ↔ driver.Aborts replies 0 params.desiredIoQ.toNat) ∧
      (after.Serving ↔ 0 < params.desiredIoQ.toNat ∧ driver.CreatesReported replies 0 ∧
        driver.Genuine replies 0 params.desiredIoQ.toNat) := by
  have allocated : (driver.filled params).queues.allocatedIoQ.toNat = params.desiredIoQ.toNat := by
    show (driver.queues.allocatedIoQ + BitVec.ofNat 32 params.desiredIoQ.toNat).toNat = _
    simp [unqueued.allocatedIoQ]
  have objects : ∀ place, 0 ≤ place → place < 0 + params.desiredIoQ.toNat →
      (driver.filled params).queues.ioQueue place = some (driver.queues.created + place) :=
    fun place _ before => Registered.filled_ioQueue driver params (by omega)
  obtain ⟨status, after, count, returned, registered⟩ :=
    @registerFrom_registered replies _ _ (driver.filled params) 0 (by simpa using fits) objects known.cq known.paired
  refine ⟨after.registrationStatus status, after, ?_, registered.known known unqueued, ?_,
    registered.fails_iff unqueued, registered.serves_iff known unqueued⟩
  · have works : (driver.filled params).isWorking = true := working
    simp only [registerIoQueues, works, Bool.not_true, Bool.false_eq_true, if_false, allocated, returned]
    rfl
  · rw [registered.queues]
    rfl

structure Comes (driver : Driver) (input : PassiveInitializeInput) (count : BitVec 32) : Prop where
  working : driver.isWorking = true
  stage1 : input.stage1.ntSuccess = true
  stage2 : input.stage2.ntSuccess = true
  wanted : driver.queuesWanted input.queueCount = some count
  setups : ∀ place, place < count.toNat → place < maxIoQueueCount → (input.setups place).ntSuccess = true

theorem Comes.unique {driver : Driver} {input : PassiveInitializeInput} {count other : BitVec 32}
    (comes : driver.Comes input count) (also : driver.Comes input other) : count = other :=
  Option.some.inj (comes.wanted.symm.trans also.wanted)

private theorem registers_iff {driver : Driver} {input : PassiveInitializeInput} :
    driver.Registers input ↔ ∀ count, driver.Comes input count → count.toNat ≤ maxIoQueueCount ∧
      (driver.Aborts input.replies 0 count.toNat ∨
        0 < count.toNat ∧ driver.CreatesReported input.replies 0 ∧ driver.Genuine input.replies 0 count.toNat) := by
  constructor
  · intro registers count comes
    exact registers comes.working comes.stage1 comes.stage2 count comes.wanted comes.setups
  · intro each working stage1 stage2 count wanted setups
    exact each count ⟨working, stage1, stage2, wanted, setups⟩

/-- Every queue that passive initialisation creates has a place in the array. -/
def Fits (driver : Driver) (input : PassiveInitializeInput) : Prop :=
  ∀ count, driver.Comes input count → count.toNat ≤ maxIoQueueCount

/-- How `HwPassiveInitialize` ends on a device without I/O queues: before it registers
any, behind the end of the array, or with what `RegisterIoQueues` returned. -/
inductive PassiveEnd (driver : Driver) (input : PassiveInitializeInput) : Option (Bool × Driver) → Prop where
  | early {after : Driver} (known : after.Known) (state : after.queues.state = driver.queues.state)
      (unreached : ∀ count, ¬ driver.Comes input count) : PassiveEnd driver input (some (false, after))
  | overrun {count : BitVec 32} (comes : driver.Comes input count) (beyond : maxIoQueueCount < count.toNat) :
      PassiveEnd driver input none
  | registered {count : BitVec 32} {status : NtStatus} {after : Driver} (comes : driver.Comes input count)
      (fits : count.toNat ≤ maxIoQueueCount) (known : after.Known) (state : after.queues.state = driver.queues.state)
      (aborts : status.ntSuccess = false ↔ driver.Aborts input.replies 0 count.toNat)
      (serves : after.Serving ↔ 0 < count.toNat ∧ driver.CreatesReported input.replies 0 ∧
        driver.Genuine input.replies 0 count.toNat) :
      PassiveEnd driver input (some (status.ntSuccess, after))

section Passive
variable {driver : Driver} {input : PassiveInitializeInput} {params : QueueParams}

private theorem createIoQ_fails (known : driver.Known) (unqueued : driver.Unqueued)
    (failing : ∃ place, place < params.desiredIoQ.toNat ∧ place < maxIoQueueCount ∧ (input.setups place).ntSuccess = false) :
    ∃ status after, status.ntSuccess = false ∧ after.Known ∧ after.queues.state = driver.queues.state ∧
      createIoQ { driver with queues := { driver.queues with params := params } } input.setups = some (status, after) := by
  obtain ⟨place, before, within, fails⟩ := failing
  have free : ∀ place, 0 ≤ place → { driver.queues with params := params }.ioQueue place = none :=
    fun place _ => unqueued.ioQueue place
  obtain ⟨status, queues, failed, result⟩ := (@DeviceQueues.createIoQFrom_free input.setups params.desiredIoQ.toNat _ 0
    free).2 ⟨place, Nat.zero_le _, by omega, within, fails⟩
  have past : DeviceQueues.Past { driver.queues with params := params } := ⟨known.past.slot, known.past.deleted⟩
  obtain ⟨kept, more, state⟩ := DeviceQueues.createIoQFrom_past past result
  refine ⟨status, { driver with queues := queues }, failed, ?_, state, ?_⟩
  · exact ⟨kept, fun qid object held => Nat.lt_of_lt_of_le (known.cq qid object held) more,
      fun object member => Nat.lt_of_lt_of_le (known.paired object member) more⟩
  · simp only [createIoQ, DeviceQueues.createIoQ, result, Option.map_some]

private theorem createIoQ_succeeds (unqueued : driver.Unqueued)
    (ready : ∀ place, place < params.desiredIoQ.toNat → place < maxIoQueueCount → (input.setups place).ntSuccess = true) :
    createIoQ { driver with queues := { driver.queues with params := params } } input.setups =
      if params.desiredIoQ.toNat ≤ maxIoQueueCount then some (.success, driver.filled params) else none := by
  have free : ∀ place, 0 ≤ place → { driver.queues with params := params }.ioQueue place = none :=
    fun place _ => unqueued.ioQueue place
  have result := (@DeviceQueues.createIoQFrom_free input.setups params.desiredIoQ.toNat _ 0 free).1
    fun place _ before within => ready place (by omega) within
  have room : 0 + params.desiredIoQ.toNat ≤ max 0 maxIoQueueCount ↔ params.desiredIoQ.toNat ≤ maxIoQueueCount := by omega
  simp only [createIoQ, DeviceQueues.createIoQ, result, room]
  split <;> rfl

private theorem hwPassiveInitialize_creates (known : driver.Known) (unqueued : driver.Unqueued)
    (working : driver.isWorking = true) (stage1 : input.stage1.ntSuccess = true) (stage2 : input.stage2.ntSuccess = true)
    (wanted : driver.queuesWanted input.queueCount = some params.desiredIoQ)
    (created : driver.createIoQueues false input.queueCount input.setups =
      createIoQ { driver with queues := { driver.queues with params := params } } input.setups) :
    driver.PassiveEnd input (driver.hwPassiveInitialize input) := by
  by_cases failing : ∃ place, place < params.desiredIoQ.toNat ∧ place < maxIoQueueCount ∧
      (input.setups place).ntSuccess = false
  · obtain ⟨status, after, failed, still, state, ended⟩ := createIoQ_fails known unqueued failing
    have returned : driver.hwPassiveInitialize input = some (false, after) := by
      simp only [hwPassiveInitialize, working, stage1, stage2, created, ended, failed, Bool.not_true, Bool.false_eq_true,
        if_false, Bool.not_false, if_true]
    rw [returned]
    refine .early still state ?_
    intro count comes
    obtain rfl : params.desiredIoQ = count := Option.some.inj (wanted.symm.trans comes.wanted)
    obtain ⟨place, before, within, fails⟩ := failing
    exact Bool.false_ne_true (fails.symm.trans (comes.setups place before within))
  · have ready : ∀ place, place < params.desiredIoQ.toNat → place < maxIoQueueCount →
        (input.setups place).ntSuccess = true := by
      intro place before within
      by_contra fails
      exact failing ⟨place, before, within, Bool.eq_false_iff.mpr fails⟩
    have comes : driver.Comes input params.desiredIoQ := ⟨working, stage1, stage2, wanted, ready⟩
    have ended := createIoQ_succeeds unqueued ready
    by_cases fits : params.desiredIoQ.toNat ≤ maxIoQueueCount
    · rw [if_pos fits] at ended
      obtain ⟨status, after, registered, kept, state, aborts, serves⟩ :=
        registerIoQueues_filled known unqueued params working fits input.replies
      have returned : driver.hwPassiveInitialize input = some (status.ntSuccess, after) := by
        simp only [hwPassiveInitialize, working, stage1, stage2, created, ended, registered, Bool.not_true,
          Bool.false_eq_true, if_false]
        rfl
      rw [returned]
      exact .registered comes fits kept state aborts serves
    · rw [if_neg fits] at ended
      have returned : driver.hwPassiveInitialize input = none := by
        simp only [hwPassiveInitialize, working, stage1, stage2, created, ended, Bool.not_true, Bool.false_eq_true, if_false]
      rw [returned]
      exact .overrun comes (Nat.lt_of_not_le fits)

private theorem hwPassiveInitialize_end (known : driver.Known) (unqueued : driver.Unqueued) :
    driver.PassiveEnd input (driver.hwPassiveInitialize input) := by
  cases working : driver.isWorking with
  | false =>
    have returned : driver.hwPassiveInitialize input = some (false, driver) := by simp [hwPassiveInitialize, working]
    rw [returned]
    exact .early known rfl fun _ comes => Bool.false_ne_true (working.symm.trans comes.working)
  | true =>
    cases stage1 : input.stage1.ntSuccess with
    | false =>
      have returned : driver.hwPassiveInitialize input = some (false, driver) := by
        simp [hwPassiveInitialize, working, stage1]
      rw [returned]
      exact .early known rfl fun _ comes => Bool.false_ne_true (stage1.symm.trans comes.stage1)
    | true =>
      cases stage2 : input.stage2.ntSuccess with
      | false =>
        have returned : driver.hwPassiveInitialize input = some (false, driver) := by
          simp [hwPassiveInitialize, working, stage1, stage2]
        rw [returned]
        exact .early known rfl fun _ comes => Bool.false_ne_true (stage2.symm.trans comes.stage2)
      | true =>
        obtain ⟨unwanted, wants⟩ := createIoQueues_wanted working input.queueCount input.setups
        cases wanted : driver.queuesWanted input.queueCount with
        | none =>
          obtain ⟨status, failed, created⟩ := unwanted wanted
          have returned : driver.hwPassiveInitialize input = some (false, driver) := by
            simp [hwPassiveInitialize, working, stage1, stage2, created, failed]
          rw [returned]
          refine .early known rfl ?_
          intro count comes
          cases wanted.symm.trans comes.wanted
        | some count =>
          obtain ⟨params, rfl, created⟩ := wants count wanted
          exact hwPassiveInitialize_creates known unqueued working stage1 stage2 wanted created

end Passive

/-- What `HwPassiveInitialize` does to a device without I/O queues: it has a result,
and one that serves if it succeeded, exactly if its inputs register queues. -/
theorem hwPassiveInitialize_serving {driver : Driver} (known : driver.Known) (unqueued : driver.Unqueued)
    (input : PassiveInitializeInput) :
    (driver.Registers input ↔ (∃ result, driver.hwPassiveInitialize input = some result) ∧
      ∀ after, driver.hwPassiveInitialize input = some (true, after) → after.Serving) ∧
    ∀ started after, driver.hwPassiveInitialize input = some (started, after) →
      after.Known ∧ after.queues.state = driver.queues.state := by
  have ended := @hwPassiveInitialize_end driver input known unqueued
  rw [registers_iff]
  generalize driver.hwPassiveInitialize input = result at ended ⊢
  cases ended with
  | early kept state unreached =>
    refine ⟨⟨fun _ => ⟨⟨_, rfl⟩, fun _ succeeded => by cases succeeded⟩, fun _ count comes => ?_⟩, ?_⟩
    · exact absurd comes (unreached count)
    · intro started other returned
      cases returned
      exact ⟨kept, state⟩
  | overrun comes beyond =>
    refine ⟨⟨fun registers => absurd (registers _ comes).1 (by omega), ?_⟩, fun _ _ returned => by cases returned⟩
    intro delivered
    obtain ⟨⟨result, missing⟩, _⟩ := delivered
    cases missing
  | @registered _ status after comes fits kept state aborts serves =>
    refine ⟨⟨?_, ?_⟩, ?_⟩
    · intro registers
      refine ⟨⟨_, rfl⟩, ?_⟩
      intro other returned
      obtain ⟨succeeded, rfl⟩ : status.ntSuccess = true ∧ after = other := by simpa using returned
      apply serves.mpr
      apply (registers _ comes).2.resolve_left
      intro aborted
      exact Bool.false_ne_true ((aborts.mpr aborted).symm.trans succeeded)
    · intro delivered count also
      obtain rfl := comes.unique also
      refine ⟨fits, ?_⟩
      cases succeeded : status.ntSuccess with
      | false => exact .inl (aborts.mp succeeded)
      | true =>
        rw [succeeded] at delivered
        exact .inr (serves.mp (delivered.2 after rfl))
    · intro started other returned
      obtain ⟨_, rfl⟩ : status.ntSuccess = started ∧ after = other := by simpa using returned
      exact ⟨kept, state⟩

theorem hwPassiveInitialize_fits {driver : Driver} (known : driver.Known) (unqueued : driver.Unqueued)
    (input : PassiveInitializeInput) : (∃ result, driver.hwPassiveInitialize input = some result) ↔ driver.Fits input := by
  have ended := @hwPassiveInitialize_end driver input known unqueued
  generalize driver.hwPassiveInitialize input = result at ended ⊢
  cases ended with
  | early _ _ unreached => exact ⟨fun _ count comes => absurd comes (unreached count), fun _ => ⟨_, rfl⟩⟩
  | overrun comes beyond =>
    constructor
    · intro returned
      obtain ⟨result, missing⟩ := returned
      cases missing
    · intro fits
      exact absurd (fits _ comes) (by omega)
  | registered comes fits =>
    refine ⟨?_, fun _ => ⟨_, rfl⟩⟩
    intro _ count also
    obtain rfl := comes.unique also
    exact fits

private theorem Known.ofQueues {driver : Driver} (known : driver.Known) {queues : DeviceQueues} (past : queues.Past)
    (created : driver.queues.created ≤ queues.created) : Known { driver with queues := queues } :=
  ⟨past, fun qid object held => Nat.lt_of_lt_of_le (known.cq qid object held) created,
    fun object member => Nat.lt_of_lt_of_le (known.paired object member) created⟩

private theorem teardown_created (queues : DeviceQueues) : queues.teardown.created = queues.created := by
  cases working : queues.isWorking with
  | true => exact (teardown_forgets working).1
  | false => simp [DeviceQueues.teardown, working]

theorem Known.teardown {driver : Driver} (known : driver.Known) : driver.teardown.Known :=
  known.ofQueues known.past.teardown (Nat.le_of_eq (teardown_created driver.queues).symm)

theorem Known.initController {driver : Driver} (known : driver.Known) (reply : InitReply) :
    (driver.initController reply).2.Known := by
  unfold Driver.initController
  split
  · exact known
  · refine ⟨⟨known.past.slot, known.past.deleted⟩, ?_, ?_⟩
    · cases reply.reset with
      | true => nofun
      | false => exact known.cq
    · cases reply.reset <;> exact known.paired

theorem Known.powerCycle {driver : Driver} (known : driver.Known) :
    (driver.withController driver.controller.reset).Known := ⟨known.past, nofun, known.paired⟩

theorem setup_unqueued {queues : DeviceQueues} {registry : Registry} {mqes : BitVec 16} {mapped admQueueOK : Bool}
    (succeeded : (queues.setup registry mqes mapped admQueueOK).1.ntSuccess = true) (controller : ControllerQueues) :
    Unqueued ⟨(queues.setup registry mqes mapped admQueueOK).2, controller⟩ ∧ queues.state = .stop := by
  unfold DeviceQueues.setup at *
  split at succeeded
  · cases succeeded
  · next stopped =>
    have stopped : queues.state = .stop := by simpa using stopped
    cases mapped with
    | false => cases succeeded
    | true =>
      cases admQueueOK with
      | false => cases succeeded
      | true =>
        rw [if_neg (by simpa using stopped)]
        exact ⟨⟨fun _ => rfl, rfl, rfl⟩, stopped⟩

/-- `HwFindAdapter` leaves a device without I/O queues if it finds one, and no
device that is resetting its bus finds one, or changes. -/
theorem hwFindAdapter_known {driver after : Driver} {input : FindAdapterInput} {found : Bool} (known : driver.Known)
    (returned : driver.hwFindAdapter input = some (found, after)) :
    after.Known ∧ (found = true → after.Unqueued) ∧
      (driver.queues.state = .resetbus → found = false ∧ after.queues.state = .resetbus) := by
  have ready := known.ofQueues (known.past.setup input.registry input.mqes input.mapped input.admQueueOK) (by
    rcases setup_forgets driver.queues input.registry input.mqes input.mapped input.admQueueOK with same | grown
    · exact Nat.le_of_eq (congrArg DeviceQueues.created same).symm
    · exact grown.1)
  simp only [hwFindAdapter] at returned
  cases succeeded : (driver.queues.setup input.registry input.mqes input.mapped input.admQueueOK).1.ntSuccess with
  | false =>
    simp only [succeeded, Bool.not_false, if_true, Option.some.injEq, Prod.mk.injEq] at returned
    obtain ⟨rfl, rfl⟩ := returned
    refine ⟨ready.teardown, fun found => absurd found (by simp), ?_⟩
    intro resetting
    have same : (driver.queues.setup input.registry input.mqes input.mapped input.admQueueOK).2 = driver.queues := by
      simp [DeviceQueues.setup, resetting]
    refine ⟨rfl, ?_⟩
    rw [same]
    show driver.queues.teardown.state = .resetbus
    rw [DeviceQueues.teardown_of_ne (by simp [resetting]), resetting]
  | true =>
    obtain ⟨unqueued, stopped⟩ := setup_unqueued succeeded driver.controller
    have idle : driver.queues.state ≠ .resetbus := by simp [stopped]
    simp only [succeeded, Bool.not_true, Bool.false_eq_true, if_false] at returned
    split at returned
    · cases returned
    · next reply _ =>
      have initialized := ready.initController reply
      split at returned
      · cases returned
        exact ⟨initialized.teardown, fun found => absurd found (by simp), fun resetting => absurd resetting idle⟩
      · split at returned
        · cases returned
          exact ⟨initialized.teardown, fun found => absurd found (by simp), fun resetting => absurd resetting idle⟩
        · cases returned
          refine ⟨initialized, ?_, fun resetting => absurd resetting idle⟩
          intro _
          unfold Driver.initController
          split
          · exact unqueued
          · exact ⟨unqueued.ioQueue, rfl, unqueued.allocatedIoQ⟩

end Driver

namespace Lifecycle

/-- I/O is handed to a queue, from whatever processor StorPort delivers it. -/
def ServesIo (life : Lifecycle) : Prop := life.phase = .started → life.queues.isWorking = true → life.driver.Serving

/-- Passive initialisation stays inside the array, and after the call I/O is served. -/
def Delivers (before : Lifecycle) (event : LifecycleEvent) : Prop :=
  (∀ input, event = .passiveInitialize input → before.phase = .found → ∃ after, before.step event = some after) ∧
    ∀ after, before.step event = some after → after.ServesIo

def Registers (before : Lifecycle) : LifecycleEvent → Prop
  | .passiveInitialize input => before.phase = .found → before.driver.Registers input
  | .findAdapter _ | .removeDevice _ | .surpriseRemoval | .resetBusBegin | .resetBusEnd | .powerCycle => True

structure Fresh (life : Lifecycle) : Prop where
  known : life.driver.Known
  found : life.phase = .found → life.driver.Unqueued

structure Prepared (life : Lifecycle) : Prop where
  fresh : life.Fresh
  started : life.phase = .started → life.queues.state = .running ∨ life.queues.state = .resetbus → life.driver.Serving
  resetting : life.resetting = true → life.queues.state = .resetbus

private theorem Prepared.servesIo {life : Lifecycle} (prepared : life.Prepared) : life.ServesIo := by
  intro started working
  apply prepared.started started
  left
  simpa [DeviceQueues.isWorking] using working

theorem initial_fresh : initial.Fresh := ⟨⟨DeviceQueues.zeroed_past, nofun, nofun⟩, nofun⟩

private theorem initial_prepared : initial.Prepared := ⟨initial_fresh, nofun, nofun⟩

private theorem teardown_unqueued {driver : Driver} (unqueued : driver.Unqueued) : driver.teardown.Unqueued := by
  have untouched : ∀ (queues : DeviceQueues) count, (∀ index, queues.ioQueue index = none) →
      queues.deleteIoQUpTo count = queues := by
    intro queues count empty
    induction count with
    | zero => rfl
    | succ count ih => simp [DeviceQueues.deleteIoQUpTo, ih, empty]
  cases working : driver.queues.isWorking with
  | false =>
    have same : driver.queues.teardown = driver.queues := by simp [DeviceQueues.teardown, working]
    rw [Driver.teardown, same]
    exact unqueued
  | true =>
    have idle := untouched (driver.queues.setState .teardown) maxIoQueueCount unqueued.ioQueue
    have freed : (driver.queues.setState .teardown).deleteIoQ = { driver.queues.setState .teardown with ioQueue := fun _ => none } := by
      rw [DeviceQueues.deleteIoQ, idle]
    have adm : ∀ queues : DeviceQueues, queues.deleteAdmQ.2.ioQueue = queues.ioQueue ∧
        queues.deleteAdmQ.2.registeredIoQ = queues.registeredIoQ ∧ queues.deleteAdmQ.2.allocatedIoQ = queues.allocatedIoQ := by
      intro queues
      unfold DeviceQueues.deleteAdmQ
      split <;> exact ⟨rfl, rfl, rfl⟩
    obtain ⟨pointers, registered, allocated⟩ := adm (driver.queues.setState .teardown).deleteIoQ
    have torn : driver.queues.teardown = (driver.queues.setState .teardown).deleteIoQ.deleteAdmQ.2.setState .stop := by
      simp [DeviceQueues.teardown, working]
    rw [Driver.teardown, torn]
    refine ⟨congrFun pointers, ?_, ?_⟩
    · refine registered.trans ?_
      rw [freed]
      exact unqueued.registeredIoQ
    · refine allocated.trans ?_
      rw [freed]
      exact unqueued.allocatedIoQ

/-- A regular removal only changes the state, and never of a device that resets its bus. -/
theorem shutdownController_teardown (queues : DeviceQueues) :
    queues.shutdownController.teardown = queues ∧ queues.state ≠ .running ∨
      queues.state ≠ .resetbus ∧ queues.shutdownController.teardown = queues.setState .shutdown := by
  have halted : queues.shutdownController.state ≠ .running := by
    cases state : queues.state <;> simp [DeviceQueues.shutdownController, DeviceQueues.isStop, DeviceQueues.isWorking,
      DeviceQueues.setState, state]
  rw [DeviceQueues.teardown_of_ne halted]
  unfold DeviceQueues.shutdownController at *
  split
  · next other =>
    simp only [other, if_true] at halted
    exact .inl ⟨rfl, halted⟩
  · next known =>
    refine .inr ⟨?_, rfl⟩
    intro resetting
    simp [DeviceQueues.isStop, DeviceQueues.isWorking, resetting] at known

private theorem Fresh.setState {life : Lifecycle} (fresh : life.Fresh) (state : NvmeState) (resetting : Bool) :
    Fresh { life.withQueues (life.queues.setState state) with resetting := resetting } := by
  refine ⟨⟨⟨fresh.known.past.slot, fresh.known.past.deleted⟩, fresh.known.cq, fresh.known.paired⟩, ?_⟩
  intro phase
  exact ⟨(fresh.found phase).ioQueue, (fresh.found phase).registeredIoQ, (fresh.found phase).allocatedIoQ⟩

theorem step_fresh {before after : Lifecycle} {event : LifecycleEvent} (fresh : before.Fresh)
    (taken : before.step event = some after) : after.Fresh := by
  cases event with
  | findAdapter input =>
    obtain ⟨found, driver, returned, rfl⟩ := step_findAdapter taken
    obtain ⟨known, unqueued, _⟩ := Driver.hwFindAdapter_known fresh.known returned
    refine ⟨known, ?_⟩
    intro phase
    apply unqueued
    cases found with
    | true => rfl
    | false => cases phase
  | passiveInitialize input =>
    obtain ⟨found, started, driver, returned, rfl⟩ := step_passiveInitialize taken
    obtain ⟨_, frame⟩ := Driver.hwPassiveInitialize_serving fresh.known (fresh.found found) input
    refine ⟨(frame started driver returned).1, ?_⟩
    intro phase
    cases started <;> cases phase
  | removeDevice bugCheck =>
    obtain ⟨_, rfl⟩ := step_removeDevice taken
    rcases shutdownController_teardown before.queues with ⟨same, _⟩ | ⟨_, same⟩
    · rw [same]
      exact ⟨fresh.known, fresh.found⟩
    · rw [same]
      exact fresh.setState .shutdown before.resetting
  | surpriseRemoval =>
    cases taken
    exact ⟨fresh.known.teardown, fun phase => teardown_unqueued (fresh.found phase)⟩
  | resetBusBegin =>
    obtain ⟨_, rfl | ⟨_, rfl⟩⟩ := step_resetBusBegin taken
    · exact fresh
    · exact fresh.setState .resetbus true
  | resetBusEnd =>
    obtain ⟨_, rfl⟩ := step_resetBusEnd taken
    exact fresh.setState .running false
  | powerCycle =>
    cases taken
    refine ⟨fresh.known.powerCycle, ?_⟩
    intro phase
    exact ⟨(fresh.found phase).ioQueue, (fresh.found phase).registeredIoQ, (fresh.found phase).allocatedIoQ⟩

private theorem step_prepared {before after : Lifecycle} {event : LifecycleEvent} (prepared : before.Prepared)
    (registers : before.Registers event) (taken : before.step event = some after) : after.Prepared := by
  have fresh := step_fresh prepared.fresh taken
  cases event with
  | findAdapter input =>
    obtain ⟨found, driver, returned, rfl⟩ := step_findAdapter taken
    obtain ⟨_, _, resetting⟩ := Driver.hwFindAdapter_known prepared.fresh.known returned
    refine ⟨fresh, ?_, fun active => (resetting (prepared.resetting active)).2⟩
    intro phase
    cases found <;> cases phase
  | passiveInitialize input =>
    obtain ⟨found, started, driver, returned, rfl⟩ := step_passiveInitialize taken
    obtain ⟨serves, frame⟩ :=
      Driver.hwPassiveInitialize_serving prepared.fresh.known (prepared.fresh.found found) input
    obtain ⟨_, state⟩ := frame started driver returned
    refine ⟨fresh, ?_, fun active => state.trans (prepared.resetting active)⟩
    intro phase _
    cases started with
    | true => exact (serves.mp (registers found)).2 driver returned
    | false => cases phase
  | removeDevice bugCheck =>
    obtain ⟨_, rfl⟩ := step_removeDevice taken
    rcases shutdownController_teardown before.queues with ⟨same, _⟩ | ⟨idle, same⟩
    · rw [same]
      exact prepared
    · rw [same] at fresh ⊢
      refine ⟨fresh, ?_, fun active => absurd (prepared.resetting active) idle⟩
      intro _ either
      rcases either with running | resetbus
      · cases running
      · cases resetbus
  | surpriseRemoval =>
    cases taken
    refine ⟨fresh, ?_, ?_⟩
    · intro phase either
      by_cases running : before.queues.state = .running
      · have stopped : before.queues.teardown.state = .stop := by
          simp [DeviceQueues.teardown, DeviceQueues.isWorking, running, DeviceQueues.setState]
        rcases either with busy | busy <;> exact absurd (stopped.symm.trans busy) (by simp)
      · have same : before.driver.queues.teardown = before.driver.queues := DeviceQueues.teardown_of_ne running
        simp only [withQueues, queues, same] at either ⊢
        exact prepared.started phase either
    · intro active
      have resetbus := prepared.resetting active
      show before.queues.teardown.state = .resetbus
      rw [DeviceQueues.teardown_of_ne (by simp [resetbus]), resetbus]
  | resetBusBegin =>
    obtain ⟨_, rfl | ⟨running, rfl⟩⟩ := step_resetBusBegin taken
    · exact prepared
    · exact ⟨fresh, fun phase _ => prepared.started phase (.inl running), fun _ => rfl⟩
  | resetBusEnd =>
    obtain ⟨active, rfl⟩ := step_resetBusEnd taken
    exact ⟨fresh, fun phase _ => prepared.started phase (.inr (prepared.resetting active)),
      fun resetting => absurd resetting (by simp)⟩
  | powerCycle =>
    cases taken
    exact ⟨fresh, prepared.started, prepared.resetting⟩

private theorem delivers_iff {before : Lifecycle} (prepared : before.Prepared) (event : LifecycleEvent) :
    before.Delivers event ↔ before.Registers event := by
  constructor
  · intro delivers
    cases event with
    | passiveInitialize input =>
      intro found
      obtain ⟨serves, frame⟩ := Driver.hwPassiveInitialize_serving prepared.fresh.known (prepared.fresh.found found) input
      apply serves.mpr
      obtain ⟨after, taken⟩ := delivers.1 input rfl found
      simp only [step, found, if_true, Option.map_eq_some_iff] at taken
      obtain ⟨⟨started, driver⟩, returned, rfl⟩ := taken
      refine ⟨⟨_, returned⟩, ?_⟩
      intro last succeeded
      obtain ⟨rfl, rfl⟩ : started = true ∧ driver = last := by simpa [returned] using succeeded
      obtain ⟨_, state⟩ := frame true driver returned
      apply delivers.2 { before with driver := driver, phase := .started }
      · simp [step, found, returned]
      · rfl
      · -- only a working device gets as far as this
        have working : before.driver.isWorking = true := by
          cases busy : before.driver.isWorking with
          | true => rfl
          | false => simp [Driver.hwPassiveInitialize, busy] at returned
        show driver.queues.isWorking = true
        rw [DeviceQueues.isWorking, state]
        exact working
    | findAdapter _ | removeDevice _ | surpriseRemoval | resetBusBegin | resetBusEnd | powerCycle => trivial
  · intro registers
    constructor
    · rintro input rfl found
      obtain ⟨serves, _⟩ := Driver.hwPassiveInitialize_serving prepared.fresh.known (prepared.fresh.found found) input
      obtain ⟨⟨result, returned⟩, _⟩ := serves.mp (registers found)
      simp only [step, found, if_true, returned, Option.map_some]
      exact ⟨_, rfl⟩
    · intro after taken
      exact (step_prepared prepared registers taken).servesIo

/-- In every sequence of the entry points, each call delivers exactly if every
passive initialisation of it registers queues. -/
theorem meets_delivers_iff (events : List LifecycleEvent) :
    Machine.Meets step Delivers initial events ↔ Machine.Meets step Registers initial events :=
  Machine.meets_congr (fun _ event prepared => delivers_iff prepared event)
    (fun _ _ _ prepared registers taken => step_prepared prepared registers taken) initial_prepared events

/-- The controller refuses the first completion queue; `RegisterIoQueues` still
returns the status of the submission. -/
def sampleRefused : Driver.PassiveInitializeInput :=
  { samplePassiveInitialize with replies := fun _ => (.answered .invalidQueueIdentifier 0, answeredSuccess 0) }

theorem passiveInitialize_divides_by_zero :
    ¬ Machine.Meets step Delivers initial [.findAdapter sampleFind, .passiveInitialize sampleRefused] := by
  intro met
  obtain ⟨object, selected, _⟩ := (met.2 _ rfl).1.2 _ rfl rfl rfl 0
  cases selected

structure Describes (queues : DeviceQueues) (host : Host) : Prop where
  state : host.device.state = queues.state
  registeredIoQ : host.device.registeredIoQ = queues.registeredIoQ
  ioQueue : ∀ index, (host.device.ioQueue index).isSome = (queues.ioQueue index).isSome

private theorem Describes.submitIoCmd_eq_none {queues : DeviceQueues} {host : Host} (describes : Describes queues host)
    (address processor : Nat) :
    host.submitIoCmd address processor = none ↔ queues.isWorking = true ∧ queues.submitIoQueue processor = none := by
  have working : host.device.isWorking = queues.isWorking := by
    rw [CNvmeDevice.isWorking, DeviceQueues.isWorking, describes.state]
  cases active : queues.isWorking with
  | false => simp [Host.submitIoCmd, working, active]
  | true =>
    by_cases empty : queues.registeredIoQ = 0
    · simp [Host.submitIoCmd, DeviceQueues.submitIoQueue, working, active, describes.registeredIoQ, empty]
    · have pointer := describes.ioQueue (processor % queues.registeredIoQ.toNat)
      cases held : queues.ioQueue (processor % queues.registeredIoQ.toNat) with
      | none =>
        rw [held, Option.isSome_none, Option.isSome_eq_false_iff, Option.isNone_iff_eq_none] at pointer
        simp [Host.submitIoCmd, DeviceQueues.submitIoQueue, working, active, describes.registeredIoQ, held,
          Host.putSrbExt, pointer]
      | some object =>
        rw [held, Option.isSome_some, Option.isSome_iff_exists] at pointer
        obtain ⟨queue, pointer⟩ := pointer
        simp [Host.submitIoCmd, DeviceQueues.submitIoQueue, working, active, describes.registeredIoQ, held,
          Host.putSrbExt, pointer]

theorem ServesIo.submitIoCmd {life : Lifecycle} {host : Host} (serves : life.ServesIo) (started : life.phase = .started)
    (describes : Describes life.queues host) (address processor : Nat) : (host.submitIoCmd address processor).isSome := by
  rw [Option.isSome_iff_ne_none]
  intro faults
  obtain ⟨working, missing⟩ := (describes.submitIoCmd_eq_none address processor).mp faults
  obtain ⟨object, selected, _⟩ := serves started working processor
  cases missing.symm.trans selected

end Lifecycle

end SpcNvme
