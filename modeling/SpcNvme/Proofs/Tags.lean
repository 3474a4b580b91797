import SpcNvme.Config
import SpcNvme.Proofs.Entries

/-! Where the identifiers on the admin queue come from. A request lends its queue
tag to its command and an internal command always has identifier 0, so the two
sources are only apart as long as nothing else with identifier 0 is outstanding
next to an internal command. -/

namespace SpcNvme

/-! Every builder takes the identifier from the extension. -/

theorem SrbExt.withBuffer_cid (srbext : SrbExt) (memory : Memory) (cmd : NvmeCommand) (buffer bufSize : Nat) :
    (srbext.withBuffer memory cmd buffer bufSize).nvmeCmd.cid = cmd.cid := by
  obtain ⟨prp1, prp2, freePrp2List, prp2VA, prp2List, prp2PA, built⟩ := srbext.withBuffer_eq memory cmd buffer bufSize
  rw [built]

private theorem buildCmdIdentify_cid (memory : Memory) (srbext : SrbExt) (nsid : BitVec 32) (cns : IdentifyCns)
    (buffer bufSize : Nat) : (buildCmdIdentify memory srbext nsid cns buffer bufSize).nvmeCmd.cid = srbext.cid := by
  apply SrbExt.withBuffer_cid

theorem Host.firmwareGetInfoCmd_cid (host : Host) (memory : Memory) (srbext : SrbExt) (logpage : Nat) :
    (host.firmwareGetInfoCmd memory srbext logpage).nvmeCmd.cid = srbext.cid := by
  unfold Host.firmwareGetInfoCmd
  dsimp only
  split
  · apply SrbExt.withBuffer_cid
  · apply SrbExt.withBuffer_cid

/-- Commands the driver submits for itself, as their builders leave them in an
extension without a request. -/
inductive InternalCommand : NvmeCommand → Prop where
  | identify (memory : Memory) (nsid : BitVec 32) (cns : IdentifyCns) (buffer bufSize : Nat) :
      InternalCommand (buildCmdIdentify memory (.init none) nsid cns buffer bufSize).nvmeCmd
  | setIoQueueCount (count : BitVec 16) : InternalCommand (buildCmdSetIoQueueCount (.init none) count).nvmeCmd
  | regIoSubQ (queue : QueuePairRequest) (subQPA : BitVec 64) :
      InternalCommand (buildCmdRegIoSubQ (.init none) queue subQPA).nvmeCmd
  | regIoCplQ (queue : QueuePairRequest) (cplQPA : BitVec 64) :
      InternalCommand (buildCmdRegIoCplQ (.init none) queue cplQPA).nvmeCmd
  | unRegIoQ (opcode : BitVec 8) (queue : QueuePairRequest) :
      InternalCommand (buildCmdUnRegIoQ (.init none) opcode queue).nvmeCmd

theorem InternalCommand.cid {cmd : NvmeCommand} (internal : InternalCommand cmd) : cmd.cid = 0 := by
  cases internal with
  | identify => exact buildCmdIdentify_cid ..
  | setIoQueueCount => rfl
  | regIoSubQ => rfl
  | regIoCplQ => rfl
  | unRegIoQ => rfl

namespace Heap

def tag (heap : Heap) (address : Nat) : Option (BitVec 32) := (heap.srbext address).srb.map Srb.queueTag

def cid (heap : Heap) (address : Nat) : Nat := (heap.srbext address).cid.toNat

private theorem cid_of_tag {heap : Heap} {address : Nat} {tag : BitVec 32} (known : heap.tag address = some tag)
    (small : tag.toNat < 65536) : heap.cid address = tag.toNat := by
  obtain ⟨srb, present, rfl⟩ := Option.map_eq_some_iff.mp known
  simp only [cid, SrbExt.cid, present, SrbExt.scsiQTag, BitVec.toNat_setWidth]
  exact Nat.mod_eq_of_lt small

private theorem cid_of_internal {heap : Heap} {address : Nat} (internal : heap.tag address = none) : heap.cid address = 0 := by
  have missing : (heap.srbext address).srb = none := Option.map_eq_none_iff.mp internal
  simp [cid, SrbExt.cid, missing, SrbExt.scsiQTag]

private theorem cid_congr {heap other : Heap} {address : Nat} (same : other.tag address = heap.tag address) :
    other.cid address = heap.cid address := by
  unfold tag at same
  unfold cid SrbExt.cid SrbExt.scsiQTag
  cases present : (heap.srbext address).srb with
  | none =>
    rw [present, Option.map_none, Option.map_eq_none_iff] at same
    rw [same]
  | some srb =>
    rw [present, Option.map_some] at same
    obtain ⟨other, found, equal⟩ := Option.map_eq_some_iff.mp same
    rw [found]
    exact congrArg _ (congrArg _ equal)

end Heap

/-- StorPort's side of the bargain: the requests it waits for have different tags
the queue has a slot for. -/
structure Tagged (depth : Nat) (heap : Heap) : Prop where
  below : ∀ address tag, Outstanding heap address → heap.tag address = some tag → tag.toNat < depth
  apart : ∀ first second tag, Outstanding heap first → Outstanding heap second → heap.tag first = some tag →
    heap.tag second = some tag → first = second

namespace Tagged
variable {depth : Nat} {heap after : Heap} {address : Nat}

theorem ages (tagged : Tagged depth heap) (ages : heap.Ages after) : Tagged depth after := by
  have tag : ∀ address, after.tag address = heap.tag address := ages.tag
  constructor
  · intro address value outstanding known
    rw [tag] at known
    exact tagged.below address value (ages.outstanding address outstanding) known
  · intro first second value left right known also
    rw [tag] at known also
    exact tagged.apart first second value (ages.outstanding first left) (ages.outstanding second right) known also

theorem put {srbext : SrbExt} (tagged : Tagged depth heap)
    (below : ∀ srb ∈ srbext.srb, srb.queueTag.toNat < depth)
    (fresh : ∀ srb ∈ srbext.srb, ∀ other, other ≠ address → Outstanding heap other →
      heap.tag other ≠ some srb.queueTag) : Tagged depth (heap.put address srbext) := by
  have here : (heap.put address srbext).tag address = srbext.srb.map Srb.queueTag := by simp [Heap.tag]
  have there : ∀ other, other ≠ address → (heap.put address srbext).tag other = heap.tag other ∧
      (Outstanding (heap.put address srbext) other ↔ Outstanding heap other) := by
    intro other elsewhere
    simp [Heap.tag, Outstanding, elsewhere]
  have clash : ∀ other tag, other ≠ address → Outstanding (heap.put address srbext) other →
      (heap.put address srbext).tag address = some tag → (heap.put address srbext).tag other ≠ some tag := by
    intro other tag elsewhere outstanding known
    rw [here] at known
    obtain ⟨srb, present, rfl⟩ := Option.map_eq_some_iff.mp known
    rw [(there other elsewhere).1]
    exact fresh srb present other elsewhere ((there other elsewhere).2.mp outstanding)
  constructor
  · intro other tag outstanding known
    by_cases same : other = address
    · subst other
      rw [here] at known
      obtain ⟨srb, present, rfl⟩ := Option.map_eq_some_iff.mp known
      exact below srb present
    · rw [(there other same).1] at known
      exact tagged.below other tag ((there other same).2.mp outstanding) known
  · intro first second tag left right known also
    by_cases one : first = address
    · subst first
      by_cases two : second = address
      · exact two.symm
      · exact absurd also (clash second tag two right known)
    · by_cases two : second = address
      · subst second
        exact absurd known (clash first tag one left also)
      · rw [(there first one).1] at known
        rw [(there second two).1] at also
        exact tagged.apart first second tag ((there first one).2.mp left) ((there second two).2.mp right) known also

end Tagged

/-- Accepted since the last reset, and not completed by `CompleteCmd`. -/
structure CNvmeQueue.Unfinished (queue : CNvmeQueue) (submission : Submission) : Prop where
  submitted : submission ∈ queue.trace.submitted
  since : queue.trace.resetAt ≤ submission.srbext.submission
  waits : ∀ consumed ∈ queue.trace.consumed, consumed.popped.map (·.submission) ≠ some submission.srbext.submission

/-- An unfinished command that was not replaced has its extension in its slot. -/
structure Kept (queue : CNvmeQueue) : Prop where
  numbered : ∀ number (inside : number < queue.trace.submitted.length),
    queue.trace.submitted[number].srbext.submission = number
  slot : ∀ submission, queue.Unfinished submission → submission.srbext.submission ∉ queue.trace.replaced →
    queue.history.history submission.cmd.cid.toNat = some submission.srbext

namespace Kept
variable {queue : CNvmeQueue}

theorem setup (config : QueuePairConfig) : Kept (.setup config) :=
  ⟨fun _ inside => absurd inside (Nat.not_lt_zero _), fun _ unfinished => absurd unfinished.submitted List.not_mem_nil⟩

theorem issued (kept : Kept queue) {submission : Submission} (member : submission ∈ queue.trace.submitted) :
    submission.srbext.submission < queue.trace.submitted.length := by
  obtain ⟨number, inside, rfl⟩ := List.mem_iff_getElem.mp member
  rw [kept.numbered number inside]
  exact inside

theorem accept (kept : Kept queue) (address : Nat) (cmd : NvmeCommand) : Kept (queue.accept address cmd) := by
  constructor
  · intro number inside
    simp only [CNvmeQueue.accept_submitted, List.length_append, List.length_singleton] at inside ⊢
    by_cases last : number = queue.trace.submitted.length
    · subst number
      simp
    · have earlier : number < queue.trace.submitted.length := by omega
      rw [List.getElem_append_left earlier]
      exact kept.numbered number earlier
  · intro submission unfinished current
    have member := unfinished.submitted
    rw [CNvmeQueue.accept_submitted, List.mem_append, List.mem_singleton] at member
    rw [CNvmeQueue.accept_replaced, List.mem_append, not_or] at current
    rw [CNvmeQueue.accept_history]
    rcases member with old | rfl
    · have held := kept.slot submission ⟨old, unfinished.since, unfinished.waits⟩ current.1
      -- the slot of an unfinished command is not the one that was filled: it would have been replaced
      have elsewhere : submission.cmd.cid.toNat ≠ cmd.cid.toNat := by
        intro same
        apply current.2
        simp [CNvmeQueue.replacedBy, ← same, held]
      rwa [Function.update_of_ne elsewhere]
    · exact Function.update_self ..

theorem consume (kept : Kept queue) (loop : CompleteLoop) : Kept (queue.consume loop) := by
  refine ⟨kept.numbered, ?_⟩
  intro submission unfinished current
  have waits := unfinished.waits
  simp only [CNvmeQueue.consume_consumed, List.mem_append, List.mem_singleton] at waits
  have held := kept.slot submission ⟨unfinished.submitted, unfinished.since, fun consumed member => waits consumed (.inl member)⟩
    current
  have other := waits _ (.inr rfl)
  rw [CNvmeQueue.consume_history]
  unfold CNvmeQueue.poppedHistory
  split
  · exact held
  · next inside =>
    have elsewhere : submission.cmd.cid.toNat ≠ (queue.cplQ loop.cpl).entry.cid.toNat := by
      intro same
      apply other
      rw [popped_of_lt (Nat.lt_of_not_le inside), ← same, held]
      rfl
    rwa [Function.update_of_ne elsewhere]

theorem distinct (kept : Kept queue) (none : queue.trace.replaced = []) {first second : Submission}
    (left : queue.Unfinished first) (right : queue.Unfinished second) (same : first.cmd.cid = second.cmd.cid) :
    first = second := by
  have held := kept.slot first left (by simp [none])
  have also := kept.slot second right (by simp [none])
  rw [same, also, Option.some.injEq] at held
  apply submission_eq_of_numbered kept.numbered left.submitted right.submitted
  exact congrArg SrbExtPtr.submission held.symm

end Kept

structure CNvmeQueue.Loses (before after : CNvmeQueue) : Prop where
  fewer : ∀ cid srbext, after.history.history cid = some srbext → before.history.history cid = some srbext
  replaced : ∀ number ∈ after.trace.replaced, number ∈ before.trace.replaced
  kept : Kept before → Kept after

namespace CNvmeQueue.Loses
variable (queue : CNvmeQueue)

private theorem of_eq {after : CNvmeQueue} (history : after.history = queue.history) (trace : after.trace = queue.trace) :
    queue.Loses after := by
  refine ⟨?_, ?_, ?_⟩
  · intro cid srbext held
    rwa [history] at held
  · intro number member
    rwa [trace] at member
  · intro kept
    constructor
    · rw [trace]
      exact kept.numbered
    · intro submission unfinished current
      rw [history]
      rw [trace] at current
      apply kept.slot submission _ current
      exact ⟨trace ▸ unfinished.submitted, trace ▸ unfinished.since, trace ▸ unfinished.waits⟩

theorem refl : queue.Loses queue := of_eq queue rfl rfl

theorem consume (loop : CompleteLoop) : queue.Loses (queue.consume loop) :=
  ⟨fun _ _ => Held.kept, fun _ member => member, fun kept => kept.consume loop⟩

theorem leave (loop : CompleteLoop) : queue.Loses (queue.leaveCompleteCmd loop) := by
  obtain ⟨cplDbl, doorbell⟩ := queue.leaveCompleteCmd_eq loop
  rw [doorbell]
  exact of_eq queue rfl rfl

private theorem fastForward_trace (fuel : Nat) :
    ∃ passed, (queue.fastForward fuel).trace = { queue.trace with passed := passed } := by
  induction fuel generalizing queue with
  | zero => exact ⟨queue.trace.passed, rfl⟩
  | succ fuel ih =>
    simp only [CNvmeQueue.fastForward]
    split
    · exact ⟨queue.trace.passed, rfl⟩
    · obtain ⟨passed, same⟩ := ih queue.updateCplHeadAndPhase
      exact ⟨passed, same⟩

theorem resetAllCmd (heap : Heap) : queue.Loses (queue.resetAllCmd heap).1 := by
  let emptied : CNvmeQueue := { queue with
    history := (queue.history.reset heap).1
    inflightCmds := 0
    trace := { queue.trace with replaced := [], resetAt := queue.trace.submitted.length } }
  have same : (queue.resetAllCmd heap).1 = emptied.fastForward queue.depth := rfl
  obtain ⟨passed, trace⟩ := fastForward_trace emptied queue.depth
  have history := (emptied.fastForward_frame queue.depth).1
  rw [same]
  refine ⟨?_, ?_, ?_⟩
  · intro cid srbext held
    rw [history] at held
    simp only [emptied, CCmdHistory.reset, resetUpTo_table] at held
    split at held
    · cases held
    · exact held
  · intro number member
    rw [trace] at member
    cases member
  · intro kept
    constructor
    · rw [trace]
      exact kept.numbered
    · intro submission unfinished _
      have member := unfinished.submitted
      have since := unfinished.since
      rw [trace] at member since
      exact absurd (kept.issued member) (Nat.not_lt_of_le since)

end CNvmeQueue.Loses

/-- The tags, the slots of the admin queue and its commands agree. -/
structure Labelled (depth : Nat) (heap : Heap) (admQueue : Option CNvmeQueue) : Prop where
  tagged : Tagged depth heap
  filed : ∀ queue ∈ admQueue, ∀ cid srbext, queue.history.history cid = some srbext → heap.cid srbext.address = cid
  kept : ∀ queue ∈ admQueue, Kept queue

/-- No command on the admin queue was replaced, and no two that wait there have
the same identifier. -/
def AdmDistinct (adapter : Adapter) : Prop :=
  ∀ queue ∈ adapter.host.device.admQueue, queue.trace.replaced = [] ∧
    ∀ first second, queue.Unfinished first → queue.Unfinished second → first.cmd.cid = second.cmd.cid → first = second

namespace Labelled
variable {depth : Nat} {heap after : Heap} {admQueue remaining : Option CNvmeQueue} {address : Nat}

private theorem ease (labelled : Labelled depth heap admQueue) (ages : heap.Ages after)
    (loses : ∀ queue ∈ remaining, ∃ old ∈ admQueue, old.Loses queue) : Labelled depth after remaining := by
  refine ⟨labelled.tagged.ages ages, ?_, ?_⟩
  · intro queue present cid srbext held
    obtain ⟨old, known, lost⟩ := loses queue present
    rw [Heap.cid_congr (ages.tag srbext.address)]
    exact labelled.filed old known cid srbext (lost.fewer cid srbext held)
  · intro queue present
    obtain ⟨old, known, lost⟩ := loses queue present
    exact lost.kept (labelled.kept old known)

theorem put {srbext : SrbExt} (labelled : Labelled depth heap admQueue)
    (free : ∀ queue ∈ admQueue, ∀ cid held, queue.history.history cid = some held → held.address ≠ address)
    (below : ∀ srb ∈ srbext.srb, srb.queueTag.toNat < depth)
    (fresh : ∀ srb ∈ srbext.srb, ∀ other, Outstanding heap other → heap.tag other ≠ some srb.queueTag) :
    Labelled depth (heap.put address srbext) admQueue := by
  refine ⟨labelled.tagged.put below fun srb present other _ => fresh srb present other, ?_, labelled.kept⟩
  intro queue present cid held holds
  have elsewhere := free queue present cid held holds
  have same : (heap.put address srbext).tag held.address = heap.tag held.address := by simp [Heap.tag, elsewhere]
  rw [Heap.cid_congr same]
  exact labelled.filed queue present cid held holds

theorem accept {queue : CNvmeQueue} {cmd : NvmeCommand} (labelled : Labelled depth heap (some queue))
    (own : heap.cid address = cmd.cid.toNat) (ages : heap.Ages after) :
    Labelled depth after (some (queue.accept address cmd)) := by
  refine ⟨labelled.tagged.ages ages, ?_, ?_⟩
  · intro _ present cid srbext held
    cases present
    rw [Heap.cid_congr (ages.tag srbext.address)]
    rw [CNvmeQueue.accept_history] at held
    by_cases same : cid = cmd.cid.toNat
    · subst cid
      rw [Function.update_self, Option.some.injEq] at held
      subst held
      exact own
    · rw [Function.update_of_ne same] at held
      exact labelled.filed queue rfl cid srbext held
  · intro _ present
    cases present
    exact (labelled.kept queue rfl).accept address cmd

end Labelled

namespace Adapter

def Pending (adapter : Adapter) (address : Nat) : Prop :=
  ∃ queue ∈ adapter.host.device.admQueue, ∃ cid srbext,
    queue.history.history cid = some srbext ∧ srbext.address = address

def SendsFirmware (adapter : Adapter) (memory : Memory) (address logpage : Nat) : Prop :=
  (adapter.host.heap.srbext address).FirmwareRequest ∧
    ∃ queue, (adapter.host.builtFirmware memory address logpage).AcceptsAdm
      ((adapter.host.builtFirmware memory address logpage).cmdOf address) queue

end Adapter

/-- StorPort gives a request a tag below `depth` that no other outstanding request
has, and an internal command carries the identifier of an extension without a
request. -/
def TagsApart (depth : Nat) (adapter : Adapter) : AdapterEvent → Prop
  | .buildIo _ srb => srb.queueTag.toNat < depth ∧
      ∀ other, Outstanding adapter.host.heap other → adapter.host.heap.tag other ≠ some srb.queueTag
  | .command _ cmd => cmd.cid = (SrbExt.init none).cid
  | _ => True

/-- The two sources of identifiers do not meet: the admin queue takes an internal
command only while it holds requests with tags other than 0 alone, and a request
with tag 0 only while it holds no internal command. -/
def SourcesApart (adapter : Adapter) : AdapterEvent → Prop
  | .startIo address _ logpage memory => adapter.SendsFirmware memory address logpage →
      adapter.host.heap.tag address = some 0 → ∀ other, adapter.Pending other → adapter.host.heap.tag other ≠ none
  | .command _ cmd => (∃ queue, adapter.host.AcceptsAdm cmd queue) →
      ∀ other, adapter.Pending other → ∃ tag, adapter.host.heap.tag other = some tag ∧ tag ≠ 0
  | _ => True

/-- What a step does to the admin queue: it gives commands up, or takes one in.
Either way the memory ages from a state that fits the queue before. -/
inductive AdmStep (depth : Nat) (before : Adapter) (event : AdapterEvent) (after : Adapter) : Prop where
  | eased {heap : Heap} (labelled : Labelled depth heap before.host.device.admQueue)
      (ages : heap.Ages after.host.heap)
      (loses : ∀ queue ∈ after.host.device.admQueue, ∃ old ∈ before.host.device.admQueue, old.Loses queue)
      (apart : SourcesApart before event)
  | accepted {heap : Heap} {queue : CNvmeQueue} {address : Nat} {cmd : NvmeCommand}
      (present : before.host.device.admQueue = some queue) (labelled : Labelled depth heap (some queue))
      (own : heap.cid address = cmd.cid.toNat) (ages : heap.Ages after.host.heap)
      (taken : after.host.device.admQueue = some (queue.accept address cmd))
      (apart : SourcesApart before event ↔ queue.history.history cmd.cid.toNat = none)

namespace AdmStep
variable {depth : Nat} {before after : Adapter} {event : AdapterEvent} (step : AdmStep depth before event after)
include step

private theorem labelled : Labelled depth after.host.heap after.host.device.admQueue := by
  cases step with
  | eased labelled ages loses => exact labelled.ease ages loses
  | accepted present labelled own ages taken =>
    rw [taken]
    exact labelled.accept own ages

private theorem distinct_iff (distinct : AdmDistinct before) : AdmDistinct after ↔ SourcesApart before event := by
  have kept := step.labelled.kept
  cases step with
  | eased labelled ages loses apart =>
    refine ⟨fun _ => apart, ?_⟩
    intro _ queue present
    obtain ⟨old, known, lost⟩ := loses queue present
    have nothing : queue.trace.replaced = [] := by
      apply List.eq_nil_iff_forall_not_mem.mpr
      intro number member
      have earlier := lost.replaced number member
      rw [(distinct old known).1] at earlier
      exact List.not_mem_nil earlier
    exact ⟨nothing, fun first second left right same => (kept queue present).distinct nothing left right same⟩
  | @accepted heap queue address cmd present labelled own ages taken apart =>
    rw [apart]
    have before := (distinct queue present).1
    have replaced : (queue.accept address cmd).trace.replaced = [] ↔ queue.history.history cmd.cid.toNat = none := by
      simp [CNvmeQueue.replacedBy, before]
    constructor
    · intro holds
      exact replaced.mp (holds _ taken).1
    · intro free other there
      obtain rfl : queue.accept address cmd = other := Option.some.inj (taken.symm.trans there)
      refine ⟨replaced.mpr free, ?_⟩
      intro first second left right same
      exact (kept _ there).distinct (replaced.mpr free) left right same

end AdmStep

/-! The steps one by one. -/

namespace Host

structure Eases (heap : Heap) (before after : Host) : Prop where
  ages : heap.Ages after.heap
  loses : ∀ queue ∈ after.device.admQueue, ∃ old ∈ before.device.admQueue, old.Loses queue

namespace Eases
variable {heap : Heap} {before after : Host}

theorem of_same (ages : heap.Ages after.heap)
    (same : ∀ queue ∈ after.device.admQueue, queue ∈ before.device.admQueue) : Eases heap before after :=
  ⟨ages, fun queue present => ⟨queue, same queue present, .refl queue⟩⟩

theorem trans {last : Host} (first : Eases heap before after) (ages : after.heap.Ages last.heap)
    (same : ∀ queue ∈ last.device.admQueue, queue ∈ after.device.admQueue) : Eases heap before last :=
  ⟨first.ages.trans ages, fun queue present => first.loses queue (same queue present)⟩

theorem complete (first : Eases heap before after) (address : Nat) {status : SrbStatus} (final : status ≠ .pending) :
    Eases heap before (after.completeSrb address status) :=
  first.trans (.completeSrb none final) fun _ present => present

theorem teardown (first : Eases heap before after) : Eases heap before after.teardown := by
  refine first.trans (teardown_heap after ▸ .refl _) ?_
  intro queue present
  exact teardown_fewer after 0 queue present

theorem shutdownController (first : Eases heap before after) : Eases heap before after.shutdownController := by
  refine first.trans (shutdownController_heap after ▸ .refl _) ?_
  intro queue present
  have same : after.shutdownController.device.admQueue = after.device.admQueue :=
    congrFun (shutdownController_queue after) 0
  rwa [same] at present

end Eases

private theorem hwBuildIo_eases (host : Host) (address : Nat) (srb : Srb) :
    Eases (host.heap.put address (.init (some srb))) host (host.hwBuildIo address srb).2 := by
  have delivered : Eases (host.heap.put address (.init (some srb))) host (host.putSrbExt address (.init (some srb))) :=
    .of_same (.refl _) fun _ present => present
  simp only [hwBuildIo]
  split
  · exact delivered.complete address (by simp)
  · split
    · exact delivered.complete address (by simp)
    · split
      · unfold buildIoScsiHandler
        split
        · exact delivered
        · exact delivered.complete address (by simp)
      · split
        · exact delivered
        · split
          · unfold buildIoSrbPnpHandler
            split
            · exact delivered.complete address (by simp)
            · split
              · exact delivered.complete address (by simp)
              · exact delivered.shutdownController.teardown.complete address (by simp)
              · exact delivered.teardown.complete address (by simp)
              · exact delivered.complete address (by simp)
          · exact delivered.complete address (by simp)

section StartIo
variable {host after : Host} {memory : Memory} {address processor logpage : Nat}

private theorem builtReadWrite_ages (host : Host) (memory : Memory) (address : Nat) (offset : BitVec 64) (len : BitVec 32)
    (isWrite : Bool) : host.heap.Ages (host.builtReadWrite memory address offset len isWrite).heap := by
  obtain ⟨prp1, prp2, freePrp2List, prp2VA, prp2List, prp2PA, built⟩ :=
    (host.heap.srbext address).withBuffer_eq memory { NvmeCommand.zero with
      opc := if isWrite then Opcode.nvmWrite else Opcode.nvmRead
      cid := (host.heap.srbext address).cid
      nsid := (host.heap.srbext address).lun.setWidth 32 + 1 } (host.heap.srbext address).dataBuf
      (host.heap.srbext address).dataBufLen.toNat
  apply Heap.Ages.put
  · simp only [buiildCmdReadWrite, built]
  · intro outstanding
    simp only [buiildCmdReadWrite, built] at outstanding
    exact ⟨outstanding.initOK, outstanding.notified, outstanding.polled⟩

private theorem builtFirmware_ages (host : Host) (memory : Memory) (address logpage : Nat) :
    host.heap.Ages (host.builtFirmware memory address logpage).heap := by
  have kept : ∀ cmd, ∃ srbext : SrbExt,
      ({ (host.heap.srbext address).resetExtBuf (some logpage) with
        completionCB := some .completeFirmwareInfo }).withBuffer memory cmd logpage sizeofFirmwareSlotInfoLog = srbext ∧
      srbext.srb = (host.heap.srbext address).srb ∧ (srbext.Outstanding → (host.heap.srbext address).Outstanding) := by
    intro cmd
    obtain ⟨prp1, prp2, freePrp2List, prp2VA, prp2List, prp2PA, built⟩ :=
      SrbExt.withBuffer_eq { (host.heap.srbext address).resetExtBuf (some logpage) with
        completionCB := some .completeFirmwareInfo } memory cmd logpage sizeofFirmwareSlotInfoLog
    refine ⟨_, rfl, ?_, ?_⟩
    · rw [built]
      rfl
    · intro outstanding
      rw [built] at outstanding
      exact ⟨outstanding.initOK, outstanding.notified, outstanding.polled⟩
  have stays : ∃ srbext : SrbExt, host.firmwareGetInfoCmd memory (host.heap.srbext address) logpage = srbext ∧
      srbext.srb = (host.heap.srbext address).srb ∧ (srbext.Outstanding → (host.heap.srbext address).Outstanding) := by
    unfold firmwareGetInfoCmd
    dsimp only
    split
    · apply kept
    · apply kept
  obtain ⟨srbext, built, srb, outstanding⟩ := stays
  unfold builtFirmware
  rw [built]
  exact .put (congrArg _ srb) outstanding

/-- Unless it submits a firmware command, `HwStartIo` leaves the admin queue alone. -/
theorem hwStartIo_eases (returned : host.hwStartIo memory address processor logpage = some after)
    (none : ∀ queue, ¬ ((host.heap.srbext address).FirmwareRequest ∧
      (host.builtFirmware memory address logpage).AcceptsAdm
        ((host.builtFirmware memory address logpage).cmdOf address) queue)) : Eases host.heap host after := by
  cases hwStartIo_end returned with
  | @answered srbext status plain answers final =>
    have replied : host.heap.Ages (host.putSrbExt address srbext).heap := by
      apply Heap.Ages.put answers.tag
      intro outstanding
      rw [answers.rest] at outstanding
      refine ⟨outstanding.initOK, outstanding.notified, ?_⟩
      intro missing
      apply outstanding.polled
      have tag := answers.tag
      rw [missing, Option.map_none, Option.map_eq_none_iff] at tag
      exact tag
    have eased : Eases host.heap host (host.putSrbExt address srbext) := .of_same replied fun _ present => present
    exact eased.complete address final
  | @sentIo offset len isWrite queue transfers accepts =>
    have built := host.builtReadWrite_ages memory address offset len isWrite
    have indexed : (host.builtReadWrite memory address offset len isWrite).heap.Ages
        ((host.builtReadWrite memory address offset len isWrite).indexedHeap address processor) :=
      .put rfl fun outstanding => ⟨outstanding.initOK, outstanding.notified, outstanding.polled⟩
    exact .of_same (built.trans (indexed.trans (.accepted queue _ address))) fun _ present => present
  | @refusedIo offset len isWrite next status transfers refuses same final =>
    have built := host.builtReadWrite_ages memory address offset len isWrite
    have indexed : (host.builtReadWrite memory address offset len isWrite).heap.Ages
        ((host.builtReadWrite memory address offset len isWrite).indexedHeap address processor) :=
      .put rfl fun outstanding => ⟨outstanding.initOK, outstanding.notified, outstanding.polled⟩
    have eased : Eases host.heap host next := by
      rcases same with rfl | rfl
      · exact .of_same built fun _ present => present
      · exact .of_same (built.trans indexed) fun _ present => present
    exact eased.complete address final
  | @sentAdm queue request accepts => exact absurd ⟨request, accepts⟩ (none queue)
  | refusedAdm request refuses =>
    have eased : Eases host.heap host (host.builtFirmware memory address logpage) :=
      .of_same (host.builtFirmware_ages memory address logpage) fun _ present => present
    exact eased.complete address (by simp)

end StartIo

theorem resetIoQueues_eases {heap : Heap} {before host after : Host} (eased : Eases heap before host) (count : Nat)
    (returned : host.resetIoQueues count = some after) : Eases heap before after := by
  induction count generalizing after with
  | zero =>
    cases returned
    exact eased
  | succ count ih =>
    simp only [resetIoQueues] at returned
    split at returned
    · cases returned
    · next earlier reached =>
      split at returned
      · cases returned
      · next queue present =>
        cases returned
        exact (ih reached).trans (.resetUpTo ..) fun _ present => present

private theorem hwResetBus_eases {host after : Host} (returned : host.hwResetBus = some after) : Eases host.heap host after := by
  have same : Eases host.heap host host := .of_same (.refl _) fun _ present => present
  simp only [hwResetBus, resetOutstandingCmds] at returned
  split at returned
  · cases returned
    exact same
  · split at returned
    · cases returned
      exact same
    · next queue present =>
      obtain ⟨reached, looped, rfl⟩ := Option.map_eq_some_iff.mp returned
      have cleared : Eases host.heap host { host.setState .resetbus with
          device := { (host.setState .resetbus).device with admQueue := some (queue.resetAllCmd host.heap).1 }
          heap := (queue.resetAllCmd host.heap).2 } := by
        refine ⟨.resetUpTo .., ?_⟩
        intro other there
        cases there
        exact ⟨queue, present, .resetAllCmd queue host.heap⟩
      exact (resetIoQueues_eases cleared _ looped).trans (.refl _) fun _ kept => kept

end Host

private theorem System.step_loses {before after : System} {event : Event} (own : event.ofQueuePair = true)
    (taken : before.step event = some after) : before.queue.Loses after.queue ∧ before.heap.Ages after.heap := by
  cases System.step_transition taken with
  | accepted => cases own
  | refused => cases own
  | fetched => exact ⟨.refl _, .refl _⟩
  | posted => exact ⟨.of_eq _ rfl rfl, .refl _⟩
  | entered => exact ⟨.refl _, .refl _⟩
  | @iterated loop => exact ⟨.consume _ loop, .poppedHeap _ _ loop⟩
  | @left loop => exact ⟨.leave _ loop, .refl _⟩
  | reset => cases own
  | scribbled => cases own

section Sources
variable {depth : Nat} {before : Adapter} {queue : CNvmeQueue} {address : Nat}

private theorem slot_elsewhere {host : Host} {waiting : Nat → Bool} (free : Custody.Free (Holds host.slots waiting) address) :
    ∀ queue ∈ host.device.admQueue, ∀ cid held, queue.history.history cid = some held → held.address ≠ address := by
  intro queue present cid held holds same
  have found : host.queue 0 = some queue := present
  apply free (.slot 0 cid)
  simp [Holds, Host.slots_of_queue found, holds, same]

private theorem Adapter.Sound.slot_outstanding {limit : Nat} (sound : before.Sound limit)
    (present : before.host.device.admQueue = some queue) {cid : Nat} {held : SrbExtPtr}
    (holds : queue.history.history cid = some held) : Outstanding before.host.heap held.address := by
  have found : before.host.queue 0 = some queue := present
  have here : Holds before.host.slots before.waiting (.slot 0 cid) held.address := by
    simp [Holds, Host.slots_of_queue found, holds]
  exact sound.custody.live here

private theorem zero_free_iff (sound : before.Sound 2) (labelled : Labelled depth before.host.heap before.host.device.admQueue)
    (small : depth ≤ 65536) (present : before.host.device.admQueue = some queue) :
    (∀ other, before.Pending other → ∃ tag, before.host.heap.tag other = some tag ∧ tag ≠ 0) ↔
      queue.history.history 0 = none := by
  constructor
  · intro apart
    cases holds : queue.history.history 0 with
    | none => rfl
    | some held =>
      obtain ⟨tag, known, nonzero⟩ := apart held.address ⟨queue, present, 0, held, holds, rfl⟩
      have below := labelled.tagged.below held.address tag (sound.slot_outstanding present holds) known
      have filed := labelled.filed queue present 0 held holds
      rw [Heap.cid_of_tag known (by omega)] at filed
      exact absurd (BitVec.eq_of_toNat_eq filed) nonzero
  · rintro free other ⟨found, known, cid, held, holds, rfl⟩
    obtain rfl : queue = found := Option.some.inj (present.symm.trans known)
    have filed := labelled.filed queue present cid held holds
    have nonzero : cid ≠ 0 := by
      intro same
      rw [same, free] at holds
      cases holds
    cases tagged : before.host.heap.tag held.address with
    | none => exact absurd (filed.symm.trans (Heap.cid_of_internal tagged)) nonzero
    | some tag =>
      have below := labelled.tagged.below held.address tag (sound.slot_outstanding present holds) tagged
      rw [Heap.cid_of_tag tagged (by omega)] at filed
      refine ⟨tag, rfl, ?_⟩
      rintro rfl
      exact nonzero filed.symm

/-- The slot a waiting request gets is free, unless its tag is 0 and an internal command is held. -/
theorem tag_free_iff (sound : before.Sound 2) (labelled : Labelled depth before.host.heap before.host.device.admQueue)
    (small : depth ≤ 65536) (present : before.host.device.admQueue = some queue) (waits : before.waiting address = true)
    {tag : BitVec 32} (known : before.host.heap.tag address = some tag) :
    (before.host.heap.tag address = some 0 → ∀ other, before.Pending other → before.host.heap.tag other ≠ none) ↔
      queue.history.history tag.toNat = none := by
  have here : Outstanding before.host.heap address :=
    sound.custody.live (show Holds before.host.slots before.waiting .startIo address from waits)
  have elsewhere := slot_elsewhere (sound.startIo waits).free queue present
  constructor
  · intro apart
    cases holds : queue.history.history tag.toNat with
    | none => rfl
    | some held =>
      have outstanding := sound.slot_outstanding present holds
      have filed := labelled.filed queue present tag.toNat held holds
      cases other : before.host.heap.tag held.address with
      | none =>
        rw [Heap.cid_of_internal other] at filed
        have zero : tag = 0 := BitVec.eq_of_toNat_eq filed.symm
        exact absurd other (apart (zero ▸ known) held.address ⟨queue, present, _, held, holds, rfl⟩)
      | some same =>
        have below := labelled.tagged.below held.address same outstanding other
        rw [Heap.cid_of_tag other (by omega)] at filed
        obtain rfl : same = tag := BitVec.eq_of_toNat_eq filed
        exact absurd (labelled.tagged.apart held.address address same outstanding here other known)
          (elsewhere _ held holds)
  · rintro free zero other ⟨found, there, cid, held, holds, rfl⟩ internal
    obtain rfl : queue = found := Option.some.inj (present.symm.trans there)
    obtain rfl : tag = 0 := Option.some.inj (known.symm.trans zero)
    have filed := labelled.filed queue present cid held holds
    rw [Heap.cid_of_internal internal] at filed
    subst filed
    rw [show queue.history.history 0 = none from free] at holds
    cases holds

end Sources

section Steps
variable {depth : Nat} {before after : Adapter}

private theorem AdmStep.of_eases {event : AdapterEvent} {heap : Heap}
    (labelled : Labelled depth heap before.host.device.admQueue) (eased : Host.Eases heap before.host after.host)
    (apart : SourcesApart before event) : AdmStep depth before event after :=
  .eased labelled eased.ages eased.loses apart

private theorem admStep_startIo {address processor logpage : Nat} {memory : Memory} (sound : before.Sound 2)
    (labelled : Labelled depth before.host.heap before.host.device.admQueue) (small : depth ≤ 65536)
    (taken : before.step (.startIo address processor logpage memory) = some after) :
    AdmStep depth before (.startIo address processor logpage memory) after := by
  obtain ⟨waits, host, returned, rfl⟩ := Adapter.step_startIo taken
  by_cases sends : before.SendsFirmware memory address logpage
  · obtain ⟨request, queue, accepts⟩ := sends
    obtain ⟨srb, asked, _⟩ := request.asks
    have present : before.host.device.admQueue = some queue := accepts.selected
    have outstanding : Outstanding before.host.heap address :=
      sound.custody.live (show Holds before.host.slots before.waiting .startIo address from waits)
    have known : before.host.heap.tag address = some srb.queueTag := by simp [Heap.tag, asked]
    have below := labelled.tagged.below address srb.queueTag outstanding known
    have own : before.host.heap.cid address =
        ((before.host.builtFirmware memory address logpage).cmdOf address).cid.toNat := by
      simp [Host.cmdOf, Host.builtFirmware, Host.putSrbExt, Host.firmwareGetInfoCmd_cid, Heap.cid]
    have built := before.host.builtFirmware_ages memory address logpage
    rw [Host.hwStartIo_firmware request accepts, Option.some.injEq] at returned
    subst returned
    refine .accepted present (present ▸ labelled) own (built.trans (.accepted queue _ address)) rfl ?_
    rw [← own, Heap.cid_of_tag known (by omega), ← tag_free_iff sound labelled small present waits known]
    exact ⟨fun apart => apart ⟨request, queue, accepts⟩, fun apart _ => apart⟩
  · refine .of_eases labelled (Host.hwStartIo_eases returned ?_) fun sent => absurd sent sends
    rintro queue ⟨request, accepts⟩
    exact sends ⟨request, queue, accepts⟩

private theorem admStep_command {address : Nat} {cmd : NvmeCommand} (sound : before.Sound 2)
    (labelled : Labelled depth before.host.heap before.host.device.admQueue) (small : depth ≤ 65536)
    (internal : cmd.cid = (SrbExt.init none).cid) (taken : before.step (.command address cmd) = some after) :
    AdmStep depth before (.command address cmd) after := by
  obtain ⟨idle, rfl⟩ := Adapter.step_command taken
  have zero : cmd.cid.toNat = 0 := by simp [internal, SrbExt.cid, SrbExt.init, SrbExt.scsiQTag]
  let built := before.host.putSrbExt address { SrbExt.init none with nvmeCmd := cmd }
  have cmdOf : (built.heap.srbext address).nvmeCmd = cmd := by simp [built, Host.putSrbExt]
  have initialised : Labelled depth built.heap before.host.device.admQueue :=
    labelled.put (slot_elsewhere (sound.free_of_idle idle)) (fun _ missing => by cases missing)
      fun _ missing => by cases missing
  rcases built.submitAdmCmd_spec address with ⟨queue, accepts, submitted⟩ | ⟨refuses, status, fails, submitted⟩
  · have present : before.host.device.admQueue = some queue := accepts.selected
    have own : built.heap.cid address = cmd.cid.toNat := by
      rw [zero]
      exact Heap.cid_of_internal (by simp [built, Host.putSrbExt, Heap.tag, SrbExt.init])
    have stored : (before.command address cmd).host = built.acceptedAdm address queue := by
      simp only [Adapter.command]
      rw [submitted]
      simp [NtStatus.ntSuccess]
    refine .accepted present (present ▸ initialised) own ?_ ?_ ?_
    · rw [stored]
      exact .accepted queue _ address
    · rw [stored]
      simp [Host.acceptedAdm, cmdOf]
    · rw [zero, ← zero_free_iff sound labelled small present]
      refine ⟨fun apart => apart ⟨queue, accepts.working, present, ?_⟩, fun apart _ => apart⟩
      rw [← cmdOf]
      exact accepts.accepts
  · have dropped : (before.command address cmd).host =
        built.putSrbExt address { built.heap.srbext address with initOK := false } := by
      simp only [Adapter.command]
      rw [submitted]
      simp [fails]
    refine .of_eases initialised ?_ ?_
    · rw [dropped]
      apply Host.Eases.of_same
      · exact .put rfl fun outstanding => absurd outstanding.initOK (by simp)
      · exact fun _ present => present
    · rintro ⟨queue, accepts⟩
      refine absurd ?_ (refuses queue)
      rw [cmdOf]
      exact ⟨accepts.working, accepts.selected, accepts.accepts⟩

private theorem admStep {event : AdapterEvent} (sound : before.Sound 2)
    (labelled : Labelled depth before.host.heap before.host.device.admQueue) (small : depth ≤ 65536)
    (tags : TagsApart depth before event) (taken : before.step event = some after) :
    AdmStep depth before event after := by
  cases event with
  | buildIo address srb =>
    obtain ⟨idle, rfl⟩ := Adapter.step_buildIo taken
    have delivered : Labelled depth (before.host.heap.put address (.init (some srb))) before.host.device.admQueue := by
      apply labelled.put (slot_elsewhere (sound.free_of_idle idle))
      · intro request same
        cases same
        exact tags.1
      · intro request same
        cases same
        exact tags.2
    exact .of_eases delivered (before.host.hwBuildIo_eases address srb) trivial
  | startIo address processor logpage memory => exact admStep_startIo sound labelled small taken
  | command address cmd => exact admStep_command sound labelled small tags taken
  | resetBus =>
    obtain ⟨host, returned, rfl⟩ := Adapter.step_resetBus taken
    exact .of_eases labelled (Host.hwResetBus_eases returned) trivial
  | surpriseRemoval =>
    cases taken
    have same : Host.Eases before.host.heap before.host before.host := .of_same (.refl _) fun _ present => present
    exact .of_eases labelled same.teardown trivial
  | advance msgid event =>
    obtain ⟨queue, present, own, next, stepped, rfl⟩ := Adapter.step_advance taken
    obtain ⟨lost, ages⟩ := System.step_loses own stepped
    refine .eased labelled ages ?_ trivial
    intro other there
    by_cases admin : msgid = 0
    · subst msgid
      obtain rfl : next.queue = other := by
        simpa [Adapter.withQueuePair, Host.setQueue] using there
      exact ⟨queue, present, lost⟩
    · have kept : other ∈ before.host.device.admQueue := by
        simpa [Adapter.withQueuePair, Host.setQueue, admin] using there
      exact ⟨other, kept, .refl other⟩

end Steps

/-- In every run in which StorPort gives the requests outstanding at one time
different tags below the depth of the history, and internal commands carry the
identifier of an extension without a request, in any order: no command on the
admin queue replaces another and the identifiers of those that wait are
different, if and only if the two sources of identifiers do not meet. -/
theorem adm_distinct_iff {device : CNvmeDevice} {config : QueuePairConfig} {ioConfig : Nat → Option QueuePairConfig}
    {srbext : Nat → SrbExt} {slotCount : BitVec 3} {events : List AdapterEvent} {final : Adapter}
    (tags : Machine.Meets Adapter.step (TagsApart config.historyDepth)
      (.initial device (some config) ioConfig srbext slotCount) events)
    (ran : Machine.run Adapter.step (.initial device (some config) ioConfig srbext slotCount) events = some final) :
    Machine.Always Adapter.step AdmDistinct (.initial device (some config) ioConfig srbext slotCount) events ↔
      Machine.Meets Adapter.step SourcesApart (.initial device (some config) ioConfig srbext slotCount) events := by
  have small : config.historyDepth ≤ 65536 := Nat.le_of_lt config.historyDepth_lt
  have setup : ∀ queue ∈ (Adapter.initial device (some config) ioConfig srbext slotCount).host.device.admQueue,
      queue = .setup config := by
    intro queue present
    exact (Option.some.inj present).symm
  have nothing : ∀ address, ¬ Outstanding (Adapter.initial device (some config) ioConfig srbext slotCount).host.heap
      address := by
    intro address outstanding
    have fresh := outstanding.initOK
    cases fresh
  have labelled : Labelled config.historyDepth (Adapter.initial device (some config) ioConfig srbext slotCount).host.heap
      (Adapter.initial device (some config) ioConfig srbext slotCount).host.device.admQueue := by
    refine ⟨⟨fun address _ outstanding => absurd outstanding (nothing address), fun first _ _ outstanding =>
      absurd outstanding (nothing first)⟩, ?_, ?_⟩
    · intro queue present cid held holds
      rw [setup queue present] at holds
      cases holds
    · intro queue present
      rw [setup queue present]
      exact .setup config
  have preserved : ∀ before event after, (before.Sound 2 ∧
      Labelled config.historyDepth before.host.heap before.host.device.admQueue) →
      TagsApart config.historyDepth before event → before.step event = some after →
      after.Sound 2 ∧ Labelled config.historyDepth after.host.heap after.host.device.admQueue := by
    intro before event after kept allowed taken
    exact ⟨kept.1.step (.inl (Nat.le_refl 2)) taken, (admStep kept.1 kept.2 small allowed taken).labelled⟩
  apply Machine.always_iff_meets_of_allowed preserved
  · intro before event after kept allowed distinct taken
    exact (admStep kept.1 kept.2 small allowed taken).distinct_iff distinct
  · exact ⟨.initial device (some config) ioConfig srbext slotCount (by decide), labelled⟩
  · intro queue present
    rw [setup queue present]
    exact ⟨rfl, fun first _ left => absurd left.submitted List.not_mem_nil⟩
  · exact tags
  · exact ran

def sampleRestart : List AdapterEvent :=
  [.buildIo 0 sampleIoctl, .startIo 0 0 0x2000 Host.sampleMemory,
    .command 1 (buildCmdIdentCtrler Host.sampleMemory (.init none) 0x3000).nvmeCmd]

private theorem sampleRestart_run :
    (Machine.run Adapter.step sampleAdapter sampleRestart).map
      (fun adapter => adapter.host.device.admQueue.map (·.trace.replaced)) = some (some [0]) := by
  decide +kernel

private theorem sampleRestart_tags : Machine.Meets Adapter.step (TagsApart sampleQueue.historyDepth) sampleAdapter sampleRestart := by
  have identify : InternalCommand (buildCmdIdentCtrler Host.sampleMemory (.init none) 0x3000).nvmeCmd := .identify ..
  refine ⟨⟨by decide, ?_⟩, fun _ _ => ⟨trivial, fun _ _ => ⟨identify.cid, fun _ _ => trivial⟩⟩⟩
  intro other outstanding
  have fresh : false = true := outstanding.initOK
  cases fresh

theorem adm_distinct_iff_restart :
    Machine.Always Adapter.step AdmDistinct sampleAdapter sampleRestart ↔
      Machine.Meets Adapter.step SourcesApart sampleAdapter sampleRestart := by
  obtain ⟨final, ran, _⟩ := Option.map_eq_some_iff.mp sampleRestart_run
  exact adm_distinct_iff sampleRestart_tags ran

/-- The identify command takes the slot of the firmware request, which is completed as busy. -/
theorem internal_command_replaces_request :
    ¬ ∀ (device : CNvmeDevice) (config : QueuePairConfig) (ioConfig : Nat → Option QueuePairConfig)
      (srbext : Nat → SrbExt) (slotCount : BitVec 3) (events : List AdapterEvent) (final : Adapter),
      Machine.Meets Adapter.step (TagsApart config.historyDepth)
        (.initial device (some config) ioConfig srbext slotCount) events →
      Machine.run Adapter.step (.initial device (some config) ioConfig srbext slotCount) events = some final →
      AdmDistinct final := by
  intro always
  obtain ⟨final, ran, replaced⟩ := Option.map_eq_some_iff.mp sampleRestart_run
  have distinct := always _ _ _ _ _ sampleRestart final sampleRestart_tags ran
  obtain ⟨queue, present, one⟩ := Option.map_eq_some_iff.mp replaced
  rw [(distinct queue present).1] at one
  cases one

end SpcNvme
