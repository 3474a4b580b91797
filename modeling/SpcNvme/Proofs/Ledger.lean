import SpcNvme.Proofs.Tags

/-! What becomes of the memory taken for a request. A buffer stays attached to its
extension until `CleanUp` frees it, which only happens when `CompleteCmd` pops the
extension. Nothing is ever freed twice, but whatever takes an extension out of its
slot in another way, or never puts it into one, loses its buffers. -/

namespace SpcNvme

namespace SrbExt

@[simp] theorem buffers_init (srb : Option Srb) : (init srb).buffers = [] := rfl

@[simp] theorem completeSrb_buffers (srbext : SrbExt) (status : SrbStatus) :
    (srbext.completeSrb status).buffers = srbext.buffers := by
  unfold completeSrb
  split <;> rfl

@[simp] theorem cleanUp_buffers (srbext : SrbExt) : srbext.cleanUp.buffers = [] := rfl

theorem cleanUpOps_eq (srbext : SrbExt) : srbext.cleanUpOps = srbext.buffers.map .free := by
  simp [cleanUpOps, resetExtBufOps, buffers]

end SrbExt

theorem finishSrbExtOps_eq (heap : Heap) (address : Nat) (submission : Option Nat) (cpl : NvmeCompletionEntry) :
    finishSrbExtOps heap address submission cpl = (heap.srbext address).buffers.map .free := by
  simp only [finishSrbExtOps, SrbExt.cleanUpOps_eq, Heap.completeSrb_srbext, Function.update_self,
    SrbExt.completeSrb_buffers]
  cases (heap.srbext address).completionCB with
  | none => simp [runCompletionCBOps, runCompletionCB, SrbExt.buffers]
  | some routine =>
    cases routine with
    | completeScsiReadWrite =>
      simp [runCompletionCBOps, runCompletionCB, SrbExt.cleanUpOps_eq, SrbExt.cleanUp, SrbExt.resetExtBuf,
        SrbExt.buffers]
    | completeFirmwareInfo =>
      cases (heap.srbext address).srb with
      | none => simp [runCompletionCBOps, runCompletionCB, completeFirmwareInfo, SrbExt.buffers]
      | some srb =>
        -- the callback has freed everything, and the second `CleanUp` finds no pointer
        simp [runCompletionCBOps, runCompletionCB, completeFirmwareInfo, SrbExt.cleanUpOps_eq,
          SrbExt.cleanUp, SrbExt.resetExtBuf, SrbExt.completeSrb, SrbExt.buffers]

theorem completeOneOps_eq (queue : CNvmeQueue) (heap : Heap) (loop : CompleteLoop) :
    queue.completeOneOps heap loop = match queue.popped loop with
      | none => []
      | some srbext => (heap.srbext srbext.address).buffers.map .free := by
  have popped : (queue.history.pop (queue.cplQ loop.cpl).entry.cid.toNat loop.srbext).2.1 = queue.popped loop := by
    by_cases outside : queue.history.depth ≤ (queue.cplQ loop.cpl).entry.cid.toNat
    · simp [CCmdHistory.pop, CNvmeQueue.popped, outside]
    · simp [CCmdHistory.pop, CNvmeQueue.popped, outside]
  simp only [CNvmeQueue.completeOneOps, popped]
  cases queue.popped loop with
  | none => rfl
  | some srbext => exact finishSrbExtOps_eq ..

namespace Heap

/-- Apart from some extensions, no pointer to a buffer changes. -/
structure KeepsBuffers (except : Nat → Prop) (before after : Heap) : Prop where
  same : ∀ address, ¬ except address → (after.srbext address).buffers = (before.srbext address).buffers

namespace KeepsBuffers
variable {except : Nat → Prop} {heap : Heap}

theorem refl (heap : Heap) : KeepsBuffers except heap heap := ⟨fun _ _ => rfl⟩

theorem trans {first second third : Heap} (left : KeepsBuffers except first second)
    (right : KeepsBuffers except second third) : KeepsBuffers except first third :=
  ⟨fun address kept => (right.same address kept).trans (left.same address kept)⟩

theorem put {address : Nat} {srbext : SrbExt} (excepted : except address ∨ srbext.buffers = (heap.srbext address).buffers) :
    KeepsBuffers except heap (heap.put address srbext) := by
  constructor
  intro other kept
  by_cases same : other = address
  · subst other
    rcases excepted with changed | equal
    · exact absurd changed kept
    · simpa using equal
  · simp [same]

theorem completeSrb (address : Nat) (submission : Option Nat) (status : SrbStatus) :
    KeepsBuffers except heap (heap.completeSrb address submission status) := by
  constructor
  intro other _
  by_cases same : other = address
  · subst other
    simp
  · simp [same]

theorem accepted (queue : CNvmeQueue) (address : Nat) :
    KeepsBuffers except heap (Host.acceptedHeap queue heap address) := by
  have released : KeepsBuffers except heap (queue.releaseOld heap (heap.srbext address).nvmeCmd) := by
    unfold CNvmeQueue.releaseOld
    split
    · exact refl heap
    · exact completeSrb ..
  exact released.trans (put (.inr rfl))

theorem resetUpTo (table : CCmdHistory) (count : Nat) : KeepsBuffers except heap (table.resetUpTo heap count).2 := by
  induction count with
  | zero => exact refl heap
  | succ count ih =>
    simp only [CCmdHistory.resetUpTo]
    split
    · exact ih
    · exact ih.trans (completeSrb ..)

end KeepsBuffers

end Heap

/-! Which extensions the queues hold. -/

def At (slots : Nat → Nat → Option SrbExtPtr) (msgid cid address : Nat) : Prop :=
  (slots msgid cid).map (·.address) = some address

def InSlot (slots : Nat → Nat → Option SrbExtPtr) (address : Nat) : Prop := ∃ msgid cid, At slots msgid cid address

private theorem inSlot_change {slots after : Nat → Nat → Option SrbExtPtr} {waiting : Nat → Bool} {alive : Nat → Prop}
    (custody : Custody (Holds slots waiting) alive) (covered : Nat → Nat → Prop) {added : Nat → Prop}
    (kept : ∀ msgid cid, ¬ covered msgid cid → after msgid cid = slots msgid cid)
    (filled : ∀ msgid cid address, covered msgid cid → At after msgid cid address → added address)
    (there : ∀ address, added address → InSlot after address) (address : Nat) :
    InSlot after address ↔ added address ∨
      InSlot slots address ∧ ∀ msgid cid, covered msgid cid → ¬ At slots msgid cid address := by
  constructor
  · rintro ⟨msgid, cid, held⟩
    by_cases inside : covered msgid cid
    · exact .inl (filled msgid cid address inside held)
    · have before : At slots msgid cid address := by rwa [At, ← kept msgid cid inside]
      refine .inr ⟨⟨msgid, cid, before⟩, ?_⟩
      intro other index touched also
      have same : Place.slot msgid cid = Place.slot other index :=
        custody.exclusive (show Holds slots waiting (.slot msgid cid) address from before)
          (show Holds slots waiting (.slot other index) address from also)
      cases same
      exact inside touched
  · rintro (new | ⟨⟨msgid, cid, held⟩, untouched⟩)
    · exact there address new
    · have outside : ¬ covered msgid cid := fun inside => untouched msgid cid inside held
      exact ⟨msgid, cid, by rwa [At, kept msgid cid outside]⟩

namespace Host

def Attached (host : Host) (buffer address : Nat) : Prop :=
  InSlot host.slots address ∧ buffer ∈ (host.heap.srbext address).buffers

end Host

/-- A command under the identifier of the request, which is all the queues look at. -/
def Host.commandOf (host : Host) (address : Nat) : NvmeCommand :=
  { NvmeCommand.zero with cid := (host.heap.srbext address).cid }

structure Srb.RemovesAdapter (srb : Srb) : Prop where
  function : srb.function = SrbFunction.pnp
  adapter : srb.pnpAdapterRequest = true
  action : srb.pnpAction = .surpriseRemoval

/-- The extensions that a step takes out of their slots without cleaning them up. -/
inductive Adapter.Drops (adapter : Adapter) : AdapterEvent → Nat → Prop where
  | removal {address other : Nat} {srb : Srb} (removes : srb.RemovesAdapter)
      (working : adapter.host.device.isWorking = true) (held : InSlot adapter.host.slots other) :
      Drops adapter (.buildIo address srb) other
  | replacedIo {address processor logpage other : Nat} {memory : Memory} {queue : CNvmeQueue}
      (transfers : adapter.host.transfers address = true)
      (accepts : adapter.host.AcceptsIo processor (adapter.host.commandOf address) queue)
      (held : At adapter.host.slots (processor % adapter.host.device.registeredIoQ.toNat + 1)
        (adapter.host.commandOf address).cid.toNat other) :
      Drops adapter (.startIo address processor logpage memory) other
  | replacedAdm {address processor logpage other : Nat} {memory : Memory} {queue : CNvmeQueue}
      (request : (adapter.host.heap.srbext address).FirmwareRequest)
      (accepts : adapter.host.AcceptsAdm (adapter.host.commandOf address) queue)
      (held : At adapter.host.slots 0 (adapter.host.commandOf address).cid.toNat other) :
      Drops adapter (.startIo address processor logpage memory) other
  | replacedByCommand {address other : Nat} {cmd : NvmeCommand} {queue : CNvmeQueue}
      (accepts : adapter.host.AcceptsAdm cmd queue) (held : At adapter.host.slots 0 cmd.cid.toNat other) :
      Drops adapter (.command address cmd) other
  | reset {msgid cid other : Nat} {queue : CNvmeQueue} (working : adapter.host.device.isWorking = true)
      (adm : adapter.host.device.admQueue.isSome) (reached : msgid ≤ adapter.host.device.registeredIoQ.toNat)
      (present : adapter.host.queue msgid = some queue) (inside : cid < queue.history.depth)
      (held : At adapter.host.slots msgid cid other) : Drops adapter .resetBus other
  | surpriseRemoval {other : Nat} (working : adapter.host.device.isWorking = true)
      (held : InSlot adapter.host.slots other) : Drops adapter .surpriseRemoval other

/-- A page is taken for the list of a read or write that no queue accepts. -/
def Adapter.LosesPage (adapter : Adapter) : AdapterEvent → Prop
  | .startIo address processor _ memory => adapter.host.scsiReadWriteOps memory address ≠ [] ∧
      ∀ queue, ¬ adapter.host.AcceptsIo processor (adapter.host.commandOf address) queue
  | _ => False

/-- No extension that holds a buffer is dropped, and no page is lost. -/
structure CleansUp (adapter : Adapter) (event : AdapterEvent) : Prop where
  drops : ∀ address, adapter.Drops event address → (adapter.host.heap.srbext address).buffers = []
  page : ¬ adapter.LosesPage event

/-- Every buffer that was not freed is still referred to by an extension that a
queue holds and whose request is pending, and none was freed twice. -/
structure Freed (ledger : Ledger) : Prop where
  once : ledger.pool.twice = []
  held : ∀ buffer address, ledger.pool.owner buffer = some address → ledger.adapter.host.Attached buffer address
  pending : ∀ buffer address, ledger.pool.owner buffer = some address → Outstanding ledger.adapter.host.heap address

structure Ledger.Sound (ledger : Ledger) : Prop where
  adapter : ledger.adapter.Sound 2
  blank : ∀ address, ledger.adapter.waiting address = true → (ledger.adapter.host.heap.srbext address).buffers = []
  single : ∀ address, InSlot ledger.adapter.host.slots address →
    (ledger.adapter.host.heap.srbext address).buffers.Nodup
  books : BlockPool.Books ledger.pool ledger.adapter.host.Attached

private theorem Ledger.Sound.freed_all_iff {ledger : Ledger} (sound : ledger.Sound) :
    Freed ledger ↔ BlockPool.Complete ledger.pool ledger.adapter.host.Attached := by
  constructor
  · intro freed
    exact freed.held
  · intro complete
    refine ⟨sound.books.once, complete, ?_⟩
    intro buffer address out
    obtain ⟨msgid, cid, held⟩ := (complete buffer address out).1
    exact sound.adapter.custody.live
      (show Holds ledger.adapter.host.slots ledger.adapter.waiting (.slot msgid cid) address from held)

/-- What is proved of every step. -/
structure Ledger.Settles (before : Ledger) (event : AdapterEvent) (after : Ledger) : Prop where
  sound : after.Sound
  freed : Freed before → (Freed after ↔ CleansUp before.adapter event)

private theorem Adapter.Drops.inSlot {adapter : Adapter} {event : AdapterEvent} {address : Nat}
    (drops : adapter.Drops event address) : InSlot adapter.host.slots address := by
  cases drops with
  | removal _ _ held => exact held
  | replacedIo _ _ held => exact ⟨_, _, held⟩
  | replacedAdm _ _ held => exact ⟨_, _, held⟩
  | replacedByCommand _ held => exact ⟨_, _, held⟩
  | reset _ _ _ _ _ held => exact ⟨_, _, held⟩
  | surpriseRemoval _ held => exact held

namespace Ledger.Settles
variable {before after : Ledger} {event : AdapterEvent}

/-- The books after the pool operations of a step, and what of them stays attached. -/
theorem of_books {attached : Nat → Nat → Prop} (adapter : after.adapter.Sound 2)
    (blank : ∀ address, after.adapter.waiting address = true → (after.adapter.host.heap.srbext address).buffers = [])
    (single : ∀ address, InSlot after.adapter.host.slots address →
      (after.adapter.host.heap.srbext address).buffers.Nodup)
    (sound : before.Sound) (books : BlockPool.Books after.pool attached)
    (complete : BlockPool.Complete before.pool before.adapter.host.Attached → BlockPool.Complete after.pool attached)
    (still : ∀ buffer address, after.adapter.host.Attached buffer address → attached buffer address)
    (cleans : CleansUp before.adapter event ↔
      ∀ buffer address, attached buffer address → after.adapter.host.Attached buffer address) :
    before.Settles event after := by
  have kept : after.Sound := ⟨adapter, blank, single, books.drop still⟩
  refine ⟨kept, ?_⟩
  intro freed
  rw [kept.freed_all_iff, cleans]
  exact books.complete_iff (complete (sound.freed_all_iff.mp freed))

/-- A step without pool operations: it drops some extensions, and puts ones
without buffers into slots. -/
theorem of_drops (added : Nat → Prop) (adapter : after.adapter.Sound 2)
    (blank : ∀ address, after.adapter.waiting address = true → (after.adapter.host.heap.srbext address).buffers = [])
    (sound : before.Sound) (pool : after.pool = before.pool)
    (slots : ∀ address, InSlot after.adapter.host.slots address ↔ added address ∨
      InSlot before.adapter.host.slots address ∧ ¬ before.adapter.Drops event address)
    (new : ∀ address, added address → (after.adapter.host.heap.srbext address).buffers = [])
    (buffers : ∀ address, InSlot before.adapter.host.slots address →
      (after.adapter.host.heap.srbext address).buffers = (before.adapter.host.heap.srbext address).buffers)
    (page : ¬ before.adapter.LosesPage event) : before.Settles event after := by
  have attached : ∀ buffer address, after.adapter.host.Attached buffer address ↔
      before.adapter.host.Attached buffer address ∧ ¬ before.adapter.Drops event address := by
    intro buffer address
    constructor
    · rintro ⟨held, member⟩
      rcases (slots address).mp held with fresh | ⟨there, kept⟩
      · rw [new address fresh] at member
        cases member
      · rw [buffers address there] at member
        exact ⟨⟨there, member⟩, kept⟩
    · rintro ⟨⟨held, member⟩, kept⟩
      rw [← buffers address held] at member
      exact ⟨(slots address).mpr (.inr ⟨held, kept⟩), member⟩
  refine of_books adapter blank ?_ sound (pool ▸ sound.books) (fun complete => pool ▸ complete) ?_ ?_
  · intro address held
    rcases (slots address).mp held with fresh | ⟨there, _⟩
    · rw [new address fresh]
      exact List.nodup_nil
    · rw [buffers address there]
      exact sound.single address there
  · intro buffer address there
    exact ((attached buffer address).mp there).1
  · constructor
    · intro cleans buffer address there
      refine (attached buffer address).mpr ⟨there, ?_⟩
      intro drops
      have member := there.2
      rw [cleans.drops address drops] at member
      cases member
    · intro all
      refine ⟨?_, page⟩
      intro address drops
      apply List.eq_nil_iff_forall_not_mem.mpr
      intro buffer member
      exact ((attached buffer address).mp (all buffer address ⟨drops.inSlot, member⟩)).2 drops

end Ledger.Settles

section Slots
variable {host : Host} {waiting : Nat → Bool}

private theorem slots_teardown (host : Host) (msgid cid : Nat) :
    host.teardown.slots msgid cid = if host.device.isWorking then none else host.slots msgid cid := by
  unfold Host.teardown
  cases host.device.isWorking with
  | false => rfl
  | true =>
    simp only [Bool.not_true, Bool.false_eq_true, if_false, if_true, Host.slots, Host.queue]
    split <;> rfl

private theorem inSlot_teardown (host : Host) (address : Nat) :
    InSlot host.teardown.slots address ↔ InSlot host.slots address ∧ host.device.isWorking = false := by
  simp only [InSlot, At, slots_teardown]
  cases host.device.isWorking with
  | false => simp
  | true => simp

/-- `Teardown` finds the controller shut down and does nothing. -/
theorem teardown_shutdownController (host : Host) : host.shutdownController.teardown = host.shutdownController := by
  have idle : host.shutdownController.device.isWorking = false := by
    unfold Host.shutdownController
    split
    · next neither =>
      rw [Bool.and_eq_true, Bool.not_eq_true', Bool.not_eq_true'] at neither
      exact neither.2
    · rfl
  simp [Host.teardown, idle]

private theorem slots_shutdownController (host : Host) : host.shutdownController.slots = host.slots := by
  unfold Host.slots
  rw [shutdownController_queue]

open Classical in
private theorem inSlot_hwBuildIo (host : Host) (address other : Nat) (srb : Srb) :
    InSlot (host.hwBuildIo address srb).2.slots other ↔
      InSlot host.slots other ∧ ¬ (srb.RemovesAdapter ∧ host.device.isWorking = true) := by
  have completed : ∀ (host : Host) status, (host.completeSrb address status).slots = host.slots := fun _ _ => rfl
  have delivered : (host.putSrbExt address (.init (some srb))).slots = host.slots := rfl
  have plain : ∀ after : Host, after.slots = host.slots → ¬ srb.RemovesAdapter →
      (InSlot after.slots other ↔ InSlot host.slots other ∧ ¬ (srb.RemovesAdapter ∧ host.device.isWorking = true)) := by
    intro after same other
    rw [same]
    simp [other]
  have code : ((host.putSrbExt address (.init (some srb))).heap.srbext address).funcCode = srb.function := by
    simp [Host.putSrbExt, SrbExt.init, SrbExt.funcCode]
  by_cases pnp : srb.function = SrbFunction.pnp
  · simp only [Host.hwBuildIo, code, pnp, SrbFunction.pnp, SrbFunction.abortCommand, SrbFunction.resetLogicalUnit,
      SrbFunction.resetDevice, SrbFunction.resetBus, SrbFunction.power, SrbFunction.executeScsi, SrbFunction.ioControl,
      BitVec.reduceEq, or_self, if_false, if_true, Host.buildIoSrbPnpHandler]
    split
    · next single =>
      apply plain _ rfl
      intro removes
      simp [removes.adapter] at single
    · next whole =>
      have adapter : srb.pnpAdapterRequest = true := by simpa using whole
      split
      · next action =>
        exact plain _ rfl fun removes => by simp [removes.action] at action
      · next action =>
        apply plain _ _ fun removes => by simp [removes.action] at action
        rw [teardown_shutdownController, completed, slots_shutdownController, delivered]
      · next action =>
        have removes : srb.RemovesAdapter := ⟨pnp, adapter, action⟩
        rw [completed, inSlot_teardown, delivered]
        simp [removes, Host.putSrbExt]
      · next action =>
        exact plain _ rfl fun removes => by simp [removes.action] at action
  · apply plain _ _ fun removes => pnp removes.function
    simp only [Host.hwBuildIo, code, pnp, if_false]
    split
    · rfl
    · split
      · rfl
      · split
        · unfold Host.buildIoScsiHandler
          split <;> rfl
        · split <;> rfl

private theorem hwBuildIo_heap (host : Host) (address : Nat) (srb : Srb) :
    (host.hwBuildIo address srb).2.heap = host.heap.put address (.init (some srb)) ∨
      ∃ status, (host.hwBuildIo address srb).2.heap =
        (host.heap.put address (.init (some srb))).completeSrb address none status := by
  simp only [Host.hwBuildIo]
  split
  · exact .inr ⟨_, rfl⟩
  · split
    · exact .inr ⟨_, rfl⟩
    · split
      · unfold Host.buildIoScsiHandler
        split
        · exact .inl rfl
        · exact .inr ⟨_, rfl⟩
      · split
        · exact .inl rfl
        · split
          · unfold Host.buildIoSrbPnpHandler
            split
            · exact .inr ⟨_, rfl⟩
            · split
              · exact .inr ⟨_, rfl⟩
              · refine .inr ⟨.success, ?_⟩
                rw [teardown_shutdownController, Host.completeSrb, shutdownController_heap]
                rfl
              · refine .inr ⟨.success, ?_⟩
                rw [Host.completeSrb, teardown_heap]
                rfl
              · exact .inr ⟨_, rfl⟩
          · exact .inr ⟨_, rfl⟩

theorem hwBuildIo_buffers (host : Host) (address : Nat) (srb : Srb) :
    (((host.hwBuildIo address srb).2.heap.srbext address).buffers = []) ∧
      Heap.KeepsBuffers (· = address) host.heap (host.hwBuildIo address srb).2.heap := by
  have delivered : Heap.KeepsBuffers (· = address) host.heap (host.heap.put address (.init (some srb))) :=
    .put (.inl rfl)
  rcases hwBuildIo_heap host address srb with same | ⟨status, same⟩
  · rw [same]
    exact ⟨by simp, delivered⟩
  · rw [same]
    exact ⟨by simp, delivered.trans (.completeSrb ..)⟩

theorem resetAllCmd_slot (queue : CNvmeQueue) (heap : Heap) (cid : Nat) :
    (queue.resetAllCmd heap).1.history.history cid =
      if cid < queue.history.depth then none else queue.history.history cid := by
  have history := (CNvmeQueue.fastForward_frame { queue with
    history := (queue.history.reset heap).1
    inflightCmds := 0
    trace := { queue.trace with replaced := [], resetAt := queue.trace.submitted.length } } queue.depth).1
  have same : (queue.resetAllCmd heap).1.history = (queue.history.reset heap).1 := history
  rw [same]
  simp only [CCmdHistory.reset, resetUpTo_table]

private theorem resetIoQueues_spec {host after : Host} {count : Nat} (returned : host.resetIoQueues count = some after) :
    after.device.admQueue = host.device.admQueue ∧ (∀ index, count ≤ index → after.device.ioQueue index = host.device.ioQueue index) ∧
      (∀ index, index < count → ∃ queue heap, host.device.ioQueue index = some queue ∧
        after.device.ioQueue index = some (queue.resetAllCmd heap).1) ∧
      ∀ except, Heap.KeepsBuffers except host.heap after.heap := by
  induction count generalizing after with
  | zero =>
    cases returned
    exact ⟨rfl, fun _ _ => rfl, fun _ below => absurd below (Nat.not_lt_zero _), fun _ => .refl _⟩
  | succ count ih =>
    simp only [Host.resetIoQueues] at returned
    split at returned
    · cases returned
    · next earlier reached =>
      obtain ⟨adm, later, before, buffers⟩ := ih reached
      split at returned
      · cases returned
      · next queue present =>
        cases returned
        refine ⟨adm, ?_, ?_, fun except => (buffers except).trans (.resetUpTo ..)⟩
        · intro index above
          have apart : index ≠ count := by omega
          simp only [Function.update_of_ne apart]
          exact later index (by omega)
        · intro index below
          by_cases last : index = count
          · subst index
            exact ⟨queue, earlier.heap, by rw [← later count (Nat.le_refl _), present], by simp⟩
          · obtain ⟨old, heap, there, same⟩ := before index (by omega)
            exact ⟨old, heap, there, by simpa [last] using same⟩

end Slots

def Host.ResetReaches (host : Host) (msgid cid : Nat) : Prop :=
  host.device.isWorking = true ∧ host.device.admQueue.isSome ∧ msgid ≤ host.device.registeredIoQ.toNat ∧
    ∃ queue, host.queue msgid = some queue ∧ cid < queue.history.depth

private theorem hwResetBus_spec {host after : Host} (returned : host.hwResetBus = some after) :
    (∀ msgid cid, host.ResetReaches msgid cid → after.slots msgid cid = none) ∧
      (∀ msgid cid, ¬ host.ResetReaches msgid cid → after.slots msgid cid = host.slots msgid cid) ∧
      ∀ except, Heap.KeepsBuffers except host.heap after.heap := by
  simp only [Host.hwResetBus, Host.resetOutstandingCmds] at returned
  split at returned
  · next idle =>
    cases returned
    refine ⟨?_, fun _ _ _ => rfl, fun _ => .refl _⟩
    rintro msgid cid ⟨working, _⟩
    simp [working] at idle
  · next working =>
    have working : host.device.isWorking = true := by simpa using working
    split at returned
    · next missing =>
      cases returned
      refine ⟨?_, fun _ _ _ => rfl, fun _ => .refl _⟩
      rintro msgid cid ⟨_, present, _⟩
      simp [missing] at present
    · next queue present =>
      obtain ⟨reached, looped, rfl⟩ := Option.map_eq_some_iff.mp returned
      obtain ⟨adm, later, before, buffers⟩ := resetIoQueues_spec looped
      have reset : ∀ {slot} (old : CNvmeQueue) heap cid, slot = some (old.resetAllCmd heap).1 →
          ((slot.bind fun queue => queue.history.history cid) =
            if cid < old.history.depth then none else old.history.history cid) := by
        rintro slot old heap cid rfl
        exact resetAllCmd_slot old heap cid
      have slots : ∀ msgid cid, (reached.setState .running).slots msgid cid =
          (reached.queue msgid).bind fun queue => queue.history.history cid := fun _ _ => rfl
      refine ⟨?_, ?_, fun except => .trans (.resetUpTo ..) (buffers except)⟩
      · rintro msgid cid ⟨_, _, bounded, found, there, inside⟩
        rw [slots]
        by_cases admin : msgid = 0
        · subst msgid
          obtain rfl : queue = found := Option.some.inj (present.symm.trans there)
          have taken : reached.queue 0 = some (queue.resetAllCmd host.heap).1 := adm
          rw [reset queue host.heap cid taken, if_pos inside]
        · have io : host.device.ioQueue (msgid - 1) = some found := by simpa [Host.queue, admin] using there
          obtain ⟨old, heap, same, emptied⟩ := before (msgid - 1) (by simp only [Host.setState]; omega)
          obtain rfl : old = found := Option.some.inj (same.symm.trans io)
          have taken : reached.queue msgid = some (old.resetAllCmd heap).1 := by simpa [Host.queue, admin] using emptied
          rw [reset old heap cid taken, if_pos inside]
      · intro msgid cid outside
        rw [slots]
        by_cases admin : msgid = 0
        · subst msgid
          have deep : ¬ cid < queue.history.depth := fun inside =>
            outside ⟨working, by simp [present], Nat.zero_le _, queue, present, inside⟩
          have taken : reached.queue 0 = some (queue.resetAllCmd host.heap).1 := adm
          rw [reset queue host.heap cid taken, if_neg deep, Host.slots_of_queue (show host.queue 0 = some queue from present)]
        · by_cases bounded : msgid ≤ host.device.registeredIoQ.toNat
          · obtain ⟨old, heap, same, emptied⟩ := before (msgid - 1) (by simp only [Host.setState]; omega)
            have there : host.queue msgid = some old := by
              simp only [Host.queue, admin, if_false]
              exact same
            have taken : reached.queue msgid = some (old.resetAllCmd heap).1 := by simpa [Host.queue, admin] using emptied
            have deep : ¬ cid < old.history.depth := fun inside =>
              outside ⟨working, by simp [present], bounded, old, there, inside⟩
            rw [reset old heap cid taken, if_neg deep, Host.slots_of_queue there]
          · have same : reached.queue msgid = host.queue msgid := by
              simp only [Host.queue, admin, if_false]
              exact later (msgid - 1) (by simp only [Host.setState]; omega)
            rw [same]
            rfl

section Ops
variable {host : Host} {memory : Memory} {address logpage : Nat}

private theorem Host.transfers_function (transfers : host.transfers address = true) :
    (host.heap.srbext address).funcCode = SrbFunction.executeScsi := by
  unfold Host.transfers at transfers
  dsimp only at transfers
  split at transfers
  · cases transfers
  · rw [Bool.and_eq_true, beq_iff_eq] at transfers
    exact transfers.1

private theorem scsiReadWriteOps_transfers (transfers : host.transfers address = true) :
    host.scsiReadWriteOps memory address =
      buildPrpOps memory address (host.heap.srbext address).dataBuf (host.heap.srbext address).dataBufLen.toNat :=
  if_pos transfers

private theorem hwStartIoOps_transfers (transfers : host.transfers address = true) :
    host.hwStartIoOps memory address logpage = host.scsiReadWriteOps memory address :=
  if_pos (Host.transfers_function transfers)

private theorem hwStartIoOps_firmware (request : (host.heap.srbext address).FirmwareRequest) :
    host.hwStartIoOps memory address logpage = host.firmwareGetInfoOps memory address logpage := by
  obtain ⟨srb, present, code, signature, asks⟩ := request.asks
  have other : ¬ SrbFunction.ioControl = SrbFunction.executeScsi := Host.executeScsi_ne_ioControl.symm
  simp only [Host.hwStartIoOps, request.function, other, if_false, if_true, Host.startIoIoctlHandlerOps, present, code,
    signature, asks, request.long, and_self]

private theorem scsiReadWriteOps_plain (plain : host.SubmitsNothing address) : host.scsiReadWriteOps memory address = [] := by
  simp [Host.scsiReadWriteOps, plain.transfers]

private theorem hwStartIoOps_plain (plain : host.SubmitsNothing address) : host.hwStartIoOps memory address logpage = [] := by
  simp only [Host.hwStartIoOps]
  split
  · exact scsiReadWriteOps_plain plain
  · split
    · next function =>
      unfold Host.startIoIoctlHandlerOps
      dsimp only
      split
      · rfl
      · next srb present =>
        split
        · next firmware =>
          split
          · rfl
          · next long =>
            split
            · next asks =>
              exact absurd ⟨function, long, srb, present, firmware.1, firmware.2, asks⟩ plain.other
            · rfl
        · rfl
    · rfl

private theorem buildPrpOps_eq {srbext : SrbExt} (blank : srbext.prp2VA = none) (memory : Memory) (cmd : NvmeCommand)
    (address buffer bufSize : Nat) :
    buildPrpOps memory address buffer bufSize =
        (srbext.withBuffer memory cmd buffer bufSize).prp2VA.toList.map (.alloc · address) ∧
      (srbext.withBuffer memory cmd buffer bufSize).extBuf = srbext.extBuf := by
  simp only [buildPrpOps, SrbExt.withBuffer, buildPrp]
  split
  · simp [blank]
  · split
    · simp [blank]
    · cases memory.prp2Pool with
      | none => simp
      | some page => simp

theorem buildPrpOps_logpage (memory : Memory) (address logpage : Nat) :
    buildPrpOps memory address logpage sizeofFirmwareSlotInfoLog = [] := by
  have short : ∀ distance, sizeofFirmwareSlotInfoLog - distance ≤ pageSize := by
    intro distance
    simp only [sizeofFirmwareSlotInfoLog, pageSize]
    omega
  simp only [buildPrpOps, short, if_true]
  split <;> rfl

private theorem builtReadWrite_buffers (blank : (host.heap.srbext address).buffers = []) (transfers : host.transfers address = true)
    (memory : Memory) (offset : BitVec 64) (len : BitVec 32) (isWrite : Bool) :
    host.scsiReadWriteOps memory address =
      (((host.builtReadWrite memory address offset len isWrite).heap.srbext address).buffers).map (.alloc · address) := by
  obtain ⟨extBuf, prp2VA⟩ : (host.heap.srbext address).extBuf = none ∧ (host.heap.srbext address).prp2VA = none := by
    simpa [SrbExt.buffers] using blank
  obtain ⟨page, kept⟩ := buildPrpOps_eq prp2VA memory { NvmeCommand.zero with
    opc := if isWrite then Opcode.nvmWrite else Opcode.nvmRead
    cid := (host.heap.srbext address).cid
    nsid := (host.heap.srbext address).lun.setWidth 32 + 1 } address (host.heap.srbext address).dataBuf
    (host.heap.srbext address).dataBufLen.toNat
  rw [scsiReadWriteOps_transfers transfers, page]
  simp only [Host.builtReadWrite, Host.putSrbExt, Heap.put_srbext, Function.update_self, SrbExt.buffers,
    buiildCmdReadWrite, kept, extBuf, Option.toList_none, List.nil_append]

private theorem builtFirmware_buffers (blank : (host.heap.srbext address).buffers = []) (memory : Memory) (logpage : Nat) :
    ((host.builtFirmware memory address logpage).heap.srbext address).buffers = [logpage] := by
  obtain ⟨_, prp2VA⟩ : (host.heap.srbext address).extBuf = none ∧ (host.heap.srbext address).prp2VA = none := by
    simpa [SrbExt.buffers] using blank
  have attached : ∀ cmd, (({ (host.heap.srbext address).resetExtBuf (some logpage) with
      completionCB := some .completeFirmwareInfo } : SrbExt).withBuffer memory cmd logpage
        sizeofFirmwareSlotInfoLog).buffers = [logpage] := by
    intro cmd
    obtain ⟨page, kept⟩ := buildPrpOps_eq (show ({ (host.heap.srbext address).resetExtBuf (some logpage) with
      completionCB := some .completeFirmwareInfo } : SrbExt).prp2VA = none from prp2VA) memory cmd address logpage
      sizeofFirmwareSlotInfoLog
    rw [buildPrpOps_logpage, eq_comm, List.map_eq_nil_iff, Option.toList_eq_nil_iff] at page
    rw [SrbExt.buffers, page, kept]
    rfl
  simp only [Host.builtFirmware, Host.putSrbExt, Heap.put_srbext, Function.update_self, Host.firmwareGetInfoCmd]
  split
  · apply attached
  · apply attached

end Ops

private theorem inSlot_accept {host after : Host} {waiting : Nat → Bool} {alive : Nat → Prop} {msgid address : Nat}
    {queue : CNvmeQueue} {cmd : NvmeCommand} (custody : Custody (Holds host.slots waiting) alive)
    (present : host.queue msgid = some queue) (slots : after.slots = (host.setQueue msgid (queue.accept address cmd)).slots)
    (other : Nat) :
    InSlot after.slots other ↔
      other = address ∨ InSlot host.slots other ∧ ¬ At host.slots msgid cmd.cid.toNat other := by
  have filled : after.slots = Function.update host.slots msgid (Function.update (host.slots msgid) cmd.cid.toNat
      (some ⟨address, queue.trace.submitted.length⟩)) := by
    rw [slots, Host.slots_setQueue, CNvmeQueue.accept_history, Host.slots_of_queue present]
  have here : At after.slots msgid cmd.cid.toNat address := by simp [At, filled]
  have kept : ∀ item cid, ¬ (item = msgid ∧ cid = cmd.cid.toNat) → after.slots item cid = host.slots item cid := by
    intro item cid outside
    rw [filled]
    by_cases same : item = msgid
    · subst item
      have apart : cid ≠ cmd.cid.toNat := fun equal => outside ⟨rfl, equal⟩
      simp [apart]
    · simp [same]
  have only : ∀ item cid found, (item = msgid ∧ cid = cmd.cid.toNat) → At after.slots item cid found → found = address := by
    rintro _ _ found ⟨rfl, rfl⟩ held
    rw [At] at here held
    exact Option.some.inj (held.symm.trans here)
  have there : ∀ found, found = address → InSlot after.slots found := by
    rintro _ rfl
    exact ⟨msgid, _, here⟩
  rw [inSlot_change custody (fun item cid => item = msgid ∧ cid = cmd.cid.toNat) kept only there other]
  constructor
  · rintro (new | ⟨held, untouched⟩)
    · exact .inl new
    · exact .inr ⟨held, untouched msgid _ ⟨rfl, rfl⟩⟩
  · rintro (new | ⟨held, untouched⟩)
    · exact .inl new
    · refine .inr ⟨held, ?_⟩
      rintro _ _ ⟨rfl, rfl⟩
      exact untouched

section StartIo
variable {host : Host} {memory : Memory} {address processor logpage : Nat}

private theorem builtReadWrite_cid (host : Host) (memory : Memory) (address : Nat) (offset : BitVec 64) (len : BitVec 32)
    (isWrite : Bool) : ((host.builtReadWrite memory address offset len isWrite).cmdOf address).cid =
      (host.commandOf address).cid := by
  simp only [Host.cmdOf, Host.builtReadWrite, Host.putSrbExt, Heap.put_srbext, Function.update_self, buiildCmdReadWrite]
  rw [SrbExt.withBuffer_cid]
  rfl

private theorem builtFirmware_cid (host : Host) (memory : Memory) (address logpage : Nat) :
    ((host.builtFirmware memory address logpage).cmdOf address).cid = (host.commandOf address).cid := by
  simp only [Host.cmdOf, Host.builtFirmware, Host.putSrbExt, Heap.put_srbext, Function.update_self,
    Host.firmwareGetInfoCmd_cid]
  rfl

private theorem CNvmeQueue.accepts_congr (queue : CNvmeQueue) {cmd other : NvmeCommand} (same : cmd.cid = other.cid) :
    queue.accepts cmd ↔ queue.accepts other := by
  simp only [CNvmeQueue.accepts, same]

private theorem acceptsIo_built {queue : CNvmeQueue} {offset : BitVec 64} {len : BitVec 32} {isWrite : Bool} :
    (host.builtReadWrite memory address offset len isWrite).AcceptsIo processor
        ((host.builtReadWrite memory address offset len isWrite).cmdOf address) queue ↔
      host.AcceptsIo processor (host.commandOf address) queue := by
  have same := queue.accepts_congr (builtReadWrite_cid host memory address offset len isWrite)
  constructor
  · intro accepts
    exact ⟨accepts.working, accepts.registered, accepts.selected, same.mp accepts.accepts⟩
  · intro accepts
    exact ⟨accepts.working, accepts.registered, accepts.selected, same.mpr accepts.accepts⟩

private theorem acceptsAdm_built {queue : CNvmeQueue} :
    (host.builtFirmware memory address logpage).AcceptsAdm
        ((host.builtFirmware memory address logpage).cmdOf address) queue ↔
      host.AcceptsAdm (host.commandOf address) queue := by
  have same := queue.accepts_congr (builtFirmware_cid host memory address logpage)
  constructor
  · intro accepts
    exact ⟨accepts.working, accepts.selected, same.mp accepts.accepts⟩
  · intro accepts
    exact ⟨accepts.working, accepts.selected, same.mpr accepts.accepts⟩

end StartIo

section Steps
variable {before after : Ledger}

theorem Ledger.step_some {event : AdapterEvent} (taken : before.step event = some after) :
    before.adapter.step event = some after.adapter ∧
      Machine.run BlockPool.apply before.pool (before.adapter.poolOps event) = some after.pool := by
  obtain ⟨adapter, stepped, mapped⟩ := Option.bind_eq_some_iff.mp taken
  obtain ⟨pool, ran, rfl⟩ := Option.map_eq_some_iff.mp mapped
  exact ⟨stepped, ran⟩

theorem not_inSlot_of_free {slots : Nat → Nat → Option SrbExtPtr} {waiting : Nat → Bool} {address : Nat}
    (free : Custody.Free (Holds slots waiting) address) : ¬ InSlot slots address := by
  rintro ⟨msgid, cid, held⟩
  exact free (.slot msgid cid) held

/-- The step puts an extension, with the buffers taken for it, into a slot. -/
theorem settles_accept {event : AdapterEvent} {address msgid : Nat} (queue : CNvmeQueue) (cmd : NvmeCommand)
    (sound : before.Sound) (adapter : after.adapter.Sound 2)
    (outside : ¬ InSlot before.adapter.host.slots address)
    (waiting : ∀ other, after.adapter.waiting other = true → before.adapter.waiting other = true ∧ other ≠ address)
    (present : before.adapter.host.queue msgid = some queue)
    (slots : after.adapter.host.slots = (before.adapter.host.setQueue msgid (queue.accept address cmd)).slots)
    (kept : Heap.KeepsBuffers (· = address) before.adapter.host.heap after.adapter.host.heap)
    (ran : Machine.run BlockPool.apply before.pool
      ((after.adapter.host.heap.srbext address).buffers.map (.alloc · address)) = some after.pool)
    (drops : ∀ other, before.adapter.Drops event other ↔ At before.adapter.host.slots msgid cmd.cid.toNat other)
    (page : ¬ before.adapter.LosesPage event) : before.Settles event after := by
  have inSlot := inSlot_accept sound.adapter.custody present slots
  have elsewhere : ∀ other, InSlot before.adapter.host.slots other → other ≠ address := by
    rintro other held rfl
    exact outside held
  obtain ⟨nodup, books, complete⟩ := sound.books.allocs ran
  refine .of_books adapter ?_ ?_ sound books complete ?_ ?_
  · intro other waits
    obtain ⟨earlier, apart⟩ := waiting other waits
    rw [kept.same other apart]
    exact sound.blank other earlier
  · intro other held
    rcases (inSlot other).mp held with rfl | ⟨there, _⟩
    · exact nodup
    · rw [kept.same other (elsewhere other there)]
      exact sound.single other there
  · rintro buffer other ⟨held, member⟩
    rcases (inSlot other).mp held with rfl | ⟨there, _⟩
    · exact .inr ⟨member, rfl⟩
    · rw [kept.same other (elsewhere other there)] at member
      exact .inl ⟨there, member⟩
  · constructor
    · rintro cleans buffer other (⟨held, member⟩ | ⟨member, rfl⟩)
      · refine ⟨(inSlot other).mpr (.inr ⟨held, ?_⟩), ?_⟩
        · intro replaced
          rw [cleans.drops other ((drops other).mpr replaced)] at member
          cases member
        · rwa [kept.same other (elsewhere other held)]
      · exact ⟨(inSlot other).mpr (.inl rfl), member⟩
    · intro all
      refine ⟨?_, page⟩
      intro other dropped
      have held := dropped.inSlot
      apply List.eq_nil_iff_forall_not_mem.mpr
      intro buffer member
      rcases (inSlot other).mp (all buffer other (.inl ⟨held, member⟩)).1 with rfl | ⟨_, stays⟩
      · exact elsewhere other held rfl
      · exact stays ((drops other).mp dropped)

/-- The step completes the extension at once, whatever was taken for it. -/
theorem settles_refuse {event : AdapterEvent} {address : Nat} (blocks : List Nat) (sound : before.Sound)
    (adapter : after.adapter.Sound 2)
    (outside : ¬ InSlot before.adapter.host.slots address)
    (waiting : ∀ other, after.adapter.waiting other = true → before.adapter.waiting other = true ∧ other ≠ address)
    (slots : after.adapter.host.slots = before.adapter.host.slots)
    (kept : Heap.KeepsBuffers (· = address) before.adapter.host.heap after.adapter.host.heap)
    (ran : Machine.run BlockPool.apply before.pool (blocks.map (.alloc · address)) = some after.pool)
    (drops : ∀ other, ¬ before.adapter.Drops event other) (page : before.adapter.LosesPage event ↔ blocks ≠ []) :
    before.Settles event after := by
  have elsewhere : ∀ other, InSlot before.adapter.host.slots other → other ≠ address := by
    rintro other held rfl
    exact outside held
  have attached : ∀ buffer other, after.adapter.host.Attached buffer other ↔
      before.adapter.host.Attached buffer other := by
    intro buffer other
    unfold Host.Attached
    rw [slots]
    constructor
    · rintro ⟨held, member⟩
      rw [kept.same other (elsewhere other held)] at member
      exact ⟨held, member⟩
    · rintro ⟨held, member⟩
      rw [← kept.same other (elsewhere other held)] at member
      exact ⟨held, member⟩
  obtain ⟨nodup, books, complete⟩ := sound.books.allocs ran
  refine .of_books adapter ?_ ?_ sound books complete ?_ ?_
  · intro other waits
    obtain ⟨earlier, apart⟩ := waiting other waits
    rw [kept.same other apart]
    exact sound.blank other earlier
  · intro other held
    rw [slots] at held
    rw [kept.same other (elsewhere other held)]
    exact sound.single other held
  · intro buffer other there
    exact .inl ((attached buffer other).mp there)
  · constructor
    · rintro cleans buffer other (there | ⟨member, _⟩)
      · exact (attached buffer other).mpr there
      · have lost : before.adapter.LosesPage event := by
          apply page.mpr
          rintro rfl
          cases member
        exact absurd lost cleans.page
    · intro all
      refine ⟨fun other dropped => absurd dropped (drops other), ?_⟩
      intro lost
      obtain ⟨block, rest, rfl⟩ := List.exists_cons_of_ne_nil (page.mp lost)
      have there := (attached block address).mp (all block address (.inr ⟨List.mem_cons_self, rfl⟩))
      exact elsewhere address there.1 rfl

private theorem settles_buildIo {address : Nat} {srb : Srb} (sound : before.Sound)
    (taken : before.step (.buildIo address srb) = some after) : before.Settles (.buildIo address srb) after := by
  obtain ⟨stepped, ran⟩ := Ledger.step_some taken
  have adapter := sound.adapter.step (.inl (Nat.le_refl 2)) stepped
  have pool : after.pool = before.pool := (Option.some.inj ran).symm
  obtain ⟨idle, same⟩ := Adapter.step_buildIo stepped
  have outside := not_inSlot_of_free (sound.adapter.free_of_idle idle)
  obtain ⟨initialised, kept⟩ := hwBuildIo_buffers before.adapter.host address srb
  have host : after.adapter.host = (before.adapter.host.hwBuildIo address srb).2 := by rw [← same]; rfl
  have waiting : after.adapter.waiting =
      Function.update before.adapter.waiting address (before.adapter.host.hwBuildIo address srb).1 := by rw [← same]; rfl
  have drops : ∀ other, before.adapter.Drops (.buildIo address srb) other ↔
      (srb.RemovesAdapter ∧ before.adapter.host.device.isWorking = true) ∧ InSlot before.adapter.host.slots other := by
    intro other
    constructor
    · intro drops
      cases drops with
      | removal removes working held => exact ⟨⟨removes, working⟩, held⟩
    · rintro ⟨⟨removes, working⟩, held⟩
      exact .removal removes working held
  refine .of_drops (fun _ => False) adapter ?_ sound pool ?_ (fun _ => False.elim) ?_ id
  · intro other waits
    rw [host]
    by_cases here : other = address
    · subst other
      exact initialised
    · rw [waiting, Function.update_of_ne here] at waits
      rw [kept.same other here]
      exact sound.blank other waits
  · intro other
    rw [host, inSlot_hwBuildIo, drops, false_or]
    constructor
    · rintro ⟨held, stays⟩
      exact ⟨held, fun gone => stays gone.1⟩
    · rintro ⟨held, stays⟩
      exact ⟨held, fun gone => stays ⟨gone, held⟩⟩
  · intro other held
    rw [host]
    exact kept.same other fun same => outside (same ▸ held)

section StartIo
variable {address processor logpage : Nat} {memory : Memory} {host : Host}

private theorem firmwareGetInfoOps_eq (blank : (before.adapter.host.heap.srbext address).buffers = [])
    (request : (before.adapter.host.heap.srbext address).FirmwareRequest) :
    before.adapter.host.hwStartIoOps memory address logpage = .alloc logpage address ::
      if !((before.adapter.host.builtFirmware memory address logpage).submitAdmCmd address).1.ntSuccess then
        [.free logpage] else [] := by
  obtain ⟨extBuf, _⟩ : (before.adapter.host.heap.srbext address).extBuf = none ∧
      (before.adapter.host.heap.srbext address).prp2VA = none := by
    simpa [SrbExt.buffers] using blank
  rw [hwStartIoOps_firmware request]
  simp only [Host.firmwareGetInfoOps, SrbExt.resetExtBufOps, extBuf, buildPrpOps_logpage, Option.toList_none,
    List.map_nil, List.append_nil]
  rfl

/-- What every way `HwStartIo` ends has in common. -/
structure Started (before after : Ledger) (address logpage : Nat) (memory : Memory) (host : Host) : Prop where
  sound : before.Sound
  adapter : after.adapter.Sound 2
  blank : (before.adapter.host.heap.srbext address).buffers = []
  outside : ¬ InSlot before.adapter.host.slots address
  waiting : ∀ other, after.adapter.waiting other = true → before.adapter.waiting other = true ∧ other ≠ address
  host : after.adapter.host = host
  ran : Machine.run BlockPool.apply before.pool (before.adapter.host.hwStartIoOps memory address logpage) = some after.pool

private theorem settles_answered {srbext : SrbExt} {status : SrbStatus} (plain : before.adapter.host.SubmitsNothing address)
    (started : Started before after address logpage memory
      ((before.adapter.host.putSrbExt address srbext).completeSrb address status)) :
    before.Settles (.startIo address processor logpage memory) after := by
  have ran := started.ran
  rw [hwStartIoOps_plain plain] at ran
  refine settles_refuse [] started.sound started.adapter started.outside started.waiting ?_ ?_ ran ?_ ?_
  · rw [started.host]
    rfl
  · rw [started.host]
    exact Heap.KeepsBuffers.trans (.put (.inl rfl)) (.completeSrb ..)
  · intro other drops
    cases drops with
    | replacedIo transfers => exact absurd (plain.transfers.symm.trans transfers) (by simp)
    | replacedAdm request => exact plain.other request
  · simp [Adapter.LosesPage, scsiReadWriteOps_plain plain]

private theorem not_firmware (transfers : before.adapter.host.transfers address = true) :
    ¬ (before.adapter.host.heap.srbext address).FirmwareRequest := by
  intro request
  exact Host.executeScsi_ne_ioControl ((Host.transfers_function transfers).symm.trans request.function)

private theorem settles_sentIo {offset : BitVec 64} {len : BitVec 32} {isWrite : Bool} {queue : CNvmeQueue}
    (transfers : before.adapter.host.transfers address = true)
    (accepts : (before.adapter.host.builtReadWrite memory address offset len isWrite).AcceptsIo processor
      ((before.adapter.host.builtReadWrite memory address offset len isWrite).cmdOf address) queue)
    (started : Started before after address logpage memory
      ((before.adapter.host.builtReadWrite memory address offset len isWrite).acceptedIo address processor queue)) :
    before.Settles (.startIo address processor logpage memory) after := by
  let built := before.adapter.host.builtReadWrite memory address offset len isWrite
  have selected : before.adapter.host.device.ioQueue (processor % before.adapter.host.device.registeredIoQ.toNat) =
      some queue := accepts.selected
  have present : before.adapter.host.queue (processor % before.adapter.host.device.registeredIoQ.toNat + 1) = some queue := by
    simpa [Host.queue] using selected
  have cid : (built.cmdOf address).cid = (before.adapter.host.commandOf address).cid := builtReadWrite_cid ..
  have taken := acceptsIo_built.mp accepts
  have accepted : ∀ except, Heap.KeepsBuffers except built.heap (built.acceptedIo address processor queue).heap := by
    intro except
    have indexed : Heap.KeepsBuffers except built.heap (built.indexedHeap address processor) := .put (.inr rfl)
    exact indexed.trans (.accepted queue address)
  have ran := started.ran
  rw [hwStartIoOps_transfers transfers, builtReadWrite_buffers started.blank transfers memory offset len isWrite] at ran
  refine settles_accept queue (built.cmdOf address) started.sound started.adapter started.outside
    started.waiting present ?_ ?_ ?_ ?_ ?_
  · rw [started.host, Host.acceptedIo_eq]
    change (built.setQueue _ _).slots = _
    rw [Host.slots_setQueue, Host.slots_setQueue]
    rfl
  · rw [started.host]
    exact Heap.KeepsBuffers.trans (.put (.inl rfl)) (accepted _)
  · rw [started.host, (accepted fun _ => False).same address id]
    exact ran
  · intro other
    rw [cid]
    constructor
    · intro drops
      cases drops with
      | replacedIo _ _ held => exact held
      | replacedAdm request => exact absurd request (not_firmware transfers)
    · exact .replacedIo transfers taken
  · intro lost
    exact lost.2 queue taken

private theorem settles_refusedIo {offset : BitVec 64} {len : BitVec 32} {isWrite : Bool} {next : Host} {status : SrbStatus}
    (transfers : before.adapter.host.transfers address = true)
    (refuses : ∀ queue, ¬ (before.adapter.host.builtReadWrite memory address offset len isWrite).AcceptsIo processor
      ((before.adapter.host.builtReadWrite memory address offset len isWrite).cmdOf address) queue)
    (same : next = before.adapter.host.builtReadWrite memory address offset len isWrite ∨
      next = { before.adapter.host.builtReadWrite memory address offset len isWrite with
        heap := (before.adapter.host.builtReadWrite memory address offset len isWrite).indexedHeap address processor })
    (started : Started before after address logpage memory (next.completeSrb address status)) :
    before.Settles (.startIo address processor logpage memory) after := by
  let built := before.adapter.host.builtReadWrite memory address offset len isWrite
  have refused : ∀ queue, ¬ before.adapter.host.AcceptsIo processor (before.adapter.host.commandOf address) queue :=
    fun queue accepts => refuses queue (acceptsIo_built.mpr accepts)
  have ops := builtReadWrite_buffers started.blank transfers memory offset len isWrite
  have ran := started.ran
  rw [hwStartIoOps_transfers transfers, ops] at ran
  have slots : next.slots = before.adapter.host.slots := by
    rcases same with rfl | rfl <;> rfl
  have kept : Heap.KeepsBuffers (· = address) before.adapter.host.heap next.heap := by
    rcases same with rfl | rfl
    · exact .put (.inl rfl)
    · exact Heap.KeepsBuffers.trans (.put (.inl rfl)) (.put (.inl rfl))
  refine settles_refuse _ started.sound started.adapter started.outside started.waiting ?_ ?_ ran ?_ ?_
  · rw [started.host, ← slots]
    rfl
  · rw [started.host]
    exact kept.trans (.completeSrb ..)
  · intro other drops
    cases drops with
    | replacedIo _ accepts => exact refused _ accepts
    | replacedAdm request => exact not_firmware transfers request
  · simp only [Adapter.LosesPage, ops]
    constructor
    · rintro ⟨some, _⟩ none
      exact some (by rw [none]; rfl)
    · intro some
      exact ⟨fun none => some (List.map_eq_nil_iff.mp none), refused⟩

private theorem settles_sentAdm {queue : CNvmeQueue} (request : (before.adapter.host.heap.srbext address).FirmwareRequest)
    (accepts : (before.adapter.host.builtFirmware memory address logpage).AcceptsAdm
      ((before.adapter.host.builtFirmware memory address logpage).cmdOf address) queue)
    (started : Started before after address logpage memory
      ((before.adapter.host.builtFirmware memory address logpage).acceptedAdm address queue)) :
    before.Settles (.startIo address processor logpage memory) after := by
  let built := before.adapter.host.builtFirmware memory address logpage
  have present : before.adapter.host.queue 0 = some queue := accepts.selected
  have cid : (built.cmdOf address).cid = (before.adapter.host.commandOf address).cid := builtFirmware_cid ..
  have taken := acceptsAdm_built.mp accepts
  have accepted : ∀ except, Heap.KeepsBuffers except built.heap (built.acceptedAdm address queue).heap :=
    fun _ => .accepted queue address
  have submitted : (built.submitAdmCmd address).1.ntSuccess = true := by
    rcases built.submitAdmCmd_spec address with ⟨_, _, same⟩ | ⟨refuses, _⟩
    · rw [same]
      rfl
    · exact absurd accepts (refuses queue)
  have ran := started.ran
  rw [firmwareGetInfoOps_eq started.blank request, submitted] at ran
  have transfers : before.adapter.host.transfers address ≠ true :=
    fun transfers => not_firmware transfers request
  refine settles_accept queue (built.cmdOf address) started.sound started.adapter started.outside
    started.waiting present ?_ ?_ ?_ ?_ ?_
  · rw [started.host]
    change (built.setQueue 0 _).slots = _
    rw [Host.slots_setQueue, Host.slots_setQueue]
    rfl
  · rw [started.host]
    exact Heap.KeepsBuffers.trans (.put (.inl rfl)) (accepted _)
  · rw [started.host, (accepted fun _ => False).same address id, builtFirmware_buffers started.blank]
    exact ran
  · intro other
    rw [cid]
    constructor
    · intro drops
      cases drops with
      | replacedIo also => exact absurd also transfers
      | replacedAdm _ _ held => exact held
    · exact .replacedAdm request taken
  · intro lost
    apply lost.1
    simp [Host.scsiReadWriteOps, transfers]

private theorem settles_refusedAdm {status : SrbStatus} (request : (before.adapter.host.heap.srbext address).FirmwareRequest)
    (refuses : ∀ queue, ¬ (before.adapter.host.builtFirmware memory address logpage).AcceptsAdm
      ((before.adapter.host.builtFirmware memory address logpage).cmdOf address) queue)
    (started : Started before after address logpage memory
      ((before.adapter.host.builtFirmware memory address logpage).completeSrb address status)) :
    before.Settles (.startIo address processor logpage memory) after := by
  let built := before.adapter.host.builtFirmware memory address logpage
  have failed : (built.submitAdmCmd address).1.ntSuccess = false := by
    rcases built.submitAdmCmd_spec address with ⟨queue, accepts, _⟩ | ⟨_, _, fails, same⟩
    · exact absurd accepts (refuses queue)
    · rw [same]
      exact fails
  have transfers : before.adapter.host.transfers address ≠ true :=
    fun transfers => not_firmware transfers request
  have ran := started.ran
  rw [firmwareGetInfoOps_eq started.blank request, failed] at ran
  -- the log page is freed at once
  have pool := BlockPool.run_alloc_free ran
  refine settles_refuse [] started.sound started.adapter started.outside started.waiting ?_ ?_ ?_ ?_ ?_
  · rw [started.host]
    rfl
  · rw [started.host]
    exact Heap.KeepsBuffers.trans (.put (.inl rfl)) (.completeSrb ..)
  · rw [pool]
    rfl
  · intro other drops
    cases drops with
    | replacedIo also => exact transfers also
    | replacedAdm _ accepts => exact refuses _ (acceptsAdm_built.mpr accepts)
  · simp [Adapter.LosesPage, Host.scsiReadWriteOps, transfers]

private theorem settles_startIo (sound : before.Sound)
    (taken : before.step (.startIo address processor logpage memory) = some after) :
    before.Settles (.startIo address processor logpage memory) after := by
  obtain ⟨stepped, ran⟩ := Ledger.step_some taken
  have adapter := sound.adapter.step (.inl (Nat.le_refl 2)) stepped
  obtain ⟨waits, host, returned, same⟩ := Adapter.step_startIo stepped
  have waiting : ∀ other, after.adapter.waiting other = true → before.adapter.waiting other = true ∧ other ≠ address := by
    intro other waits
    rw [← same] at waits
    by_cases here : other = address
    · subst other
      simp at waits
    · exact ⟨by simpa [here] using waits, here⟩
  have started : Started before after address logpage memory host :=
    ⟨sound, adapter, sound.blank address waits, not_inSlot_of_free (sound.adapter.startIo waits).free, waiting,
      by rw [← same], ran⟩
  cases Host.hwStartIo_end returned with
  | answered plain => exact settles_answered plain started
  | sentIo _ _ _ transfers accepts => exact settles_sentIo transfers accepts started
  | refusedIo _ _ _ transfers refuses left => exact settles_refusedIo transfers refuses left started
  | sentAdm request accepts => exact settles_sentAdm request accepts started
  | refusedAdm request refuses => exact settles_refusedAdm request refuses started

end StartIo

/-- An internal command is in a slot of the admin queue, or its extension is given back. -/
theorem Adapter.command_ends (adapter : Adapter) (address : Nat) (cmd : NvmeCommand) :
    (∃ queue, adapter.host.AcceptsAdm cmd queue ∧ (adapter.command address cmd).host =
        (adapter.host.putSrbExt address { SrbExt.init none with nvmeCmd := cmd }).acceptedAdm address queue) ∨
      (∀ queue, ¬ adapter.host.AcceptsAdm cmd queue) ∧ (adapter.command address cmd).host =
        (adapter.host.putSrbExt address { SrbExt.init none with nvmeCmd := cmd }).putSrbExt address
          { SrbExt.init none with nvmeCmd := cmd, initOK := false } := by
  let built := adapter.host.putSrbExt address { SrbExt.init none with nvmeCmd := cmd }
  have cmdOf : (built.heap.srbext address).nvmeCmd = cmd := by simp [built, Host.putSrbExt]
  rcases built.submitAdmCmd_spec address with ⟨queue, accepts, submitted⟩ | ⟨refuses, status, fails, submitted⟩
  · rw [cmdOf] at accepts
    refine .inl ⟨queue, ⟨accepts.working, accepts.selected, accepts.accepts⟩, ?_⟩
    simp only [Adapter.command]
    rw [submitted]
    simp [NtStatus.ntSuccess, built]
  · rw [cmdOf] at refuses
    refine .inr ⟨fun queue accepts => refuses queue ⟨accepts.working, accepts.selected, accepts.accepts⟩, ?_⟩
    simp only [Adapter.command]
    rw [submitted]
    simp [fails, built, Host.putSrbExt]

theorem Adapter.command_buffers (adapter : Adapter) (address : Nat) (cmd : NvmeCommand) :
    ((adapter.command address cmd).host.heap.srbext address).buffers = [] := by
  let built := adapter.host.putSrbExt address { SrbExt.init none with nvmeCmd := cmd }
  have initialised : (built.heap.srbext address).buffers = [] := by
    simp [built, Host.putSrbExt, SrbExt.buffers, SrbExt.init]
  rcases adapter.command_ends address cmd with ⟨queue, _, stored⟩ | ⟨_, dropped⟩
  · have accepted : Heap.KeepsBuffers (fun _ => False) built.heap (built.acceptedAdm address queue).heap :=
      .accepted queue address
    rw [stored]
    exact (accepted.same address id).trans initialised
  · rw [dropped]
    simp [Host.putSrbExt, SrbExt.buffers, SrbExt.init]

private theorem settles_command {address : Nat} {cmd : NvmeCommand} (sound : before.Sound)
    (taken : before.step (.command address cmd) = some after) : before.Settles (.command address cmd) after := by
  obtain ⟨stepped, ran⟩ := Ledger.step_some taken
  have adapter := sound.adapter.step (.inl (Nat.le_refl 2)) stepped
  obtain ⟨idle, same⟩ := Adapter.step_command stepped
  have free := sound.adapter.free_of_idle idle
  have outside := not_inSlot_of_free free
  have waiting : ∀ other, after.adapter.waiting other = true → before.adapter.waiting other = true ∧ other ≠ address := by
    intro other waits
    have earlier : before.adapter.waiting other = true := by
      rw [← same] at waits
      exact waits
    refine ⟨earlier, ?_⟩
    rintro rfl
    exact free .startIo earlier
  let built := before.adapter.host.putSrbExt address { SrbExt.init none with nvmeCmd := cmd }
  have cmdOf : (built.heap.srbext address).nvmeCmd = cmd := by simp [built, Host.putSrbExt]
  have initialised : (built.heap.srbext address).buffers = [] := by
    simp only [built, Host.putSrbExt, Heap.put_srbext, Function.update_self]
    rfl
  have host : after.adapter.host = (before.adapter.command address cmd).host := by rw [← same]
  rcases before.adapter.command_ends address cmd with ⟨queue, accepts, stored⟩ | ⟨refuses, dropped⟩
  · have stored : after.adapter.host = built.acceptedAdm address queue := host.trans stored
    have accepted : ∀ except, Heap.KeepsBuffers except built.heap (built.acceptedAdm address queue).heap :=
      fun _ => .accepted queue address
    refine settles_accept queue cmd sound adapter outside waiting
      (show before.adapter.host.queue 0 = some queue from accepts.selected) ?_ ?_ ?_ ?_ id
    · rw [stored, Host.acceptedAdm, cmdOf]
      change (built.setQueue 0 _).slots = _
      rw [Host.slots_setQueue, Host.slots_setQueue]
      rfl
    · rw [stored]
      exact Heap.KeepsBuffers.trans (.put (.inl rfl)) (accepted _)
    · rw [stored, (accepted fun _ => False).same address id, initialised]
      exact ran
    · intro other
      constructor
      · intro drops
        cases drops with
        | replacedByCommand _ held => exact held
      · exact .replacedByCommand accepts
  · have dropped := host.trans dropped
    refine settles_refuse [] sound adapter outside waiting ?_ ?_ ran ?_ ?_
    · rw [dropped]
      rfl
    · rw [dropped]
      exact Heap.KeepsBuffers.trans (.put (.inl rfl)) (.put (.inl rfl))
    · intro other drops
      cases drops with
      | @replacedByCommand _ _ _ queue accepts => exact refuses queue accepts
    · simp [Adapter.LosesPage]

private theorem settles_resetBus (sound : before.Sound) (taken : before.step .resetBus = some after) :
    before.Settles .resetBus after := by
  obtain ⟨stepped, ran⟩ := Ledger.step_some taken
  have adapter := sound.adapter.step (.inl (Nat.le_refl 2)) stepped
  obtain ⟨host, returned, same⟩ := Adapter.step_resetBus stepped
  obtain ⟨emptied, stays, kept⟩ := hwResetBus_spec returned
  have drops : ∀ other, before.adapter.Drops .resetBus other ↔ ∃ msgid cid,
      before.adapter.host.ResetReaches msgid cid ∧ At before.adapter.host.slots msgid cid other := by
    intro other
    constructor
    · intro drops
      cases drops with
      | reset working adm reached present inside held =>
        exact ⟨_, _, ⟨working, adm, reached, _, present, inside⟩, held⟩
    · rintro ⟨msgid, cid, ⟨working, adm, reached, queue, present, inside⟩, held⟩
      exact .reset working adm reached present inside held
  have buffers : ∀ other, (after.adapter.host.heap.srbext other).buffers =
      (before.adapter.host.heap.srbext other).buffers := by
    intro other
    rw [← same]
    exact (kept fun _ => False).same other id
  refine .of_drops (fun _ => False) adapter ?_ sound (Option.some.inj ran).symm ?_ (fun _ => False.elim)
    (fun other _ => buffers other) id
  · intro other waits
    rw [← same] at waits
    rw [buffers]
    exact sound.blank other waits
  · intro other
    have filled : ∀ msgid cid item, before.adapter.host.ResetReaches msgid cid → At host.slots msgid cid item → False := by
      intro msgid cid item reached held
      rw [At, emptied msgid cid reached] at held
      cases held
    rw [← same, inSlot_change sound.adapter.custody before.adapter.host.ResetReaches stays filled
      (fun _ => False.elim) other, drops]
    simp only [false_or, not_exists, not_and]

private theorem settles_surpriseRemoval (sound : before.Sound) (taken : before.step .surpriseRemoval = some after) :
    before.Settles .surpriseRemoval after := by
  obtain ⟨stepped, ran⟩ := Ledger.step_some taken
  have adapter := sound.adapter.step (.inl (Nat.le_refl 2)) stepped
  have same := Option.some.inj stepped
  have buffers : ∀ other, (after.adapter.host.heap.srbext other).buffers =
      (before.adapter.host.heap.srbext other).buffers := by
    intro other
    rw [← same]
    exact congrArg (fun heap : Heap => (heap.srbext other).buffers) (teardown_heap before.adapter.host)
  refine .of_drops (fun _ => False) adapter ?_ sound (Option.some.inj ran).symm ?_ (fun _ => False.elim)
    (fun other _ => buffers other) id
  · intro other waits
    rw [← same] at waits
    rw [buffers]
    exact sound.blank other waits
  · intro other
    rw [← same, inSlot_teardown, false_or]
    constructor
    · rintro ⟨held, idle⟩
      refine ⟨held, ?_⟩
      intro drops
      cases drops with
      | surpriseRemoval working => exact absurd (idle.symm.trans working) (by simp)
    · rintro ⟨held, stays⟩
      exact ⟨held, Bool.eq_false_iff.mpr fun working => stays (.surpriseRemoval working held)⟩

private theorem not_drops_advance {adapter : Adapter} {msgid : Nat} {event : Event} (address : Nat) :
    ¬ adapter.Drops (.advance msgid event) address := by
  intro drops
  cases drops

theorem cleansUp_advance (adapter : Adapter) (msgid : Nat) (event : Event) : CleansUp adapter (.advance msgid event) :=
  ⟨fun address drops => absurd drops (not_drops_advance address), id⟩

theorem settles_idle {msgid : Nat} {event : Event} (sound : before.Sound) (adapter : after.adapter.Sound 2)
    (pool : after.pool = before.pool) (waiting : after.adapter.waiting = before.adapter.waiting)
    (slots : after.adapter.host.slots = before.adapter.host.slots)
    (buffers : ∀ other, InSlot before.adapter.host.slots other ∨ before.adapter.waiting other = true →
      (after.adapter.host.heap.srbext other).buffers = (before.adapter.host.heap.srbext other).buffers) :
    before.Settles (.advance msgid event) after := by
  refine .of_drops (fun _ => False) adapter ?_ sound pool ?_ (fun _ => False.elim) ?_ id
  · intro other waits
    rw [waiting] at waits
    rw [buffers other (.inr waits)]
    exact sound.blank other waits
  · intro other
    rw [slots]
    simp [not_drops_advance]
  · intro other held
    exact buffers other (.inl held)

theorem settles_popped {msgid cid : Nat} {srbext : SrbExtPtr} (sound : before.Sound) (adapter : after.adapter.Sound 2)
    (held : before.adapter.host.slots msgid cid = some srbext) (waiting : after.adapter.waiting = before.adapter.waiting)
    (emptied : after.adapter.host.slots = Function.update before.adapter.host.slots msgid
      (Function.update (before.adapter.host.slots msgid) cid none))
    (kept : ∀ other, other ≠ srbext.address →
      after.adapter.host.heap.srbext other = before.adapter.host.heap.srbext other)
    (ran : Machine.run BlockPool.apply before.pool
      ((before.adapter.host.heap.srbext srbext.address).buffers.map .free) = some after.pool) :
    before.Settles (.advance msgid .iterate) after := by
  have here : ∀ other, At before.adapter.host.slots msgid cid other ↔ other = srbext.address := by
    intro other
    simp [At, held, eq_comm]
  have there : InSlot before.adapter.host.slots srbext.address := ⟨msgid, cid, (here _).mpr rfl⟩
  have stays : ∀ item tag, ¬ (item = msgid ∧ tag = cid) →
      after.adapter.host.slots item tag = before.adapter.host.slots item tag := by
    intro item tag outside
    rw [emptied]
    by_cases same : item = msgid
    · subst item
      have apart : tag ≠ cid := fun equal => outside ⟨rfl, equal⟩
      simp [apart]
    · simp [same]
  have filled : ∀ item tag found, (item = msgid ∧ tag = cid) → At after.adapter.host.slots item tag found → False := by
    rintro _ _ found ⟨rfl, rfl⟩ held
    simp [At, emptied] at held
  have inSlot : ∀ other, InSlot after.adapter.host.slots other ↔
      InSlot before.adapter.host.slots other ∧ other ≠ srbext.address := by
    intro other
    rw [inSlot_change sound.adapter.custody (fun item tag => item = msgid ∧ tag = cid) stays filled
      (fun _ => False.elim) other, false_or]
    constructor
    · rintro ⟨held, untouched⟩
      exact ⟨held, fun same => untouched msgid _ ⟨rfl, rfl⟩ ((here other).mpr same)⟩
    · rintro ⟨held, apart⟩
      refine ⟨held, ?_⟩
      rintro _ _ ⟨rfl, rfl⟩ at_
      exact apart ((here other).mp at_)
  obtain ⟨books, complete⟩ := sound.books.frees (sound.single _ there) (fun buffer member => ⟨there, member⟩)
    (fun buffer attached => attached.2) ran
  refine .of_books adapter ?_ ?_ sound books complete ?_ ?_
  · intro other waits
    rw [waiting] at waits
    have apart : other ≠ srbext.address := by
      rintro rfl
      exact not_inSlot_of_free (sound.adapter.startIo waits).free there
    rw [kept other apart]
    exact sound.blank other waits
  · intro other held
    obtain ⟨earlier, apart⟩ := (inSlot other).mp held
    rw [kept other apart]
    exact sound.single other earlier
  · rintro buffer other ⟨held, member⟩
    obtain ⟨earlier, apart⟩ := (inSlot other).mp held
    rw [kept other apart] at member
    exact ⟨⟨earlier, member⟩, apart⟩
  · constructor
    · rintro _ buffer other ⟨⟨earlier, member⟩, apart⟩
      refine ⟨(inSlot other).mpr ⟨earlier, apart⟩, ?_⟩
      rwa [kept other apart]
    · intro _
      exact cleansUp_advance ..

private theorem settles_iterate {msgid : Nat} {queue : CNvmeQueue} {loop : CompleteLoop} (sound : before.Sound)
    (adapter : after.adapter.Sound 2) (present : before.adapter.host.queue msgid = some queue)
    (waiting : after.adapter.waiting = before.adapter.waiting)
    (slots : after.adapter.host.slots = (before.adapter.host.setQueue msgid (queue.consume loop)).slots)
    (heap : after.adapter.host.heap = queue.poppedHeap before.adapter.host.heap loop)
    (ran : Machine.run BlockPool.apply before.pool (queue.completeOneOps before.adapter.host.heap loop) = some after.pool) :
    before.Settles (.advance msgid .iterate) after := by
  have inside := (sound.adapter.inRange msgid queue present).cplQ loop.cpl
  have popped := popped_of_lt inside
  have emptied : after.adapter.host.slots = Function.update before.adapter.host.slots msgid
      (Function.update (before.adapter.host.slots msgid) (queue.cplQ loop.cpl).entry.cid.toNat none) := by
    rw [slots, Host.slots_setQueue, CNvmeQueue.consume_history, poppedHistory_of_lt inside, Host.slots_of_queue present]
  rw [completeOneOps_eq] at ran
  cases held : queue.history.history (queue.cplQ loop.cpl).entry.cid.toNat with
  | none =>
    rw [popped, held] at ran
    refine settles_idle sound adapter (Option.some.inj ran).symm waiting ?_ ?_
    · rw [emptied]
      apply Function.update_eq_self_iff.mpr
      apply Function.update_eq_self_iff.mpr
      rw [Host.slots_of_queue present, held]
    · intro other _
      simp [heap, CNvmeQueue.poppedHeap, popped, held]
  | some srbext =>
    rw [popped, held] at ran
    refine settles_popped sound adapter (by rw [Host.slots_of_queue present, held]) waiting emptied ?_ ran
    intro other apart
    rw [heap]
    simp only [CNvmeQueue.poppedHeap, popped, held]
    exact finishSrbExt_other _ _ apart

private theorem settles_advance {msgid : Nat} {event : Event} (sound : before.Sound)
    (taken : before.step (.advance msgid event) = some after) : before.Settles (.advance msgid event) after := by
  obtain ⟨stepped, ran⟩ := Ledger.step_some taken
  have adapter := sound.adapter.step (.inl (Nat.le_refl 2)) stepped
  obtain ⟨queue, present, own, next, pair, same⟩ := Adapter.step_advance stepped
  have waiting : after.adapter.waiting = before.adapter.waiting := by rw [← same]; rfl
  have heap : after.adapter.host.heap = next.heap := by rw [← same]; rfl
  have buffers : next.heap = before.adapter.host.heap → ∀ other, InSlot before.adapter.host.slots other ∨
      before.adapter.waiting other = true →
      (after.adapter.host.heap.srbext other).buffers = (before.adapter.host.heap.srbext other).buffers := by
    intro unchanged other _
    rw [heap, unchanged]
  have slots : after.adapter.host.slots = (before.adapter.host.setQueue msgid next.queue).slots := by rw [← same]; rfl
  have unchanged : next.queue.history = queue.history → after.adapter.host.slots = before.adapter.host.slots := by
    intro history
    rw [slots, Host.slots_setQueue, history]
    exact Function.update_eq_self_iff.mpr (Host.slots_of_queue present).symm
  cases System.step_transition pair with
  | accepted => cases own
  | refused => cases own
  | fetched => exact settles_idle sound adapter (Option.some.inj ran).symm waiting (unchanged rfl) (buffers rfl)
  | posted => exact settles_idle sound adapter (Option.some.inj ran).symm waiting (unchanged rfl) (buffers rfl)
  | entered => exact settles_idle sound adapter (Option.some.inj ran).symm waiting (unchanged rfl) (buffers rfl)
  | @iterated loop running =>
    have called : before.adapter.loops msgid = some loop := running
    simp only [Adapter.poolOps, present, called] at ran
    exact settles_iterate sound adapter present waiting slots heap ran
  | @left loop =>
    obtain ⟨cplDbl, doorbell⟩ := queue.leaveCompleteCmd_eq loop
    have history : (queue.leaveCompleteCmd loop).history = queue.history := by rw [doorbell]
    exact settles_idle sound adapter (Option.some.inj ran).symm waiting (unchanged history) (buffers rfl)
  | reset => cases own
  | scribbled => cases own

theorem Ledger.Sound.step {event : AdapterEvent} (sound : before.Sound) (taken : before.step event = some after) :
    before.Settles event after := by
  cases event with
  | buildIo address srb => exact settles_buildIo sound taken
  | startIo address processor logpage memory => exact settles_startIo sound taken
  | command address cmd => exact settles_command sound taken
  | resetBus => exact settles_resetBus sound taken
  | surpriseRemoval => exact settles_surpriseRemoval sound taken
  | advance msgid event => exact settles_advance sound taken

end Steps

theorem Ledger.Sound.initial (device : CNvmeDevice) (admConfig : Option QueuePairConfig)
    (ioConfig : Nat → Option QueuePairConfig) (srbext : Nat → SrbExt) (slotCount : BitVec 3) :
    (Ledger.initial (.initial device admConfig ioConfig srbext slotCount)).Sound := by
  have adapter := Adapter.Sound.initial device admConfig ioConfig srbext slotCount (show 1 ≤ 2 by decide)
  have empty : ∀ address, ¬ InSlot (Adapter.initial device admConfig ioConfig srbext slotCount).host.slots address := by
    rintro address ⟨msgid, cid, held⟩
    have outstanding := adapter.custody.live (show Holds _ _ (.slot msgid cid) address from held)
    cases outstanding.initOK
  exact ⟨adapter, fun _ waits => (by cases waits), fun address held => absurd held (empty address),
    .initial fun buffer address there => empty address there.1⟩

def sampleRead32 : Srb :=
  { sampleSrb with
    cdb := [0x28, 0, 0, 0, 0, 0, 0, 0, 32, 0]
    dataBuffer := 0x1800
    dataTransferLength := 0x4000 }

def sampleIoAdapter : Adapter :=
  .initial (Host.sampleHost (.init none)).device (some sampleQueue) (fun index => if index = 0 then some sampleQueue else none)
    (fun _ => .init none) 1

end SpcNvme
