import SpcNvme.Proofs.Staged

/-! What becomes of the memory taken for a request when StorPort and the other queues
come between the pieces of an iteration. To everybody but the call that popped it, an
extension's buffers are gone when it has left its slot, so that the pool without them
goes through the steps of the ledger. The call frees them with its `CleanUp` at the
latest, as long as nobody initialises the extension before that. -/

namespace SpcNvme

/-- At whatever point the call is that has the extension in its hand. -/
abbrev StagedAdapter.Handling : FinishPc → Prop := fun _ => True

private theorem StagedAdapter.due_of_held {state : StagedAdapter} {msgid : Nat} {srbext : SrbExtPtr} {pc : FinishPc}
    (held : state.finishing msgid = some (srbext, pc)) : state.Due Handling msgid srbext.address :=
  ⟨srbext, pc, held, trivial, rfl⟩

/-- Every buffer that was not freed is still referred to by its extension, which is in
a queue with a request that is pending, or in the hand of the call that will free the
buffer; and none was freed twice. -/
structure StagedLedger.Freed (ledger : StagedLedger) : Prop where
  once : ledger.pool.twice = []
  held : ∀ buffer address, ledger.pool.owner buffer = some address →
    buffer ∈ (ledger.staged.adapter.host.heap.srbext address).buffers
  responsible : ∀ buffer address, ledger.pool.owner buffer = some address →
    InSlot ledger.staged.adapter.host.slots address ∧ Outstanding ledger.staged.adapter.host.heap address ∨
      ∃ msgid, ledger.staged.Due StagedAdapter.Handling msgid address

def StagedAdapter.CleansUp (state : StagedAdapter) : StagedEvent → Prop
  | .adapter event => SpcNvme.CleansUp state.adapter event
  | .finish _ => True

/-- Nothing is delivered in an extension that `CompleteCmd` has popped and not cleaned up
yet, and the bus is reset while no call of `CompleteCmd` is in progress. -/
def StagedAdapter.Undisturbed (state : StagedAdapter) (event : StagedEvent) : Prop :=
  state.Apart StagedAdapter.Handling event ∧ match event with
    | .adapter event => ResetBetweenCalls state.adapter event
    | .finish _ => True

section Ops
variable {host : Host} {memory : Memory} {address logpage block : Nat}

private theorem buildPrpOps_frees (memory : Memory) (address buffer bufSize : Nat) :
    .free block ∉ buildPrpOps memory address buffer bufSize := by
  unfold buildPrpOps
  dsimp only
  split
  · simp
  · split
    · simp
    · split <;> simp

private theorem scsiReadWriteOps_frees (host : Host) (memory : Memory) (address : Nat) :
    .free block ∉ host.scsiReadWriteOps memory address := by
  unfold Host.scsiReadWriteOps
  dsimp only
  split
  · exact buildPrpOps_frees _ _ _ _
  · simp

/-- `HwStartIo` frees nothing but what it has just allocated. -/
theorem hwStartIoOps_frees (blank : (host.heap.srbext address).buffers = [])
    (member : .free block ∈ host.hwStartIoOps memory address logpage) :
    ∃ rest, host.hwStartIoOps memory address logpage = .alloc block address :: rest := by
  obtain ⟨extBuf, _⟩ : (host.heap.srbext address).extBuf = none ∧ (host.heap.srbext address).prp2VA = none := by
    simpa [SrbExt.buffers] using blank
  have firmware : .free block ∈ host.firmwareGetInfoOps memory address logpage →
      ∃ rest, host.firmwareGetInfoOps memory address logpage = .alloc block address :: rest := by
    intro member
    simp only [Host.firmwareGetInfoOps, SrbExt.resetExtBufOps, extBuf, buildPrpOps_logpage, Option.toList_none,
      List.map_nil, List.append_nil] at member ⊢
    rcases List.mem_append.mp member with first | last
    · simp at first
    · split at last
      · obtain rfl : block = logpage := by simpa using last
        exact ⟨_, rfl⟩
      · cases last
  simp only [Host.hwStartIoOps] at member ⊢
  split
  · next scsi =>
    rw [if_pos scsi] at member
    exact absurd member (scsiReadWriteOps_frees host memory address)
  · next other =>
    rw [if_neg other] at member
    split
    · next ioctl =>
      rw [if_pos ioctl] at member
      simp only [Host.startIoIoctlHandlerOps] at member ⊢
      split
      · next missing =>
        simp only [missing] at member
        cases member
      · next srb present =>
        simp only [present] at member
        split
        · next asks =>
          rw [if_pos asks] at member
          split
          · next short =>
            rw [if_pos short] at member
            cases member
          · next long =>
            rw [if_neg long] at member
            split
            · next getInfo =>
              rw [if_pos getInfo] at member
              exact firmware member
            · next function =>
              rw [if_neg function] at member
              cases member
        · next function =>
          rw [if_neg function] at member
          cases member
    · next function =>
      rw [if_neg function] at member
      cases member

end Ops

namespace StagedLedger

def Hidden (ledger : StagedLedger) (buffer : Nat) : Prop :=
  ∃ msgid address, ledger.staged.Due StagedAdapter.Handling msgid address ∧
    buffer ∈ (ledger.staged.adapter.host.heap.srbext address).buffers

/-- The ledger as everybody else sees it. -/
noncomputable def settled (ledger : StagedLedger) : Ledger := ⟨ledger.staged.adapter, ledger.pool.without ledger.Hidden⟩

structure Sound (ledger : StagedLedger) : Prop where
  staged : ledger.staged.Sound 2 StagedAdapter.Handling
  settled : ledger.settled.Sound
  owned : ∀ msgid address, ledger.staged.Due StagedAdapter.Handling msgid address →
    ∀ buffer ∈ (ledger.staged.adapter.host.heap.srbext address).buffers, ledger.pool.owner buffer = some address
  single : ∀ msgid address, ledger.staged.Due StagedAdapter.Handling msgid address →
    (ledger.staged.adapter.host.heap.srbext address).buffers.Nodup

variable {before after : StagedLedger} {event : StagedEvent}

private theorem Sound.hidden_owner (sound : before.Sound) {buffer : Nat} (hidden : before.Hidden buffer) :
    (before.pool.owner buffer).isSome := by
  obtain ⟨msgid, address, due, member⟩ := hidden
  rw [sound.owned msgid address due buffer member]
  rfl

/-- A buffer that its owner has in a slot is not hidden. -/
theorem Sound.attached_owner (sound : before.Sound) {buffer address : Nat}
    (attached : before.staged.adapter.host.Attached buffer address) : before.pool.owner buffer = some address := by
  have seen := sound.settled.books.owns buffer address attached
  by_cases hidden : before.Hidden buffer
  · have none : (before.pool.without before.Hidden).owner buffer = none := if_pos hidden
    exact absurd (seen.symm.trans none) (by simp)
  · exact (BlockPool.State.without_owner hidden).symm.trans seen

private theorem Sound.freed_iff (sound : before.Sound) : Freed before ↔ SpcNvme.Freed before.settled := by
  constructor
  · intro freed
    have visible : ∀ buffer address, before.settled.pool.owner buffer = some address →
        before.pool.owner buffer = some address ∧ ¬ before.Hidden buffer := by
      intro buffer address out
      by_cases hidden : before.Hidden buffer
      · have none : before.settled.pool.owner buffer = none := if_pos hidden
        exact absurd (out.symm.trans none) (by simp)
      · exact ⟨(BlockPool.State.without_owner hidden).symm.trans out, hidden⟩
    have slot : ∀ buffer address, before.settled.pool.owner buffer = some address →
        InSlot before.staged.adapter.host.slots address ∧ Outstanding before.staged.adapter.host.heap address := by
      intro buffer address out
      obtain ⟨owner, shown⟩ := visible buffer address out
      rcases freed.responsible buffer address owner with there | ⟨msgid, due⟩
      · exact there
      · exact absurd ⟨msgid, address, due, freed.held buffer address owner⟩ shown
    refine ⟨freed.once, ?_, fun buffer address out => (slot buffer address out).2⟩
    intro buffer address out
    exact ⟨(slot buffer address out).1, freed.held buffer address (visible buffer address out).1⟩
  · intro freed
    have cases : ∀ buffer address, before.pool.owner buffer = some address →
        before.settled.pool.owner buffer = some address ∨
          (∃ msgid, before.staged.Due StagedAdapter.Handling msgid address) ∧
            buffer ∈ (before.staged.adapter.host.heap.srbext address).buffers := by
      intro buffer address out
      by_cases hidden : before.Hidden buffer
      · obtain ⟨msgid, other, due, member⟩ := hidden
        obtain rfl := Option.some.inj (out.symm.trans (sound.owned msgid other due buffer member))
        exact .inr ⟨⟨msgid, due⟩, member⟩
      · exact .inl ((BlockPool.State.without_owner hidden).trans out)
    refine ⟨freed.once, ?_, ?_⟩
    · intro buffer address out
      rcases cases buffer address out with seen | ⟨_, member⟩
      · exact (freed.held buffer address seen).2
      · exact member
    · intro buffer address out
      rcases cases buffer address out with seen | ⟨due, _⟩
      · exact .inl ⟨(freed.held buffer address seen).1, freed.pending buffer address seen⟩
      · exact .inr due

structure Settles (before : StagedLedger) (event : StagedEvent) (after : StagedLedger) : Prop where
  sound : after.Sound
  freed : Freed before → (Freed after ↔ before.staged.CleansUp event)

private theorem Settles.of_settled {own : AdapterEvent} (before_sound : before.Sound)
    (staged : after.staged.Sound 2 StagedAdapter.Handling) (settles : before.settled.Settles own after.settled)
    (cleans : before.staged.CleansUp event ↔ SpcNvme.CleansUp before.staged.adapter own)
    (owned : ∀ msgid address, after.staged.Due StagedAdapter.Handling msgid address →
      ∀ buffer ∈ (after.staged.adapter.host.heap.srbext address).buffers, after.pool.owner buffer = some address)
    (single : ∀ msgid address, after.staged.Due StagedAdapter.Handling msgid address →
      (after.staged.adapter.host.heap.srbext address).buffers.Nodup) : before.Settles event after := by
  have sound : after.Sound := ⟨staged, settles.sound, owned, single⟩
  refine ⟨sound, ?_⟩
  intro freed
  rw [sound.freed_iff, cleans]
  exact settles.freed (before_sound.freed_iff.mp freed)

/-- A step of the adapter that starts no iteration frees nothing that is hidden. -/
theorem Sound.visible_frees {own : AdapterEvent} (sound : before.Sound) (apart : ∀ msgid, own ≠ .advance msgid .iterate)
    {adapter : Adapter} {pool : Pool} (stepped : before.staged.adapter.step own = some adapter)
    (ran : Machine.run BlockPool.apply before.pool (before.staged.adapter.poolOps own) = some pool) {block : Nat}
    (member : .free block ∈ before.staged.adapter.poolOps own) : ¬ before.Hidden block := by
  cases own with
  | startIo target processor logpage memory =>
    have blank := sound.settled.blank target (Adapter.step_startIo stepped).1
    obtain ⟨rest, ops⟩ : ∃ rest, before.staged.adapter.poolOps (.startIo target processor logpage memory) =
        .alloc block target :: rest := hwStartIoOps_frees blank member
    rw [ops] at ran
    obtain ⟨next, taken, _⟩ := Machine.run_cons_some ran
    intro hidden
    have out := sound.hidden_owner hidden
    rw [(BlockPool.apply_alloc taken).1] at out
    cases out
  | advance msgid own =>
    cases own with
    | iterate => exact absurd rfl (apart msgid)
    | _ => exact absurd member List.not_mem_nil
  | _ => exact absurd member List.not_mem_nil

private theorem settles_other {own : AdapterEvent} {adapter : Adapter} (sound : before.Sound)
    (undisturbed : before.staged.Undisturbed (.adapter own)) (apart : ∀ msgid, own ≠ .advance msgid .iterate)
    (stepped : before.staged.adapter.step own = some adapter)
    (staged : after.staged = { before.staged with adapter := adapter })
    (ran : Machine.run BlockPool.apply before.pool (before.staged.poolOps (.adapter own)) = some after.pool) :
    before.Settles (.adapter own) after := by
  obtain ⟨⟨_, finishing⟩, pool⟩ := after
  cases staged
  have ops : before.staged.poolOps (.adapter own) = before.staged.adapter.poolOps own := by
    cases own with
    | advance msgid event =>
      cases event with
      | iterate => exact absurd rfl (apart msgid)
      | _ => rfl
    | _ => rfl
  rw [ops] at ran
  have kept : ∀ msgid address, before.staged.Due StagedAdapter.Handling msgid address →
      adapter.host.heap.srbext address = before.staged.adapter.host.heap.srbext address := by
    intro msgid address due
    apply Adapter.step_frame stepped
    exact Adapter.free_untouched sound.staged.adapter (sound.staged.free msgid address due)
      (undisturbed.1 msgid address due) stepped
  obtain ⟨moved, still⟩ := BlockPool.run_without (fun _ => sound.hidden_owner)
    (fun _ member => sound.visible_frees apart stepped ran member) ran
  have hidden : (⟨⟨adapter, before.staged.finishing⟩, pool⟩ : StagedLedger).Hidden = before.Hidden := by
    funext buffer
    apply propext
    constructor
    · rintro ⟨msgid, address, due, member⟩
      have same := kept msgid address due
      exact ⟨msgid, address, due, by rwa [← same]⟩
    · rintro ⟨msgid, address, due, member⟩
      have same := kept msgid address due
      exact ⟨msgid, address, due, by rwa [same]⟩
  have taken : before.settled.step own = some (settled ⟨⟨adapter, before.staged.finishing⟩, pool⟩) := by
    simp only [Ledger.step, settled, stepped, Option.bind_some, moved, Option.map_some, hidden]
  refine .of_settled sound (sound.staged.other trivial (.inl (Nat.le_refl 2)) undisturbed.1 stepped)
    (sound.settled.step taken) Iff.rfl ?_ ?_
  · intro msgid address due buffer member
    have same := kept msgid address due
    simp only [same] at member
    exact (still buffer ⟨msgid, address, due, member⟩).trans (sound.owned msgid address due buffer member)
  · intro msgid address due
    have same := kept msgid address due
    simp only [same]
    exact sound.single msgid address due

section Iteration
variable {msgid : Nat} {queue : CNvmeQueue} {loop : CompleteLoop} {srbext : SrbExtPtr}

private theorem settles_passed (sound : before.Sound) (present : before.staged.adapter.host.queue msgid = some queue)
    (nothing : queue.popped loop = none) :
    before.Settles (.adapter (.advance msgid .iterate)) ⟨{ before.staged with
      adapter := before.staged.adapter.withQueuePair msgid ⟨((queue.popOne loop).2.passOne loop none).1,
        some ((queue.popOne loop).2.passOne loop none).2, before.staged.adapter.controllers msgid,
        before.staged.adapter.host.heap⟩ }, before.pool⟩ := by
  have inside := (sound.staged.adapter.inRange msgid queue present).cplQ loop.cpl
  have empty : queue.history.history (queue.cplQ loop.cpl).entry.cid.toNat = none := (popped_of_lt inside).symm.trans nothing
  have history : ((queue.popOne loop).2.passOne loop none).1.history.history = queue.history.history := by
    rw [CNvmeQueue.passOne_history, CNvmeQueue.popOne_history, poppedHistory_of_lt inside]
    exact Function.update_eq_self_iff.mpr empty.symm
  have kept := sound.staged.passed loop present
  refine .of_settled sound kept (@settles_idle _ _ msgid .iterate sound.settled kept.adapter rfl rfl ?_ fun _ _ => rfl) ?_
    sound.owned sound.single
  · refine Eq.trans (before.staged.adapter.host.slots_setQueue msgid _) ?_
    rw [history, ← Host.slots_of_queue present]
    exact Function.update_eq_self ..
  · exact Iff.rfl

private theorem callBack_buffers (heap : Heap) (srbext : SrbExtPtr) (cpl : NvmeCompletionEntry) :
    heap.callBackOps srbext cpl = [] ∧
        ((heap.callBack srbext cpl).srbext srbext.address).buffers = (heap.srbext srbext.address).buffers ∨
      heap.callBackOps srbext cpl = (heap.srbext srbext.address).buffers.map .free ∧
        ((heap.callBack srbext cpl).srbext srbext.address).buffers = [] := by
  cases callback : (heap.srbext srbext.address).completionCB with
  | none =>
    apply Or.inl
    simp [Heap.callBackOps, Heap.callBack, runCompletionCBOps, runCompletionCB, callback, SrbExt.buffers]
  | some routine =>
    cases routine with
    | completeScsiReadWrite =>
      apply Or.inr
      simp [Heap.callBackOps, Heap.callBack, runCompletionCBOps, runCompletionCB, callback, SrbExt.cleanUpOps_eq,
        SrbExt.buffers, SrbExt.cleanUp, SrbExt.resetExtBuf]
    | completeFirmwareInfo =>
      cases present : (heap.srbext srbext.address).srb with
      | none =>
        apply Or.inl
        simp [Heap.callBackOps, Heap.callBack, runCompletionCBOps, runCompletionCB, completeFirmwareInfo, callback, present,
          SrbExt.buffers]
      | some srb =>
        apply Or.inr
        simp [Heap.callBackOps, Heap.callBack, runCompletionCBOps, runCompletionCB, completeFirmwareInfo, callback, present,
          SrbExt.cleanUpOps_eq, SrbExt.buffers, SrbExt.cleanUp, SrbExt.resetExtBuf, SrbExt.completeSrb]

section Popped
variable (sound : before.Sound) (present : before.staged.adapter.host.queue msgid = some queue)
  (popped : queue.popped loop = some srbext)
include sound present popped

private theorem Sound.popped_slot :
    before.staged.adapter.host.slots msgid (queue.cplQ loop.cpl).entry.cid.toNat = some srbext := by
  rw [Host.slots_of_queue present]
  exact (popped_of_lt ((sound.staged.adapter.inRange msgid queue present).cplQ loop.cpl)).symm.trans popped

private theorem Sound.popped_inSlot : InSlot before.staged.adapter.host.slots srbext.address :=
  ⟨msgid, (queue.cplQ loop.cpl).entry.cid.toNat, by rw [At, sound.popped_slot present popped, Option.map_some]⟩

/-- The calls have other extensions in their hands: this one was still in its slot. -/
theorem Sound.popped_elsewhere {pair address : Nat} (due : before.staged.Due StagedAdapter.Handling pair address) :
    address ≠ srbext.address := by
  rintro rfl
  exact not_inSlot_of_free (sound.staged.free pair _ due) (sound.popped_inSlot present popped)

private theorem Sound.popped_seen {buffer : Nat} (member : buffer ∈ (before.staged.adapter.host.heap.srbext srbext.address).buffers) :
    before.settled.pool.owner buffer = some srbext.address :=
  sound.settled.books.owns buffer srbext.address ⟨sound.popped_inSlot present popped, member⟩

private theorem Sound.popped_visible {buffer : Nat}
    (member : buffer ∈ (before.staged.adapter.host.heap.srbext srbext.address).buffers) : ¬ before.Hidden buffer := by
  intro concealed
  have seen := sound.popped_seen present popped member
  rw [show before.settled.pool.owner buffer = none from if_pos concealed] at seen
  cases seen

end Popped

abbrev afterPop (before : StagedLedger) (msgid : Nat) (queue : CNvmeQueue) (loop : CompleteLoop) (srbext : SrbExtPtr)
    (pool : Pool) : StagedLedger :=
  ⟨{ adapter := before.staged.adapter.withQueuePair msgid ⟨(queue.popOne loop).2, some loop,
      before.staged.adapter.controllers msgid, before.staged.adapter.host.heap.callBack srbext (queue.cplQ loop.cpl).entry⟩
     finishing := Function.update before.staged.finishing msgid (some (srbext, .complete)) }, pool⟩

section AfterPop
variable {pool : Pool}

private theorem afterPop_other {address : Nat} (apart : address ≠ srbext.address) :
    (before.afterPop msgid queue loop srbext pool).staged.adapter.host.heap.srbext address =
      before.staged.adapter.host.heap.srbext address :=
  Heap.callBack_other apart

private theorem due_of_afterPop {pair address : Nat}
    (due : (before.afterPop msgid queue loop srbext pool).staged.Due StagedAdapter.Handling pair address) :
    address = srbext.address ∨ before.staged.Due StagedAdapter.Handling pair address :=
  due.update.imp (fun here => here.2.2) (fun other => other.2)

private theorem due_afterPop {pair address : Nat} (idle : before.staged.finishing msgid = none)
    (due : before.staged.Due StagedAdapter.Handling pair address) :
    (before.afterPop msgid queue loop srbext pool).staged.Due StagedAdapter.Handling pair address := by
  obtain ⟨found, pc, held, _, same⟩ := due
  have apart : pair ≠ msgid := by
    rintro rfl
    exact absurd (idle.symm.trans held) (by simp)
  exact ⟨found, pc, (Function.update_of_ne apart ..).trans held, trivial, same⟩

/-- What the callback left of the extension's buffers is hidden as well. -/
theorem hidden_afterPop (sound : before.Sound) (idle : before.staged.finishing msgid = none)
    (present : before.staged.adapter.host.queue msgid = some queue) (popped : queue.popped loop = some srbext) :
    (before.afterPop msgid queue loop srbext pool).Hidden = fun buffer => before.Hidden buffer ∨
      buffer ∈ ((before.afterPop msgid queue loop srbext pool).staged.adapter.host.heap.srbext srbext.address).buffers := by
  funext buffer
  apply propext
  constructor
  · rintro ⟨pair, address, due, member⟩
    rcases due_of_afterPop due with rfl | earlier
    · exact .inr member
    · rw [afterPop_other (sound.popped_elsewhere present popped earlier)] at member
      exact .inl ⟨pair, address, earlier, member⟩
  · rintro (⟨pair, address, due, member⟩ | member)
    · rw [← @afterPop_other before msgid queue loop srbext pool _ (sound.popped_elsewhere present popped due)] at member
      exact ⟨pair, address, due_afterPop idle due, member⟩
    · exact ⟨msgid, srbext.address, StagedAdapter.due_of_held (Function.update_self ..), member⟩

/-- To everybody else the extension's buffers are freed when it is popped. -/
theorem settles_afterPop (sound : before.Sound) (present : before.staged.adapter.host.queue msgid = some queue)
    (popped : queue.popped loop = some srbext)
    (frees : Machine.run BlockPool.apply before.settled.pool
      ((before.staged.adapter.host.heap.srbext srbext.address).buffers.map .free) =
        some (before.afterPop msgid queue loop srbext pool).settled.pool)
    (mine : ∀ buffer ∈ ((before.afterPop msgid queue loop srbext pool).staged.adapter.host.heap.srbext
      srbext.address).buffers, pool.owner buffer = some srbext.address)
    (once : ((before.afterPop msgid queue loop srbext pool).staged.adapter.host.heap.srbext srbext.address).buffers.Nodup)
    (still : ∀ buffer, before.Hidden buffer → pool.owner buffer = before.pool.owner buffer) :
    before.Settles (.adapter (.advance msgid .iterate)) (before.afterPop msgid queue loop srbext pool) := by
  have kept : (before.afterPop msgid queue loop srbext pool).staged.Sound 2 StagedAdapter.Handling :=
    sound.staged.popped trivial present popped (.inl (Nat.le_refl 2))
  have emptied : (before.afterPop msgid queue loop srbext pool).staged.adapter.host.slots =
      Function.update before.staged.adapter.host.slots msgid
        (Function.update (before.staged.adapter.host.slots msgid) (queue.cplQ loop.cpl).entry.cid.toNat none) := by
    refine Eq.trans (before.staged.adapter.host.slots_setQueue msgid _) ?_
    rw [CNvmeQueue.popOne_history, poppedHistory_of_lt ((sound.staged.adapter.inRange msgid queue present).cplQ loop.cpl),
      Host.slots_of_queue present]
  have settles : before.settled.Settles (.advance msgid .iterate) (before.afterPop msgid queue loop srbext pool).settled :=
    SpcNvme.settles_popped sound.settled kept.adapter (sound.popped_slot present popped) rfl emptied
      (fun _ apart => @afterPop_other _ _ _ _ _ pool _ apart) frees
  refine .of_settled sound kept settles Iff.rfl ?_ ?_
  · intro pair address due buffer member
    rcases due_of_afterPop due with rfl | earlier
    · exact mine buffer member
    · rw [afterPop_other (sound.popped_elsewhere present popped earlier)] at member
      exact (still buffer ⟨pair, address, earlier, member⟩).trans (sound.owned pair address earlier buffer member)
  · intro pair address due
    rcases due_of_afterPop due with rfl | earlier
    · exact once
    · rw [afterPop_other (sound.popped_elsewhere present popped earlier)]
      exact sound.single pair address earlier

/-- The popped extension takes its buffers out of sight, whether its callback frees them or not. -/
theorem settles_popped (sound : before.Sound) (idle : before.staged.finishing msgid = none)
    (present : before.staged.adapter.host.queue msgid = some queue) (popped : queue.popped loop = some srbext)
    (ran : Machine.run BlockPool.apply before.pool
      (before.staged.adapter.host.heap.callBackOps srbext (queue.cplQ loop.cpl).entry) = some pool) :
    before.Settles (.adapter (.advance msgid .iterate)) (before.afterPop msgid queue loop srbext pool) := by
  have hidden := @hidden_afterPop _ _ _ _ _ pool sound idle present popped
  have nodup := sound.settled.single srbext.address (sound.popped_inSlot present popped)
  rcases callBack_buffers before.staged.adapter.host.heap srbext (queue.cplQ loop.cpl).entry with
    ⟨ops, buffers⟩ | ⟨ops, buffers⟩
  · rw [ops] at ran
    obtain rfl : before.pool = pool := Option.some.inj ran
    have same : ((before.afterPop msgid queue loop srbext before.pool).staged.adapter.host.heap.srbext
        srbext.address).buffers = (before.staged.adapter.host.heap.srbext srbext.address).buffers := buffers
    rw [same] at hidden
    refine settles_afterPop sound present popped ?_ ?_ (same ▸ nodup) fun _ _ => rfl
    · simp only [settled, hidden]
      apply BlockPool.run_hide nodup
      intro buffer member
      show (before.settled.pool.owner buffer).isSome
      rw [sound.popped_seen present popped member]
      rfl
    · intro buffer member
      rw [same] at member
      exact sound.attached_owner ⟨sound.popped_inSlot present popped, member⟩
  · rw [ops] at ran
    have cleared : ((before.afterPop msgid queue loop srbext pool).staged.adapter.host.heap.srbext
        srbext.address).buffers = [] := buffers
    simp only [cleared, List.not_mem_nil, or_false] at hidden
    have shown : ∀ buffer, (.free buffer : PoolOp) ∈
        (before.staged.adapter.host.heap.srbext srbext.address).buffers.map .free → ¬ before.Hidden buffer := by
      intro buffer member
      exact sound.popped_visible present popped (by simpa using member)
    obtain ⟨frees, still⟩ := BlockPool.run_without (fun _ => sound.hidden_owner) shown ran
    refine settles_afterPop sound present popped ?_ ?_ ?_ still
    · simp only [settled, hidden]
      exact frees
    · intro buffer member
      rw [cleared] at member
      cases member
    · rw [cleared]
      exact List.nodup_nil

end AfterPop

private theorem settles_completed (sound : before.Sound) (held : before.staged.finishing msgid = some (srbext, .complete)) :
    before.Settles (.finish msgid) ⟨{
      adapter := before.staged.adapter.withHeap (before.staged.adapter.host.heap.completeCalled srbext)
      finishing := Function.update before.staged.finishing msgid (some (srbext, .cleanUp)) }, before.pool⟩ := by
  let after : StagedLedger := ⟨{
    adapter := before.staged.adapter.withHeap (before.staged.adapter.host.heap.completeCalled srbext)
    finishing := Function.update before.staged.finishing msgid (some (srbext, .cleanUp)) }, before.pool⟩
  have kept : after.staged.Sound 2 StagedAdapter.Handling := sound.staged.completed trivial held
  have buffers : ∀ other, (after.staged.adapter.host.heap.srbext other).buffers =
      (before.staged.adapter.host.heap.srbext other).buffers := by
    have notified : Heap.KeepsBuffers (fun _ => False) before.staged.adapter.host.heap after.staged.adapter.host.heap :=
      .completeSrb ..
    exact fun other => notified.same other id
  have due : ∀ pair address, after.staged.Due StagedAdapter.Handling pair address ↔
      before.staged.Due StagedAdapter.Handling pair address := by
    intro pair address
    constructor
    · intro later
      rcases later.update with ⟨rfl, _, rfl⟩ | ⟨_, earlier⟩
      · exact StagedAdapter.due_of_held held
      · exact earlier
    · rintro ⟨found, pc, earlier, _, rfl⟩
      by_cases here : pair = msgid
      · subst here
        rw [held, Option.some.injEq, Prod.mk.injEq] at earlier
        obtain ⟨rfl, _⟩ := earlier
        exact StagedAdapter.due_of_held (Function.update_self ..)
      · exact ⟨found, pc, (Function.update_of_ne here ..).trans earlier, trivial, rfl⟩
  have hidden : after.Hidden = before.Hidden := by
    funext buffer
    simp only [Hidden, due, buffers]
  have same : after.settled.pool = before.settled.pool := by simp only [settled, hidden, after]
  refine .of_settled sound kept (@settles_idle before.settled after.settled msgid .iterate sound.settled kept.adapter same rfl rfl
    fun other _ => buffers other) ?_ ?_ ?_
  · exact iff_of_true trivial (cleansUp_advance ..)
  · intro pair address later buffer member
    rw [buffers] at member
    exact sound.owned pair address ((due pair address).mp later) buffer member
  · intro pair address later
    rw [buffers]
    exact sound.single pair address ((due pair address).mp later)

abbrev afterCleanUp (before : StagedLedger) (msgid : Nat) (srbext : SrbExtPtr) (pool : Pool) : StagedLedger :=
  ⟨{ adapter := (before.staged.adapter.withHeap (before.staged.adapter.host.heap.cleanUp srbext.address)).passOne msgid srbext
     finishing := Function.update before.staged.finishing msgid none }, pool⟩

section AfterCleanUp
variable {pool : Pool}

private theorem afterCleanUp_other {address : Nat} (apart : address ≠ srbext.address) :
    (before.afterCleanUp msgid srbext pool).staged.adapter.host.heap.srbext address =
      before.staged.adapter.host.heap.srbext address := by
  rw [StagedAdapter.passOne_heap]
  simp [Adapter.withHeap, apart]

private theorem due_of_afterCleanUp (sound : before.Sound) (held : before.staged.finishing msgid = some (srbext, .cleanUp))
    {pair address : Nat} (due : (before.afterCleanUp msgid srbext pool).staged.Due StagedAdapter.Handling pair address) :
    before.staged.Due StagedAdapter.Handling pair address ∧ address ≠ srbext.address := by
  obtain ⟨apart, earlier⟩ := due.cleared
  refine ⟨earlier, ?_⟩
  rintro rfl
  exact apart (sound.staged.single pair msgid _ earlier (StagedAdapter.due_of_held held))

private theorem due_afterCleanUp (held : before.staged.finishing msgid = some (srbext, .cleanUp)) {pair address : Nat}
    (due : before.staged.Due StagedAdapter.Handling pair address) (apart : address ≠ srbext.address) :
    (before.afterCleanUp msgid srbext pool).staged.Due StagedAdapter.Handling pair address := by
  obtain ⟨found, pc, was, _, rfl⟩ := due
  have elsewhere : pair ≠ msgid := by
    rintro rfl
    rw [held, Option.some.injEq, Prod.mk.injEq] at was
    obtain ⟨rfl, _⟩ := was
    exact apart rfl
  exact ⟨found, pc, (Function.update_of_ne elsewhere ..).trans was, trivial, rfl⟩

private theorem visible_afterCleanUp (sound : before.Sound) (held : before.staged.finishing msgid = some (srbext, .cleanUp))
    {buffer : Nat} (member : buffer ∈ (before.staged.adapter.host.heap.srbext srbext.address).buffers) :
    ¬ (before.afterCleanUp msgid srbext pool).Hidden buffer := by
  rintro ⟨pair, address, later, also⟩
  obtain ⟨due, apart⟩ := due_of_afterCleanUp sound held later
  rw [afterCleanUp_other apart] at also
  have mine := sound.owned msgid _ (StagedAdapter.due_of_held held) buffer member
  exact apart (Option.some.inj ((sound.owned pair address due buffer also).symm.trans mine))

private theorem hidden_afterCleanUp (sound : before.Sound) (held : before.staged.finishing msgid = some (srbext, .cleanUp)) :
    before.Hidden = fun buffer => (before.afterCleanUp msgid srbext pool).Hidden buffer ∨
      buffer ∈ (before.staged.adapter.host.heap.srbext srbext.address).buffers := by
  funext buffer
  apply propext
  constructor
  · rintro ⟨pair, address, due, member⟩
    by_cases here : address = srbext.address
    · subst here
      exact .inr member
    · rw [← @afterCleanUp_other before msgid srbext pool _ here] at member
      exact .inl ⟨pair, address, due_afterCleanUp held due here, member⟩
  · rintro (⟨pair, address, later, member⟩ | member)
    · obtain ⟨due, apart⟩ := due_of_afterCleanUp sound held later
      rw [afterCleanUp_other apart] at member
      exact ⟨pair, address, due, member⟩
    · exact ⟨msgid, srbext.address, StagedAdapter.due_of_held held, member⟩

/-- `CleanUp` frees what was out of sight already. -/
theorem settles_cleanedUp (sound : before.Sound) (held : before.staged.finishing msgid = some (srbext, .cleanUp))
    (ran : Machine.run BlockPool.apply before.pool
      (before.staged.adapter.host.heap.srbext srbext.address).cleanUpOps = some pool) :
    before.Settles (.finish msgid) (before.afterCleanUp msgid srbext pool) := by
  have mine := StagedAdapter.due_of_held held
  have kept : (before.afterCleanUp msgid srbext pool).staged.Sound 2 StagedAdapter.Handling := sound.staged.cleanedUp held
  have hidden := @hidden_afterCleanUp _ _ _ pool sound held
  have concealed : ∀ buffer, (before.afterCleanUp msgid srbext pool).Hidden buffer → (before.pool.owner buffer).isSome := by
    intro buffer inside
    exact sound.hidden_owner (hidden ▸ .inl inside)
  rw [SrbExt.cleanUpOps_eq] at ran
  have same : (before.afterCleanUp msgid srbext pool).settled.pool = before.settled.pool := by
    simp only [settled, hidden]
    refine BlockPool.without_freed (sound.single msgid _ mine) ?_ (fun _ => visible_afterCleanUp sound held) concealed ran
    intro buffer member
    rw [sound.owned msgid _ mine buffer member]
    rfl
  have frees : ∀ buffer, (.free buffer : PoolOp) ∈
      (before.staged.adapter.host.heap.srbext srbext.address).buffers.map .free →
      ¬ (before.afterCleanUp msgid srbext pool).Hidden buffer := by
    intro buffer member
    exact visible_afterCleanUp sound held (by simpa using member)
  have still := (BlockPool.run_without concealed frees ran).2
  have placed : ∀ other, InSlot before.settled.adapter.host.slots other ∨ before.settled.adapter.waiting other = true →
      other ≠ srbext.address := by
    rintro other (there | waits) rfl
    · exact not_inSlot_of_free (sound.staged.free msgid _ mine) there
    · exact sound.staged.free msgid _ mine .startIo waits
  refine .of_settled sound kept (@settles_idle before.settled (before.afterCleanUp msgid srbext pool).settled msgid .iterate
    sound.settled kept.adapter same (StagedAdapter.passOne_waiting _) (StagedAdapter.passOne_slots _)
    fun other there => congrArg SrbExt.buffers (@afterCleanUp_other _ _ _ pool _ (placed other there))) ?_ ?_ ?_
  · exact iff_of_true trivial (cleansUp_advance ..)
  · intro pair address later buffer member
    obtain ⟨due, apart⟩ := due_of_afterCleanUp sound held later
    have inside : (before.afterCleanUp msgid srbext pool).Hidden buffer := ⟨pair, address, later, member⟩
    rw [afterCleanUp_other apart] at member
    exact (still buffer inside).trans (sound.owned pair address due buffer member)
  · intro pair address later
    obtain ⟨due, apart⟩ := due_of_afterCleanUp sound held later
    rw [afterCleanUp_other apart]
    exact sound.single pair address due

end AfterCleanUp

end Iteration

theorem Sound.step {before after : StagedLedger} {event : StagedEvent} (sound : before.Sound)
    (undisturbed : before.staged.Undisturbed event) (taken : before.step event = some after) :
    before.Settles event after := by
  obtain ⟨stepped, ran⟩ := StagedLedger.step_some taken
  obtain ⟨staged, pool⟩ := after
  cases StagedAdapter.step_transition stepped with
  | other apart own => exact settles_other sound undisturbed apart own rfl ran
  | @passed msgid queue loop idle present running nothing =>
    have first := (queue.popOne_popped loop).trans nothing
    simp only [StagedAdapter.poolOps, present, running, first] at ran
    obtain rfl : before.pool = pool := Option.some.inj ran
    exact settles_passed sound present nothing
  | @popped msgid queue loop srbext idle present running popped =>
    have first := (queue.popOne_popped loop).trans popped
    simp only [StagedAdapter.poolOps, present, running, first] at ran
    exact settles_popped sound idle present popped ran
  | completed held =>
    simp only [StagedAdapter.poolOps, held] at ran
    obtain rfl : before.pool = pool := Option.some.inj ran
    exact settles_completed sound held
  | cleanedUp held =>
    simp only [StagedAdapter.poolOps, held] at ran
    exact settles_cleanedUp sound held ran

theorem Sound.initial (device : CNvmeDevice) (admConfig : Option QueuePairConfig)
    (ioConfig : Nat → Option QueuePairConfig) (srbext : Nat → SrbExt) (slotCount : BitVec 3) :
    (StagedLedger.initial (.initial device admConfig ioConfig srbext slotCount)).Sound := by
  have idle : ∀ msgid address, ¬ (StagedAdapter.initial (.initial device admConfig ioConfig srbext slotCount)).Due
      StagedAdapter.Handling msgid address := by
    rintro msgid address ⟨_, _, held, _⟩
    cases held
  have kept := Ledger.Sound.initial device admConfig ioConfig srbext slotCount
  have pool : (StagedLedger.initial (.initial device admConfig ioConfig srbext slotCount)).settled.pool =
      (Ledger.initial (.initial device admConfig ioConfig srbext slotCount)).pool := by
    apply BlockPool.State.without_nothing
    rintro block ⟨msgid, address, due, _⟩
    exact idle msgid address due
  refine ⟨.initial kept.adapter, ⟨kept.adapter, kept.blank, kept.single, ?_⟩, ?_, ?_⟩
  · rw [pool]
    exact kept.books
  · exact fun msgid address due => absurd due (idle msgid address)
  · exact fun msgid address due => absurd due (idle msgid address)

/-- What an extension in a hand refers to is lost when something is delivered in it. -/
theorem Sound.not_freed_delivered {before after : StagedLedger} {event : AdapterEvent} {msgid address : Nat}
    (sound : before.Sound) (due : before.staged.Due StagedAdapter.Handling msgid address)
    (delivers : event.DeliversTo address)
    (refers : (before.staged.adapter.host.heap.srbext address).buffers ≠ [])
    (taken : before.step (.adapter event) = some after) : ¬ Freed after := by
  obtain ⟨buffer, member⟩ := List.exists_mem_of_ne_nil _ refers
  have out := sound.owned msgid address due buffer member
  obtain ⟨stepped, ran⟩ := StagedLedger.step_some taken
  obtain ⟨staged, pool⟩ := after
  obtain ⟨blank, nothing⟩ : (staged.adapter.host.heap.srbext address).buffers = [] ∧
      before.staged.poolOps (.adapter event) = [] := by
    cases StagedAdapter.step_transition stepped with
    | other apart own =>
      cases event with
      | buildIo target srb =>
        obtain rfl : target = address := delivers
        obtain ⟨_, rfl⟩ := Adapter.step_buildIo own
        exact ⟨(hwBuildIo_buffers _ target srb).1, rfl⟩
      | command target cmd =>
        obtain rfl : target = address := delivers
        obtain ⟨_, rfl⟩ := Adapter.step_command own
        exact ⟨Adapter.command_buffers _ target cmd, rfl⟩
      | _ => exact delivers.elim
    | _ => exact delivers.elim
  rw [nothing] at ran
  intro freed
  have held := freed.held buffer address (by rw [← Option.some.inj ran]; exact out)
  rw [blank] at held
  cases held

end StagedLedger

/-- In every run, with any outcome of a submission, any order of completions, any
replaced command and any removal, and with StorPort and the other queues coming between
the callback, the `CompleteSrb` and the `CleanUp` of an iteration, if no extension is
used again between its `Pop` and its `CleanUp` and no bus reset falls into a call of
`CompleteCmd`: no buffer is freed twice, and every buffer not freed yet belongs to a
request that is pending in a queue or is freed by the call that has it in its hand, if
and only if no extension with buffers is dropped and no page is taken for a read or
write that is refused. And an extension used again too early loses its buffers. -/
theorem freed_once {device : CNvmeDevice} {admConfig : Option QueuePairConfig}
    {ioConfig : Nat → Option QueuePairConfig} {srbext : Nat → SrbExt} {slotCount : BitVec 3}
    {events : List StagedEvent} {final : StagedLedger}
    (undisturbed : Machine.Meets StagedLedger.step (fun ledger event => ledger.staged.Undisturbed event)
      (.initial (.initial device admConfig ioConfig srbext slotCount)) events)
    (ran : Machine.run StagedLedger.step (.initial (.initial device admConfig ioConfig srbext slotCount)) events =
      some final) :
    (Machine.Always StagedLedger.step StagedLedger.Freed
        (.initial (.initial device admConfig ioConfig srbext slotCount)) events ↔
      Machine.Meets StagedLedger.step (fun ledger event => ledger.staged.CleansUp event)
        (.initial (.initial device admConfig ioConfig srbext slotCount)) events) ∧
      ∀ event after msgid address, final.step (.adapter event) = some after →
        final.staged.Due StagedAdapter.Handling msgid address → event.DeliversTo address →
        (final.staged.adapter.host.heap.srbext address).buffers ≠ [] → ¬ StagedLedger.Freed after := by
  have initial := StagedLedger.Sound.initial device admConfig ioConfig srbext slotCount
  have preserved : ∀ before event after, StagedLedger.Sound before → before.staged.Undisturbed event →
      before.step event = some after → after.Sound :=
    fun _ _ _ sound allowed taken => (sound.step allowed taken).sound
  constructor
  · refine Machine.always_iff_meets_of_allowed preserved ?_ initial ?_ undisturbed ran
    · intro before event after sound allowed freed taken
      exact (sound.step allowed taken).freed freed
    · exact ⟨rfl, fun _ _ out => (by cases out), fun _ _ out => (by cases out)⟩
  · intro event after msgid address taken due delivers refers
    exact (Machine.run_invariant preserved initial undisturbed ran).not_freed_delivered due delivers refers taken

/-- A read with a PRP list, up to the `CleanUp` of its extension. -/
def sampleReadCalled : List StagedEvent :=
  ([.buildIo 0 sampleRead32, .startIo 0 0 0 Host.sampleMemory, .advance 1 .fetch, .advance 1 (.post 0 sampleReply),
    .advance 1 (.enter 0), .advance 1 .iterate] : List AdapterEvent).map .adapter ++ [.finish 1, .finish 1]

theorem freed_once_read :
    ∃ final, Machine.run StagedLedger.step (.initial sampleIoAdapter) sampleReadCalled = some final ∧
      (Machine.Always StagedLedger.step StagedLedger.Freed (.initial sampleIoAdapter) sampleReadCalled ↔
        Machine.Meets StagedLedger.step (fun ledger event => ledger.staged.CleansUp event) (.initial sampleIoAdapter)
          sampleReadCalled) ∧
      ∀ event after msgid address, final.step (.adapter event) = some after →
        final.staged.Due StagedAdapter.Handling msgid address → event.DeliversTo address →
        (final.staged.adapter.host.heap.srbext address).buffers ≠ [] → ¬ StagedLedger.Freed after := by
  have enabled : (Machine.run StagedLedger.step (.initial sampleIoAdapter) sampleReadCalled).isSome = true := by
    decide +kernel
  obtain ⟨final, ran⟩ := Option.isSome_iff_exists.mp enabled
  have undisturbed : Machine.Meets StagedLedger.step (fun ledger event => ledger.staged.Undisturbed event)
      (.initial sampleIoAdapter) sampleReadCalled := by
    constructor
    · refine ⟨?_, trivial⟩
      rintro msgid address ⟨_, _, held, _⟩
      cases held
    · intro next _
      apply Machine.Meets.of_forall
      simp [StagedAdapter.Undisturbed, StagedAdapter.Apart, AdapterEvent.DeliversTo, ResetBetweenCalls]
  exact ⟨final, ran, freed_once undisturbed ran⟩

/-- The bus is reset while a read with a PRP list is outstanding, and StorPort uses its extension again. -/
def sampleReadReset : List StagedEvent :=
  ([.buildIo 0 sampleRead32, .startIo 0 0 0 Host.sampleMemory, .resetBus, .buildIo 0 sampleRead32] :
    List AdapterEvent).map .adapter

/-- The page of the PRP list is still allocated when nothing refers to it any more. -/
theorem bus_reset_leaks_list :
    ¬ ∀ (device : CNvmeDevice) (admConfig : Option QueuePairConfig) (ioConfig : Nat → Option QueuePairConfig)
      (srbext : Nat → SrbExt) (slotCount : BitVec 3) (events : List StagedEvent) (final : StagedLedger),
      Machine.run StagedLedger.step (.initial (.initial device admConfig ioConfig srbext slotCount)) events = some final →
      StagedLedger.Freed final := by
  have observed : (Machine.run StagedLedger.step (.initial sampleIoAdapter) sampleReadReset).map
      (fun ledger => (ledger.pool.owner 0x10000, (ledger.staged.adapter.host.heap.srbext 0).buffers)) =
        some (some 0, []) := by decide +kernel
  intro always
  obtain ⟨final, ran, leaked⟩ := Option.map_eq_some_iff.mp observed
  have freed := always _ _ _ _ _ sampleReadReset final ran
  rw [Prod.mk.injEq] at leaked
  have attached := freed.held _ _ leaked.1
  rw [leaked.2] at attached
  cases attached

end SpcNvme
