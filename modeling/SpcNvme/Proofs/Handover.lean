import SpcNvme.Owners
import SpcNvme.Proofs.Balance

/-! An extension that the driver leaves alone once it is back with its owner. -/

namespace SpcNvme

namespace Handover

def popping (queue : CNvmeQueue) (call : CompleteCall) : Option SrbExtPtr :=
  match call.pc with
  | .pop cid => if cid.toNat < queue.history.depth then queue.history.history cid.toNat else call.loop.srbext
  | _ => none

def internal (heap : Heap) : SubLock → Bool
  | .release old .store _ _ => (heap.srbext old.address).srb.isNone
  | .resetSrb _ srbext .store => (heap.srbext srbext.address).srb.isNone
  | _ => false

/-- `CompleteCmd` pops nothing, and `SubmitCmd` and `ResetAllCmd` complete only
extensions that have an SRB. -/
def Spares (state : Handover) : HandoverEvent → Prop
  | .queue (.completer processor) => ∀ call ∈ state.shared.calls processor, popping state.shared.queue call = none
  | .queue .holder => internal state.shared.heap state.shared.subLock = false
  | _ => True

instance (state : Handover) : (event : HandoverEvent) → Decidable (state.Spares event)
  | .queue (.completer processor) =>
      inferInstanceAs (Decidable (∀ call ∈ state.shared.calls processor, popping state.shared.queue call = none))
  | .queue .holder => inferInstanceAs (Decidable (internal state.shared.heap state.shared.subLock = false))
  | .init .. | .giveUp _ | .queue (.prepare ..) | .queue (.submit ..) | .queue .reset | .queue (.enter ..)
  | .queue (.scribble ..) => isTrue trivial

/-! ### Whose extension it is -/

inductive Hand where
  | slot (index : Nat)
  | finishing
  | submitting

def keeps (shared : SharedQueue) : Hand → Nat → Prop
  | .slot index, address =>
      shared.subLock.resets ≠ some index ∧
        ∃ srbext, shared.queue.history.history index = some srbext ∧ srbext.address = address
  | .finishing, address => shared.subLock.finishing = some address
  | .submitting, address => shared.subLock.submitting = some address

/-- What the queue keeps is submitted and in one place, the holder stores a status
only to extensions that have an SRB, and `CompleteCmd` touches none. -/
structure Kept (state : Handover) : Prop where
  custody : Custody (keeps state.shared) fun address => state.stage address = .submitted
  writing : ∀ address, state.shared.subLock.writing = some address → state.stage address = .submitted
  stored : ∀ address, state.shared.subLock.stored = some address →
    (state.shared.heap.srbext address).srb.isNone = false
  idle : ∀ processor call, state.shared.calls processor = some call → call.pc.touches = none

namespace Kept

theorem initial (config : QueuePairConfig) (srbext : Nat → SrbExt) (slotCount : BitVec 3) (processors : Nat) :
    Kept (.initial config srbext slotCount processors) := by
  have empty : ∀ place address, ¬ keeps (SharedQueue.initial config srbext slotCount processors) place address := by
    intro place address kept
    cases place with
    | slot index =>
      obtain ⟨_, srbext, present, _⟩ := kept
      cases present
    | finishing => cases kept
    | submitting => cases kept
  refine ⟨⟨?_, ?_⟩, SubLock.absent rfl, SubLock.absent rfl, fun _ => SubLock.absent rfl⟩
  · intro place other address kept
    exact absurd kept (empty place address)
  · intro place address kept
    exact absurd kept (empty place address)

variable {queue : CNvmeQueue} {heap : Heap} {lock : SubLock} {processors : Nat} {calls : Nat → Option CompleteCall}
  {stage : Nat → Stage}

theorem fewer {changed : CNvmeQueue} {written : Heap} {other : SubLock}
    (history : ∀ slot found, changed.history.history slot = some found → queue.history.history slot = some found)
    (resets : other.resets = lock.resets) (finishing : other.finishing = none ∨ other.finishing = lock.finishing)
    (submitting : other.submitting = none ∨ other.submitting = lock.submitting) (place : Hand) (address : Nat)
    (present : keeps ⟨changed, written, other, processors, calls⟩ place address) :
    keeps ⟨queue, heap, lock, processors, calls⟩ place address := by
  cases place with
  | slot index =>
    obtain ⟨unread, found, there, same⟩ := present
    exact ⟨resets ▸ unread, found, history index found there, same⟩
  | finishing =>
    rcases finishing with absent | same
    · exact absurd (absent.symm.trans present) (by simp)
    · exact same.symm.trans present
  | submitting =>
    rcases submitting with absent | same
    · exact absurd (absent.symm.trans present) (by simp)
    · exact same.symm.trans present

theorem relock (kept : Kept ⟨⟨queue, heap, lock, processors, calls⟩, stage⟩) {changed : CNvmeQueue} {written : Heap}
    {other : SubLock}
    (history : ∀ slot found, changed.history.history slot = some found → queue.history.history slot = some found)
    (resets : other.resets = lock.resets) (finishing : other.finishing = none ∨ other.finishing = lock.finishing)
    (submitting : other.submitting = none ∨ other.submitting = lock.submitting)
    (writing : ∀ address, other.writing = some address → stage address = .submitted)
    (stored : ∀ address, other.stored = some address → (written.srbext address).srb.isNone = false) :
    Kept ⟨⟨changed, written, other, processors, calls⟩, stage⟩ := by
  refine ⟨?_, writing, stored, kept.idle⟩
  exact kept.custody.mono (fewer history resets finishing submitting) fun _ _ live => live

private theorem emptyHanded (kept : Kept ⟨⟨queue, heap, lock, processors, calls⟩, stage⟩) {changed : CNvmeQueue} {written : Heap}
    {other : SubLock}
    (history : ∀ slot found, changed.history.history slot = some found → queue.history.history slot = some found)
    (resets : other.resets = lock.resets) (finishing : other.finishing = none) (submitting : other.submitting = none)
    (writing : other.writing = none) (stored : other.stored = none) :
    Kept ⟨⟨changed, written, other, processors, calls⟩, stage⟩ := by
  apply kept.relock history resets (.inl finishing) (.inl submitting)
  · exact SubLock.absent writing
  · exact SubLock.absent stored

private theorem takes {index : Nat} {srbext : SrbExtPtr} (kept : Kept ⟨⟨queue, heap, lock, processors, calls⟩, stage⟩)
    (unread : lock.resets = none) (present : queue.history.history index = some srbext) {changed : CNvmeQueue}
    {other : SubLock} (finishing : other.finishing = some srbext.address)
    (submitting : other.submitting = none ∨ other.submitting = lock.submitting) (unwritten : other.writing = none)
    (unstored : other.stored = none) (gone : other.resets = some index ∨ changed.history.history index = none)
    (history : ∀ slot found, changed.history.history slot = some found → queue.history.history slot = some found) :
    Kept ⟨⟨changed, heap, other, processors, calls⟩, stage⟩ := by
  have held : keeps ⟨queue, heap, lock, processors, calls⟩ (.slot index) srbext.address :=
    ⟨by simp [unread], srbext, present, rfl⟩
  refine ⟨?_, by simp [unwritten], by simp [unstored], kept.idle⟩
  apply kept.custody.move .finishing held
  · intro still
    obtain ⟨free, found, there, _⟩ := still
    rcases gone with read | cleared
    · exact free read
    · exact absurd (cleared.symm.trans there) (by simp)
  · intro place address kept
    cases place with
    | slot slot =>
      obtain ⟨_, found, there, same⟩ := kept
      exact .inl ⟨by simp [unread], found, history slot found there, same⟩
    | finishing => exact .inr ⟨rfl, Option.some.inj (kept.symm.trans finishing)⟩
    | submitting =>
      rcases submitting with absent | same
      · exact absurd (absent.symm.trans kept) (by simp)
      · exact .inl (same.symm.trans kept)

theorem puts {cid : Nat} {srbext : SrbExtPtr} {cmd : NvmeCommand}
    (kept : Kept ⟨⟨queue, heap, lock, processors, calls⟩, stage⟩) (unread : lock.resets = none)
    (submitting : lock.submitting = some srbext.address) :
    Kept ⟨⟨{ queue with history := ⟨queue.history.depth, Function.update queue.history.history cid (some srbext)⟩ }, heap,
      .write srbext cmd, processors, calls⟩, stage⟩ := by
  have held : keeps ⟨queue, heap, lock, processors, calls⟩ .submitting srbext.address := submitting
  have live := kept.custody.live held
  refine ⟨?_, ?_, SubLock.absent rfl, kept.idle⟩
  · apply kept.custody.move (.slot cid) held
    · intro still
      cases still
    · intro place address present
      cases place with
      | slot slot =>
        obtain ⟨_, found, there, same⟩ := present
        by_cases here : slot = cid
        · subst slot
          obtain rfl : srbext = found := by simpa using there
          exact .inr ⟨rfl, same.symm⟩
        · refine .inl ⟨by simp [unread], found, ?_, same⟩
          simpa [Function.update_of_ne here] using there
      | finishing => cases present
      | submitting => cases present
  · intro address written
    obtain rfl := Option.some.inj written
    exact live

/-- What was in one place and is in none any more may go to any stage. -/
theorem lets {address : Nat} (kept : Kept ⟨⟨queue, heap, lock, processors, calls⟩, stage⟩) (place : Hand)
    (held : keeps ⟨queue, heap, lock, processors, calls⟩ place address) {written : Heap} {other : SubLock}
    (gone : ¬ keeps ⟨queue, written, other, processors, calls⟩ place address) (resets : other.resets = lock.resets)
    (finishing : other.finishing = none ∨ other.finishing = lock.finishing)
    (submitting : other.submitting = none ∨ other.submitting = lock.submitting) (unwritten : other.writing = none)
    (unstored : other.stored = none) {next : Stage} :
    Kept ⟨⟨queue, written, other, processors, calls⟩, Function.update stage address next⟩ := by
  have fewer : ∀ place address, keeps ⟨queue, written, other, processors, calls⟩ place address →
      keeps ⟨queue, heap, lock, processors, calls⟩ place address :=
    fewer (fun _ _ => id) resets finishing submitting
  refine ⟨?_, by simp [unwritten], by simp [unstored], kept.idle⟩
  apply (kept.custody.mono fewer fun _ _ live => live).spend (kept.custody.free_of_taken held fewer gone)
  intro other different live
  simpa [Function.update_of_ne different] using live

theorem stores {srbext : SrbExtPtr} {written : Heap} {other : SubLock}
    (kept : Kept ⟨⟨queue, heap, lock, processors, calls⟩, stage⟩)
    (present : (written.srbext srbext.address).srb.isNone = false) (resets : other.resets = lock.resets)
    (finishing : other.finishing = lock.finishing)
    (submitting : other.submitting = none ∨ other.submitting = lock.submitting) (unwritten : other.writing = none)
    (stored : other.stored = some srbext.address) :
    Kept ⟨⟨queue, written, other, processors, calls⟩, stage⟩ := by
  refine kept.relock (fun _ _ => id) resets (.inr finishing) submitting (SubLock.absent unwritten) ?_
  intro address same
  obtain rfl := Option.some.inj (stored.symm.trans same)
  exact present

private theorem handsBack {address : Nat} {written : Heap} {other : SubLock}
    (kept : Kept ⟨⟨queue, heap, lock, processors, calls⟩, stage⟩) (held : lock.finishing = some address)
    (resets : other.resets = lock.resets) (finishing : other.finishing = none)
    (submitting : other.submitting = none ∨ other.submitting = lock.submitting) (unwritten : other.writing = none)
    (unstored : other.stored = none) {next : Stage} :
    Kept ⟨⟨queue, written, other, processors, calls⟩, Function.update stage address next⟩ := by
  apply kept.lets .finishing held _ resets (.inl finishing) submitting unwritten unstored
  intro still
  exact absurd (finishing.symm.trans still) (by simp)

private theorem pushStep {after : SharedQueue} {srbext : SrbExtPtr} {cmd : NvmeCommand}
    (kept : Kept ⟨⟨queue, heap, .push srbext cmd, processors, calls⟩, stage⟩)
    (taken : SharedQueue.holderStep ⟨queue, heap, .push srbext cmd, processors, calls⟩ = some after) :
    Kept ⟨after, stageAfter ⟨⟨queue, heap, .push srbext cmd, processors, calls⟩, stage⟩ .holder after⟩ := by
  rcases SharedQueue.push_step taken with rfl | ⟨_, _, rfl⟩ | ⟨_, _, rfl⟩
  · show Kept ⟨⟨queue, heap, .free, processors, calls⟩, Function.update stage srbext.address .prepared⟩
    apply kept.lets .submitting
    · rfl
    · intro still
      cases still
    · rfl
    · exact .inl rfl
    · exact .inl rfl
    · rfl
    · rfl
  · exact kept.relock (fun _ _ => id) rfl (.inl rfl) (.inr rfl) (SubLock.absent rfl) (SubLock.absent rfl)
  · exact kept.puts rfl rfl

private theorem popStep {after : SharedQueue} {srbext : SrbExtPtr} {cmd : NvmeCommand}
    (kept : Kept ⟨⟨queue, heap, .pop srbext cmd, processors, calls⟩, stage⟩)
    (taken : SharedQueue.holderStep ⟨queue, heap, .pop srbext cmd, processors, calls⟩ = some after) :
    Kept ⟨after, stageAfter ⟨⟨queue, heap, .pop srbext cmd, processors, calls⟩, stage⟩ .holder after⟩ := by
  rcases SharedQueue.pop_step taken with ⟨_, rfl⟩ | ⟨_, rfl⟩ | ⟨_, old, held, rfl⟩
  · exact kept.emptyHanded (fun _ _ => id) rfl rfl rfl rfl rfl
  · exact kept.emptyHanded (fun _ _ => SharedQueue.Accountable.mem_of_emptied) rfl rfl rfl rfl rfl
  · apply kept.takes rfl held
    · rfl
    · exact .inr rfl
    · rfl
    · rfl
    · exact .inr (Function.update_self ..)
    · exact fun _ _ => SharedQueue.Accountable.mem_of_emptied

private theorem releaseStep {after : SharedQueue} {old srbext : SrbExtPtr} {pc : CompleteSrbPc} {cmd : NvmeCommand}
    (kept : Kept ⟨⟨queue, heap, .release old pc srbext cmd, processors, calls⟩, stage⟩)
    (spares : internal heap (.release old pc srbext cmd) = false)
    (taken : SharedQueue.holderStep ⟨queue, heap, .release old pc srbext cmd, processors, calls⟩ = some after) :
    Kept ⟨after, stageAfter ⟨⟨queue, heap, .release old pc srbext cmd, processors, calls⟩, stage⟩ .holder after⟩ := by
  cases pc with
  | store =>
    have present : (heap.srbext old.address).srb.isNone = false := spares
    have stays : stageAfter ⟨⟨queue, heap, .release old .store srbext cmd, processors, calls⟩, stage⟩ .holder after =
        stage := by simp [stageAfter, SubLock.publishes, Heap.publishes, present, returns]
    rw [stays]
    cases taken
    have after : ((heap.storeSrbStatus old .busy).srbext old.address).srb.isNone = false := by
      simpa [Heap.storeSrbStatus] using present
    exact kept.stores after rfl rfl (.inr rfl) rfl rfl
  | test =>
    have present : (heap.srbext old.address).srb.isNone = false := kept.stored old.address rfl
    cases taken
    simp only [present, Bool.false_eq_true, if_false]
    exact kept.stores present rfl rfl (.inr rfl) rfl rfl
  | notify =>
    cases taken
    show Kept ⟨⟨queue, heap.notifySrb old.address .busy, .pushAgain srbext cmd, processors, calls⟩,
      Function.update stage old.address .owner⟩
    apply kept.handsBack
    · rfl
    · rfl
    · rfl
    · exact .inr rfl
    · rfl
    · rfl

private theorem pushAgainStep {after : SharedQueue} {srbext : SrbExtPtr} {cmd : NvmeCommand}
    (kept : Kept ⟨⟨queue, heap, .pushAgain srbext cmd, processors, calls⟩, stage⟩)
    (taken : SharedQueue.holderStep ⟨queue, heap, .pushAgain srbext cmd, processors, calls⟩ = some after) :
    Kept ⟨after, stageAfter ⟨⟨queue, heap, .pushAgain srbext cmd, processors, calls⟩, stage⟩ .holder after⟩ := by
  have live : stage srbext.address = .submitted := kept.custody.live (show keeps _ .submitting srbext.address from rfl)
  have writing : ∀ address, (SubLock.write srbext cmd).writing = some address → stage address = .submitted := by
    intro address written
    obtain rfl := Option.some.inj written
    exact live
  rcases SharedQueue.pushAgain_step taken with rfl | ⟨_, _, rfl⟩
  · exact kept.relock (fun _ _ => id) rfl (.inl rfl) (.inl rfl) writing (SubLock.absent rfl)
  · exact kept.puts rfl rfl

private theorem resetSrbStep {after : SharedQueue} {index : Nat} {srbext : SrbExtPtr} {pc : CompleteSrbPc}
    (kept : Kept ⟨⟨queue, heap, .resetSrb index srbext pc, processors, calls⟩, stage⟩)
    (spares : internal heap (.resetSrb index srbext pc) = false)
    (taken : SharedQueue.holderStep ⟨queue, heap, .resetSrb index srbext pc, processors, calls⟩ = some after) :
    Kept ⟨after, stageAfter ⟨⟨queue, heap, .resetSrb index srbext pc, processors, calls⟩, stage⟩ .holder after⟩ := by
  cases pc with
  | store =>
    have present : (heap.srbext srbext.address).srb.isNone = false := spares
    have stays : stageAfter ⟨⟨queue, heap, .resetSrb index srbext .store, processors, calls⟩, stage⟩ .holder after =
        stage := by simp [stageAfter, SubLock.publishes, Heap.publishes, present, returns]
    rw [stays]
    cases taken
    have after : ((heap.storeSrbStatus srbext .busReset).srbext srbext.address).srb.isNone = false := by
      simpa [Heap.storeSrbStatus] using present
    exact kept.stores after rfl rfl (.inl rfl) rfl rfl
  | test =>
    have present : (heap.srbext srbext.address).srb.isNone = false := kept.stored srbext.address rfl
    cases taken
    simp only [present, Bool.false_eq_true, if_false]
    exact kept.stores present rfl rfl (.inl rfl) rfl rfl
  | notify =>
    cases taken
    show Kept ⟨⟨queue, heap.notifySrb srbext.address .busReset, .clear index, processors, calls⟩,
      Function.update stage srbext.address .owner⟩
    apply kept.handsBack
    · rfl
    · rfl
    · rfl
    · exact .inl rfl
    · rfl
    · rfl

private theorem clearStep {after : SharedQueue} {index : Nat}
    (kept : Kept ⟨⟨queue, heap, .clear index, processors, calls⟩, stage⟩)
    (taken : SharedQueue.holderStep ⟨queue, heap, .clear index, processors, calls⟩ = some after) :
    Kept ⟨after, stageAfter ⟨⟨queue, heap, .clear index, processors, calls⟩, stage⟩ .holder after⟩ := by
  cases taken
  refine ⟨?_, SubLock.absent rfl, SubLock.absent rfl, kept.idle⟩
  apply kept.custody.mono _ fun _ _ live => live
  intro place address present
  cases place with
  | slot slot =>
    obtain ⟨_, found, there, same⟩ := present
    have elsewhere : slot ≠ index := by
      rintro rfl
      simp at there
    exact ⟨fun read => elsewhere (Option.some.inj read).symm, found, SharedQueue.Accountable.mem_of_emptied there, same⟩
  | finishing => cases present
  | submitting => cases present

theorem holderStep {state : Handover} {after : SharedQueue} (kept : Kept state)
    (spares : internal state.shared.heap state.shared.subLock = false) (taken : state.shared.holderStep = some after) :
    Kept ⟨after, state.stageAfter .holder after⟩ := by
  obtain ⟨⟨queue, heap, lock, processors, calls⟩, stage⟩ := state
  cases lock with
  | free => cases taken
  | nullPointer => cases taken
  | push srbext cmd => exact kept.pushStep taken
  | pop srbext cmd => exact kept.popStep taken
  | release old pc srbext cmd => exact kept.releaseStep spares taken
  | pushAgain srbext cmd => exact kept.pushAgainStep taken
  | write srbext cmd =>
    cases taken
    exact kept.emptyHanded (fun _ _ => id) rfl rfl rfl rfl rfl
  | count srbext cmd =>
    cases taken
    exact kept.emptyHanded (fun _ _ => id) rfl rfl rfl rfl rfl
  | ring =>
    cases taken
    exact kept.emptyHanded (fun _ _ => id) rfl rfl rfl rfl rfl
  | read index =>
    rcases SharedQueue.read_step taken with ⟨_, rfl⟩ | ⟨_, rfl⟩ | ⟨_, srbext, held, rfl⟩
    · exact kept.emptyHanded (fun _ _ => id) rfl rfl rfl rfl rfl
    · exact kept.emptyHanded (fun _ _ => id) rfl rfl rfl rfl rfl
    · apply kept.takes rfl held
      · rfl
      · exact .inl rfl
      · rfl
      · rfl
      · exact .inl rfl
      · exact fun _ _ => id
  | resetSrb index srbext pc => exact kept.resetSrbStep spares taken
  | clear index => exact kept.clearStep taken
  | zero =>
    cases taken
    exact kept.emptyHanded (fun _ _ => id) rfl rfl rfl rfl rfl
  | skip =>
    rcases SharedQueue.skip_step taken with rfl | rfl
    all_goals
      exact kept.emptyHanded (fun _ _ => id) rfl rfl rfl rfl rfl

variable {processor : Nat} {call : CompleteCall}

theorem resume (kept : Kept ⟨⟨queue, heap, lock, processors, calls⟩, stage⟩) {changed : CNvmeQueue}
    {next : Option CompleteCall}
    (history : ∀ slot found, changed.history.history slot = some found → queue.history.history slot = some found)
    (empty : next.bind (·.pc.touches) = none) :
    Kept ⟨⟨changed, heap, lock, processors, Function.update calls processor next⟩, stage⟩ := by
  obtain ⟨custody, writing, stored, _⟩ := kept.relock history rfl (.inr rfl) (.inr rfl) kept.writing kept.stored
  refine ⟨custody, writing, stored, ?_⟩
  intro other call running
  dsimp only at running
  by_cases same : other = processor
  · subst other
    rw [Function.update_self] at running
    rwa [running] at empty
  · rw [Function.update_of_ne same] at running
    exact kept.idle other call running

theorem completerStep {state : Handover} (kept : Kept state) (running : state.shared.calls processor = some call)
    (vacant : popping state.shared.queue call = none) :
    Kept ⟨state.shared.completerStep processor call, state.stageAfter (.completer processor)
      (state.shared.completerStep processor call)⟩ := by
  have untouched := kept.idle processor call running
  obtain ⟨⟨queue, heap, lock, processors, calls⟩, stage⟩ := state
  obtain ⟨loop, pc⟩ := call
  have unpublished : pc.publishes heap = none := by
    cases pc <;> first | rfl | cases untouched
  have stays : ∀ after, stageAfter ⟨⟨queue, heap, lock, processors, calls⟩, stage⟩ (.completer processor) after = stage := by
    intro after
    have held : calls processor = some ⟨loop, pc⟩ := running
    simp only [stageAfter, held, Option.bind_some, unpublished, returns]
  rw [stays]
  cases pc with
  | test =>
    simp only [SharedQueue.completerStep]
    split
    · exact kept.resume (fun _ _ => id) rfl
    · obtain ⟨cplDbl, doorbell⟩ := queue.leaveCompleteCmd_eq loop
      rw [doorbell]
      exact kept.resume (fun _ _ => id) rfl
  | pop cid =>
    rcases queue.history.pop_cases cid.toNat loop.srbext with ⟨outside, same⟩ | ⟨inside, status, same⟩
    · have fresh : loop.srbext = none := by simpa [popping, Nat.not_lt_of_le outside] using vacant
      rw [fresh] at same
      simp only [SharedQueue.completerStep, fresh, same]
      exact kept.resume (fun _ _ => id) rfl
    · have free : queue.history.history cid.toNat = none := by simpa [popping, inside] using vacant
      simp only [SharedQueue.completerStep, same, free]
      exact kept.resume (fun _ _ => SharedQueue.Accountable.mem_of_emptied) rfl
  | decrement => exact kept.resume (fun _ _ => id) rfl
  | advance => exact kept.resume (fun _ _ => id) rfl
  | _ => cases untouched

theorem owned {address : Nat} (kept : Kept ⟨⟨queue, heap, lock, processors, calls⟩, stage⟩)
    (elsewhere : stage address ≠ .submitted) (record : SrbExt) (next : Stage) :
    Kept ⟨⟨queue, heap.put address record, lock, processors, calls⟩, Function.update stage address next⟩ := by
  have other : ∀ {item}, stage item = .submitted → item ≠ address := by
    intro item submitted same
    rw [same] at submitted
    exact elsewhere submitted
  have still : ∀ {item}, stage item = .submitted → Function.update stage address next item = .submitted := by
    intro item submitted
    rwa [Function.update_of_ne (other submitted)]
  refine ⟨kept.custody.mono (fun _ _ => id) fun _ _ => still, ?_, ?_, kept.idle⟩
  · intro item written
    exact still (kept.writing item written)
  · intro item finished
    have finishing : lock.finishing = some item := by
      cases lock with
      | release old pc srbext cmd => cases pc <;> first | exact finished | cases finished
      | resetSrb index srbext pc => cases pc <;> first | exact finished | cases finished
      | _ => cases finished
    have submitted := kept.custody.live (show keeps _ .finishing item from finishing)
    simpa [Function.update_of_ne (other submitted)] using kept.stored item finished

theorem given {srbext : SrbExtPtr} {cmd : NvmeCommand} (kept : Kept ⟨⟨queue, heap, .free, processors, calls⟩, stage⟩)
    (prepared : stage srbext.address = .prepared) :
    Kept ⟨⟨queue, heap, .push srbext cmd, processors, calls⟩, Function.update stage srbext.address .submitted⟩ := by
  have free : Custody.Free (keeps ⟨queue, heap, .free, processors, calls⟩) srbext.address := by
    intro place held
    have live : stage srbext.address = .submitted := kept.custody.live held
    rw [prepared] at live
    cases live
  refine ⟨?_, SubLock.absent rfl, SubLock.absent rfl, kept.idle⟩
  apply (kept.custody.spend free _).give .submitting free (Function.update_self ..)
  · intro place address present
    cases place with
    | slot index => exact .inl present
    | finishing => cases present
    | submitting => exact .inr ⟨rfl, (Option.some.inj present).symm⟩
  · intro other different live
    simpa [Function.update_of_ne different] using live

theorem step {before after : Handover} {event : HandoverEvent} (kept : Kept before) (spares : before.Spares event)
    (taken : before.step event = some after) : Kept after := by
  cases event with
  | init address record =>
    simp only [Handover.step] at taken
    split at taken
    · next owned =>
      cases taken
      exact kept.owned (by simp [owned]) record .prepared
    · cases taken
  | giveUp address =>
    simp only [Handover.step] at taken
    split at taken
    · next owned =>
      cases taken
      have unchanged : before.shared.heap.put address (before.shared.heap.srbext address) = before.shared.heap := by
        simp [Heap.put]
      have elsewhere : before.stage address ≠ .submitted := by simp [owned]
      have given := kept.owned elsewhere (before.shared.heap.srbext address) .owner
      rwa [unchanged] at given
    · cases taken
  | queue event =>
    simp only [Handover.step] at taken
    split at taken
    · next permitted =>
      obtain ⟨shared, stepped, rfl⟩ := Option.map_eq_some_iff.mp taken
      cases event with
      | prepare address record =>
        cases stepped
        have elsewhere : before.stage address ≠ .submitted := of_decide_eq_true permitted
        have given := kept.owned elsewhere record (before.stage address)
        rwa [Function.update_eq_self] at given
      | submit address cmd =>
        have prepared : before.stage address = .prepared := of_decide_eq_true permitted
        obtain ⟨⟨queue, heap, lock, processors, calls⟩, stage⟩ := before
        obtain ⟨rfl, rfl | ⟨_, _, rfl⟩⟩ := SharedQueue.submit_step stepped
        · exact kept
        · exact kept.given prepared
      | reset =>
        obtain ⟨⟨queue, heap, lock, processors, calls⟩, stage⟩ := before
        obtain ⟨rfl, rfl⟩ := SharedQueue.reset_step stepped
        exact kept.emptyHanded (fun _ _ => id) rfl rfl rfl rfl rfl
      | holder => exact kept.holderStep spares stepped
      | enter processor maxCount =>
        obtain ⟨_, _, rfl⟩ := SharedQueue.enter_step stepped
        exact kept.resume (fun _ _ => id) rfl
      | completer processor =>
        obtain ⟨call, running, rfl⟩ := Option.map_eq_some_iff.mp stepped
        exact kept.completerStep running (spares call running)
      | scribble slot written =>
        cases stepped
        exact kept.relock (fun _ _ => id) rfl (.inr rfl) (.inr rfl) kept.writing kept.stored
    · cases taken

private theorem respects {state : Handover} (kept : Kept state) (event : HandoverEvent) : state.Respects event := by
  intro address touched
  have submitted : state.stage address = .submitted → state.stage address ≠ .owner := by
    intro same
    simp [same]
  cases event with
  | init other record => cases touched
  | giveUp other => cases touched
  | queue event =>
    simp only [touches, Option.mem_def] at touched
    split at touched
    · next permitted =>
      cases event with
      | submit other cmd =>
        obtain rfl := Option.some.inj touched
        have prepared : state.stage other = .prepared := of_decide_eq_true permitted
        simp [prepared]
      | holder =>
        apply submitted
        obtain ⟨⟨queue, heap, lock, processors, calls⟩, stage⟩ := state
        cases lock with
        | release old pc srbext cmd => exact kept.custody.live (show keeps _ .finishing address from touched)
        | resetSrb index srbext pc => exact kept.custody.live (show keeps _ .finishing address from touched)
        | write srbext cmd => exact kept.writing address touched
        | _ => cases touched
      | completer processor =>
        obtain ⟨call, running, held⟩ := Option.bind_eq_some_iff.mp touched
        exact absurd ((kept.idle processor call running).symm.trans held) (by simp)
      | _ => cases touched
    · cases touched

end Kept

/-! ### A call that publishes and goes on -/

section Breaks
variable {queue : CNvmeQueue} {heap : Heap} {lock : SubLock} {processors processor count : Nat}
  {calls : Nat → Option CompleteCall} {stage : Nat → Stage} {loop : CompleteLoop} {pc : CompletePc} {srbext : SrbExtPtr}

private theorem meets_completer
    (met : Machine.Meets step Respects
      ⟨SharedQueue.goto ⟨queue, heap, lock, processors, calls⟩ processor loop pc, stage⟩
      (List.replicate (count + 1) (.queue (.completer processor)))) :
    (∀ address, pc.touches = some address → stage address ≠ .owner) ∧
    Machine.Meets step Respects
      ⟨(SharedQueue.goto ⟨queue, heap, lock, processors, calls⟩ processor loop pc).completerStep processor ⟨loop, pc⟩,
        returns ⟨⟨queue, heap, lock, processors, calls⟩, stage⟩ (pc.publishes heap)⟩
      (List.replicate count (.queue (.completer processor))) := by
  obtain ⟨here, later⟩ := met
  constructor
  · intro address touched
    apply here address
    simp [touches, permits, SharedQueue.touches, SharedQueue.goto, touched]
  · apply later
    simp [step, permits, SharedQueue.step, stageAfter, returns, SharedQueue.goto]

private theorem not_meets_of_returned {address : Nat} (touched : pc.touches = some address) (returned : stage address = .owner) :
    ¬ Machine.Meets step Respects
      ⟨SharedQueue.goto ⟨queue, heap, lock, processors, calls⟩ processor loop pc, stage⟩
      (List.replicate (count + 1) (.queue (.completer processor))) :=
  fun met => (meets_completer met).1 address touched returned

private theorem not_meets_of_notify {status : SrbStatus} :
    ¬ Machine.Meets step Respects
      ⟨SharedQueue.goto ⟨queue, heap, lock, processors, calls⟩ processor loop (.complete srbext .notify status), stage⟩
      (List.replicate (count + 2) (.queue (.completer processor))) := by
  intro met
  have later := (meets_completer met).2
  simp only [SharedQueue.completerStep, SharedQueue.goto, Function.update_idem, Heap.completeSrbStep,
    CompletePc.publishes, Heap.publishes, returns] at later
  exact not_meets_of_returned rfl (Function.update_self ..) later

private theorem not_meets_of_test {status : SrbStatus} (present : (heap.srbext srbext.address).srb.isNone = false) :
    ¬ Machine.Meets step Respects
      ⟨SharedQueue.goto ⟨queue, heap, lock, processors, calls⟩ processor loop (.complete srbext .test status), stage⟩
      (List.replicate (count + 3) (.queue (.completer processor))) := by
  intro met
  have later := (meets_completer met).2
  simp only [SharedQueue.completerStep, SharedQueue.goto, Function.update_idem, Heap.completeSrbStep, present,
    CompletePc.publishes, Heap.publishes, returns, Bool.false_eq_true, if_false] at later
  exact not_meets_of_notify later

/-- `CompleteSrb` publishes the status, and then it or its caller reads the extension again. -/
theorem not_meets_of_complete {status : SrbStatus} :
    ¬ Machine.Meets step Respects
      ⟨SharedQueue.goto ⟨queue, heap, lock, processors, calls⟩ processor loop (.complete srbext .store status), stage⟩
      (List.replicate (count + 4) (.queue (.completer processor))) := by
  intro met
  have stored := (meets_completer met).2
  cases missing : (heap.srbext srbext.address).srb.isNone with
  | true =>
    simp only [SharedQueue.completerStep, SharedQueue.goto, Function.update_idem, Heap.completeSrbStep,
      CompletePc.publishes, Heap.publishes, returns, missing, if_true] at stored
    exact not_meets_of_returned rfl (Function.update_self ..) stored
  | false =>
    simp only [SharedQueue.completerStep, SharedQueue.goto, Function.update_idem, Heap.completeSrbStep,
      CompletePc.publishes, Heap.publishes, returns, missing, Bool.false_eq_true, if_false] at stored
    apply not_meets_of_test _ stored
    simpa [Heap.storeSrbStatus] using missing

private theorem not_meets_of_callback :
    ¬ Machine.Meets step Respects
      ⟨SharedQueue.goto ⟨queue, heap, lock, processors, calls⟩ processor loop (.callback srbext), stage⟩
      (List.replicate (count + 6) (.queue (.completer processor))) := by
  intro met
  have called := (meets_completer met).2
  cases loud : (heap.srbext srbext.address).completesItself with
  | true =>
    simp only [SharedQueue.completerStep, SharedQueue.goto, Function.update_idem, CompletePc.publishes, returns, loud,
      if_true] at called
    exact not_meets_of_returned rfl (Function.update_self ..) called
  | false =>
    simp only [SharedQueue.completerStep, SharedQueue.goto, Function.update_idem, CompletePc.publishes, returns, loud,
      Bool.false_eq_true, if_false] at called
    have read := (meets_completer called).2
    simp only [SharedQueue.completerStep, SharedQueue.goto, Function.update_idem, CompletePc.publishes, returns] at read
    exact not_meets_of_complete read

private theorem not_meets_of_pop {cid : BitVec 16} (popped : popping queue ⟨loop, .pop cid⟩ ≠ none) :
    ¬ Machine.Meets step Respects
      ⟨SharedQueue.goto ⟨queue, heap, lock, processors, calls⟩ processor loop (.pop cid), stage⟩
      (List.replicate (count + 8) (.queue (.completer processor))) := by
  intro met
  have later := (meets_completer met).2
  have found : ∃ srbext history, (queue.history.pop cid.toNat loop.srbext).2 = (some srbext, history) := by
    rcases queue.history.pop_cases cid.toNat loop.srbext with ⟨outside, same⟩ | ⟨inside, status, same⟩
    · have held : loop.srbext ≠ none := by simpa [popping, Nat.not_lt_of_le outside] using popped
      obtain ⟨srbext, present⟩ := Option.ne_none_iff_exists'.mp held
      exact ⟨srbext, queue.history, by rw [same, present]⟩
    · have held : queue.history.history cid.toNat ≠ none := by simpa [popping, inside] using popped
      obtain ⟨srbext, present⟩ := Option.ne_none_iff_exists'.mp held
      exact ⟨srbext, _, by rw [same, present]⟩
  obtain ⟨srbext, history, pair⟩ := found
  simp only [SharedQueue.completerStep, SharedQueue.goto, Function.update_idem, pair, CompletePc.publishes,
    returns] at later
  have copied := (meets_completer later).2
  simp only [SharedQueue.completerStep, SharedQueue.goto, Function.update_idem, CompletePc.publishes, returns] at copied
  exact not_meets_of_callback copied

private theorem not_meets_of_holder {before : Handover} {address : Nat} {after : SharedQueue}
    (taken : before.shared.holderStep = some after) (published : before.stageAfter .holder after address = .owner)
    (touched : after.subLock.touches = some address) :
    ¬ Machine.Meets step Respects before (List.replicate (count + 2) (.queue .holder)) := by
  intro met
  have stepped : before.step (.queue .holder) = some ⟨after, before.stageAfter .holder after⟩ := by
    simp [step, permits, SharedQueue.step, taken]
  have later := (met.2 _ stepped).1
  exact later address (by simpa [touches, permits, SharedQueue.touches] using touched) published

/-- For an extension without an SRB the store of the status is the publication, and
the test of the SRB comes after it. -/
theorem not_meets_of_internal {state : Handover} (spent : internal state.shared.heap state.shared.subLock = true) :
    ¬ Machine.Meets step Respects state (List.replicate (count + 2) (.queue .holder)) := by
  obtain ⟨⟨queue, heap, lock, processors, calls⟩, stage⟩ := state
  cases lock with
  | release old pc srbext cmd =>
    cases pc with
    | store =>
      have missing : (heap.srbext old.address).srb.isNone = true := spent
      have touched : (SubLock.release old .test srbext cmd).touches = some old.address := rfl
      apply not_meets_of_holder rfl _ touched
      simp [stageAfter, SubLock.publishes, Heap.publishes, missing, returns]
    | test => cases spent
    | notify => cases spent
  | resetSrb index srbext pc =>
    cases pc with
    | store =>
      have missing : (heap.srbext srbext.address).srb.isNone = true := spent
      have touched : (SubLock.resetSrb index srbext .test).touches = some srbext.address := rfl
      apply not_meets_of_holder rfl _ touched
      simp [stageAfter, SubLock.publishes, Heap.publishes, missing, returns]
    | test => cases spent
    | notify => cases spent
  | _ => cases spent

/-- What `Spares` excludes breaks the ownership if only the call it is a step of goes on. -/
theorem not_meets_of_not_spares {state : Handover} {event : HandoverEvent} (spent : ¬ state.Spares event) :
    ¬ Machine.Meets step Respects state (List.replicate 8 event) := by
  cases event with
  | queue event =>
    cases event with
    | holder =>
      apply not_meets_of_internal
      simpa [Spares] using spent
    | completer processor =>
      have popped : ∃ call, state.shared.calls processor = some call ∧ popping state.shared.queue call ≠ none := by
        simpa [Spares] using spent
      obtain ⟨⟨loop, pc⟩, running, popped⟩ := popped
      cases pc with
      | pop cid =>
        obtain ⟨⟨queue, heap, lock, processors, calls⟩, stage⟩ := state
        have same : Function.update calls processor (some ⟨loop, .pop cid⟩) = calls := by
          rw [← show calls processor = some ⟨loop, .pop cid⟩ from running]
          exact Function.update_eq_self processor calls
        have broken : ¬ Machine.Meets step Respects
            ⟨SharedQueue.goto ⟨queue, heap, lock, processors, calls⟩ processor loop (.pop cid), stage⟩
            (List.replicate 8 (.queue (.completer processor))) := not_meets_of_pop popped
        rwa [SharedQueue.goto, same] at broken
      | _ => exact absurd rfl popped
    | _ => exact absurd trivial spent
  | _ => exact absurd trivial spent

end Breaks

/-- A run that meets `Spares` leaves every extension alone once it is back with its
owner. A run up to a step that does not meet it goes on to touch an extension that
is back with its owner. -/
theorem respects_of_spares (config : QueuePairConfig) (srbext : Nat → SrbExt) (slotCount : BitVec 3) (processors : Nat)
    (events : List HandoverEvent) :
    (Machine.Meets step Spares (.initial config srbext slotCount processors) events →
      Machine.Meets step Respects (.initial config srbext slotCount processors) events) ∧
    ∀ state event, Machine.run step (.initial config srbext slotCount processors) events = some state →
      ¬ state.Spares event →
        ¬ Machine.Meets step Respects (.initial config srbext slotCount processors)
          (events ++ List.replicate 8 event) := by
  constructor
  · intro spares
    apply spares.of_invariant _ _ (Kept.initial config srbext slotCount processors)
    · intro before event after kept spares taken
      exact kept.step spares taken
    · intro state event kept _
      exact kept.respects event
  · intro state event ran spent met
    exact not_meets_of_not_spares spent (met.of_append ran)

def sampleHandover : Handover := .initial sampleQueue (fun _ => .init none) 1 2

/-- A request is submitted, completed by `ResetAllCmd`, delivered again and submitted again. -/
def sampleRedelivery : List HandoverEvent :=
  let submission := [.init 0 (.init (some sampleSrb)), .queue (.submit 0 (SharedQueue.sampleCmd 0))] ++
    List.replicate 4 (.queue .holder)
  submission ++ [.queue .reset] ++ List.replicate 12 (.queue .holder) ++ submission

def sampleTaken (srb : Option Srb) : List HandoverEvent :=
  .init 0 (.init srb) :: SharedQueue.sampleAnswered.map .queue

theorem respects_of_spares_redelivery :
    Machine.Meets step Respects sampleHandover sampleRedelivery ∧
    ¬ Machine.Meets step Respects sampleHandover
      (sampleTaken (some sampleSrb) ++ List.replicate 8 (.queue (.completer 0))) := by
  have spent : ∀ state ∈ Machine.run step sampleHandover (sampleTaken (some sampleSrb)),
      ¬ state.Spares (.queue (.completer 0)) := by decide +kernel
  obtain ⟨state, ran⟩ : ∃ state, Machine.run step sampleHandover (sampleTaken (some sampleSrb)) = some state :=
    Option.isSome_iff_exists.mp (by decide +kernel)
  constructor
  · exact (respects_of_spares sampleQueue (fun _ => .init none) 1 2 sampleRedelivery).1 (by decide +kernel)
  · exact (respects_of_spares sampleQueue (fun _ => .init none) 1 2 (sampleTaken (some sampleSrb))).2 state
      (.queue (.completer 0)) ran (spent state ran)

/-- With an SRB the breach is `CleanUp` after the notification, and without one the
test of `Srb` after the store to `SrbStatus`. -/
theorem published_and_touched :
    ¬ Machine.Meets step Respects sampleHandover
      (sampleTaken (some sampleSrb) ++ List.replicate 8 (.queue (.completer 0))) ∧
    ¬ Machine.Meets step Respects sampleHandover
      (sampleTaken none ++ List.replicate 6 (.queue (.completer 0))) := by
  decide +kernel

end Handover

end SpcNvme
