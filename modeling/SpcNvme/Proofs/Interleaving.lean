import SpcNvme.Lib.Custody
import SpcNvme.Proofs.Completion
import SpcNvme.SharedQueue

/-! A shared queue under every interleaving of its callers. A pointer is in a
history slot or with the one call that took it out, as long as nobody pops a slot
that the holder of `SubLock` has read and not finished with. -/

namespace SpcNvme

namespace CCmdHistory
variable (table : CCmdHistory) (index : Nat)

private theorem push_cases (srbext : SrbExtPtr) :
    (table.depth ≤ index ∧ table.push index srbext = (.unsuccessful, table)) ∨
    (index < table.depth ∧ (table.history index).isSome ∧ table.push index srbext = (.alreadyCommitted, table)) ∨
    (index < table.depth ∧ table.history index = none ∧
      table.push index srbext = (.success, ⟨table.depth, Function.update table.history index (some srbext)⟩)) := by
  by_cases outside : table.depth ≤ index
  · exact .inl ⟨outside, by simp [push, outside]⟩
  · apply Or.inr
    have inside := Nat.lt_of_not_le outside
    cases held : table.history index with
    | some old => exact .inl ⟨inside, rfl, by simp [push, outside, held]⟩
    | none => exact .inr ⟨inside, rfl, by simp [push, outside, held]⟩

theorem pop_cases (srbext : Option SrbExtPtr) :
    (table.depth ≤ index ∧ table.pop index srbext = (.unsuccessful, srbext, table)) ∨
    (index < table.depth ∧ ∃ status, table.pop index srbext =
      (status, table.history index, ⟨table.depth, Function.update table.history index none⟩)) := by
  by_cases outside : table.depth ≤ index
  · exact .inl ⟨outside, by simp [pop, outside]⟩
  · exact .inr ⟨Nat.lt_of_not_le outside, _, if_neg outside⟩

end CCmdHistory

private theorem Heap.settled_storeSrbStatus (heap : Heap) (srbext : SrbExtPtr) (status : SrbStatus) :
    (heap.storeSrbStatus srbext status).settled = heap.settled ++ [srbext.submission] := by
  simp [settled, storeSrbStatus]

private theorem Heap.settled_notifySrb (heap : Heap) (address : Nat) (status : SrbStatus) :
    (heap.notifySrb address status).settled = heap.settled := by
  unfold notifySrb
  dsimp only
  split <;> rfl

private theorem runCompletionCB_settled {heap : Heap} {address : Nat} (submission : Option Nat)
    (plain : (heap.srbext address).completesItself = false) :
    (runCompletionCB heap address submission).settled = heap.settled := by
  rcases runCompletionCB_plain submission plain with same | same
  · rw [same]
  · rw [same]
    rfl

namespace SubLock

theorem absent {α : Type} {option : Option α} {property : α → Prop} (empty : option = none) :
    ∀ value, option = some value → property value := by
  intro value present
  rw [empty] at present
  cases present

theorem not_isSome {α : Type} {option : Option α} {property : Prop} (empty : option = none)
    (present : option.isSome) : property := by
  rw [empty] at present
  cases present

def settling : SubLock → Option Nat
  | .release old .store _ _ => some old.submission
  | .resetSrb _ srbext .store => some srbext.submission
  | _ => none

def resets : SubLock → Option Nat
  | .resetSrb index _ _ | .clear index => some index
  | _ => none

def submits : SubLock → Option SrbExtPtr
  | .push srbext _ | .pop srbext _ | .release _ _ srbext _ | .pushAgain srbext _ | .write srbext _
  | .count srbext _ => some srbext
  | _ => none

/-- `SubmitCmd` is between its push and `InterlockedIncrement`. -/
def pushed : SubLock → Bool
  | .write .. | .count .. => true
  | _ => false

/-- The slot the holder has looked at and comes back to: after a push that
failed, or after the read of `Reset`. -/
def returnsTo : SubLock → Option Nat
  | .pop _ cmd => some cmd.cid.toNat
  | .resetSrb index _ _ | .clear index => some index
  | _ => none

end SubLock

namespace CompletePc

def settling : CompletePc → Option Nat
  | .copy srbext | .callback srbext | .status srbext | .complete srbext .store _ => some srbext.submission
  | _ => none

/-- Between the pop of a pointer and `InterlockedDecrement`. -/
def owes : CompletePc → Option Unit
  | .test | .pop _ | .advance => none
  | _ => some ()

end CompletePc

inductive Keeper where
  | slot (index : Nat)
  | holder
  | call (processor : Nat)

namespace SharedQueue

def holds (state : SharedQueue) : Keeper → Nat → Prop
  | .slot index, serial =>
      state.subLock.resets ≠ some index ∧
        ∃ srbext, state.queue.history.history index = some srbext ∧ srbext.submission = serial
  | .holder, serial => state.subLock.settling = some serial
  | .call processor, serial => (state.calls processor).bind (·.pc.settling) = some serial

def issued (state : SharedQueue) : Nat :=
  state.queue.trace.submitted.length + if state.subLock.pushed then 1 else 0

def owing (state : SharedQueue) : Nat :=
  SlotTable.occupied (fun processor => (state.calls processor).bind (·.pc.owes)) state.processors

/-- What the counter counts: occupied slots, popped commands and replaced ones. -/
def outstanding (state : SharedQueue) : Nat :=
  state.queue.history.occupied + state.owing + state.queue.trace.replaced.length

/-- A step of `CompleteCmd` does not get in the way: it takes no slot the holder of
`SubLock` comes back to, and decrements for a command not counted yet only if
another one is counted. It works on no pointer of an earlier iteration, and on no
extension whose callback completes it. -/
def Considerate (state : SharedQueue) (call : CompleteCall) : Prop :=
  match call.pc with
  | .pop cid =>
      if cid.toNat < state.queue.history.depth then
        state.subLock.returnsTo = some cid.toNat → state.queue.history.history cid.toNat = none
      else call.loop.srbext = none
  | .callback srbext => (state.heap.srbext srbext.address).completesItself = false
  | .decrement => state.subLock.pushed = true → 1 < state.outstanding
  | _ => True

instance (state : SharedQueue) : (call : CompleteCall) → Decidable (state.Considerate call)
  | ⟨loop, .pop cid⟩ => inferInstanceAs (Decidable (if cid.toNat < state.queue.history.depth then
      state.subLock.returnsTo = some cid.toNat → state.queue.history.history cid.toNat = none
      else loop.srbext = none))
  | ⟨_, .callback srbext⟩ => inferInstanceAs (Decidable ((state.heap.srbext srbext.address).completesItself = false))
  | ⟨_, .decrement⟩ => inferInstanceAs (Decidable (state.subLock.pushed = true → 1 < state.outstanding))
  | ⟨_, .test⟩ | ⟨_, .copy _⟩ | ⟨_, .status _⟩ | ⟨_, .complete ..⟩ | ⟨_, .cleanUp _⟩ | ⟨_, .advance⟩ => isTrue trivial

/-- `ResetAllCmd` zeroes the counter only while no call of `CompleteCmd` is about
to decrement it, and the counter of a queue too short to be throttled is not
incremented past the largest `LONG`. -/
def Fits (state : SharedQueue) : SubLock → Prop
  | .zero => state.owing = 0
  | .count .. => safeSubmitThreshold ≤ state.queue.depth ∨ state.queue.inflightCmds < 2147483647
  | _ => True

instance (state : SharedQueue) : (lock : SubLock) → Decidable (state.Fits lock)
  | .zero => inferInstanceAs (Decidable (state.owing = 0))
  | .count .. =>
      inferInstanceAs (Decidable (safeSubmitThreshold ≤ state.queue.depth ∨ state.queue.inflightCmds < 2147483647))
  | .free | .push .. | .pop .. | .release .. | .pushAgain .. | .write .. | .ring | .read _ | .resetSrb .. | .clear _
  | .skip | .nullPointer => isTrue trivial

def Undisturbed (state : SharedQueue) : SharedEvent → Prop
  | .completer processor => ∀ call ∈ state.calls processor, state.Considerate call
  | .holder => state.Fits state.subLock
  | _ => True

instance (state : SharedQueue) : (event : SharedEvent) → Decidable (state.Undisturbed event)
  | .completer processor => inferInstanceAs (Decidable (∀ call ∈ state.calls processor, state.Considerate call))
  | .holder => inferInstanceAs (Decidable (state.Fits state.subLock))
  | .prepare .. | .submit .. | .reset | .enter .. | .scribble .. => isTrue trivial

private theorem enterSubmitCmd_cases (state : SharedQueue) (address : Nat) (cmd : NvmeCommand) :
    state.enterSubmitCmd address cmd = state ∨
      (state.queue.isReady = true ∧ state.queue.isSafeForSubmit = true ∧
        state.enterSubmitCmd address cmd =
          { state with subLock := .push ⟨address, state.queue.trace.submitted.length⟩ cmd }) := by
  cases ready : state.queue.isReady with
  | false => exact .inl (by simp [enterSubmitCmd, ready])
  | true =>
    cases safe : state.queue.isSafeForSubmit with
    | false => exact .inl (by simp [enterSubmitCmd, safe])
    | true => exact .inr ⟨rfl, rfl, by simp [enterSubmitCmd, ready, safe]⟩

section Entering
variable {queue : CNvmeQueue} {heap : Heap} {lock : SubLock} {processors : Nat} {calls : Nat → Option CompleteCall}
  {after : SharedQueue}

theorem submit_step {address : Nat} {cmd : NvmeCommand}
    (taken : step ⟨queue, heap, lock, processors, calls⟩ (.submit address cmd) = some after) :
    lock = .free ∧ (after = ⟨queue, heap, .free, processors, calls⟩ ∨
      queue.isReady = true ∧ queue.isSafeForSubmit = true ∧
        after = ⟨queue, heap, .push ⟨address, queue.trace.submitted.length⟩ cmd, processors, calls⟩) := by
  cases lock with
  | free =>
    refine ⟨rfl, ?_⟩
    obtain rfl := Option.some.inj taken
    exact enterSubmitCmd_cases ⟨queue, heap, .free, processors, calls⟩ address cmd
  | _ => cases taken

theorem reset_step (taken : step ⟨queue, heap, lock, processors, calls⟩ .reset = some after) :
    lock = .free ∧ after = ⟨queue, heap, .read 0, processors, calls⟩ := by
  cases lock with
  | free => exact ⟨rfl, (Option.some.inj taken).symm⟩
  | _ => cases taken

theorem enter_step {before : SharedQueue} {processor maxCount : Nat}
    (taken : before.step (.enter processor maxCount) = some after) :
    processor < before.processors ∧ before.calls processor = none ∧
      after = before.goto processor (before.queue.enterCompleteCmd maxCount) .test := by
  simp only [step] at taken
  split at taken
  · next idle => exact ⟨idle.1, idle.2, (Option.some.inj taken).symm⟩
  · cases taken

end Entering

section Holding
variable {queue : CNvmeQueue} {heap : Heap} {processors index : Nat} {calls : Nat → Option CompleteCall}
  {old srbext : SrbExtPtr} {pc : CompleteSrbPc} {cmd : NvmeCommand} {after : SharedQueue}

theorem push_step (taken : holderStep ⟨queue, heap, .push srbext cmd, processors, calls⟩ = some after) :
    after = ⟨queue, heap, .free, processors, calls⟩ ∨
    (cmd.cid.toNat < queue.history.depth ∧ (queue.history.history cmd.cid.toNat).isSome ∧
      after = ⟨queue, heap, .pop srbext cmd, processors, calls⟩) ∨
    (cmd.cid.toNat < queue.history.depth ∧ queue.history.history cmd.cid.toNat = none ∧
      after = ⟨{ queue with history :=
        ⟨queue.history.depth, Function.update queue.history.history cmd.cid.toNat (some srbext)⟩ },
        heap, .write srbext cmd, processors, calls⟩) := by
  rcases queue.history.push_cases cmd.cid.toNat srbext with ⟨_, same⟩ | ⟨inside, held, same⟩ | ⟨inside, free, same⟩
  · simp only [holderStep, same] at taken
    cases taken
    exact .inl rfl
  · simp only [holderStep, same] at taken
    cases taken
    exact .inr (.inl ⟨inside, held, rfl⟩)
  · simp only [holderStep, same] at taken
    cases taken
    exact .inr (.inr ⟨inside, free, rfl⟩)

/-- The result of the second push is not looked at. -/
theorem pushAgain_step (taken : holderStep ⟨queue, heap, .pushAgain srbext cmd, processors, calls⟩ = some after) :
    after = ⟨queue, heap, .write srbext cmd, processors, calls⟩ ∨
    (cmd.cid.toNat < queue.history.depth ∧ queue.history.history cmd.cid.toNat = none ∧
      after = ⟨{ queue with history :=
        ⟨queue.history.depth, Function.update queue.history.history cmd.cid.toNat (some srbext)⟩ },
        heap, .write srbext cmd, processors, calls⟩) := by
  rcases queue.history.push_cases cmd.cid.toNat srbext with ⟨_, same⟩ | ⟨_, _, same⟩ | ⟨inside, free, same⟩
  · simp only [holderStep, same] at taken
    cases taken
    exact .inl rfl
  · simp only [holderStep, same] at taken
    cases taken
    exact .inl rfl
  · simp only [holderStep, same] at taken
    cases taken
    exact .inr ⟨inside, free, rfl⟩

theorem pop_step (taken : holderStep ⟨queue, heap, .pop srbext cmd, processors, calls⟩ = some after) :
    (queue.history.depth ≤ cmd.cid.toNat ∧ after = ⟨queue, heap, .nullPointer, processors, calls⟩) ∨
    (queue.history.history cmd.cid.toNat = none ∧
      after = ⟨{ queue with history :=
        ⟨queue.history.depth, Function.update queue.history.history cmd.cid.toNat none⟩ },
        heap, .nullPointer, processors, calls⟩) ∨
    (cmd.cid.toNat < queue.history.depth ∧ ∃ old, queue.history.history cmd.cid.toNat = some old ∧
      after = ⟨{ queue with
        history := ⟨queue.history.depth, Function.update queue.history.history cmd.cid.toNat none⟩
        trace := { queue.trace with replaced := queue.trace.replaced ++ [old.submission] } },
        heap, .release old .store srbext cmd, processors, calls⟩) := by
  rcases queue.history.pop_cases cmd.cid.toNat none with ⟨outside, same⟩ | ⟨inside, status, same⟩
  · simp only [holderStep, same] at taken
    cases taken
    exact .inl ⟨outside, rfl⟩
  · cases held : queue.history.history cmd.cid.toNat with
    | none =>
      simp only [holderStep, same, held] at taken
      cases taken
      exact .inr (.inl ⟨rfl, rfl⟩)
    | some old =>
      simp only [holderStep, same, held] at taken
      cases taken
      exact .inr (.inr ⟨inside, old, rfl, rfl⟩)

theorem release_step (taken : holderStep ⟨queue, heap, .release old pc srbext cmd, processors, calls⟩ = some after) :
    ∃ written, after = ⟨queue, written, .pushAgain srbext cmd, processors, calls⟩ ∨
      ∃ next, after = ⟨queue, written, .release old next srbext cmd, processors, calls⟩ := by
  rcases stepped : heap.completeSrbStep old .busy pc with ⟨written, next⟩
  simp only [holderStep, stepped] at taken
  cases next with
  | none =>
    cases taken
    exact ⟨written, .inl rfl⟩
  | some next =>
    cases taken
    exact ⟨written, .inr ⟨next, rfl⟩⟩

theorem read_step (taken : holderStep ⟨queue, heap, .read index, processors, calls⟩ = some after) :
    (queue.history.depth ≤ index ∧ after = ⟨queue, heap, .zero, processors, calls⟩) ∨
    (queue.history.history index = none ∧ after = ⟨queue, heap, .read (index + 1), processors, calls⟩) ∨
    (index < queue.history.depth ∧ ∃ srbext, queue.history.history index = some srbext ∧
      after = ⟨queue, heap, .resetSrb index srbext .store, processors, calls⟩) := by
  cases taken
  by_cases ended : index ≥ queue.history.depth
  · exact .inl ⟨ended, by simp only [ended, if_true]⟩
  · apply Or.inr
    cases held : queue.history.history index with
    | none => exact .inl ⟨rfl, by simp only [ended, if_false]⟩
    | some srbext => exact .inr ⟨Nat.lt_of_not_le ended, srbext, rfl, by simp only [ended, if_false]⟩

theorem resetSrb_step (taken : holderStep ⟨queue, heap, .resetSrb index srbext pc, processors, calls⟩ = some after) :
    ∃ written, after = ⟨queue, written, .clear index, processors, calls⟩ ∨
      ∃ next, after = ⟨queue, written, .resetSrb index srbext next, processors, calls⟩ := by
  rcases stepped : heap.completeSrbStep srbext .busReset pc with ⟨written, next⟩
  simp only [holderStep, stepped] at taken
  cases next with
  | none =>
    cases taken
    exact ⟨written, .inl rfl⟩
  | some next =>
    cases taken
    exact ⟨written, .inr ⟨next, rfl⟩⟩

theorem skip_step (taken : holderStep ⟨queue, heap, .skip, processors, calls⟩ = some after) :
    after = ⟨queue, heap, .free, processors, calls⟩ ∨
    after = ⟨queue.updateCplHeadAndPhase, heap, .skip, processors, calls⟩ := by
  simp only [holderStep] at taken
  split at taken
  · cases taken
    exact .inl rfl
  · cases taken
    exact .inr rfl

end Holding

/-! ### Who holds a command -/

/-- Every number is settled at most once, and the holder of `SubLock` submits under the next one. -/
structure Accountable (state : SharedQueue) : Prop where
  settlement : Settlement state.holds state.issued state.heap.settled
  numbered : ∀ srbext, state.subLock.submits = some srbext → srbext.submission = state.queue.trace.submitted.length

namespace Accountable

theorem initial (config : QueuePairConfig) (srbext : Nat → SrbExt) (slotCount : BitVec 3) (processors : Nat) :
    Accountable (.initial config srbext slotCount processors) := by
  have empty : ∀ place serial, ¬ (SharedQueue.initial config srbext slotCount processors).holds place serial := by
    intro place serial held
    cases place with
    | slot index =>
      obtain ⟨_, srbext, present, _⟩ := held
      cases present
    | holder => cases held
    | call processor => cases held
  refine ⟨⟨⟨?_, ?_⟩, .nil, ?_⟩, ?_⟩
  · intro place other serial held
    exact absurd held (empty place serial)
  · intro place serial held
    exact absurd held (empty place serial)
  · intro serial member
    cases member
  · intro srbext submits
    cases submits

variable {queue : CNvmeQueue} {heap : Heap} {lock : SubLock} {processors : Nat}
  {calls : Nat → Option CompleteCall}

theorem mem_of_emptied {table : Nat → Option SrbExtPtr} {index slot : Nat} {srbext : SrbExtPtr}
    (present : Function.update table index none slot = some srbext) : table slot = some srbext := by
  by_cases here : slot = index
  · subst slot
    simp at present
  · rwa [Function.update_of_ne here] at present

private theorem requeue (accountable : Accountable ⟨queue, heap, lock, processors, calls⟩) {other : CNvmeQueue}
    (kept : ∀ slot srbext, other.history.history slot = some srbext → queue.history.history slot = some srbext)
    (submitted : other.trace.submitted = queue.trace.submitted) :
    Accountable ⟨other, heap, lock, processors, calls⟩ := by
  obtain ⟨settlement, numbered⟩ := accountable
  constructor
  · simp only [issued, submitted] at settlement ⊢
    apply settlement.fewer
    intro place serial held
    cases place with
    | slot index =>
      obtain ⟨unread, srbext, present, same⟩ := held
      exact ⟨unread, srbext, kept index srbext present, same⟩
    | holder => exact held
    | call processor => exact held
  · intro srbext present
    rw [numbered srbext present, submitted]

theorem relock (accountable : Accountable ⟨queue, heap, lock, processors, calls⟩) {other : SubLock} {written : Heap}
    (settling : other.settling = lock.settling) (resets : other.resets = lock.resets)
    (pushed : other.pushed = lock.pushed) (submits : other.submits = none ∨ other.submits = lock.submits)
    (settled : written.settled = heap.settled) : Accountable ⟨queue, written, other, processors, calls⟩ := by
  obtain ⟨settlement, numbered⟩ := accountable
  constructor
  · simp only [issued, pushed, settled] at settlement ⊢
    apply settlement.fewer
    intro place serial held
    cases place with
    | slot index => exact ⟨resets ▸ held.1, held.2⟩
    | holder => exact settling.symm.trans held
    | call processor => exact held
  · intro srbext present
    rcases submits with absent | same
    · exact absurd (absent.symm.trans present) (by simp)
    · exact numbered srbext (same ▸ present)

private theorem holderStores {srbext : SrbExtPtr} (status : SrbStatus)
    (accountable : Accountable ⟨queue, heap, lock, processors, calls⟩) (hand : lock.settling = some srbext.submission)
    {other : SubLock} (empty : other.settling = none) (resets : other.resets = lock.resets)
    (pushed : other.pushed = lock.pushed) (submits : other.submits = lock.submits) :
    Accountable ⟨queue, heap.storeSrbStatus srbext status, other, processors, calls⟩ := by
  obtain ⟨settlement, numbered⟩ := accountable
  constructor
  · simp only [issued, pushed, Heap.settled_storeSrbStatus] at settlement ⊢
    apply settlement.settle (show holds ⟨queue, heap, lock, processors, calls⟩ .holder srbext.submission from hand)
    · intro place serial held
      cases place with
      | slot index => exact ⟨resets ▸ held.1, held.2⟩
      | holder => exact absurd (empty.symm.trans held) (by simp)
      | call processor => exact held
    · intro held
      exact absurd (empty.symm.trans held) (by simp)
  · intro other present
    exact numbered other (submits ▸ present)

/-- A push issues the next number, whether or not it finds the slot free. -/
theorem pushes {srbext : SrbExtPtr} {cmd : NvmeCommand} {table : CCmdHistory} {cid : Nat}
    (accountable : Accountable ⟨queue, heap, lock, processors, calls⟩) (submits : lock.submits = some srbext)
    (before : lock.pushed = false) (unread : lock.resets = none)
    (written : table.history = queue.history.history ∨
      table.history = Function.update queue.history.history cid (some srbext)) :
    Accountable ⟨{ queue with history := table }, heap, .write srbext cmd, processors, calls⟩ := by
  obtain ⟨settlement, numbered⟩ := accountable
  have number := numbered srbext submits
  simp only [issued, before, Bool.false_eq_true, if_false, Nat.add_zero] at settlement
  constructor
  · apply settlement.issue (.slot cid)
    intro place serial held
    cases place with
    | slot index =>
      obtain ⟨_, found, present, same⟩ := held
      have free : lock.resets ≠ some index := by simp [unread]
      rcases written with unchanged | updated
      · exact .inl ⟨free, found, unchanged ▸ present, same⟩
      · by_cases here : index = cid
        · subst index
          obtain rfl : srbext = found := by simpa [updated] using present
          exact .inr ⟨rfl, same.symm.trans number⟩
        · refine .inl ⟨free, found, ?_, same⟩
          simpa [updated, Function.update_of_ne here] using present
    | holder => cases held
    | call processor => exact .inl held
  · intro other present
    obtain rfl : srbext = other := Option.some.inj present
    exact number

/-- The holder takes in hand what a slot holds; it empties the slot, or comes back to clear it. -/
theorem holderTakes {index : Nat} {srbext : SrbExtPtr} (accountable : Accountable ⟨queue, heap, lock, processors, calls⟩)
    (unread : lock.resets = none) (present : queue.history.history index = some srbext) {taken : CNvmeQueue}
    {other : SubLock} (hand : other.settling = some srbext.submission) (pushed : other.pushed = lock.pushed)
    (submits : other.submits = none ∨ other.submits = lock.submits)
    (submitted : taken.trace.submitted = queue.trace.submitted)
    (gone : other.resets = some index ∨ taken.history.history index = none)
    (kept : ∀ slot found, taken.history.history slot = some found → queue.history.history slot = some found) :
    Accountable ⟨taken, heap, other, processors, calls⟩ := by
  obtain ⟨settlement, numbered⟩ := accountable
  have held : holds ⟨queue, heap, lock, processors, calls⟩ (.slot index) srbext.submission :=
    ⟨by simp [unread], srbext, present, rfl⟩
  constructor
  · simp only [issued, pushed, submitted] at settlement ⊢
    apply settlement.move .holder held
    · rintro ⟨unread, found, still, _⟩
      rcases gone with read | cleared
      · exact unread read
      · exact absurd (cleared.symm.trans still) (by simp)
    · intro place serial present
      cases place with
      | slot slot =>
        obtain ⟨_, found, there, same⟩ := present
        exact .inl ⟨by simp [unread], found, kept slot found there, same⟩
      | holder => exact .inr ⟨rfl, Option.some.inj (present.symm.trans hand)⟩
      | call processor => exact .inl present
  · intro srbext present
    rcases submits with absent | same
    · exact absurd (absent.symm.trans present) (by simp)
    · rw [numbered srbext (same ▸ present), submitted]

private theorem popStep {after : SharedQueue} {srbext : SrbExtPtr} {cmd : NvmeCommand}
    (accountable : Accountable ⟨queue, heap, .pop srbext cmd, processors, calls⟩)
    (taken : SharedQueue.holderStep ⟨queue, heap, .pop srbext cmd, processors, calls⟩ = some after) : Accountable after := by
  rcases pop_step taken with ⟨_, rfl⟩ | ⟨_, rfl⟩ | ⟨_, old, held, rfl⟩
  · exact accountable.relock rfl rfl rfl (.inl rfl) rfl
  · let emptied := Function.update queue.history.history cmd.cid.toNat none
    have kept : Accountable ⟨{ queue with history := ⟨queue.history.depth, emptied⟩ }, heap, .pop srbext cmd,
        processors, calls⟩ := accountable.requeue (fun _ _ => mem_of_emptied) rfl
    exact kept.relock rfl rfl rfl (.inl rfl) rfl
  · apply accountable.holderTakes rfl held
    · rfl
    · rfl
    · exact .inr rfl
    · rfl
    · exact .inr (Function.update_self ..)
    · exact fun slot found => mem_of_emptied

private theorem releaseStep {after : SharedQueue} {old srbext : SrbExtPtr} {pc : CompleteSrbPc} {cmd : NvmeCommand}
    (accountable : Accountable ⟨queue, heap, .release old pc srbext cmd, processors, calls⟩)
    (taken : SharedQueue.holderStep ⟨queue, heap, .release old pc srbext cmd, processors, calls⟩ = some after) : Accountable after := by
  cases pc with
  | store =>
    cases taken
    exact accountable.holderStores .busy rfl rfl rfl rfl rfl
  | test =>
    cases taken
    cases (heap.srbext old.address).srb.isNone with
    | true => exact accountable.relock rfl rfl rfl (.inr rfl) rfl
    | false => exact accountable.relock rfl rfl rfl (.inr rfl) rfl
  | notify =>
    cases taken
    exact accountable.relock rfl rfl rfl (.inr rfl) (heap.settled_notifySrb ..)

private theorem countStep {after : SharedQueue} {srbext : SrbExtPtr} {cmd : NvmeCommand}
    (accountable : Accountable ⟨queue, heap, .count srbext cmd, processors, calls⟩)
    (taken : SharedQueue.holderStep ⟨queue, heap, .count srbext cmd, processors, calls⟩ = some after) : Accountable after := by
  cases taken
  obtain ⟨settlement, numbered⟩ := accountable
  refine ⟨?_, fun _ absent => nomatch absent⟩
  have same : issued ⟨queue, heap, .count srbext cmd, processors, calls⟩ =
      (queue.trace.submitted ++ [Submission.mk cmd srbext]).length := by simp [issued, SubLock.pushed]
  rw [same] at settlement
  exact settlement

private theorem resetSrbStep {after : SharedQueue} {index : Nat} {srbext : SrbExtPtr} {pc : CompleteSrbPc}
    (accountable : Accountable ⟨queue, heap, .resetSrb index srbext pc, processors, calls⟩)
    (taken : SharedQueue.holderStep ⟨queue, heap, .resetSrb index srbext pc, processors, calls⟩ = some after) : Accountable after := by
  cases pc with
  | store =>
    cases taken
    exact accountable.holderStores .busReset rfl rfl rfl rfl rfl
  | test =>
    cases taken
    cases (heap.srbext srbext.address).srb.isNone with
    | true => exact accountable.relock rfl rfl rfl (.inl rfl) rfl
    | false => exact accountable.relock rfl rfl rfl (.inl rfl) rfl
  | notify =>
    cases taken
    exact accountable.relock rfl rfl rfl (.inl rfl) (heap.settled_notifySrb ..)

private theorem clearStep {after : SharedQueue} {index : Nat}
    (accountable : Accountable ⟨queue, heap, .clear index, processors, calls⟩)
    (taken : SharedQueue.holderStep ⟨queue, heap, .clear index, processors, calls⟩ = some after) : Accountable after := by
  cases taken
  refine ⟨?_, fun _ absent => nomatch absent⟩
  apply accountable.settlement.fewer
  intro place serial held
  cases place with
  | slot slot =>
    obtain ⟨_, found, present, same⟩ := held
    have elsewhere : slot ≠ index := by
      rintro rfl
      simp at present
    exact ⟨fun read => elsewhere (Option.some.inj read).symm, found, mem_of_emptied present, same⟩
  | holder => cases held
  | call processor => exact held

theorem holderStep {before after : SharedQueue} (accountable : Accountable before)
    (taken : before.holderStep = some after) : Accountable after := by
  obtain ⟨queue, heap, lock, processors, calls⟩ := before
  cases lock with
  | free => cases taken
  | nullPointer => cases taken
  | push srbext cmd =>
    rcases push_step taken with rfl | ⟨_, _, rfl⟩ | ⟨_, _, rfl⟩
    · exact accountable.relock rfl rfl rfl (.inl rfl) rfl
    · exact accountable.relock rfl rfl rfl (.inr rfl) rfl
    · exact accountable.pushes rfl rfl rfl (.inr rfl)
  | pop srbext cmd => exact accountable.popStep taken
  | release old pc srbext cmd => exact accountable.releaseStep taken
  | pushAgain srbext cmd =>
    rcases pushAgain_step taken with rfl | ⟨_, _, rfl⟩
    · exact @pushes _ _ _ _ _ _ _ _ cmd.cid.toNat accountable rfl rfl rfl (.inl rfl)
    · exact accountable.pushes rfl rfl rfl (.inr rfl)
  | write srbext cmd =>
    cases taken
    exact ⟨accountable.settlement, accountable.numbered⟩
  | count srbext cmd => exact accountable.countStep taken
  | ring =>
    cases taken
    exact ⟨accountable.settlement, fun _ absent => nomatch absent⟩
  | read index =>
    rcases read_step taken with ⟨_, rfl⟩ | ⟨_, rfl⟩ | ⟨_, srbext, held, rfl⟩
    · exact accountable.relock rfl rfl rfl (.inl rfl) rfl
    · exact accountable.relock rfl rfl rfl (.inl rfl) rfl
    · apply accountable.holderTakes rfl held
      · rfl
      · rfl
      · exact .inl rfl
      · rfl
      · exact .inl rfl
      · exact fun _ _ present => present
  | resetSrb index srbext pc => exact accountable.resetSrbStep taken
  | clear index => exact accountable.clearStep taken
  | zero =>
    cases taken
    exact ⟨accountable.settlement, accountable.numbered⟩
  | skip =>
    rcases skip_step taken with rfl | rfl
    · exact ⟨accountable.settlement, accountable.numbered⟩
    · exact ⟨accountable.settlement, accountable.numbered⟩

variable {processor : Nat} {call : CompleteCall}

theorem resume (accountable : Accountable ⟨queue, heap, lock, processors, calls⟩) {previous : Option CompleteCall}
    (running : calls processor = previous) {next : Option CompleteCall} {other : CNvmeQueue} {written : Heap}
    (kept : ∀ slot srbext, other.history.history slot = some srbext → queue.history.history slot = some srbext)
    (submitted : other.trace.submitted = queue.trace.submitted)
    (settling : next.bind (·.pc.settling) = none ∨ next.bind (·.pc.settling) = previous.bind (·.pc.settling))
    (settled : written.settled = heap.settled) :
    Accountable ⟨other, written, lock, processors, Function.update calls processor next⟩ := by
  obtain ⟨settlement, numbered⟩ := accountable.requeue kept submitted
  refine ⟨?_, numbered⟩
  rw [settled]
  apply settlement.fewer
  intro place serial held
  cases place with
  | slot index => exact held
  | holder => exact held
  | call other =>
    simp only [holds] at held ⊢
    by_cases same : other = processor
    · subst other
      rw [Function.update_self] at held
      rcases settling with empty | kept
      · exact absurd (empty.symm.trans held) (by simp)
      · rw [running]
        exact kept.symm.trans held
    · rwa [Function.update_of_ne same] at held

private theorem callTakes {cid : Nat} {srbext : SrbExtPtr} (accountable : Accountable ⟨queue, heap, lock, processors, calls⟩)
    (present : queue.history.history cid = some srbext) (unread : lock.resets ≠ some cid) {taken : CNvmeQueue}
    (emptied : taken.history.history = Function.update queue.history.history cid none)
    (submitted : taken.trace.submitted = queue.trace.submitted) {next : CompleteCall}
    (hand : next.pc.settling = some srbext.submission) :
    Accountable ⟨taken, heap, lock, processors, Function.update calls processor (some next)⟩ := by
  obtain ⟨settlement, numbered⟩ := accountable
  have held : holds ⟨queue, heap, lock, processors, calls⟩ (.slot cid) srbext.submission := ⟨unread, srbext, present, rfl⟩
  refine ⟨?_, by rwa [submitted]⟩
  simp only [issued, submitted] at settlement ⊢
  apply settlement.move (.call processor) held
  · intro still
    obtain ⟨_, found, there, _⟩ := still
    rw [emptied, Function.update_self] at there
    cases there
  · intro place serial present
    cases place with
    | slot slot =>
      obtain ⟨free, found, there, same⟩ := present
      rw [emptied] at there
      exact .inl ⟨free, found, mem_of_emptied there, same⟩
    | holder => exact .inl present
    | call other =>
      simp only [holds] at present ⊢
      by_cases same : other = processor
      · subst other
        rw [Function.update_self] at present
        exact .inr ⟨rfl, Option.some.inj (present.symm.trans hand)⟩
      · rw [Function.update_of_ne same] at present
        exact .inl present

private theorem callStores {srbext : SrbExtPtr} (status : SrbStatus)
    (accountable : Accountable ⟨queue, heap, lock, processors, calls⟩) (running : calls processor = some call)
    (hand : call.pc.settling = some srbext.submission) {next : CompleteCall} (empty : next.pc.settling = none) :
    Accountable ⟨queue, heap.storeSrbStatus srbext status, lock, processors,
      Function.update calls processor (some next)⟩ := by
  obtain ⟨settlement, numbered⟩ := accountable
  refine ⟨?_, numbered⟩
  have held : holds ⟨queue, heap, lock, processors, calls⟩ (.call processor) srbext.submission := by
    simp only [holds, running]
    exact hand
  have gone : ∀ serial, ¬ (Function.update calls processor (some next) processor).bind (·.pc.settling) = some serial := by
    intro serial present
    rw [Function.update_self] at present
    exact absurd (empty.symm.trans present) (by simp)
  simp only [Heap.settled_storeSrbStatus]
  apply settlement.settle held
  · intro place serial present
    cases place with
    | slot index => exact present
    | holder => exact present
    | call other =>
      by_cases same : other = processor
      · subst other
        exact absurd present (gone serial)
      · simp only [holds, Function.update_of_ne same] at present
        exact present
  · exact gone srbext.submission

theorem completerStep {before : SharedQueue} (accountable : Accountable before)
    (running : before.calls processor = some call) (considerate : before.Considerate call) :
    Accountable (before.completerStep processor call) := by
  obtain ⟨queue, heap, lock, processors, calls⟩ := before
  obtain ⟨loop, pc⟩ := call
  cases pc with
  | test =>
    simp only [SharedQueue.completerStep]
    split
    · exact accountable.resume running (fun _ _ present => present) rfl (.inl rfl) rfl
    · obtain ⟨cplDbl, doorbell⟩ := queue.leaveCompleteCmd_eq loop
      rw [doorbell]
      exact accountable.resume running (fun _ _ present => present) rfl (.inl rfl) rfl
  | pop cid =>
    rcases queue.history.pop_cases cid.toNat loop.srbext with ⟨outside, same⟩ | ⟨inside, status, same⟩
    · have fresh : loop.srbext = none := by simpa [Considerate, Nat.not_lt_of_le outside] using considerate
      rw [fresh] at same
      simp only [SharedQueue.completerStep, fresh, same]
      exact accountable.resume running (fun _ _ present => present) rfl (.inl rfl) rfl
    · have clear : lock.returnsTo = some cid.toNat → queue.history.history cid.toNat = none := by
        simpa [Considerate, inside] using considerate
      cases held : queue.history.history cid.toNat with
      | none =>
        simp only [SharedQueue.completerStep, same, held]
        exact accountable.resume running (fun _ _ => mem_of_emptied) rfl (.inl rfl) rfl
      | some srbext =>
        simp only [SharedQueue.completerStep, same, held]
        apply accountable.callTakes held
        · intro read
          have returns : lock.returnsTo = some cid.toNat := by
            cases lock <;> first | exact read | cases read
          exact absurd ((clear returns).symm.trans held) (by simp)
        · rfl
        · rfl
        · rfl
  | copy srbext => exact accountable.resume running (fun _ _ present => present) rfl (.inr rfl) rfl
  | callback srbext => exact accountable.resume running (fun _ _ present => present) rfl (.inr rfl) (runCompletionCB_settled _ considerate)
  | status srbext => exact accountable.resume running (fun _ _ present => present) rfl (.inr rfl) rfl
  | complete srbext pc status =>
    cases pc with
    | store => exact accountable.callStores status running rfl rfl
    | test =>
      simp only [SharedQueue.completerStep, Heap.completeSrbStep]
      cases (heap.srbext srbext.address).srb.isNone with
      | true => exact accountable.resume running (fun _ _ present => present) rfl (.inl rfl) rfl
      | false => exact accountable.resume running (fun _ _ present => present) rfl (.inl rfl) rfl
    | notify => exact accountable.resume running (fun _ _ present => present) rfl (.inl rfl) (heap.settled_notifySrb ..)
  | cleanUp srbext => exact accountable.resume running (fun _ _ present => present) rfl (.inl rfl) rfl
  | decrement => exact accountable.resume running (fun _ _ present => present) rfl (.inl rfl) rfl
  | advance => exact accountable.resume running (fun _ _ present => present) rfl (.inl rfl) rfl

theorem step {before after : SharedQueue} {event : SharedEvent} (accountable : Accountable before)
    (undisturbed : before.Undisturbed event) (taken : before.step event = some after) : Accountable after := by
  cases event with
  | prepare address record =>
    cases taken
    exact ⟨accountable.settlement, accountable.numbered⟩
  | submit address cmd =>
    obtain ⟨queue, heap, lock, processors, calls⟩ := before
    obtain ⟨rfl, rfl | ⟨_, _, rfl⟩⟩ := submit_step taken
    · exact accountable
    · refine ⟨accountable.settlement, ?_⟩
      intro srbext submits
      obtain rfl := Option.some.inj submits
      rfl
  | reset =>
    obtain ⟨queue, heap, lock, processors, calls⟩ := before
    obtain ⟨rfl, rfl⟩ := reset_step taken
    exact accountable.relock rfl rfl rfl (.inl rfl) rfl
  | holder => exact accountable.holderStep taken
  | enter processor maxCount =>
    obtain ⟨_, idle, rfl⟩ := enter_step taken
    exact accountable.resume idle (fun _ _ present => present) rfl (.inl rfl) rfl
  | completer processor =>
    obtain ⟨call, running, rfl⟩ := Option.map_eq_some_iff.mp taken
    exact accountable.completerStep running (undisturbed call running)
  | scribble slot written =>
    cases taken
    exact ⟨accountable.settlement, accountable.numbered⟩

end Accountable

end SharedQueue

end SpcNvme
