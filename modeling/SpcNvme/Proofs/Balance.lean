import SpcNvme.Proofs.Interleaving

/-! What the counter of a shared queue counts at any moment, and what a holder of
`SubLock` that comes back to a slot finds there. -/

namespace SpcNvme

def SubLock.scanned (depth : Nat) : SubLock → Option Nat
  | .read index | .resetSrb index _ _ | .clear index => some index
  | .zero => some depth
  | _ => none

/-- `Pop` in the branch for STATUS_ALREADY_COMMITTED has not returned NULL and will not. -/
def SubLock.Finds (table : CCmdHistory) : SubLock → Prop
  | .pop _ cmd => cmd.cid.toNat < table.depth ∧ (table.history cmd.cid.toNat).isSome
  | .nullPointer => False
  | _ => True

theorem SubLock.Finds.pointer {table : CCmdHistory} {lock : SubLock} (finds : lock.Finds table) : lock ≠ .nullPointer := by
  intro null
  subst lock
  exact finds

namespace SharedQueue

def Finds (state : SharedQueue) : Prop := state.subLock.Finds state.queue.history

namespace Finds

theorem holderStep {before after : SharedQueue} (finds : Finds before) (taken : before.holderStep = some after) :
    Finds after := by
  obtain ⟨queue, heap, lock, processors, calls⟩ := before
  cases lock with
  | free => cases taken
  | nullPointer => cases taken
  | push srbext cmd =>
    rcases push_step taken with rfl | ⟨inside, held, rfl⟩ | ⟨_, _, rfl⟩
    · trivial
    · exact ⟨inside, held⟩
    · trivial
  | pop srbext cmd =>
    obtain ⟨inside, present⟩ : cmd.cid.toNat < queue.history.depth ∧ (queue.history.history cmd.cid.toNat).isSome := finds
    rcases pop_step taken with ⟨outside, _⟩ | ⟨empty, _⟩ | ⟨_, old, _, rfl⟩
    · exact absurd inside (Nat.not_lt_of_le outside)
    · simp [empty] at present
    · trivial
  | release old pc srbext cmd =>
    obtain ⟨written, rfl | ⟨next, rfl⟩⟩ := release_step taken <;> trivial
  | resetSrb index srbext pc =>
    obtain ⟨written, rfl | ⟨next, rfl⟩⟩ := resetSrb_step taken <;> trivial
  | read index =>
    rcases read_step taken with ⟨_, rfl⟩ | ⟨_, rfl⟩ | ⟨_, srbext, _, rfl⟩
    all_goals trivial
  | skip =>
    rcases skip_step taken with rfl | rfl
    all_goals trivial
  | pushAgain srbext cmd =>
    cases taken
    trivial
  | write srbext cmd =>
    cases taken
    trivial
  | count srbext cmd =>
    cases taken
    trivial
  | ring =>
    cases taken
    trivial
  | clear index =>
    cases taken
    trivial
  | zero =>
    cases taken
    trivial

theorem completerStep {before : SharedQueue} (finds : Finds before) {processor : Nat} {call : CompleteCall}
    (considerate : before.Considerate call) : Finds (before.completerStep processor call) := by
  obtain ⟨queue, heap, lock, processors, calls⟩ := before
  obtain ⟨loop, pc⟩ := call
  cases pc with
  | test =>
    simp only [SharedQueue.completerStep]
    split
    · exact finds
    · obtain ⟨cplDbl, doorbell⟩ := queue.leaveCompleteCmd_eq loop
      rw [doorbell]
      exact finds
  | pop cid =>
    rcases queue.history.pop_cases cid.toNat loop.srbext with ⟨_, same⟩ | ⟨inside, status, same⟩
    · simp only [SharedQueue.completerStep, same]
      exact finds
    · have clear : lock.returnsTo = some cid.toNat → queue.history.history cid.toNat = none := by
        simpa [Considerate, inside] using considerate
      simp only [SharedQueue.completerStep, same]
      cases lock with
      | pop srbext cmd =>
        obtain ⟨within, present⟩ :
          cmd.cid.toNat < queue.history.depth ∧ (queue.history.history cmd.cid.toNat).isSome := finds
        have other : cmd.cid.toNat ≠ cid.toNat := by
          intro returns
          rw [returns, clear (congrArg some returns)] at present
          cases present
        refine ⟨within, ?_⟩
        dsimp only [goto]
        rwa [Function.update_of_ne other]
      | nullPointer => exact finds
      | _ => trivial
  | copy srbext => exact finds
  | callback srbext => exact finds
  | status srbext => exact finds
  | complete srbext pc status => exact finds
  | cleanUp srbext => exact finds
  | decrement => exact finds
  | advance => exact finds

theorem step {before after : SharedQueue} {event : SharedEvent} (finds : Finds before)
    (undisturbed : before.Undisturbed event) (taken : before.step event = some after) : Finds after := by
  cases event with
  | prepare address record =>
    cases taken
    exact finds
  | submit address cmd =>
    obtain ⟨queue, heap, lock, processors, calls⟩ := before
    obtain ⟨rfl, rfl | ⟨_, _, rfl⟩⟩ := submit_step taken
    · exact finds
    · trivial
  | reset =>
    obtain ⟨queue, heap, lock, processors, calls⟩ := before
    obtain ⟨rfl, rfl⟩ := reset_step taken
    trivial
  | holder => exact finds.holderStep taken
  | enter processor maxCount =>
    obtain ⟨_, _, rfl⟩ := enter_step taken
    exact finds
  | completer processor =>
    obtain ⟨call, running, rfl⟩ := Option.map_eq_some_iff.mp taken
    exact finds.completerStep (undisturbed call running)
  | scribble slot written =>
    cases taken
    exact finds

end Finds

/-- The counter stays a positive `LONG` and counts at least what is outstanding,
with one command more while that is pushed and not counted yet. -/
structure Balanced (state : SharedQueue) : Prop where
  range : 0 ≤ state.queue.inflightCmds ∧ state.queue.inflightCmds ≤ 2147483647
  enough : (state.outstanding : Int) ≤ state.queue.inflightCmds + if state.subLock.pushed then 1 else 0
  scanned : ∀ bound, state.subLock.scanned state.queue.history.depth = some bound →
    ∀ slot, slot < bound → state.queue.history.history slot = none
  running : ∀ processor call, state.calls processor = some call → processor < state.processors
  throttled : safeSubmitThreshold ≤ state.queue.depth →
    state.queue.inflightCmds + safeSubmitThreshold ≤ state.queue.depth ∧
      (state.subLock.submits.isSome → state.queue.inflightCmds + safeSubmitThreshold < state.queue.depth)

namespace Balanced

theorem initial (config : QueuePairConfig) (srbext : Nat → SrbExt) (slotCount : BitVec 3) (processors : Nat) :
    Balanced (.initial config srbext slotCount processors) := by
  have vacant : (CNvmeQueue.setup config).history.occupied = 0 := SlotTable.occupied_empty _
  have idle : (SharedQueue.initial config srbext slotCount processors).owing = 0 := SlotTable.occupied_empty _
  refine ⟨⟨Int.le_refl 0, by simp [SharedQueue.initial, CNvmeQueue.setup]⟩, ?_, SubLock.absent rfl, fun _ => SubLock.absent rfl, ?_⟩
  · have nothing : (SharedQueue.initial config srbext slotCount processors).outstanding = 0 := by
      simp only [outstanding, idle]
      exact vacant
    rw [nothing]
    exact Int.le_refl 0
  · intro deep
    refine ⟨?_, SubLock.not_isSome rfl⟩
    simp only [SharedQueue.initial, CNvmeQueue.setup] at deep ⊢
    omega

/-- A step that leaves the counter alone and makes no more of what it counts. -/
theorem follow {before after : SharedQueue} (balanced : Balanced before)
    (depth : after.queue.depth = before.queue.depth) (counter : after.queue.inflightCmds = before.queue.inflightCmds)
    (counts : after.outstanding + (if before.subLock.pushed then 1 else 0) ≤
      before.outstanding + if after.subLock.pushed then 1 else 0)
    (scanned : ∀ bound, after.subLock.scanned after.queue.history.depth = some bound →
      ∀ slot, slot < bound → after.queue.history.history slot = none)
    (running : ∀ processor call, after.calls processor = some call → processor < after.processors)
    (submits : after.subLock.submits.isSome → before.subLock.submits.isSome) : Balanced after := by
  obtain ⟨range, enough, _, _, throttled⟩ := balanced
  refine ⟨by rwa [counter], ?_, scanned, running, ?_⟩
  · rw [counter]
    split at enough <;> split at counts <;> split <;> simp_all <;> omega
  · intro deep
    rw [depth] at deep ⊢
    rw [counter]
    exact ⟨(throttled deep).1, fun submitting => (throttled deep).2 (submits submitting)⟩

variable {queue : CNvmeQueue} {heap : Heap} {lock : SubLock} {processors : Nat} {calls : Nat → Option CompleteCall}

theorem relock (balanced : Balanced ⟨queue, heap, lock, processors, calls⟩) {other : SubLock} {written : Heap}
    (pushed : other.pushed = lock.pushed)
    (scanned : ∀ bound, other.scanned queue.history.depth = some bound →
      ∀ slot, slot < bound → queue.history.history slot = none)
    (submits : other.submits.isSome → lock.submits.isSome) : Balanced ⟨queue, written, other, processors, calls⟩ := by
  apply balanced.follow
  · rfl
  · rfl
  · dsimp only
    rw [pushed]
    exact Nat.le_refl _
  · exact scanned
  · exact balanced.running
  · exact submits

theorem pushes {srbext : SrbExtPtr} {cmd : NvmeCommand} {table : CCmdHistory}
    (balanced : Balanced ⟨queue, heap, lock, processors, calls⟩) (submits : lock.submits = some srbext)
    (before : lock.pushed = false) (grown : table.occupied ≤ queue.history.occupied + 1) :
    Balanced ⟨{ queue with history := table }, heap, .write srbext cmd, processors, calls⟩ := by
  apply balanced.follow
  · rfl
  · rfl
  · have counting : (SubLock.write srbext cmd).pushed = true := rfl
    simp only [outstanding, owing, before, counting, Bool.false_eq_true, if_false, if_true]
    omega
  · exact SubLock.absent rfl
  · exact balanced.running
  · intro _
    simp [submits]

private theorem occupied_emptied (table : CCmdHistory) {index : Nat} (inside : index < table.depth) :
    CCmdHistory.occupied ⟨table.depth, Function.update table.history index none⟩ +
      (if (table.history index).isSome then 1 else 0) = table.occupied := by
  have count := SlotTable.occupied_update table.history inside none
  rwa [Option.isSome_none, if_neg Bool.false_ne_true, Nat.add_zero] at count

private theorem occupied_emptied_le (table : CCmdHistory) (index : Nat) :
    CCmdHistory.occupied ⟨table.depth, Function.update table.history index none⟩ ≤ table.occupied := by
  by_cases inside : index < table.depth
  · have count := occupied_emptied table inside
    omega
  · have same : ∀ slot, slot < table.depth → Function.update table.history index none slot = table.history slot := by
      intro slot within
      apply Function.update_of_ne
      omega
    exact Nat.le_of_eq (SlotTable.occupied_congr same)

private theorem popStep {after : SharedQueue} {srbext : SrbExtPtr} {cmd : NvmeCommand} (balanced : Balanced ⟨queue, heap, .pop srbext cmd, processors, calls⟩)
    (taken : SharedQueue.holderStep ⟨queue, heap, .pop srbext cmd, processors, calls⟩ = some after) : Balanced after := by
  rcases pop_step taken with ⟨_, rfl⟩ | ⟨_, rfl⟩ | ⟨inside, old, held, rfl⟩
  · exact balanced.relock rfl (SubLock.absent rfl) (SubLock.not_isSome rfl)
  · apply balanced.follow
    · rfl
    · rfl
    · have less := occupied_emptied_le queue.history cmd.cid.toNat
      exact Nat.add_le_add_right (Nat.add_le_add_right (Nat.add_le_add_right less _) _) _
    · exact SubLock.absent rfl
    · exact balanced.running
    · exact SubLock.not_isSome rfl
  · have emptied := occupied_emptied queue.history inside
    apply balanced.follow
    · rfl
    · rfl
    · simp only [held, Option.isSome_some, if_true] at emptied
      simp only [outstanding, owing, List.length_append, List.length_singleton]
      apply Nat.add_le_add_right
      omega
    · exact SubLock.absent rfl
    · exact balanced.running
    · exact fun _ => rfl

private theorem countStep {after : SharedQueue} {srbext : SrbExtPtr} {cmd : NvmeCommand} (balanced : Balanced ⟨queue, heap, .count srbext cmd, processors, calls⟩)
    (fits : SharedQueue.Fits ⟨queue, heap, .count srbext cmd, processors, calls⟩ (.count srbext cmd))
    (taken : SharedQueue.holderStep ⟨queue, heap, .count srbext cmd, processors, calls⟩ = some after) : Balanced after := by
  obtain ⟨⟨positive, bounded⟩, enough, _, running, throttled⟩ := balanced
  have room : queue.inflightCmds < 2147483647 := by
    rcases fits with deep | room
    · have below := (throttled deep).1
      have short := queue.depth_lt
      simp only [safeSubmitThreshold] at below
      omega
    · exact room
  have lower : 0 ≤ queue.inflightCmds := positive
  have counted : (outstanding ⟨queue, heap, .count srbext cmd, processors, calls⟩ : Int) ≤ queue.inflightCmds + 1 := enough
  have raised : longWrap (queue.inflightCmds + 1) = queue.inflightCmds + 1 :=
    longWrap_of_range (by omega) (by omega)
  cases taken
  refine ⟨?_, ?_, SubLock.absent rfl, running, ?_⟩
  · dsimp only
    rw [raised]
    omega
  · show (outstanding ⟨queue, heap, .count srbext cmd, processors, calls⟩ : Int) ≤ longWrap (queue.inflightCmds + 1) + 0
    rw [raised]
    omega
  · intro deep
    have below := (throttled deep).2 rfl
    refine ⟨?_, SubLock.not_isSome rfl⟩
    dsimp only at below ⊢
    rw [raised]
    omega

private theorem readStep {after : SharedQueue} {index : Nat} (balanced : Balanced ⟨queue, heap, .read index, processors, calls⟩)
    (taken : SharedQueue.holderStep ⟨queue, heap, .read index, processors, calls⟩ = some after) : Balanced after := by
  have scanned := balanced.scanned index rfl
  rcases read_step taken with ⟨ended, rfl⟩ | ⟨empty, rfl⟩ | ⟨_, srbext, _, rfl⟩
  · apply balanced.relock
    · rfl
    · intro bound same slot below
      obtain rfl := Option.some.inj same
      exact scanned slot (by omega)
    · exact SubLock.not_isSome rfl
  · apply balanced.relock
    · rfl
    · intro bound same slot below
      obtain rfl := Option.some.inj same
      by_cases last : slot = index
      · rwa [last]
      · exact scanned slot (by omega)
    · exact SubLock.not_isSome rfl
  · apply balanced.relock
    · rfl
    · intro bound same
      obtain rfl := Option.some.inj same
      exact scanned
    · exact SubLock.not_isSome rfl

private theorem clearStep {after : SharedQueue} {index : Nat} (balanced : Balanced ⟨queue, heap, .clear index, processors, calls⟩)
    (taken : SharedQueue.holderStep ⟨queue, heap, .clear index, processors, calls⟩ = some after) : Balanced after := by
  have scanned := balanced.scanned index rfl
  cases taken
  apply balanced.follow
  · rfl
  · rfl
  · have less := occupied_emptied_le queue.history index
    exact Nat.add_le_add_right (Nat.add_le_add_right (Nat.add_le_add_right less _) _) _
  · intro bound same slot below
    obtain rfl := Option.some.inj same
    dsimp only
    by_cases last : slot = index
    · subst slot
      exact Function.update_self ..
    · rw [Function.update_of_ne last]
      exact scanned slot (by omega)
  · exact balanced.running
  · exact SubLock.not_isSome rfl

private theorem zeroStep {after : SharedQueue} (balanced : Balanced ⟨queue, heap, .zero, processors, calls⟩)
    (fits : SharedQueue.Fits ⟨queue, heap, .zero, processors, calls⟩ .zero)
    (taken : SharedQueue.holderStep ⟨queue, heap, .zero, processors, calls⟩ = some after) : Balanced after := by
  have scanned := balanced.scanned queue.history.depth rfl
  have vacant : queue.history.occupied = 0 := SlotTable.occupied_eq_zero_iff.mpr scanned
  cases taken
  refine ⟨⟨Int.le_refl 0, by simp⟩, ?_, SubLock.absent rfl, balanced.running, ?_⟩
  · have nothing : queue.history.occupied + owing ⟨queue, heap, .zero, processors, calls⟩ + 0 = 0 := by
      rw [vacant, fits]
    exact Int.ofNat_le.mpr (Nat.le_of_eq nothing)
  · intro deep
    refine ⟨?_, SubLock.not_isSome rfl⟩
    dsimp only at deep ⊢
    omega

theorem holderStep {before after : SharedQueue} (balanced : Balanced before) (fits : before.Fits before.subLock)
    (taken : before.holderStep = some after) : Balanced after := by
  obtain ⟨queue, heap, lock, processors, calls⟩ := before
  cases lock with
  | free => cases taken
  | nullPointer => cases taken
  | push srbext cmd =>
    rcases push_step taken with rfl | ⟨_, _, rfl⟩ | ⟨inside, free, rfl⟩
    · exact balanced.relock rfl (SubLock.absent rfl) (SubLock.not_isSome rfl)
    · exact balanced.relock rfl (SubLock.absent rfl) fun _ => rfl
    · apply balanced.pushes rfl rfl
      exact Nat.le_of_eq (SlotTable.occupied_put inside free srbext)
  | pop srbext cmd => exact balanced.popStep taken
  | release old pc srbext cmd =>
    obtain ⟨written, rfl | ⟨next, rfl⟩⟩ := release_step taken
    · exact balanced.relock rfl (SubLock.absent rfl) fun _ => rfl
    · exact balanced.relock rfl (SubLock.absent rfl) fun _ => rfl
  | pushAgain srbext cmd =>
    rcases pushAgain_step taken with rfl | ⟨inside, free, rfl⟩
    · exact balanced.pushes rfl rfl (Nat.le_succ _)
    · apply balanced.pushes rfl rfl
      exact Nat.le_of_eq (SlotTable.occupied_put inside free srbext)
  | write srbext cmd =>
    cases taken
    exact balanced.follow rfl rfl (Nat.le_refl _) (SubLock.absent rfl) balanced.running fun _ => rfl
  | count srbext cmd => exact balanced.countStep fits taken
  | ring =>
    cases taken
    exact balanced.follow rfl rfl (Nat.le_refl _) (SubLock.absent rfl) balanced.running (SubLock.not_isSome rfl)
  | read index => exact balanced.readStep taken
  | resetSrb index srbext pc =>
    have scanned := balanced.scanned index rfl
    have still : ∀ bound, some index = some bound → ∀ slot, slot < bound → queue.history.history slot = none := by
      intro bound same
      obtain rfl := Option.some.inj same
      exact scanned
    obtain ⟨written, rfl | ⟨next, rfl⟩⟩ := resetSrb_step taken
    · exact balanced.relock rfl still (SubLock.not_isSome rfl)
    · exact balanced.relock rfl still (SubLock.not_isSome rfl)
  | clear index => exact balanced.clearStep taken
  | zero => exact balanced.zeroStep fits taken
  | skip =>
    rcases skip_step taken with rfl | rfl
    all_goals
      exact balanced.follow rfl rfl (Nat.le_refl _) (SubLock.absent rfl) balanced.running (SubLock.not_isSome rfl)

variable {processor : Nat} {call : CompleteCall}

private theorem owing_resume {previous : Option CompleteCall} (inside : processor < processors)
    (running : calls processor = previous) (next : Option CompleteCall) :
    SlotTable.occupied (fun other => (Function.update calls processor next other).bind (·.pc.owes)) processors +
      (if (previous.bind (·.pc.owes)).isSome then 1 else 0) =
    SlotTable.occupied (fun other => (calls other).bind (·.pc.owes)) processors +
      if (next.bind (·.pc.owes)).isSome then 1 else 0 := by
  have same : (fun other => (Function.update calls processor next other).bind (·.pc.owes)) =
      Function.update (fun other => (calls other).bind (·.pc.owes)) processor (next.bind (·.pc.owes)) := by
    funext other
    by_cases here : other = processor
    · subst other
      simp
    · simp [Function.update_of_ne here]
  rw [same]
  have count := SlotTable.occupied_update (fun other => (calls other).bind (·.pc.owes)) inside (next.bind (·.pc.owes))
  simpa only [running] using count

theorem resume (balanced : Balanced ⟨queue, heap, lock, processors, calls⟩) {previous next : Option CompleteCall}
    (inside : processor < processors) (running : calls processor = previous) {other : CNvmeQueue} {written : Heap}
    (depth : other.depth = queue.depth) (counter : other.inflightCmds = queue.inflightCmds)
    (replaced : other.trace.replaced = queue.trace.replaced) (historyDepth : other.history.depth = queue.history.depth)
    (emptied : ∀ slot, queue.history.history slot = none → other.history.history slot = none)
    (counts : other.history.occupied + (if (next.bind (·.pc.owes)).isSome then 1 else 0) ≤
      queue.history.occupied + if (previous.bind (·.pc.owes)).isSome then 1 else 0) :
    Balanced ⟨other, written, lock, processors, Function.update calls processor next⟩ := by
  have owes := owing_resume inside running next
  apply balanced.follow
  · exact depth
  · exact counter
  · simp only [outstanding, owing, replaced]
    omega
  · intro bound same slot below
    apply emptied
    rw [historyDepth] at same
    exact balanced.scanned bound same slot below
  · intro other call present
    dsimp only at present
    by_cases same : other = processor
    · rwa [same]
    · rw [Function.update_of_ne same] at present
      exact balanced.running other call present
  · exact id

private theorem popCall {loop : CompleteLoop} {cid : BitVec 16} (balanced : Balanced ⟨queue, heap, lock, processors, calls⟩)
    (inside : processor < processors) (running : calls processor = some ⟨loop, .pop cid⟩)
    (considerate : SharedQueue.Considerate ⟨queue, heap, lock, processors, calls⟩ ⟨loop, .pop cid⟩) :
    Balanced (SharedQueue.completerStep ⟨queue, heap, lock, processors, calls⟩ processor ⟨loop, .pop cid⟩) := by
  rcases queue.history.pop_cases cid.toNat loop.srbext with ⟨outside, same⟩ | ⟨within, status, same⟩
  · have fresh : loop.srbext = none := by simpa [Considerate, Nat.not_lt_of_le outside] using considerate
    rw [fresh] at same
    simp only [SharedQueue.completerStep, fresh, same]
    exact balanced.resume inside running rfl rfl rfl rfl (fun _ => id) (Nat.le_refl _)
  · have emptied := occupied_emptied queue.history within
    have stays : ∀ slot, queue.history.history slot = none →
        Function.update queue.history.history cid.toNat none slot = none := by
      intro slot empty
      by_cases here : slot = cid.toNat
      · subst slot
        exact Function.update_self ..
      · rwa [Function.update_of_ne here]
    cases held : queue.history.history cid.toNat with
    | none =>
      simp only [SharedQueue.completerStep, same, held]
      exact balanced.resume inside running rfl rfl rfl rfl stays (occupied_emptied_le ..)
    | some srbext =>
      simp only [SharedQueue.completerStep, same, held]
      refine balanced.resume inside running rfl rfl rfl rfl stays ?_
      simp only [held, Option.isSome_some, if_true] at emptied
      exact Nat.le_of_eq emptied

private theorem decrementCall {loop : CompleteLoop} (balanced : Balanced ⟨queue, heap, lock, processors, calls⟩)
    (inside : processor < processors) (running : calls processor = some ⟨loop, .decrement⟩)
    (considerate : SharedQueue.Considerate ⟨queue, heap, lock, processors, calls⟩ ⟨loop, .decrement⟩) :
    Balanced (SharedQueue.completerStep ⟨queue, heap, lock, processors, calls⟩ processor ⟨loop, .decrement⟩) := by
  have settled : owing ⟨queue, heap, lock, processors, Function.update calls processor (some ⟨loop, .advance⟩)⟩ + 1 =
      owing ⟨queue, heap, lock, processors, calls⟩ := owing_resume inside running (some ⟨loop, .advance⟩)
  obtain ⟨⟨lower, upper⟩, enough, scanned, calling, throttled⟩ := balanced
  simp only [outstanding] at enough
  -- the command this call decrements for is counted, or another one is
  have positive : 1 ≤ queue.inflightCmds := by
    cases pushed : lock.pushed with
    | true =>
      have another : 1 < outstanding ⟨queue, heap, lock, processors, calls⟩ := considerate pushed
      simp only [outstanding] at another
      simp only [pushed, if_true] at enough
      omega
    | false =>
      simp only [pushed, Bool.false_eq_true, if_false] at enough
      omega
  have lowered : longWrap (queue.inflightCmds - 1) = queue.inflightCmds - 1 := by
    apply longWrap_of_range
    · omega
    · dsimp only at upper
      omega
  refine ⟨?_, ?_, scanned, ?_, ?_⟩
  · dsimp only [SharedQueue.completerStep, goto] at upper ⊢
    rw [lowered]
    omega
  · show ((queue.history.occupied + owing ⟨queue, heap, lock, processors, Function.update calls processor
      (some ⟨loop, .advance⟩)⟩ + queue.trace.replaced.length : Nat) : Int) ≤
        longWrap (queue.inflightCmds - 1) + if lock.pushed then 1 else 0
    rw [lowered]
    omega
  · intro other call present
    dsimp only [SharedQueue.completerStep, goto] at present ⊢
    by_cases same : other = processor
    · rwa [same]
    · rw [Function.update_of_ne same] at present
      exact calling other call present
  · intro deep
    obtain ⟨below, strictly⟩ := throttled deep
    dsimp only [SharedQueue.completerStep, goto] at below strictly ⊢
    rw [lowered]
    refine ⟨by omega, ?_⟩
    intro submitting
    have less := strictly submitting
    omega

theorem completerStep {before : SharedQueue} (balanced : Balanced before)
    (running : before.calls processor = some call) (considerate : before.Considerate call) :
    Balanced (before.completerStep processor call) := by
  have inside := balanced.running processor call running
  obtain ⟨queue, heap, lock, processors, calls⟩ := before
  obtain ⟨loop, pc⟩ := call
  cases pc with
  | test =>
    simp only [SharedQueue.completerStep]
    split
    · exact balanced.resume inside running rfl rfl rfl rfl (fun _ => id) (Nat.le_refl _)
    · obtain ⟨cplDbl, doorbell⟩ := queue.leaveCompleteCmd_eq loop
      rw [doorbell]
      exact balanced.resume inside running rfl rfl rfl rfl (fun _ => id) (Nat.le_refl _)
  | pop cid => exact balanced.popCall inside running considerate
  | copy srbext => exact balanced.resume inside running rfl rfl rfl rfl (fun _ => id) (Nat.le_refl _)
  | callback srbext => exact balanced.resume inside running rfl rfl rfl rfl (fun _ => id) (Nat.le_refl _)
  | status srbext => exact balanced.resume inside running rfl rfl rfl rfl (fun _ => id) (Nat.le_refl _)
  | complete srbext pc status =>
    simp only [SharedQueue.completerStep]
    cases (heap.completeSrbStep srbext status pc).2 <;>
      exact balanced.resume inside running rfl rfl rfl rfl (fun _ => id) (Nat.le_refl _)
  | cleanUp srbext => exact balanced.resume inside running rfl rfl rfl rfl (fun _ => id) (Nat.le_refl _)
  | decrement => exact balanced.decrementCall inside running considerate
  | advance => exact balanced.resume inside running rfl rfl rfl rfl (fun _ => id) (Nat.le_refl _)

/-- The truncated counter is the counter, and `SubmitCmd` saw it below the throttle's bound. -/
theorem room_of_safe (deep : safeSubmitThreshold ≤ queue.depth) (_ : 0 ≤ queue.inflightCmds)
    (below : queue.inflightCmds + safeSubmitThreshold ≤ queue.depth) (safe : queue.isSafeForSubmit = true) :
    queue.inflightCmds + safeSubmitThreshold < queue.depth := by
  have short := queue.depth_lt
  have room := of_decide_eq_true safe
  simp only [ushort, safeSubmitThreshold] at room below deep ⊢
  omega

theorem step {before after : SharedQueue} {event : SharedEvent} (balanced : Balanced before)
    (undisturbed : before.Undisturbed event) (taken : before.step event = some after) : Balanced after := by
  cases event with
  | prepare address record =>
    cases taken
    exact balanced.relock rfl balanced.scanned id
  | submit address cmd =>
    obtain ⟨queue, heap, lock, processors, calls⟩ := before
    obtain ⟨rfl, rfl | ⟨_, safe, rfl⟩⟩ := submit_step taken
    · exact balanced
    · refine ⟨balanced.range, balanced.enough, SubLock.absent rfl, balanced.running, ?_⟩
      intro deep
      have below := (balanced.throttled deep).1
      refine ⟨below, ?_⟩
      intro _
      exact room_of_safe deep balanced.range.1 below safe
  | reset =>
    obtain ⟨queue, heap, lock, processors, calls⟩ := before
    obtain ⟨rfl, rfl⟩ := reset_step taken
    apply balanced.relock
    · rfl
    · intro bound same slot below
      obtain rfl := Option.some.inj same
      cases below
    · exact SubLock.not_isSome rfl
  | holder => exact balanced.holderStep undisturbed taken
  | enter processor maxCount =>
    obtain ⟨inside, idle, rfl⟩ := enter_step taken
    exact balanced.resume inside idle rfl rfl rfl rfl (fun _ => id) (Nat.le_refl _)
  | completer processor =>
    obtain ⟨call, running, rfl⟩ := Option.map_eq_some_iff.mp taken
    exact balanced.completerStep running (undisturbed call running)
  | scribble slot written =>
    cases taken
    exact ⟨balanced.range, balanced.enough, balanced.scanned, balanced.running, balanced.throttled⟩

end Balanced

/-- No command is completed twice, `Pop` of a slot that was found taken returned
no NULL, and the counter is not negative. -/
structure Safe (state : SharedQueue) : Prop where
  once : state.heap.settled.Nodup
  pointer : state.subLock ≠ .nullPointer
  positive : 0 ≤ state.queue.inflightCmds

instance (state : SharedQueue) : Decidable state.Safe :=
  decidable_of_iff (state.heap.settled.Nodup ∧ state.subLock ≠ .nullPointer ∧ 0 ≤ state.queue.inflightCmds)
    ⟨fun ⟨once, pointer, positive⟩ => ⟨once, pointer, positive⟩, fun safe => ⟨safe.once, safe.pointer, safe.positive⟩⟩

structure Sound (state : SharedQueue) : Prop where
  accountable : Accountable state
  finds : Finds state
  balanced : Balanced state

namespace Sound

theorem initial (config : QueuePairConfig) (srbext : Nat → SrbExt) (slotCount : BitVec 3) (processors : Nat) :
    Sound (.initial config srbext slotCount processors) :=
  ⟨.initial .., trivial, .initial ..⟩

theorem step {before after : SharedQueue} {event : SharedEvent} (sound : Sound before)
    (undisturbed : before.Undisturbed event) (taken : before.step event = some after) : Sound after :=
  ⟨sound.accountable.step undisturbed taken, sound.finds.step undisturbed taken, sound.balanced.step undisturbed taken⟩

theorem safe {state : SharedQueue} (sound : Sound state) : Safe state :=
  ⟨sound.accountable.settlement.nodup, sound.finds.pointer, sound.balanced.range.1⟩

end Sound

theorem interleaved_safe (config : QueuePairConfig) (srbext : Nat → SrbExt) (slotCount : BitVec 3) (processors : Nat)
    (events : List SharedEvent)
    (undisturbed : Machine.Meets step Undisturbed (.initial config srbext slotCount processors) events) :
    Machine.Always step Safe (.initial config srbext slotCount processors) events := by
  refine undisturbed.always (fun state (sound : Sound state) => sound.safe) ?_ ?_
  · intro before event after sound considerate taken
    exact sound.step considerate taken
  · exact .initial config srbext slotCount processors

/-! Two processors; every request has an SRB. -/

def sampleShared : SharedQueue := .initial sampleQueue (fun _ => .init (some sampleSrb)) 1 2

def sampleCmd (cid : BitVec 16) : NvmeCommand := { NvmeCommand.zero with opc := 0x02, cid := cid }

def sampleAnswered : List SharedEvent :=
  [.submit 0 (sampleCmd 0), .holder, .holder, .holder, .holder,
    .scribble 0 ⟨⟨0, 1, 0, ⟨true, 0, 0⟩⟩, some 0⟩, .enter 0 0, .completer 0]

def sampleOverlap : List SharedEvent :=
  sampleAnswered ++ [.submit 1 (sampleCmd 1), .completer 0, .holder, .completer 0, .holder, .completer 0, .completer 0,
    .completer 0, .holder, .holder, .completer 0, .completer 0, .completer 0, .completer 0, .reset] ++
    List.replicate 12 .holder

theorem interleaved_safe_overlap : Machine.Always step Safe sampleShared sampleOverlap :=
  interleaved_safe sampleQueue (fun _ => .init (some sampleSrb)) 1 2 sampleOverlap (by decide +kernel)

/-- `ResetAllCmd` reads the slot, `CompleteCmd` pops it and completes the command, and so does `ResetAllCmd`. -/
def sampleResetRace : List SharedEvent :=
  sampleAnswered ++ [.reset, .holder] ++ List.replicate 5 (.completer 0) ++ [.holder]

/-- A second command with the identifier of the first, which is popped after the push failed. -/
def sampleReplaceRace : List SharedEvent :=
  sampleAnswered ++ [.submit 1 (sampleCmd 0), .holder, .completer 0, .holder]

/-- `CompleteCmd` pops the command, `ResetAllCmd` zeroes the counter, and `CompleteCmd` decrements it. -/
def sampleZeroRace : List SharedEvent :=
  sampleAnswered ++ [.completer 0, .reset] ++ List.replicate 6 .holder ++ List.replicate 8 (.completer 0)

theorem interleaving_unsafe :
    ¬ Machine.Always step (fun state => state.heap.settled.Nodup) sampleShared sampleResetRace ∧
    ¬ Machine.Always step (fun state => state.subLock ≠ .nullPointer) sampleShared sampleReplaceRace ∧
    ¬ Machine.Always step (fun state => 0 ≤ state.queue.inflightCmds) sampleShared sampleZeroRace := by
  decide +kernel

end SharedQueue

end SpcNvme
