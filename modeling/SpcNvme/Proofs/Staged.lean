import SpcNvme.Staged
import SpcNvme.Proofs.Frame

/-! The pieces of an iteration of `CompleteCmd`. One after the other they are the
iteration. Whatever comes in between, the extension that was popped is in no history
slot, does not wait for `HwStartIo`, and is in the hand of no other call, as long as
nothing is delivered in it. -/

namespace SpcNvme

section Pieces
variable (queue : CNvmeQueue) (heap : Heap) (loop : CompleteLoop)

theorem CNvmeQueue.popOne_popped : (queue.popOne loop).1 = queue.popped loop := by
  by_cases outside : queue.history.depth ≤ (queue.cplQ loop.cpl).entry.cid.toNat
  · simp [popOne, CCmdHistory.pop, popped, outside]
  · simp [popOne, CCmdHistory.pop, popped, outside]

theorem CNvmeQueue.popOne_history :
    (queue.popOne loop).2.history = ⟨queue.history.depth, queue.poppedHistory loop⟩ := by
  by_cases outside : queue.history.depth ≤ (queue.cplQ loop.cpl).entry.cid.toNat
  · simp [popOne, CCmdHistory.pop, poppedHistory, outside]
  · simp [popOne, CCmdHistory.pop, poppedHistory, outside]

theorem CNvmeQueue.passOne_history (popped : Option SrbExtPtr) : (queue.passOne loop popped).1.history = queue.history := by
  cases popped <;> rfl

private theorem CNvmeQueue.passOne_popOne : (queue.popOne loop).2.passOne loop (queue.popped loop) =
    (queue.consume loop, { loop with
      cpl := (queue.cplHead + 1) % queue.depth
      srbext := queue.popped loop
      updateCount := loop.updateCount + 1 }) := by
  by_cases outside : queue.history.depth ≤ (queue.cplQ loop.cpl).entry.cid.toNat
  · cases left : loop.srbext <;>
      simp [popOne, passOne, CCmdHistory.pop, consume, popped, poppedHistory, poppedInflight, outside, left,
        updateCplHeadAndPhase]
  · cases held : queue.history.history (queue.cplQ loop.cpl).entry.cid.toNat <;>
      simp [popOne, passOne, CCmdHistory.pop, consume, popped, poppedHistory, poppedInflight, outside, held,
        updateCplHeadAndPhase]

private theorem Heap.callBack_finish (srbext : SrbExtPtr) (cpl : NvmeCompletionEntry) :
    ((heap.callBack srbext cpl).completeCalled srbext).cleanUp srbext.address =
      finishSrbExt heap srbext.address (some srbext.submission) cpl := rfl

private theorem Heap.callBackOps_finish (srbext : SrbExtPtr) (cpl : NvmeCompletionEntry) :
    heap.callBackOps srbext cpl ++ (((heap.callBack srbext cpl).completeCalled srbext).srbext srbext.address).cleanUpOps =
      finishSrbExtOps heap srbext.address (some srbext.submission) cpl := rfl

/-- An iteration can only read what its entry's identifier leaves in the rings. -/
theorem InRange.popOne {queue : CNvmeQueue} {controller : Controller} (inRange : InRange queue controller)
    (loop : CompleteLoop) : InRange (queue.popOne loop).2 controller := by
  have depth : (queue.popOne loop).2.history.depth = queue.history.depth := by rw [CNvmeQueue.popOne_history]
  refine ⟨fun slot => ?_, fun submission member => ?_, fun slot => ?_⟩
  · rw [depth]
    exact inRange.subQ slot
  · rw [depth]
    exact inRange.pending submission member
  · rw [depth]
    exact inRange.cplQ slot

theorem InRange.passOne {queue : CNvmeQueue} {controller : Controller} (inRange : InRange queue controller)
    (loop : CompleteLoop) (popped : Option SrbExtPtr) : InRange (queue.passOne loop popped).1 controller := by
  cases popped with
  | none => exact ⟨inRange.subQ, inRange.pending, inRange.cplQ⟩
  | some srbext => exact ⟨inRange.subQ, inRange.pending, inRange.cplQ⟩

end Pieces

section CallBack
variable {heap : Heap} {srbext : SrbExtPtr} {cpl : NvmeCompletionEntry}

theorem Heap.callBack_other {other : Nat} (apart : other ≠ srbext.address) :
    (heap.callBack srbext cpl).srbext other = heap.srbext other := by
  have copied : (heap.put srbext.address { heap.srbext srbext.address with nvmeCpl := cpl }).srbext other =
      heap.srbext other := by simp [apart]
  unfold Heap.callBack runCompletionCB
  dsimp only
  split
  · exact copied
  · unfold completeFirmwareInfo
    dsimp only
    split
    · exact copied
    · simp [apart]
  · simp [apart]

private theorem Heap.callBack_plain (plain : (heap.srbext srbext.address).completesItself = false)
    (outstanding : Outstanding heap srbext.address) : Outstanding (heap.callBack srbext cpl) srbext.address := by
  have copied : ((heap.put srbext.address { heap.srbext srbext.address with nvmeCpl := cpl }).srbext
      srbext.address).completesItself = false := by simpa [SrbExt.completesItself] using plain
  have still : ({ heap.srbext srbext.address with nvmeCpl := cpl } : SrbExt).Outstanding :=
    ⟨outstanding.initOK, outstanding.notified, outstanding.polled⟩
  rcases runCompletionCB_plain (some srbext.submission) copied with same | cleaned
  · simpa [Outstanding, Heap.callBack, same] using still
  · simpa [Outstanding, Heap.callBack, cleaned] using
      show ({ heap.srbext srbext.address with nvmeCpl := cpl } : SrbExt).cleanUp.Outstanding from
        ⟨still.initOK, still.notified, still.polled⟩

theorem Heap.callBack_loud (loud : (heap.srbext srbext.address).completesItself = true) :
    ((heap.callBack srbext cpl).srbext srbext.address).notified = (heap.srbext srbext.address).notified + 1 ∧
      ((heap.callBack srbext cpl).srbext srbext.address).srb.isSome := by
  obtain ⟨callback, srb, present⟩ := SrbExt.completesItself_iff.mp loud
  simp [Heap.callBack, runCompletionCB, completeFirmwareInfo, callback, present, SrbExt.cleanUp, SrbExt.resetExtBuf,
    SrbExt.completeSrb]

end CallBack

namespace StagedAdapter

/-- A call of `CompleteCmd` has the extension in its hand, at one of these points. -/
def Due (stages : FinishPc → Prop) (state : StagedAdapter) (msgid address : Nat) : Prop :=
  ∃ srbext pc, state.finishing msgid = some (srbext, pc) ∧ stages pc ∧ srbext.address = address

/-- What every run keeps, as long as nothing is delivered in an extension that is in a
hand at these points. The `CompleteSrb` that is still to come may be the second one only
where callbacks that complete their request are let through. -/
structure Sound (limit : Nat) (stages : FinishPc → Prop) (state : StagedAdapter) : Prop where
  adapter : state.adapter.Sound limit
  free : ∀ msgid address, state.Due stages msgid address →
    Custody.Free (Holds state.adapter.host.slots state.adapter.waiting) address
  single : ∀ msgid other address, state.Due stages msgid address → state.Due stages other address → msgid = other
  owed : ∀ msgid srbext, state.finishing msgid = some (srbext, .complete) →
    Outstanding state.adapter.host.heap srbext.address ∨
      2 ≤ limit ∧ (state.adapter.host.heap.srbext srbext.address).notified ≤ 1

/-- The step delivers nothing in an extension that is in a hand at these points. -/
def Apart (stages : FinishPc → Prop) (state : StagedAdapter) : StagedEvent → Prop
  | .adapter event => ∀ msgid address, state.Due stages msgid address → ¬ event.DeliversTo address
  | .finish _ => True

/-- No callback that completes its extension is called, unless two notifications are let through. -/
def Quiet (limit : Nat) (state : StagedAdapter) : StagedEvent → Prop
  | .adapter event => 2 ≤ limit ∨ QuietAdapter state.adapter event
  | .finish _ => True

/-- What a step can be: a step of the adapter that starts no iteration, the start of
an iteration that pops nothing and is over, or of one that pops an extension, or one of
the two steps in which it goes on. -/
inductive Transition (before : StagedAdapter) : StagedEvent → StagedAdapter → Prop where
  | other {event : AdapterEvent} {adapter : Adapter} (apart : ∀ msgid, event ≠ .advance msgid .iterate)
      (taken : before.adapter.step event = some adapter) :
      Transition before (.adapter event) { before with adapter := adapter }
  | passed {msgid : Nat} {queue : CNvmeQueue} {loop : CompleteLoop} (idle : before.finishing msgid = none)
      (present : before.adapter.host.queue msgid = some queue) (running : before.adapter.loops msgid = some loop)
      (nothing : queue.popped loop = none) :
      Transition before (.adapter (.advance msgid .iterate)) { before with
        adapter := before.adapter.withQueuePair msgid ⟨((queue.popOne loop).2.passOne loop none).1,
          some ((queue.popOne loop).2.passOne loop none).2, before.adapter.controllers msgid, before.adapter.host.heap⟩ }
  | popped {msgid : Nat} {queue : CNvmeQueue} {loop : CompleteLoop} {srbext : SrbExtPtr}
      (idle : before.finishing msgid = none) (present : before.adapter.host.queue msgid = some queue)
      (running : before.adapter.loops msgid = some loop) (popped : queue.popped loop = some srbext) :
      Transition before (.adapter (.advance msgid .iterate)) {
        adapter := before.adapter.withQueuePair msgid ⟨(queue.popOne loop).2, some loop, before.adapter.controllers msgid,
          before.adapter.host.heap.callBack srbext (queue.cplQ loop.cpl).entry⟩
        finishing := Function.update before.finishing msgid (some (srbext, .complete)) }
  | completed {msgid : Nat} {srbext : SrbExtPtr} (held : before.finishing msgid = some (srbext, .complete)) :
      Transition before (.finish msgid) {
        adapter := before.adapter.withHeap (before.adapter.host.heap.completeCalled srbext)
        finishing := Function.update before.finishing msgid (some (srbext, .cleanUp)) }
  | cleanedUp {msgid : Nat} {srbext : SrbExtPtr} (held : before.finishing msgid = some (srbext, .cleanUp)) :
      Transition before (.finish msgid) {
        adapter := (before.adapter.withHeap (before.adapter.host.heap.cleanUp srbext.address)).passOne msgid srbext
        finishing := Function.update before.finishing msgid none }

theorem step_finish {state : StagedAdapter} {msgid : Nat} {srbext : SrbExtPtr} {pc : FinishPc}
    (held : state.finishing msgid = some (srbext, pc)) :
    state.step (.finish msgid) = some (state.finishOne msgid srbext pc) := by
  simp only [step, held, Option.map_some]

private theorem beginOne_transition {before : StagedAdapter} {msgid : Nat} {queue : CNvmeQueue} {loop : CompleteLoop}
    (idle : before.finishing msgid = none) (present : before.adapter.host.queue msgid = some queue)
    (running : before.adapter.loops msgid = some loop) :
    Transition before (.adapter (.advance msgid .iterate)) (before.beginOne msgid queue loop) := by
  have first := queue.popOne_popped loop
  cases found : queue.popped loop with
  | none =>
    rw [found] at first
    have same := Transition.passed idle present running found
    simpa only [beginOne, first] using same
  | some srbext =>
    rw [found] at first
    have same := Transition.popped idle present running found
    simpa only [beginOne, first] using same

theorem step_transition {before after : StagedAdapter} {event : StagedEvent} (taken : before.step event = some after) :
    before.Transition event after := by
  have other : ∀ event, (∀ msgid, event ≠ .advance msgid .iterate) →
      (before.adapter.step event).map (fun adapter => { before with adapter := adapter }) = some after →
      before.Transition (.adapter event) after := by
    intro event apart mapped
    obtain ⟨adapter, stepped, rfl⟩ := Option.map_eq_some_iff.mp mapped
    exact .other apart stepped
  cases event with
  | finish msgid =>
    obtain ⟨⟨srbext, pc⟩, held, rfl⟩ := Option.map_eq_some_iff.mp taken
    cases pc with
    | complete => exact .completed held
    | cleanUp => exact .cleanedUp held
  | adapter event =>
    cases event with
    | advance msgid own =>
      cases own with
      | iterate =>
        simp only [step] at taken
        split at taken
        · next queue loop idle present running =>
          split at taken
          · cases taken
            exact beginOne_transition idle present running
          · cases taken
        · cases taken
      | leave =>
        simp only [step] at taken
        split at taken
        · exact other _ (fun _ => by simp) taken
        · cases taken
      | _ => exact other _ (fun _ => by simp) taken
    | _ => exact other _ (fun _ => by simp) taken

/-! Each kind of step keeps what `Sound` says. -/

section Steps
variable {limit : Nat} {stages : FinishPc → Prop} {before : StagedAdapter} {msgid : Nat} {srbext : SrbExtPtr}

theorem Due.update {pc : FinishPc} {pair address : Nat} {adapter : Adapter}
    (due : Due stages ⟨adapter, Function.update before.finishing msgid (some (srbext, pc))⟩ pair address) :
    pair = msgid ∧ stages pc ∧ address = srbext.address ∨ pair ≠ msgid ∧ before.Due stages pair address := by
  obtain ⟨found, at_, held, stage, same⟩ := due
  by_cases here : pair = msgid
  · subst here
    simp only [Function.update_self, Option.some.injEq, Prod.mk.injEq] at held
    obtain ⟨rfl, rfl⟩ := held
    exact .inl ⟨rfl, stage, same.symm⟩
  · simp only [Function.update_of_ne here] at held
    exact .inr ⟨here, found, at_, held, stage, same⟩

theorem Due.cleared {pair address : Nat} {adapter : Adapter}
    (due : Due stages ⟨adapter, Function.update before.finishing msgid none⟩ pair address) :
    pair ≠ msgid ∧ before.Due stages pair address := by
  obtain ⟨found, at_, held, stage, same⟩ := due
  by_cases here : pair = msgid
  · subst here
    simp at held
  · simp only [Function.update_of_ne here] at held
    exact ⟨here, found, at_, held, stage, same⟩

theorem Sound.other {event : AdapterEvent} {adapter : Adapter} (sound : before.Sound limit stages) (first : stages .complete)
    (quiet : 2 ≤ limit ∨ QuietAdapter before.adapter event) (apart : before.Apart stages (.adapter event))
    (taken : before.adapter.step event = some adapter) : Sound limit stages { before with adapter := adapter } where
  adapter := sound.adapter.step quiet taken
  free pair address due := Adapter.step_free (sound.free pair address due) (apart pair address due) taken
  single := sound.single
  owed := by
    intro pair srbext held
    have due : before.Due stages pair srbext.address := ⟨srbext, .complete, held, first, rfl⟩
    have untouched := Adapter.free_untouched sound.adapter (sound.free pair _ due) (apart pair _ due) taken
    rw [Outstanding, Adapter.step_frame taken untouched]
    exact sound.owed pair srbext held

/-- A queue of the adapter moves on, with no more in its slots than before. -/
theorem advance_sound {adapter : Adapter} {queue after : CNvmeQueue} {loop : Option CompleteLoop}
    (sound : adapter.Sound limit) (present : adapter.host.queue msgid = some queue)
    (fewer : ∀ cid found, after.history.history cid = some found → queue.history.history cid = some found)
    (inRange : InRange after (adapter.controllers msgid)) :
    (adapter.withQueuePair msgid ⟨after, loop, adapter.controllers msgid, adapter.host.heap⟩).Sound limit :=
  SpcNvme.Sound.advance sound present fewer inRange

private theorem advance_free {adapter : Adapter} {queue : CNvmeQueue} {after : System} {address : Nat}
    (free : Custody.Free (Holds adapter.host.slots adapter.waiting) address)
    (present : adapter.host.queue msgid = some queue)
    (fewer : ∀ cid found, after.queue.history.history cid = some found → queue.history.history cid = some found) :
    Custody.Free (Holds (adapter.withQueuePair msgid after).host.slots (adapter.withQueuePair msgid after).waiting) address :=
  fun place held => free place (holds_setQueue present fewer place address held)

private theorem popOne_fewer {queue : CNvmeQueue} {loop : CompleteLoop} (cid : Nat) (found : SrbExtPtr)
    (held : (queue.popOne loop).2.history.history cid = some found) : queue.history.history cid = some found := by
  rw [CNvmeQueue.popOne_history] at held
  simp only [CNvmeQueue.poppedHistory] at held
  split at held
  · exact held
  · exact some_of_emptied held

theorem Sound.passed {queue : CNvmeQueue} (sound : before.Sound limit stages) (loop : CompleteLoop)
    (present : before.adapter.host.queue msgid = some queue) :
    Sound limit stages { before with
      adapter := before.adapter.withQueuePair msgid ⟨((queue.popOne loop).2.passOne loop none).1,
        some ((queue.popOne loop).2.passOne loop none).2, before.adapter.controllers msgid, before.adapter.host.heap⟩ } := by
  have fewer : ∀ cid found, ((queue.popOne loop).2.passOne loop none).1.history.history cid = some found →
      queue.history.history cid = some found := by
    intro cid found held
    rw [CNvmeQueue.passOne_history] at held
    exact popOne_fewer cid found held
  refine ⟨?_, ?_, sound.single, sound.owed⟩
  · exact advance_sound sound.adapter present fewer (((sound.adapter.inRange msgid queue present).popOne loop).passOne ..)
  · intro pair address due
    exact advance_free (sound.free pair address due) present fewer

theorem Sound.popped {queue : CNvmeQueue} {loop : CompleteLoop} (sound : before.Sound limit stages) (first : stages .complete)
    (present : before.adapter.host.queue msgid = some queue) (popped : queue.popped loop = some srbext)
    (quiet : 2 ≤ limit ∨ (before.adapter.host.heap.srbext srbext.address).completesItself = false) :
    Sound limit stages {
      adapter := before.adapter.withQueuePair msgid ⟨(queue.popOne loop).2, some loop, before.adapter.controllers msgid,
        before.adapter.host.heap.callBack srbext (queue.cplQ loop.cpl).entry⟩
      finishing := Function.update before.finishing msgid (some (srbext, .complete)) } := by
  have inside := (sound.adapter.inRange msgid queue present).cplQ loop.cpl
  have slot : queue.history.history (queue.cplQ loop.cpl).entry.cid.toNat = some srbext :=
    (popped_of_lt inside).symm.trans popped
  have emptied : (queue.popOne loop).2.history.history =
      Function.update queue.history.history (queue.cplQ loop.cpl).entry.cid.toNat none := by
    rw [CNvmeQueue.popOne_history, poppedHistory_of_lt inside]
  have taken := SpcNvme.Sound.take sound.adapter present slot emptied ((sound.adapter.inRange msgid queue present).popOne loop)
  have outstanding : Outstanding before.adapter.host.heap srbext.address := by
    simpa [Outstanding] using taken.outstanding
  -- the calls have other extensions in their hands: this one was still in its slot
  have elsewhere : ∀ pair address, before.Due stages pair address → address ≠ srbext.address := by
    rintro pair address due rfl
    refine sound.free pair _ due (.slot msgid (queue.cplQ loop.cpl).entry.cid.toNat) ?_
    simp [Holds, Host.slots_of_queue present, slot]
  have owed : Outstanding (before.adapter.host.heap.callBack srbext (queue.cplQ loop.cpl).entry) srbext.address ∨
      2 ≤ limit ∧ ((before.adapter.host.heap.callBack srbext (queue.cplQ loop.cpl).entry).srbext
        srbext.address).notified ≤ 1 := by
    cases loud : (before.adapter.host.heap.srbext srbext.address).completesItself with
    | false => exact .inl (Heap.callBack_plain loud outstanding)
    | true =>
      refine .inr ⟨quiet.resolve_right (by simp [loud]), ?_⟩
      rw [(Heap.callBack_loud loud).1, outstanding.notified]
  refine ⟨?_, ?_, ?_, ?_⟩
  · refine SpcNvme.Sound.spend taken.sound taken.free ?_ ?_
    · intro other apart
      rw [Host.setQueue_heap]
      exact Heap.callBack_other apart
    · rcases owed with still | ⟨two, once⟩
      · rw [still.notified]
        exact Nat.zero_le limit
      · exact Nat.le_trans once (Nat.le_of_succ_le two)
  · intro pair address due
    rcases due.update with ⟨_, _, rfl⟩ | ⟨_, earlier⟩
    · exact taken.free
    · exact advance_free (sound.free pair address earlier) present popOne_fewer
  · intro pair other address one two
    rcases one.update with ⟨rfl, _, rfl⟩ | ⟨_, earlier⟩
    · rcases two.update with ⟨rfl, _⟩ | ⟨_, also⟩
      · rfl
      · exact absurd rfl (elsewhere other _ also)
    · rcases two.update with ⟨_, _, rfl⟩ | ⟨_, also⟩
      · exact absurd rfl (elsewhere pair _ earlier)
      · exact sound.single pair other address earlier also
  · intro pair found held
    by_cases here : pair = msgid
    · subst here
      simp only [Function.update_self, Option.some.injEq, Prod.mk.injEq, and_true] at held
      subst held
      exact owed
    · simp only [Function.update_of_ne here] at held
      have apart : found.address ≠ srbext.address := elsewhere pair _ ⟨found, .complete, held, first, rfl⟩
      simp only [Adapter.withQueuePair, Outstanding, Heap.callBack_other apart]
      exact sound.owed pair found held

/-- The call notifies StorPort, if it was not the callback that did it before. -/
theorem Sound.completed (sound : before.Sound limit stages) (first : stages .complete)
    (held : before.finishing msgid = some (srbext, .complete)) :
    Sound limit stages {
      adapter := before.adapter.withHeap (before.adapter.host.heap.completeCalled srbext)
      finishing := Function.update before.finishing msgid (some (srbext, .cleanUp)) } := by
  have due : before.Due stages msgid srbext.address := ⟨srbext, .complete, held, first, rfl⟩
  have free := sound.free msgid _ due
  have earlier : ∀ pair address, Due stages ⟨before.adapter.withHeap (before.adapter.host.heap.completeCalled srbext),
      Function.update before.finishing msgid (some (srbext, .cleanUp))⟩ pair address → before.Due stages pair address := by
    intro pair address later
    rcases later.update with ⟨rfl, _, rfl⟩ | ⟨_, old⟩
    · exact due
    · exact old
  have others : ∀ other, other ≠ srbext.address →
      (before.adapter.host.heap.completeCalled srbext).srbext other = before.adapter.host.heap.srbext other := by
    intro other apart
    simp [Heap.completeCalled, apart]
  refine ⟨?_, ?_, ?_, ?_⟩
  · refine SpcNvme.Sound.spend sound.adapter free others ?_
    simp only [Heap.completeCalled, Heap.completeSrb_srbext, Function.update_self, SrbExt.completeSrb_notified]
    have positive := sound.adapter.positive
    rcases sound.owed msgid srbext held with still | ⟨two, once⟩
    · rw [still.notified]
      split <;> omega
    · split <;> omega
  · intro pair address later
    exact sound.free pair address (earlier pair address later)
  · intro pair other address one two
    exact sound.single pair other address (earlier pair address one) (earlier other address two)
  · intro pair found later
    by_cases here : pair = msgid
    · subst here
      simp at later
    · simp only [Function.update_of_ne here] at later
      have apart : found.address ≠ srbext.address := by
        intro same
        exact here (sound.single pair msgid _ ⟨found, .complete, later, first, same⟩ due)
      simp only [Adapter.withHeap, Outstanding, others _ apart]
      exact sound.owed pair found later

/-- `CleanUp` is the same to everybody else, whoever has the extension by then. -/
theorem cleanUp_sound {adapter : Adapter} (sound : adapter.Sound limit) (address : Nat) :
    (adapter.withHeap (adapter.host.heap.cleanUp address)).Sound limit := by
  have record : ∀ other, ((adapter.host.heap.cleanUp address).srbext other).notified =
      (adapter.host.heap.srbext other).notified := by
    intro other
    by_cases here : other = address
    · subst here
      simp [SrbExt.cleanUp, SrbExt.resetExtBuf]
    · simp [here]
  refine ⟨sound.positive, sound.inRange, sound.custody.mono (fun _ _ held => held) ?_, ?_⟩
  · intro other _ outstanding
    by_cases here : other = address
    · subst here
      have cleaned : (adapter.host.heap.srbext other).cleanUp.Outstanding :=
        ⟨outstanding.initOK, outstanding.notified, outstanding.polled⟩
      simpa [Outstanding, Adapter.withHeap] using cleaned
    · simpa [Outstanding, Adapter.withHeap, here] using outstanding
  · intro other
    exact (record other).trans_le (sound.once other)

/-- The queue of a call may be gone when its iteration ends. -/
theorem passOne_cases (adapter : Adapter) (msgid : Nat) (srbext : SrbExtPtr) :
    adapter.passOne msgid srbext = adapter ∨
      ∃ queue loop, adapter.host.queue msgid = some queue ∧ adapter.loops msgid = some loop ∧
        adapter.passOne msgid srbext = adapter.withQueuePair msgid ⟨(queue.passOne loop (some srbext)).1,
          some (queue.passOne loop (some srbext)).2, adapter.controllers msgid, adapter.host.heap⟩ := by
  cases present : adapter.host.queue msgid with
  | none => exact .inl (by simp only [Adapter.passOne, present])
  | some queue =>
    cases running : adapter.loops msgid with
    | none => exact .inl (by simp only [Adapter.passOne, present, running])
    | some loop => exact .inr ⟨queue, loop, rfl, rfl, by simp only [Adapter.passOne, present, running]⟩

theorem passOne_heap (adapter : Adapter) : (adapter.passOne msgid srbext).host.heap = adapter.host.heap := by
  rcases passOne_cases adapter msgid srbext with same | ⟨_, _, _, _, same⟩
  · rw [same]
  · rw [same]
    rfl

theorem passOne_waiting (adapter : Adapter) : (adapter.passOne msgid srbext).waiting = adapter.waiting := by
  rcases passOne_cases adapter msgid srbext with same | ⟨_, _, _, _, same⟩
  · rw [same]
  · rw [same]
    rfl

theorem passOne_slots (adapter : Adapter) : (adapter.passOne msgid srbext).host.slots = adapter.host.slots := by
  rcases passOne_cases adapter msgid srbext with same | ⟨queue, loop, present, _, same⟩
  · rw [same]
  · rw [same]
    refine Eq.trans (adapter.host.slots_setQueue msgid _) ?_
    rw [CNvmeQueue.passOne_history, ← Host.slots_of_queue present]
    exact Function.update_eq_self ..

private theorem passOne_sound {adapter : Adapter} (sound : adapter.Sound limit) : (adapter.passOne msgid srbext).Sound limit := by
  rcases passOne_cases adapter msgid srbext with same | ⟨queue, loop, present, _, same⟩
  · rwa [same]
  · rw [same]
    refine advance_sound sound present ?_ ((sound.inRange msgid queue present).passOne loop _)
    intro cid found held
    rwa [CNvmeQueue.passOne_history] at held

theorem Sound.cleanedUp (sound : before.Sound limit stages) (held : before.finishing msgid = some (srbext, .cleanUp)) :
    Sound limit stages {
      adapter := (before.adapter.withHeap (before.adapter.host.heap.cleanUp srbext.address)).passOne msgid srbext
      finishing := Function.update before.finishing msgid none } := by
  refine ⟨passOne_sound (cleanUp_sound sound.adapter _), ?_, ?_, ?_⟩
  · intro pair address due
    rw [passOne_slots, passOne_waiting]
    exact sound.free pair address due.cleared.2
  · intro pair other address one two
    exact sound.single pair other address one.cleared.2 two.cleared.2
  · intro pair found later
    have here : pair ≠ msgid := by
      rintro rfl
      simp at later
    simp only [Function.update_of_ne here] at later
    have same : (before.adapter.host.heap.cleanUp srbext.address).srbext found.address =
        if found.address = srbext.address then (before.adapter.host.heap.srbext found.address).cleanUp
        else before.adapter.host.heap.srbext found.address := by
      by_cases equal : found.address = srbext.address
      · simp [equal]
      · simp [equal]
    rw [passOne_heap]
    simp only [Adapter.withHeap, Outstanding, same]
    split
    · exact (sound.owed pair found later).imp_left fun still => ⟨still.initOK, still.notified, still.polled⟩
    · exact sound.owed pair found later

theorem Sound.step {after : StagedAdapter} {event : StagedEvent} (sound : before.Sound limit stages)
    (first : stages .complete) (quiet : before.Quiet limit event) (apart : before.Apart stages event)
    (taken : before.step event = some after) : after.Sound limit stages := by
  cases step_transition taken with
  | other _ stepped => exact sound.other first quiet apart stepped
  | passed idle present running nothing => exact sound.passed _ present
  | @popped pair queue loop found idle present running popped =>
    refine sound.popped first present popped (quiet.imp_right fun plain => ?_)
    have inside := (sound.adapter.inRange pair queue present).cplQ loop.cpl
    exact plain queue present loop running found ((popped_of_lt inside).symm.trans popped)
  | completed held => exact sound.completed first held
  | cleanedUp held => exact sound.cleanedUp held

end Steps

theorem Sound.initial {limit : Nat} {stages : FinishPc → Prop} {adapter : Adapter} (sound : adapter.Sound limit) :
    (StagedAdapter.initial adapter).Sound limit stages where
  adapter := sound
  free := by
    rintro msgid address ⟨_, _, held, _⟩
    cases held
  single := by
    rintro msgid other address ⟨_, _, held, _⟩
    cases held
  owed := by
    intro msgid srbext held
    cases held

end StagedAdapter

/-! An iteration in one step is the run of its pieces. -/

section Connection
variable {msgid : Nat} {queue : CNvmeQueue} {loop : CompleteLoop}

private theorem StagedLedger.step_of {ledger : StagedLedger} {event : StagedEvent} {staged : StagedAdapter} {pool : Pool}
    (taken : ledger.staged.step event = some staged)
    (ran : Machine.run BlockPool.apply ledger.pool (ledger.staged.poolOps event) = some pool) :
    ledger.step event = some ⟨staged, pool⟩ := by
  simp [StagedLedger.step, taken, ran]

theorem StagedLedger.step_some {before after : StagedLedger} {event : StagedEvent} (taken : before.step event = some after) :
    before.staged.step event = some after.staged ∧
      Machine.run BlockPool.apply before.pool (before.staged.poolOps event) = some after.pool := by
  obtain ⟨staged, stepped, mapped⟩ := Option.bind_eq_some_iff.mp taken
  obtain ⟨pool, ran, rfl⟩ := Option.map_eq_some_iff.mp mapped
  exact ⟨stepped, ran⟩

private theorem passOne_withQueuePair (adapter : Adapter) (controller : Controller) (heap : Heap) (srbext : SrbExtPtr) :
    (adapter.withQueuePair msgid ⟨queue, some loop, controller, heap⟩).passOne msgid srbext =
      adapter.withQueuePair msgid ⟨(queue.passOne loop (some srbext)).1, some (queue.passOne loop (some srbext)).2,
        controller, heap⟩ := by
  let popped := adapter.withQueuePair msgid ⟨queue, some loop, controller, heap⟩
  have present : popped.host.queue msgid = some queue := by rw [Adapter.queue_withQueuePair, Function.update_self]
  have running : popped.loops msgid = some loop := Function.update_self ..
  have passed : popped.passOne msgid srbext = popped.withQueuePair msgid ⟨(queue.passOne loop (some srbext)).1,
      some (queue.passOne loop (some srbext)).2, popped.controllers msgid, popped.host.heap⟩ := by
    simp only [Adapter.passOne, present, running]
  refine passed.trans ?_
  simp [popped, Adapter.withQueuePair, Host.setQueue_withHeap, Host.setQueue_setQueue]

private theorem StagedLedger.run_finish {adapter : Adapter} {finishing : Nat → Option (SrbExtPtr × FinishPc)} {pool rest : Pool}
    {controller : Controller} {heap : Heap} {srbext : SrbExtPtr} (idle : finishing msgid = none)
    (freed : Machine.run BlockPool.apply pool
      ((heap.completeCalled srbext).srbext srbext.address).cleanUpOps = some rest) :
    Machine.run StagedLedger.step
      ⟨⟨adapter.withQueuePair msgid ⟨queue, some loop, controller, heap⟩,
        Function.update finishing msgid (some (srbext, .complete))⟩, pool⟩ [.finish msgid, .finish msgid] =
      some ⟨⟨adapter.withQueuePair msgid ⟨(queue.passOne loop (some srbext)).1,
        some (queue.passOne loop (some srbext)).2, controller, (heap.completeCalled srbext).cleanUp srbext.address⟩,
        finishing⟩, rest⟩ := by
  let popped : StagedAdapter := ⟨adapter.withQueuePair msgid ⟨queue, some loop, controller, heap⟩,
    Function.update finishing msgid (some (srbext, .complete))⟩
  let completed := popped.finishOne msgid srbext .complete
  have first : popped.finishing msgid = some (srbext, .complete) := Function.update_self ..
  have second : completed.finishing msgid = some (srbext, .cleanUp) := Function.update_self ..
  have one : popped.step (.finish msgid) = some completed := StagedAdapter.step_finish first
  have two : completed.step (.finish msgid) = some (completed.finishOne msgid srbext .cleanUp) :=
    StagedAdapter.step_finish second
  have nothing : Machine.run BlockPool.apply pool (popped.poolOps (.finish msgid)) = some pool := by
    simp only [StagedAdapter.poolOps, first]
    rfl
  have cleans : Machine.run BlockPool.apply pool (completed.poolOps (.finish msgid)) = some rest := by
    simp only [StagedAdapter.poolOps, second]
    exact freed
  rw [Machine.run_cons (StagedLedger.step_of one nothing), Machine.run_cons (StagedLedger.step_of two cleans)]
  have ended : (completed.finishOne msgid srbext .cleanUp).finishing = finishing := by
    simp only [StagedAdapter.finishOne, completed, popped, Function.update_idem]
    exact Function.update_eq_self_iff.mpr idle.symm
  have passed : (completed.finishOne msgid srbext .cleanUp).adapter =
      adapter.withQueuePair msgid ⟨(queue.passOne loop (some srbext)).1, some (queue.passOne loop (some srbext)).2,
        controller, (heap.completeCalled srbext).cleanUp srbext.address⟩ :=
    passOne_withQueuePair adapter controller ((heap.completeCalled srbext).cleanUp srbext.address) srbext
  rw [← ended, ← passed]
  rfl

def AdapterEvent.pieces (before : Ledger) : AdapterEvent → List StagedEvent
  | .advance msgid .iterate =>
      match before.adapter.host.queue msgid, before.adapter.loops msgid with
      | some queue, some loop =>
          .adapter (.advance msgid .iterate) :: if (queue.popped loop).isSome then [.finish msgid, .finish msgid] else []
      | _, _ => []
  | event => [.adapter event]

private theorem run_iterate {before after : Ledger} (taken : before.step (.advance msgid .iterate) = some after) :
    Machine.run StagedLedger.step ⟨.initial before.adapter, before.pool⟩
      (AdapterEvent.pieces before (.advance msgid .iterate)) = some ⟨.initial after.adapter, after.pool⟩ := by
  obtain ⟨stepped, ran⟩ := Ledger.step_some taken
  obtain ⟨queue, present, _, next, iterates, same⟩ := Adapter.step_advance stepped
  cases System.step_transition iterates with
  | @iterated loop called arrived more =>
    have running : before.adapter.loops msgid = some loop := called
    have continues : queue.loopContinues loop = true := by
      simp only [CNvmeQueue.loopContinues, Bool.and_eq_true, decide_eq_true_eq]
      exact ⟨arrived, more⟩
    have began : (StagedAdapter.initial before.adapter).step (.adapter (.advance msgid .iterate)) =
        some ((StagedAdapter.initial before.adapter).beginOne msgid queue loop) := by
      simp [StagedAdapter.step, StagedAdapter.initial, present, running, continues]
    have ends := queue.passOne_popOne loop
    have first := queue.popOne_popped loop
    simp only [Adapter.poolOps, present, running, completeOneOps_eq] at ran
    cases found : queue.popped loop with
    | none =>
      rw [found] at first ends ran
      have ops : (StagedAdapter.initial before.adapter).poolOps (.adapter (.advance msgid .iterate)) = [] := by
        simp [StagedAdapter.poolOps, StagedAdapter.initial, present, running, first]
      have pieces : AdapterEvent.pieces before (.advance msgid .iterate) = [.adapter (.advance msgid .iterate)] := by
        simp [AdapterEvent.pieces, present, running, found]
      rw [pieces]
      apply Machine.run_single
      rw [StagedLedger.step_of began (ops ▸ ran), ← same]
      simp only [StagedAdapter.beginOne, first, ends, StagedAdapter.initial, System.iterated, Adapter.queuePair,
        CNvmeQueue.poppedHeap, found]
    | some srbext =>
      rw [found] at first ends ran
      simp only at ran
      rw [← finishSrbExtOps_eq _ srbext.address (some srbext.submission) (queue.cplQ loop.cpl).entry,
        ← Heap.callBackOps_finish, Machine.run_append] at ran
      obtain ⟨middle, called, cleaned⟩ := Option.bind_eq_some_iff.mp ran
      have ops : (StagedAdapter.initial before.adapter).poolOps (.adapter (.advance msgid .iterate)) =
          before.adapter.host.heap.callBackOps srbext (queue.cplQ loop.cpl).entry := by
        simp [StagedAdapter.poolOps, StagedAdapter.initial, present, running, first]
      have pieces : AdapterEvent.pieces before (.advance msgid .iterate) =
          [.adapter (.advance msgid .iterate), .finish msgid, .finish msgid] := by
        simp [AdapterEvent.pieces, present, running, found]
      rw [pieces, Machine.run_cons (StagedLedger.step_of began (ops ▸ called))]
      have popped : (StagedAdapter.initial before.adapter).beginOne msgid queue loop =
          ⟨before.adapter.withQueuePair msgid ⟨(queue.popOne loop).2, some loop, before.adapter.controllers msgid,
            before.adapter.host.heap.callBack srbext (queue.cplQ loop.cpl).entry⟩,
            Function.update (fun _ => none) msgid (some (srbext, .complete))⟩ := by
        simp only [StagedAdapter.beginOne, first]
        rfl
      rw [popped, StagedLedger.run_finish rfl cleaned, ends, ← same]
      simp only [StagedAdapter.initial, System.iterated, Adapter.queuePair, CNvmeQueue.poppedHeap, found,
        Heap.callBack_finish]

/-- The staged adapter can do whatever the adapter does, with the same pool operations. -/
theorem pieces_follow : Machine.Follows Ledger.step StagedLedger.step (fun before event => event.pieces before)
    (fun _ _ => True) (fun before staged => staged = ⟨.initial before.adapter, before.pool⟩) := by
  constructor
  intro before after state event same _ taken
  subst same
  refine ⟨_, ?_, rfl⟩
  obtain ⟨stepped, ran⟩ := Ledger.step_some taken
  have whole : ∀ event, event.pieces before = [.adapter event] →
      (StagedAdapter.initial before.adapter).step (.adapter event) =
        (before.adapter.step event).map (fun adapter => StagedAdapter.initial adapter) →
      (StagedAdapter.initial before.adapter).poolOps (.adapter event) = before.adapter.poolOps event →
      before.adapter.step event = some after.adapter →
      Machine.run BlockPool.apply before.pool (before.adapter.poolOps event) = some after.pool →
      Machine.run StagedLedger.step ⟨.initial before.adapter, before.pool⟩ (event.pieces before) =
        some ⟨.initial after.adapter, after.pool⟩ := by
    intro event single steps ops stepped ran
    rw [single]
    apply Machine.run_single
    apply StagedLedger.step_of
    · rw [steps, stepped]
      rfl
    · rw [ops]
      exact ran
  cases event with
  | advance msgid own =>
    cases own with
    | iterate => exact run_iterate taken
    | _ => exact whole _ rfl rfl rfl stepped ran
  | _ => exact whole _ rfl rfl rfl stepped ran

end Connection

end SpcNvme
