import SpcNvme.Lib.Independence
import SpcNvme.Proofs.Projection

/-! Queue pairs do not get in each other's way. An extension is in one history slot
at most, so steps of different queue pairs write different extensions, and all else
they write is their own but the log. In which order the queue pairs take their steps
shows in the order of the log only. -/

namespace SpcNvme

namespace Heap

structure Alike (first second : Heap) : Prop where
  srbext : first.srbext = second.srbext
  slotCount : first.slotCount = second.slotCount
  completions : first.completions.Perm second.completions

theorem Alike.refl (heap : Heap) : heap.Alike heap := ⟨rfl, rfl, .refl _⟩

theorem Alike.trans {first second third : Heap} (left : first.Alike second) (right : second.Alike third) :
    first.Alike third :=
  ⟨left.srbext.trans right.srbext, left.slotCount.trans right.slotCount, left.completions.trans right.completions⟩

end Heap

/-- What an iteration leaves of the extension it popped, and what it adds to the log. -/
def SrbExt.settled (srbext : SrbExt) (slotCount : BitVec 3) (popped : SrbExtPtr) (cpl : NvmeCompletionEntry) :
    SrbExt × List Completion :=
  let after := finishSrbExt ⟨fun _ => srbext, slotCount, []⟩ popped.address (some popped.submission) cpl
  (after.srbext popped.address, after.completions)

private theorem finishSrbExt_settled (heap : Heap) (popped : SrbExtPtr) (cpl : NvmeCompletionEntry) :
    let settled := (heap.srbext popped.address).settled heap.slotCount popped cpl
    finishSrbExt heap popped.address (some popped.submission) cpl =
      ⟨Function.update heap.srbext popped.address settled.1, heap.slotCount, heap.completions ++ settled.2⟩ := by
  cases twice : (heap.srbext popped.address).completesItself with
  | false =>
    have alone := @finishSrbExt_plain ⟨fun _ => heap.srbext popped.address, heap.slotCount, []⟩ popped.address
      (some popped.submission) cpl twice
    simp only [SrbExt.settled, finishSrbExt_plain _ cpl twice, alone, Heap.put, Function.update_self, List.nil_append]
  | true =>
    obtain ⟨callback, srb, present⟩ := SrbExt.completesItself_iff.mp twice
    simp [SrbExt.settled, finishSrbExt, runCompletionCB, completeFirmwareInfo, Heap.cleanUp, Heap.put, Heap.completeSrb,
      callback, present, SrbExt.cleanUp, SrbExt.resetExtBuf]

/-- The extension a step takes out of the history, and the entry it does so for. -/
def System.pops (state : System) : Event → Option (SrbExtPtr × NvmeCompletionEntry)
  | .iterate => state.loop.bind fun loop => (state.queue.popped loop).map fun srbext => (srbext, (state.nextSlot loop).entry)
  | _ => none

def Heap.settle (heap : Heap) : Option (SrbExtPtr × NvmeCompletionEntry) → Heap
  | none => heap
  | some (srbext, cpl) => finishSrbExt heap srbext.address (some srbext.submission) cpl

private theorem System.step_settles {state next : System} {event : Event} (ofPair : event.ofQueuePair = true)
    (taken : state.step event = some next) : next.heap = state.heap.settle (state.pops event) := by
  cases System.step_transition taken with
  | accepted => cases ofPair
  | refused => cases ofPair
  | fetched => rfl
  | posted => rfl
  | entered => rfl
  | @iterated loop running =>
    simp only [System.iterated, System.pops, running, Option.bind_some, CNvmeQueue.poppedHeap]
    cases state.queue.popped loop with
    | none => rfl
    | some srbext => rfl
  | left => rfl
  | reset => cases ofPair
  | scribbled => cases ofPair

theorem System.SameRings.pops {first second : System} (same : first.SameRings second) (event : Event) :
    first.pops event = second.pops event := by
  cases event <;> simp only [System.pops, System.nextSlot, same.queue, same.loop]

namespace Heap

theorem Alike.settle {first second : Heap} (alike : first.Alike second) (popped : Option (SrbExtPtr × NvmeCompletionEntry)) :
    (first.settle popped).Alike (second.settle popped) := by
  cases popped with
  | none => exact alike
  | some taken =>
    obtain ⟨srbext, cpl⟩ := taken
    simp only [Heap.settle, finishSrbExt_settled, alike.srbext, alike.slotCount]
    exact ⟨rfl, rfl, alike.completions.append_right _⟩

private theorem settle_settle (heap : Heap) {first second : Option (SrbExtPtr × NvmeCompletionEntry)}
    (apart : ∀ popped ∈ first, ∀ other ∈ second, popped.1.address ≠ other.1.address) :
    ((heap.settle first).settle second).Alike ((heap.settle second).settle first) := by
  cases first with
  | none => exact .refl _
  | some popped =>
    cases second with
    | none => exact .refl _
    | some other =>
      obtain ⟨srbext, cpl⟩ := popped
      obtain ⟨later, reply⟩ := other
      have elsewhere : srbext.address ≠ later.address := apart (srbext, cpl) rfl (later, reply) rfl
      simp only [Heap.settle, finishSrbExt_settled, Function.update_of_ne elsewhere, Function.update_of_ne elsewhere.symm]
      refine ⟨Function.update_comm elsewhere .., rfl, ?_⟩
      rw [List.append_assoc, List.append_assoc]
      exact List.perm_append_comm.append_left heap.completions

end Heap

structure Adapter.Alike (first second : Adapter) : Prop where
  device : first.host.device = second.host.device
  heap : first.host.heap.Alike second.host.heap
  loops : first.loops = second.loops
  controllers : first.controllers = second.controllers
  waiting : first.waiting = second.waiting

/-- A step of one of the queue pairs: which one, and what it does. -/
def Adapter.advance (adapter : Adapter) (turn : Nat × Event) : Option Adapter := adapter.step (.advance turn.1 turn.2)

private theorem Host.setQueue_device {host other : Host} (same : host.device = other.device) (msgid : Nat) (queue : CNvmeQueue) :
    (host.setQueue msgid queue).device = (other.setQueue msgid queue).device := by
  unfold Host.setQueue
  split
  · simp only [same]
  · simp only [same]

private theorem Host.setQueue_comm (host : Host) {first second : Nat} (apart : first ≠ second) (queue last : CNvmeQueue) :
    ((host.setQueue first queue).setQueue second last).device = ((host.setQueue second last).setQueue first queue).device := by
  unfold Host.setQueue
  by_cases admin : first = 0
  · subst admin
    simp [apart.symm]
  · by_cases zero : second = 0
    · simp [admin, zero]
    · have elsewhere : second - 1 ≠ first - 1 := by omega
      simp only [admin, zero, if_false]
      rw [Function.update_comm elsewhere]

section Pairs
variable {before after other : Adapter} {msgid : Nat} {own : Event} {queue : CNvmeQueue} {next : System}

private theorem Adapter.advance_pair (present : before.host.queue msgid = some queue) (ofPair : own.ofQueuePair = true)
    (stepped : (before.queuePair msgid queue).step own = some next) :
    before.advance (msgid, own) = some (before.withQueuePair msgid next) := by
  simp [Adapter.advance, Adapter.step, present, ofPair, stepped]

theorem Adapter.Alike.queues (alike : before.Alike other) : before.host.queue = other.host.queue := by
  funext msgid
  simp only [Host.queue, alike.device]

/-- Where the rings are the same and so are the extensions, so is what a step of a queue pair leaves. -/
theorem Adapter.Alike.withQueuePair (alike : before.Alike other) {last : System} (same : next.SameRings last)
    (heap : next.heap.Alike last.heap) : (before.withQueuePair msgid next).Alike (other.withQueuePair msgid last) where
  device := by
    simp only [Adapter.withQueuePair, same.queue]
    exact Host.setQueue_device alike.device msgid last.queue
  heap := heap
  loops := by simp only [Adapter.withQueuePair, alike.loops, same.loop]
  controllers := by simp only [Adapter.withQueuePair, alike.controllers, same.device]
  waiting := alike.waiting

theorem Adapter.Alike.advance (alike : before.Alike other) {turn : Nat × Event} (taken : before.advance turn = some after) :
    ∃ next, other.advance turn = some next ∧ after.Alike next := by
  obtain ⟨msgid, own⟩ := turn
  obtain ⟨queue, present, ofPair, next, stepped, rfl⟩ := Adapter.step_advance taken
  have rings : (before.queuePair msgid queue).SameRings (other.queuePair msgid queue) :=
    ⟨rfl, congrFun alike.loops msgid, congrFun alike.controllers msgid⟩
  obtain ⟨last, also, same⟩ := rings.step stepped
  have found : other.host.queue msgid = some queue := alike.queues ▸ present
  refine ⟨_, Adapter.advance_pair found ofPair also, alike.withQueuePair same ?_⟩
  rw [System.step_settles ofPair stepped, System.step_settles ofPair also, rings.pops own]
  exact alike.heap.settle _

private theorem System.pops_held {limit : Nat} (sound : before.Sound limit) (present : before.host.queue msgid = some queue)
    {popped : SrbExtPtr × NvmeCompletionEntry} (taken : (before.queuePair msgid queue).pops own = some popped) :
    ∃ cid, Holds before.host.slots before.waiting (.slot msgid cid) popped.1.address := by
  cases own with
  | iterate =>
    obtain ⟨loop, running, found⟩ := Option.bind_eq_some_iff.mp taken
    obtain ⟨srbext, held, rfl⟩ := Option.map_eq_some_iff.mp found
    have slot := (popped_of_lt ((sound.inRange msgid queue present).cplQ loop.cpl)).symm.trans held
    refine ⟨(queue.cplQ loop.cpl).entry.cid.toNat, ?_⟩
    simp only [Holds, Host.slots_of_queue present, slot, Option.map_some]
  | _ => cases taken

/-- Steps of different queue pairs commute, up to the order of the log. -/
theorem Adapter.advance_commutes {first second : Nat × Event} {middle : Adapter} {limit : Nat} (sound : before.Sound limit)
    (apart : first.1 ≠ second.1) (taken : before.advance first = some middle) (followed : middle.advance second = some after) :
    ∃ between last, before.advance second = some between ∧ between.advance first = some last ∧ after.Alike last := by
  obtain ⟨one, own⟩ := first
  obtain ⟨two, last⟩ := second
  obtain ⟨queue, present, ofPair, next, stepped, rfl⟩ := Adapter.step_advance taken
  obtain ⟨ring, found, also, final, moved, rfl⟩ := Adapter.step_advance followed
  have there : before.host.queue two = some ring := by
    rwa [Adapter.queue_withQueuePair, Function.update_of_ne apart.symm] at found
  -- the second step, taken first
  have rings : ((before.withQueuePair one next).queuePair two ring).SameRings (before.queuePair two ring) :=
    ⟨rfl, Function.update_of_ne apart.symm .., Function.update_of_ne apart.symm ..⟩
  obtain ⟨early, early_taken, early_same⟩ := rings.step moved
  have here : (before.withQueuePair two early).host.queue one = some queue := by
    rwa [Adapter.queue_withQueuePair, Function.update_of_ne apart]
  -- the first step, taken after it
  have behind : (before.queuePair one queue).SameRings ((before.withQueuePair two early).queuePair one queue) :=
    ⟨rfl, (Function.update_of_ne apart ..).symm, (Function.update_of_ne apart ..).symm⟩
  obtain ⟨late, late_taken, late_same⟩ := behind.step stepped
  refine ⟨_, _, Adapter.advance_pair there also early_taken, Adapter.advance_pair here ofPair late_taken, ?_⟩
  constructor
  · simp only [Adapter.withQueuePair, late_same.queue, early_same.queue]
    calc (({ before.host.setQueue one late.queue with heap := next.heap } : Host).setQueue two early.queue).device
        = ((before.host.setQueue one late.queue).setQueue two early.queue).device := Host.setQueue_device (by rfl) two early.queue
      _ = ((before.host.setQueue two early.queue).setQueue one late.queue).device :=
        before.host.setQueue_comm apart late.queue early.queue
      _ = (({ before.host.setQueue two early.queue with heap := early.heap } : Host).setQueue one late.queue).device :=
        Host.setQueue_device (by rfl) one late.queue
  · simp only [Adapter.withQueuePair]
    rw [System.step_settles also moved, System.step_settles ofPair late_taken, rings.pops, ← behind.pops]
    have first_heap := System.step_settles ofPair stepped
    have second_heap := System.step_settles also early_taken
    simp only [Adapter.queuePair, Adapter.withQueuePair] at first_heap second_heap ⊢
    rw [first_heap, second_heap]
    apply Heap.settle_settle
    intro popped chosen other picked same
    obtain ⟨cid, held⟩ := System.pops_held sound present chosen
    obtain ⟨tag, kept⟩ := System.pops_held sound there picked
    have slots := sound.custody.exclusive held (same ▸ kept)
    cases slots
    exact apart rfl
  · simp only [Adapter.withQueuePair, late_same.loop, early_same.loop]
    exact Function.update_comm apart ..
  · simp only [Adapter.withQueuePair, late_same.device, early_same.device]
    exact Function.update_comm apart ..
  · rfl

end Pairs

private theorem queuePairs_independent :
    Machine.Independent Adapter.advance Prod.fst Adapter.Alike (Adapter.Sound 2) where
  refl := fun _ => ⟨rfl, .refl _, rfl, rfl, rfl⟩
  trans := fun left right => ⟨left.device.trans right.device, left.heap.trans right.heap, left.loops.trans right.loops,
    left.controllers.trans right.controllers, left.waiting.trans right.waiting⟩
  transfer := fun alike taken => alike.advance taken
  kept := fun sound taken => sound.step (.inl (Nat.le_refl 2)) taken
  commutes := fun sound apart taken followed => Adapter.advance_commutes sound apart taken followed

/-- From any state an adapter reaches, the queue pairs may take their next steps in any
order in which each of them does the same: the order is possible too, and it ends with the
same queues, controllers and extensions, and with the same completions up to their order. -/
theorem interleaving_irrelevant {device : CNvmeDevice} {admConfig : Option QueuePairConfig}
    {ioConfig : Nat → Option QueuePairConfig} {srbext : Nat → SrbExt} {slotCount : BitVec 3}
    {events : List AdapterEvent} {state final : Adapter} {first second : List (Nat × Event)}
    (reached : Machine.run Adapter.step (.initial device admConfig ioConfig srbext slotCount) events = some state)
    (same : ∀ msgid, first.filter (·.1 = msgid) = second.filter (·.1 = msgid))
    (ran : Machine.run Adapter.advance state first = some final) :
    ∃ other, Machine.run Adapter.advance state second = some other ∧ final.Alike other := by
  have kept : ∀ before event after, Adapter.Sound 2 before → Adapter.step before event = some after → Adapter.Sound 2 after :=
    fun _ _ _ sound taken => sound.step (.inl (Nat.le_refl 2)) taken
  have sound := Machine.run_invariant_of_step kept
    (Adapter.Sound.initial device admConfig ioConfig srbext slotCount (show 1 ≤ 2 by decide)) reached
  exact queuePairs_independent.reorder sound same ran

def sampleDeliveries : List AdapterEvent :=
  [.buildIo 0 sampleIoctl, .buildIo 1 sampleReadBlock, .startIo 1 0 0 Host.sampleMemory,
    .startIo 0 0 0x2000 Host.sampleMemory]

def sampleService (msgid : Nat) : List (Nat × Event) :=
  [(msgid, .fetch), (msgid, .post 0 sampleReply), (msgid, .enter 0), (msgid, .iterate), (msgid, .leave)]

theorem interleaving_irrelevant_swapped :
    ∃ state final other, Machine.run Adapter.step sampleIoAdapter sampleDeliveries = some state ∧
      Machine.run Adapter.advance state (sampleService 0 ++ sampleService 1) = some final ∧
      Machine.run Adapter.advance state (sampleService 1 ++ sampleService 0) = some other ∧ final.Alike other := by
  have possible : ((Machine.run Adapter.step sampleIoAdapter sampleDeliveries).bind fun state =>
      Machine.run Adapter.advance state (sampleService 0 ++ sampleService 1)).isSome = true := by
    decide +kernel
  obtain ⟨final, found⟩ := Option.isSome_iff_exists.mp possible
  obtain ⟨state, reached, ran⟩ := Option.bind_eq_some_iff.mp found
  have same : ∀ msgid, (sampleService 0 ++ sampleService 1).filter (·.1 = msgid) =
      (sampleService 1 ++ sampleService 0).filter (·.1 = msgid) := by
    intro msgid
    by_cases admin : msgid = 0
    · subst admin
      rfl
    · simp [sampleService, List.filter_cons, Ne.symm admin]
  obtain ⟨other, swapped, alike⟩ := interleaving_irrelevant reached same ran
  exact ⟨state, final, other, reached, ran, swapped, alike⟩

end SpcNvme
