import SpcNvme.Adapter
import SpcNvme.Lib.Custody
import SpcNvme.Proofs.Completion
import SpcNvme.Proofs.Host

/-! Who is responsible for a request. Every extension with an outstanding request
or command is in at most one history slot of one queue, or waits for `HwStartIo`,
or is in the hand of the handler that runs; and StorPort was not notified for it. -/

namespace SpcNvme

/-! What a step of the adapter has asked for and does, one lemma for each event. -/

namespace Adapter
variable {before after : Adapter} {address msgid : Nat}

theorem step_buildIo {srb : Srb} (taken : before.step (.buildIo address srb) = some after) :
    before.idle address = true ∧ before.buildIo address srb = after := by
  simp only [Adapter.step] at taken
  split at taken
  · next idle => exact ⟨idle, Option.some.inj taken⟩
  · cases taken

theorem step_startIo {processor logpage : Nat} {memory : Memory}
    (taken : before.step (.startIo address processor logpage memory) = some after) :
    before.waiting address = true ∧
      ∃ host, before.host.hwStartIo memory address processor logpage = some host ∧
        { before with host := host, waiting := Function.update before.waiting address false } = after := by
  simp only [Adapter.step] at taken
  split at taken
  · next waits => exact ⟨waits, Option.map_eq_some_iff.mp taken⟩
  · cases taken

theorem step_command {cmd : NvmeCommand} (taken : before.step (.command address cmd) = some after) :
    before.idle address = true ∧ before.command address cmd = after := by
  simp only [Adapter.step] at taken
  split at taken
  · next idle => exact ⟨idle, Option.some.inj taken⟩
  · cases taken

theorem step_resetBus (taken : before.step .resetBus = some after) :
    ∃ host, before.host.hwResetBus = some host ∧ { before with host := host } = after :=
  Option.map_eq_some_iff.mp taken

theorem step_advance {event : Event} (taken : before.step (.advance msgid event) = some after) :
    ∃ queue, before.host.queue msgid = some queue ∧ event.ofQueuePair = true ∧
      ∃ next, (before.queuePair msgid queue).step event = some next ∧ before.withQueuePair msgid next = after := by
  simp only [Adapter.step] at taken
  split at taken
  · cases taken
  · next queue present =>
    split at taken
    · next own => exact ⟨queue, present, own, Option.map_eq_some_iff.mp taken⟩
    · cases taken

end Adapter

inductive Place where
  | slot (msgid cid : Nat)
  | startIo
deriving DecidableEq

/-- The extensions in a place: the one in a history slot, or those that wait. -/
def Holds (slots : Nat → Nat → Option SrbExtPtr) (waiting : Nat → Bool) : Place → Nat → Prop
  | .slot msgid cid, address => (slots msgid cid).map (·.address) = some address
  | .startIo, address => waiting address = true

structure SrbExt.Outstanding (srbext : SrbExt) : Prop where
  initOK : srbext.initOK = true
  notified : srbext.notified = 0
  polled : srbext.srb = none → srbext.srbStatus = .pending

structure InRange (queue : CNvmeQueue) (controller : Controller) : Prop where
  subQ : ∀ slot, (queue.subQ slot).cmd.cid.toNat < queue.history.depth
  pending : ∀ submission ∈ controller.pending, submission.cmd.cid.toNat < queue.history.depth
  cplQ : ∀ slot, (queue.cplQ slot).entry.cid.toNat < queue.history.depth

def Host.slots (host : Host) (msgid cid : Nat) : Option SrbExtPtr :=
  (host.queue msgid).bind fun queue => queue.history.history cid

abbrev Outstanding (heap : Heap) (address : Nat) : Prop := (heap.srbext address).Outstanding

/-- `limit` bounds how often StorPort was notified of one delivery: once, or twice
where callbacks that complete their request are let through. -/
structure Sound (limit : Nat) (host : Host) (controllers : Nat → Controller) (waiting : Nat → Bool) : Prop where
  positive : 1 ≤ limit
  inRange : ∀ msgid queue, host.queue msgid = some queue → InRange queue (controllers msgid)
  custody : Custody (Holds host.slots waiting) (Outstanding host.heap)
  once : ∀ address, (host.heap.srbext address).notified ≤ limit

/-- The extension is in no place: the function that runs has to deal with it. -/
structure InHand (limit : Nat) (host : Host) (controllers : Nat → Controller) (waiting : Nat → Bool) (address : Nat) :
    Prop where
  sound : Sound limit host controllers waiting
  free : Custody.Free (Holds host.slots waiting) address
  outstanding : Outstanding host.heap address

section Queues
variable (host : Host) (msgid : Nat) (queue : CNvmeQueue)

theorem Host.queue_setQueue : (host.setQueue msgid queue).queue = Function.update host.queue msgid (some queue) := by
  funext other
  by_cases admin : msgid = 0
  · subst msgid
    by_cases same : other = 0
    · subst other
      simp [Host.queue, Host.setQueue]
    · simp [Host.queue, Host.setQueue, same]
  · by_cases same : other = msgid
    · subst other
      simp [Host.queue, Host.setQueue, admin]
    · by_cases zero : other = 0
      · subst other
        simp [Host.queue, Host.setQueue, admin, Ne.symm admin]
      · have apart : other - 1 ≠ msgid - 1 := by omega
        simp [Host.queue, Host.setQueue, admin, zero, same, apart]

@[simp] theorem Host.setQueue_heap : (host.setQueue msgid queue).heap = host.heap := by
  unfold Host.setQueue
  split <;> rfl

theorem Host.slots_setQueue :
    (host.setQueue msgid queue).slots = Function.update host.slots msgid queue.history.history := by
  funext other cid
  by_cases same : other = msgid
  · subst other
    simp [Host.slots, Host.queue_setQueue]
  · simp [Host.slots, Host.queue_setQueue, same]

theorem Host.slots_of_queue {host : Host} {msgid : Nat} {queue : CNvmeQueue} (present : host.queue msgid = some queue) :
    host.slots msgid = queue.history.history := by
  funext cid
  simp [Host.slots, present]

end Queues

private theorem inRange_setQueue {host : Host} {controllers : Nat → Controller} {msgid : Nat} {after : CNvmeQueue}
    {controller : Controller} (inRange : ∀ other queue, host.queue other = some queue → InRange queue (controllers other))
    (new : InRange after controller) (other : Nat) (queue : CNvmeQueue)
    (found : (host.setQueue msgid after).queue other = some queue) :
    InRange queue (Function.update controllers msgid controller other) := by
  rw [Host.queue_setQueue] at found
  by_cases here : other = msgid
  · subst other
    rw [Function.update_self, Option.some.injEq] at found
    subst found
    rw [Function.update_self]
    exact new
  · rw [Function.update_of_ne here] at found ⊢
    exact inRange other queue found

theorem holds_setQueue {host : Host} {waiting : Nat → Bool} {msgid : Nat} {queue after : CNvmeQueue}
    (present : host.queue msgid = some queue)
    (fewer : ∀ cid srbext, after.history.history cid = some srbext → queue.history.history cid = some srbext)
    (place : Place) (address : Nat) (held : Holds (host.setQueue msgid after).slots waiting place address) :
    Holds host.slots waiting place address := by
  cases place with
  | startIo => exact held
  | slot other cid =>
    rw [Host.slots_setQueue] at held
    by_cases here : other = msgid
    · subst other
      simp only [Holds, Function.update_self, Option.map_eq_some_iff] at held ⊢
      obtain ⟨srbext, holds, same⟩ := held
      rw [Host.slots_of_queue present]
      exact ⟨srbext, fewer cid srbext holds, same⟩
    · simpa [Holds, Function.update_of_ne here] using held

private theorem holds_drop {host after : Host} {waiting : Nat → Bool}
    (fewer : ∀ msgid queue, after.queue msgid = some queue → host.queue msgid = some queue) (place : Place)
    (address : Nat) (held : Holds after.slots waiting place address) : Holds host.slots waiting place address := by
  cases place with
  | startIo => exact held
  | slot msgid cid =>
    cases present : after.queue msgid with
    | none => simp [Holds, Host.slots, present] at held
    | some queue => simpa [Holds, Host.slots, present, fewer msgid queue present] using held

namespace Sound
variable {limit : Nat} {host : Host} {controllers : Nat → Controller} {waiting : Nat → Bool}

theorem drop {after : Host} (sound : Sound limit host controllers waiting)
    (fewer : ∀ msgid queue, after.queue msgid = some queue → host.queue msgid = some queue)
    (heap : after.heap = host.heap) : Sound limit after controllers waiting where
  positive := sound.positive
  inRange msgid queue present := sound.inRange msgid queue (fewer msgid queue present)
  custody := by
    rw [heap]
    exact sound.custody.mono (holds_drop fewer) (fun _ _ outstanding => outstanding)
  once := by
    rw [heap]
    exact sound.once

theorem congr {after : Host} (sound : Sound limit host controllers waiting) (queues : after.queue = host.queue)
    (heap : after.heap = host.heap) : Sound limit after controllers waiting := by
  refine sound.drop ?_ heap
  intro msgid queue present
  rwa [queues] at present

/-- What happens to an extension in no place does not matter, as long as StorPort
is notified once at most. -/
theorem spend {address : Nat} {heap : Heap} (sound : Sound limit host controllers waiting)
    (free : Custody.Free (Holds host.slots waiting) address)
    (others : ∀ other, other ≠ address → heap.srbext other = host.heap.srbext other)
    (once : (heap.srbext address).notified ≤ limit) : Sound limit { host with heap := heap } controllers waiting where
  positive := sound.positive
  inRange := sound.inRange
  custody := by
    apply sound.custody.spend free
    intro other apart outstanding
    simp only [Outstanding, others other apart]
    exact outstanding
  once := by
    intro other
    by_cases same : other = address
    · subst other
      exact once
    · rw [others other same]
      exact sound.once other

theorem setQueue {msgid : Nat} {queue after : CNvmeQueue} {controller : Controller}
    (sound : Sound limit host controllers waiting) (present : host.queue msgid = some queue)
    (fewer : ∀ cid srbext, after.history.history cid = some srbext → queue.history.history cid = some srbext)
    (inRange : InRange after controller) :
    Sound limit (host.setQueue msgid after) (Function.update controllers msgid controller) waiting where
  positive := sound.positive
  inRange := inRange_setQueue sound.inRange inRange
  custody := by
    rw [Host.setQueue_heap]
    exact sound.custody.mono (holds_setQueue present fewer) (fun _ _ outstanding => outstanding)
  once := by
    rw [Host.setQueue_heap]
    exact sound.once

end Sound

namespace InHand
variable {limit : Nat} {host : Host} {controllers : Nat → Controller} {waiting : Nat → Bool} {address : Nat}
variable (hand : InHand limit host controllers waiting address)
include hand

theorem change {heap : Heap} (others : ∀ other, other ≠ address → heap.srbext other = host.heap.srbext other)
    (outstanding : Outstanding heap address) : InHand limit { host with heap := heap } controllers waiting address where
  sound := hand.sound.spend hand.free others (by rw [outstanding.notified]; exact Nat.zero_le limit)
  free := hand.free
  outstanding := outstanding

theorem putSrbExt {srbext : SrbExt} (outstanding : srbext.Outstanding) :
    InHand limit (host.putSrbExt address srbext) controllers waiting address := by
  apply hand.change
  · intro other apart
    simp [apart]
  · simpa [Outstanding] using outstanding

theorem complete (submission : Option Nat) (status : SrbStatus) :
    Sound limit { host with heap := host.heap.completeSrb address submission status } controllers waiting := by
  apply hand.sound.spend hand.free
  · intro other apart
    simp [apart]
  · rw [Heap.completeSrb_srbext, Function.update_self]
    rw [SrbExt.completeSrb_notified, hand.outstanding.notified]
    split
    · exact hand.sound.positive
    · exact Nat.zero_le limit

theorem drop {after : Host}
    (fewer : ∀ msgid queue, after.queue msgid = some queue → host.queue msgid = some queue)
    (heap : after.heap = host.heap) : InHand limit after controllers waiting address :=
  ⟨hand.sound.drop fewer heap, fun place held => hand.free place (holds_drop fewer place address held),
    heap ▸ hand.outstanding⟩

theorem wait : Sound limit host controllers (Function.update waiting address true) where
  positive := hand.sound.positive
  inRange := hand.sound.inRange
  custody := by
    apply hand.sound.custody.give .startIo hand.free hand.outstanding
    intro place other held
    cases place with
    | slot msgid cid => exact .inl held
    | startIo =>
      by_cases same : other = address
      · exact .inr ⟨rfl, same⟩
      · apply Or.inl
        simpa [Holds, Function.update_of_ne same] using held
  once := hand.sound.once

end InHand

theorem Sound.startIo {limit : Nat} {host : Host} {controllers : Nat → Controller} {waiting : Nat → Bool} {address : Nat}
    (sound : Sound limit host controllers waiting) (waits : waiting address = true) :
    InHand limit host controllers (Function.update waiting address false) address := by
  have fewer : ∀ place other, Holds host.slots (Function.update waiting address false) place other →
      Holds host.slots waiting place other := by
    intro place other held
    cases place with
    | slot msgid cid => exact held
    | startIo =>
      by_cases same : other = address
      · subst other
        exact waits
      · simpa [Holds, Function.update_of_ne same] using held
  have here : Holds host.slots waiting .startIo address := waits
  refine ⟨⟨sound.positive, sound.inRange, sound.custody.mono fewer (fun _ _ outstanding => outstanding), sound.once⟩, ?_,
    sound.custody.live here⟩
  apply sound.custody.free_of_taken here fewer
  simp [Holds]

theorem some_of_emptied {table : Nat → Option SrbExtPtr} {cid other : Nat} {pointer : SrbExtPtr}
    (holds : Function.update table cid none other = some pointer) : table other = some pointer := by
  by_cases same : other = cid
  · subst other
    simp at holds
  · rwa [Function.update_of_ne same] at holds

theorem Sound.take {limit : Nat} {host : Host} {controllers : Nat → Controller} {waiting : Nat → Bool} {msgid cid : Nat}
    {queue after : CNvmeQueue} {controller : Controller} {srbext : SrbExtPtr} (sound : Sound limit host controllers waiting)
    (present : host.queue msgid = some queue) (held : queue.history.history cid = some srbext)
    (emptied : after.history.history = Function.update queue.history.history cid none)
    (inRange : InRange after controller) :
    InHand limit (host.setQueue msgid after) (Function.update controllers msgid controller) waiting srbext.address := by
  have fewer : ∀ other pointer, after.history.history other = some pointer →
      queue.history.history other = some pointer := by
    intro other pointer holds
    rw [emptied] at holds
    exact some_of_emptied holds
  have here : Holds host.slots waiting (.slot msgid cid) srbext.address := by
    simp [Holds, Host.slots_of_queue present, held]
  refine ⟨sound.setQueue present fewer inRange, ?_, ?_⟩
  · apply sound.custody.free_of_taken here (holds_setQueue present fewer)
    simp [Holds, Host.slots_setQueue, emptied]
  · rw [Host.setQueue_heap]
    exact sound.custody.live here

theorem Host.setQueue_withHeap (host : Host) (heap : Heap) (msgid : Nat) (queue : CNvmeQueue) :
    ({ host with heap := heap } : Host).setQueue msgid queue = { host.setQueue msgid queue with heap := heap } := by
  unfold Host.setQueue
  split <;> rfl

theorem Host.setQueue_setQueue (host : Host) (msgid : Nat) (first second : CNvmeQueue) :
    (host.setQueue msgid first).setQueue msgid second = host.setQueue msgid second := by
  unfold Host.setQueue
  split <;> simp

theorem InHand.store {limit : Nat} {host : Host} {controllers : Nat → Controller} {waiting : Nat → Bool} {address msgid cid number : Nat}
    {queue after : CNvmeQueue} (hand : InHand limit host controllers waiting address)
    (present : host.queue msgid = some queue)
    (filled : after.history.history = Function.update queue.history.history cid (some ⟨address, number⟩))
    (inRange : InRange after (controllers msgid)) : Sound limit (host.setQueue msgid after) controllers waiting where
  positive := hand.sound.positive
  inRange := by
    intro other queue found
    have kept := inRange_setQueue hand.sound.inRange inRange other queue found
    rwa [Function.update_eq_self] at kept
  custody := by
    rw [Host.setQueue_heap]
    apply hand.sound.custody.give (.slot msgid cid) hand.free hand.outstanding
    intro place item held
    cases place with
    | startIo => exact .inl held
    | slot other index =>
      rw [Host.slots_setQueue] at held
      by_cases here : other = msgid
      · subst other
        by_cases same : index = cid
        · subst index
          simp only [Holds, Function.update_self, filled, Option.map_some, Option.some.injEq] at held
          exact .inr ⟨rfl, held.symm⟩
        · apply Or.inl
          simpa [Holds, filled, Function.update_of_ne same, Host.slots_of_queue present] using held
      · apply Or.inl
        simpa [Holds, Function.update_of_ne here] using held
  once := by
    rw [Host.setQueue_heap]
    exact hand.sound.once

/-- An accepted submission moves the extension into its history slot, and
completes the one that was there. -/
theorem InHand.accept {limit : Nat} {host : Host} {controllers : Nat → Controller} {waiting : Nat → Bool} {address msgid : Nat}
    {queue : CNvmeQueue} {cmd : NvmeCommand} (hand : InHand limit host controllers waiting address)
    (present : host.queue msgid = some queue) (inside : cmd.cid.toNat < queue.history.depth) :
    Sound limit { host.setQueue msgid (queue.accept address cmd) with
      heap := queue.setSubIndex (queue.releaseOld host.heap cmd) address } controllers waiting := by
  have old := hand.sound.inRange msgid queue present
  have inRange : InRange (queue.accept address cmd) (controllers msgid) := by
    refine ⟨?_, old.pending, old.cplQ⟩
    intro slot
    by_cases tail : slot = queue.subTail
    · subst slot
      simpa using inside
    · simpa [tail] using old.subQ slot
  cases held : queue.history.history cmd.cid.toNat with
  | none =>
    have released : queue.releaseOld host.heap cmd = host.heap := by simp [CNvmeQueue.releaseOld, held]
    rw [released]
    have indexed : InHand limit { host with heap := queue.setSubIndex host.heap address } controllers waiting address :=
      hand.putSrbExt ⟨hand.outstanding.initOK, hand.outstanding.notified, hand.outstanding.polled⟩
    have stored := indexed.store present rfl inRange
    rwa [Host.setQueue_withHeap] at stored
  | some earlier =>
    let emptied : CNvmeQueue :=
      { queue with history := ⟨queue.history.depth, Function.update queue.history.history cmd.cid.toNat none⟩ }
    have taken := hand.sound.take present held (rfl : emptied.history.history = _) ⟨old.subQ, old.pending, old.cplQ⟩
    rw [Function.update_eq_self] at taken
    have apart : earlier.address ≠ address := by
      intro same
      apply hand.free (.slot msgid cmd.cid.toNat)
      simp [Holds, Host.slots_of_queue present, held, same]
    have released : InHand limit { host.setQueue msgid emptied with heap := queue.releaseOld host.heap cmd } controllers waiting
        address := by
      have completed := taken.complete (some earlier.submission) .busy
      refine ⟨by simpa [CNvmeQueue.releaseOld, held] using completed, ?_, ?_⟩
      · intro place holds
        exact hand.free place (holds_setQueue present (fun _ _ => some_of_emptied) place address holds)
      · simpa [Outstanding, CNvmeQueue.releaseOld, held, Ne.symm apart] using hand.outstanding
    have indexed : InHand limit { host.setQueue msgid emptied with
        heap := queue.setSubIndex (queue.releaseOld host.heap cmd) address } controllers waiting address :=
      released.putSrbExt ⟨released.outstanding.initOK, released.outstanding.notified, released.outstanding.polled⟩
    have found : (host.setQueue msgid emptied).queue msgid = some emptied := by
      rw [Host.queue_setQueue, Function.update_self]
    have filled : (queue.accept address cmd).history.history =
        Function.update emptied.history.history cmd.cid.toNat (some ⟨address, queue.trace.submitted.length⟩) := by
      simp [emptied]
    have stored := indexed.store found filled inRange
    rwa [Host.setQueue_withHeap, Host.setQueue_setQueue] at stored

section Submit
variable {limit : Nat} {host after : Host} {controllers : Nat → Controller} {waiting : Nat → Bool} {address processor : Nat}
  {status : NtStatus}

theorem Host.acceptedIo_eq (host : Host) (address processor : Nat) (queue : CNvmeQueue) :
    host.acceptedIo address processor queue =
      { host.setQueue (processor % host.device.registeredIoQ.toNat + 1)
          (queue.accept address (host.heap.srbext address).nvmeCmd) with
        heap := queue.setSubIndex
          (queue.releaseOld (host.indexedHeap address processor) (host.heap.srbext address).nvmeCmd) address } := by
  simp [Host.acceptedIo, Host.acceptedHeap, Host.setQueue]

/-- A submission stores the extension in a queue, or leaves it in the hand of the caller. -/
theorem InHand.submitAdmCmd (hand : InHand limit host controllers waiting address)
    (called : host.submitAdmCmd address = (status, after)) :
    (status.ntSuccess = true ∧ Sound limit after controllers waiting) ∨
    (status.ntSuccess = false ∧ InHand limit after controllers waiting address) := by
  rcases host.submitAdmCmd_spec address with ⟨queue, accepts, same⟩ | ⟨_, failed, fails, same⟩
  · rw [same] at called
    cases called
    exact .inl ⟨rfl, hand.accept (show host.queue 0 = _ from accepts.selected) accepts.accepts.2.2⟩
  · rw [same] at called
    cases called
    exact .inr ⟨fails, hand⟩

theorem InHand.indexed (hand : InHand limit host controllers waiting address) (processor : Nat) :
    InHand limit { host with heap := host.indexedHeap address processor } controllers waiting address :=
  hand.putSrbExt ⟨hand.outstanding.initOK, hand.outstanding.notified, hand.outstanding.polled⟩

theorem InHand.submitIoCmd (hand : InHand limit host controllers waiting address)
    (called : host.submitIoCmd address processor = some (status, after)) :
    (status.ntSuccess = true ∧ Sound limit after controllers waiting) ∨
    (status.ntSuccess = false ∧ InHand limit after controllers waiting address) := by
  by_cases accepted : ∃ queue, host.AcceptsIo processor (host.heap.srbext address).nvmeCmd queue
  · obtain ⟨queue, accepts⟩ := accepted
    rw [Host.submitIoCmd_accepts accepts] at called
    cases called
    have present : ({ host with heap := host.indexedHeap address processor } : Host).queue
        (processor % host.device.registeredIoQ.toNat + 1) = some queue := by
      simp [Host.queue, accepts.selected]
    have stored := (hand.indexed processor).accept present accepts.accepts.2.2
    rw [Host.setQueue_withHeap] at stored
    exact .inl ⟨rfl, Host.acceptedIo_eq host address processor queue ▸ stored⟩
  · obtain ⟨fails, same⟩ := Host.submitIoCmd_refuses (fun queue accepts => accepted ⟨queue, accepts⟩) called
    cases same with
    | inl same =>
      subst same
      exact .inr ⟨fails, hand⟩
    | inr same =>
      subst same
      exact .inr ⟨fails, hand.indexed processor⟩

end Submit

section Finish
variable {heap : Heap} {address : Nat} (submission : Option Nat) (cpl : NvmeCompletionEntry)

theorem finishSrbExt_other {other : Nat} (apart : other ≠ address) :
    (finishSrbExt heap address submission cpl).srbext other = heap.srbext other := by
  cases loud : (heap.srbext address).completesItself with
  | false => rw [finishSrbExt_srbext submission cpl loud, Function.update_of_ne apart]
  | true =>
    obtain ⟨callback, srb, present⟩ := SrbExt.completesItself_iff.mp loud
    simp [finishSrbExt, runCompletionCB, completeFirmwareInfo, callback, present, apart]

theorem finishSrbExt_notified_le (plain : (heap.srbext address).completesItself = false) :
    ((finishSrbExt heap address submission cpl).srbext address).notified ≤ (heap.srbext address).notified + 1 := by
  rw [finishSrbExt_srbext submission cpl plain, Function.update_self, SrbExt.finished_notified]
  split
  · exact Nat.le_refl _
  · exact Nat.le_succ _

theorem finishSrbExt_notified_twice (twice : (heap.srbext address).completesItself = true) :
    ((finishSrbExt heap address submission cpl).srbext address).notified = (heap.srbext address).notified + 2 := by
  obtain ⟨callback, srb, present⟩ := SrbExt.completesItself_iff.mp twice
  simp [finishSrbExt, runCompletionCB, completeFirmwareInfo, callback, present, SrbExt.cleanUp, SrbExt.resetExtBuf,
    SrbExt.completeSrb]

end Finish

section Reset
variable {limit : Nat} {host : Host} {controllers : Nat → Controller} {waiting : Nat → Bool}

theorem CNvmeQueue.fastForward_frame (queue : CNvmeQueue) (fuel : Nat) :
    (queue.fastForward fuel).history = queue.history ∧ (queue.fastForward fuel).subQ = queue.subQ ∧
    (queue.fastForward fuel).cplQ = queue.cplQ := by
  induction fuel generalizing queue with
  | zero => exact ⟨rfl, rfl, rfl⟩
  | succ fuel ih =>
    simp only [CNvmeQueue.fastForward]
    split
    · exact ⟨rfl, rfl, rfl⟩
    · exact ih queue.updateCplHeadAndPhase

/-- The loop of `Reset` takes the extensions out of their slots one by one and
completes each of them. -/
theorem Sound.resetUpTo {msgid : Nat} {queue : CNvmeQueue} (sound : Sound limit host controllers waiting)
    (present : host.queue msgid = some queue) (count : Nat) :
    Sound limit { host.setQueue msgid { queue with history := (queue.history.resetUpTo host.heap count).1 } with
      heap := (queue.history.resetUpTo host.heap count).2 } controllers waiting := by
  have old := sound.inRange msgid queue present
  induction count with
  | zero =>
    have kept := sound.setQueue present (fun _ _ holds => holds) old
    rw [Function.update_eq_self] at kept
    exact kept.congr rfl (by simp [CCmdHistory.resetUpTo])
  | succ count ih =>
    simp only [CCmdHistory.resetUpTo]
    cases held : (queue.history.resetUpTo host.heap count).1.history count with
    | none => exact ih
    | some srbext =>
      let emptying : CNvmeQueue := { queue with history := (queue.history.resetUpTo host.heap count).1 }
      let emptied : CNvmeQueue := { queue with
        history := { emptying.history with history := Function.update emptying.history.history count none } }
      let midway : Host := { host.setQueue msgid emptying with heap := (queue.history.resetUpTo host.heap count).2 }
      have found : midway.queue msgid = some emptying := by
        change (host.setQueue msgid emptying).queue msgid = some emptying
        rw [Host.queue_setQueue, Function.update_self]
      have depth : emptied.history.depth = queue.history.depth := by simp [emptied, emptying, resetUpTo_table]
      have inRange : InRange emptied (controllers msgid) :=
        ⟨fun slot => depth ▸ old.subQ slot, fun submission member => depth ▸ old.pending submission member,
          fun slot => depth ▸ old.cplQ slot⟩
      have taken := ih.take found held (rfl : emptied.history.history = _) inRange
      rw [Function.update_eq_self, Host.setQueue_withHeap, Host.setQueue_setQueue] at taken
      exact taken.complete (some srbext.submission) .busReset

theorem Sound.resetAllCmd {msgid : Nat} {queue : CNvmeQueue} (sound : Sound limit host controllers waiting)
    (present : host.queue msgid = some queue) :
    Sound limit { host.setQueue msgid (queue.resetAllCmd host.heap).1 with heap := (queue.resetAllCmd host.heap).2 }
      controllers waiting := by
  have old := sound.inRange msgid queue present
  have reset := sound.resetUpTo present queue.history.depth
  let emptied : CNvmeQueue := { queue with history := (queue.history.reset host.heap).1 }
  let cleared : Host := { host.setQueue msgid emptied with heap := (queue.history.reset host.heap).2 }
  have found : cleared.queue msgid = some emptied := by
    change (host.setQueue msgid emptied).queue msgid = some emptied
    rw [Host.queue_setQueue, Function.update_self]
  obtain ⟨history, subQ, cplQ⟩ := CNvmeQueue.fastForward_frame { emptied with
    inflightCmds := 0
    trace := { queue.trace with replaced := [], resetAt := queue.trace.submitted.length } } queue.depth
  have same : (queue.resetAllCmd host.heap).1.history = emptied.history := history
  have depth : (queue.resetAllCmd host.heap).1.history.depth = queue.history.depth := by
    rw [same]
    simp [emptied, CCmdHistory.reset, resetUpTo_table]
  have fewer : ∀ cid srbext, (queue.resetAllCmd host.heap).1.history.history cid = some srbext →
      emptied.history.history cid = some srbext := by
    intro cid srbext holds
    rwa [same] at holds
  have inRange : InRange (queue.resetAllCmd host.heap).1 (controllers msgid) := by
    refine ⟨?_, ?_, ?_⟩
    · intro slot
      rw [depth]
      exact (congrFun subQ slot) ▸ old.subQ slot
    · intro submission member
      rw [depth]
      exact old.pending submission member
    · intro slot
      rw [depth]
      exact (congrFun cplQ slot) ▸ old.cplQ slot
  have skipped := reset.setQueue found fewer inRange
  rwa [Function.update_eq_self, Host.setQueue_withHeap, Host.setQueue_setQueue] at skipped

end Reset

end SpcNvme
