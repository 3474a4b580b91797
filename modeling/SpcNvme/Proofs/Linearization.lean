import SpcNvme.Lib.Simulation
import SpcNvme.Proofs.Balance
import SpcNvme.Proofs.Finishing
import SpcNvme.Proofs.QueuePairs
import SpcNvme.SharedSystem

/-! A queue used by several processors at once does what it does when its calls come
one after another. `SubmitCmd` takes effect with its push, an iteration of
`CompleteCmd` with its test of the phase tag. -/

namespace SpcNvme

namespace SubLock

def pushes : SubLock → Option Nat
  | .push srbext _ => some srbext.address
  | _ => none

end SubLock

def CompletePc.extension : CompletePc → Option Nat
  | .copy srbext | .callback srbext | .status srbext | .complete srbext .. | .cleanUp srbext => some srbext.address
  | _ => none

namespace SharedQueue

def running (state : SharedQueue) : Option CompleteCall := (List.range state.processors).findSome? state.calls

/-- The queue when the calls in progress have done what they were about to do. -/
def finish (state : SharedQueue) : CNvmeQueue :=
  match state.running with
  | none => state.subLock.finish state.queue
  | some call => call.finish (state.subLock.finish state.queue)

def finishHeap (state : SharedQueue) : Heap :=
  match state.running with
  | none => state.subLock.finishHeap state.queue state.heap
  | some call => call.finishHeap state.queue (state.subLock.finishHeap state.queue state.heap)

/-- Who has an extension: a history slot, `SubmitCmd` before its push, or a completion call. -/
def occupies (state : SharedQueue) : Keeper → Nat → Prop
  | .slot index, address => (state.queue.history.history index).map (·.address) = some address
  | .holder, address => state.subLock.pushes = some address
  | .call processor, address => (state.calls processor).bind (·.pc.extension) = some address

theorem occupies_slot {state : SharedQueue} {index : Nat} {srbext : SrbExtPtr}
    (held : state.queue.history.history index = some srbext) : state.occupies (.slot index) srbext.address :=
  congrArg (Option.map _) held

section Goto
variable {state : SharedQueue} {processor : Nat} {loop : CompleteLoop} {pc : CompletePc}

private theorem goto_here : (state.goto processor loop pc).calls processor = some ⟨loop, pc⟩ := Function.update_self ..

private theorem goto_other {place : Nat} (elsewhere : place ≠ processor) :
    (state.goto processor loop pc).calls place = state.calls place := Function.update_of_ne elsewhere ..

private theorem goto_occupies {place : Keeper} {address : Nat} (held : (state.goto processor loop pc).occupies place address) :
    place = .call processor ∧ pc.extension = some address ∨ state.occupies place address := by
  cases place with
  | slot index => exact .inr held
  | holder => exact .inr held
  | call other =>
    by_cases here : other = processor
    · subst other
      simp only [occupies, goto_here, Option.bind_some] at held
      exact .inl ⟨rfl, held⟩
    · simp only [occupies, goto_other here] at held
      exact .inr held

end Goto

def Uses (state : SharedQueue) (address : Nat) : Prop :=
  (∃ index < state.queue.history.depth, state.occupies (.slot index) address) ∨ state.occupies .holder address ∨
    ∃ processor < state.processors, state.occupies (.call processor) address

instance (state : SharedQueue) : (place : Keeper) → DecidablePred (state.occupies place)
  | .slot _ | .holder | .call _ => fun _ => inferInstanceAs (Decidable (_ = _))

instance (state : SharedQueue) : DecidablePred state.Uses := fun _ => inferInstanceAs (Decidable (_ ∨ _ ∨ _))

end SharedQueue

namespace SharedSystem

/-- What the users of the queue promise: they write to an extension and submit it only
while the queue does not have it, under an identifier that is free; one completion call
runs at a time; there is no reset meanwhile, and the controller writes entries
only to post them. -/
def Cooperative (state : SharedSystem) : SharedSystemEvent → Prop
  | .host (.prepare address _) => ¬ state.shared.Uses address
  | .host (.submit address cmd) =>
      ¬ state.shared.Uses address ∧ state.shared.queue.history.history cmd.cid.toNat = none
  | .host (.enter ..) => ∀ processor < state.shared.processors, state.shared.calls processor = none
  | .host .reset | .host (.scribble ..) => False
  | _ => True

instance (state : SharedSystem) : DecidablePred state.Cooperative
  | .host (.prepare ..) => inferInstanceAs (Decidable (¬ _))
  | .host (.submit ..) => inferInstanceAs (Decidable (_ ∧ _))
  | .host (.enter ..) => inferInstanceAs (Decidable (∀ processor < _, _))
  | .host .reset | .host (.scribble ..) => isFalse id
  | .host .holder | .host (.completer _) | .fetch | .post .. => isTrue trivial

def callEffect (state : SharedSystem) (call : CompleteCall) : List Event :=
  match call.pc with
  | .test => if state.shared.queue.loopContinues call.loop then [.iterate] else [.leave]
  | _ => []

/-- The call of the whole function that takes effect with a step. -/
def effect (state : SharedSystem) : SharedSystemEvent → List Event
  | .host .holder =>
      match state.shared.subLock with
      | .push srbext cmd => [.submit srbext.address (state.shared.heap.srbext srbext.address) cmd]
      | _ => []
  | .host (.enter _ maxCount) => [.enter maxCount]
  | .host (.completer processor) => (state.shared.calls processor).elim [] state.callEffect
  | .host _ => []
  | .fetch => [.fetch]
  | .post index reply => [.post index reply]

/-- The state of the queue pair when the calls in progress are finished. What is written
to an extension before it is pushed is nothing the queue pair knows of. -/
structure Finishes (state : SharedSystem) (system : System) : Prop where
  queue : system.queue = state.shared.finish
  loop : system.loop = state.shared.running.map (·.finishLoop state.shared.queue)
  device : system.device = state.device
  heap : Heap.footprint.Agree (fun address => state.drafts address = true) system.heap state.shared.finishHeap

end SharedSystem

namespace SharedQueue

structure Single (state : SharedQueue) : Prop where
  alone : ∀ {first second : Nat}, (state.calls first).isSome → (state.calls second).isSome → first = second
  inside : ∀ {processor : Nat}, (state.calls processor).isSome → processor < state.processors

namespace Single
variable {state : SharedQueue}

theorem running (single : Single state) {processor : Nat} {call : CompleteCall}
    (busy : state.calls processor = some call) : state.running = some call := by
  have present : (state.calls processor).isSome := by simp [busy]
  cases found : state.running with
  | none =>
    have absent := List.findSome?_eq_none_iff.mp found processor (List.mem_range.mpr (single.inside present))
    rw [busy] at absent
    cases absent
  | some other =>
    obtain ⟨place, _, there⟩ := List.exists_of_findSome?_eq_some found
    have same : place = processor := single.alone (by rw [there]; rfl) present
    rw [← busy, ← same, there]

theorem idle (free : ∀ processor, state.calls processor = none) : state.running = none :=
  List.findSome?_eq_none_iff.mpr fun processor _ => free processor

private theorem running_cases (single : Single state) :
    (state.running = none ∧ ∀ processor, state.calls processor = none) ∨
    ∃ processor call, state.calls processor = some call ∧ state.running = some call := by
  by_cases busy : ∃ processor, (state.calls processor).isSome
  · obtain ⟨processor, present⟩ := busy
    obtain ⟨call, here⟩ := Option.isSome_iff_exists.mp present
    exact .inr ⟨processor, call, here, single.running here⟩
  · have free : ∀ processor, state.calls processor = none := by
      intro processor
      apply Option.not_isSome_iff_eq_none.mp
      exact fun present => busy ⟨processor, present⟩
    exact .inl ⟨idle free, free⟩

theorem update {queue : CNvmeQueue} {heap : Heap} {lock : SubLock} {processors processor : Nat}
    {calls : Nat → Option CompleteCall} (call : Option CompleteCall) (inside : processor < processors)
    (others : ∀ place, place ≠ processor → calls place = none) :
    Single ⟨queue, heap, lock, processors, Function.update calls processor call⟩ := by
  have here : ∀ {place}, (Function.update calls processor call place).isSome → place = processor := by
    intro place present
    apply Classical.byContradiction
    intro elsewhere
    rw [Function.update_of_ne elsewhere, others place elsewhere] at present
    cases present
  constructor
  · intro first second one two
    rw [here one, here two]
  · intro place present
    rw [here present]
    exact inside

theorem others (single : Single state) {processor : Nat} {call : CompleteCall}
    (busy : state.calls processor = some call) : ∀ place, place ≠ processor → state.calls place = none := by
  intro place elsewhere
  apply Option.not_isSome_iff_eq_none.mp
  exact fun present => elsewhere (single.alone present (by simp [busy]))

private theorem finish_busy (single : Single state) {processor : Nat} {call : CompleteCall}
    (busy : state.calls processor = some call) : state.finish = call.finish (state.subLock.finish state.queue) := by
  simp only [finish, single.running busy]

theorem finishHeap_busy (single : Single state) {processor : Nat} {call : CompleteCall}
    (busy : state.calls processor = some call) :
    state.finishHeap = call.finishHeap state.queue (state.subLock.finishHeap state.queue state.heap) := by
  simp only [finishHeap, single.running busy]

theorem finish_idle (free : ∀ processor, state.calls processor = none) :
    state.finish = state.subLock.finish state.queue := by
  simp only [finish, idle free]

theorem finishHeap_idle (free : ∀ processor, state.calls processor = none) :
    state.finishHeap = state.subLock.finishHeap state.queue state.heap := by
  simp only [finishHeap, idle free]

end Single

end SharedQueue

namespace SharedSystem

/-- The command with this number is in the history and not announced to the controller. -/
structure Announces (state : SharedSystem) (system : System) (number : Nat) : Prop where
  last : system.queue.trace.submitted.length = number + 1
  unfetched : state.device.fetched ≤ number
  subTail : state.shared.queue.subTail = number % state.shared.queue.depth
  subDbl : state.shared.queue.subDbl = number % state.shared.queue.depth

/-- Where the holder of `SubLock` is; it does not reset and finds no slot taken. -/
def Holding (state : SharedSystem) (system : System) : SubLock → Prop
  | .free => True
  | .push srbext cmd =>
      srbext.submission = state.shared.queue.trace.submitted.length ∧
        state.shared.queue.history.history cmd.cid.toNat = none ∧ system.queue.isSafeForSubmit = true
  | .write srbext cmd | .count srbext cmd =>
      state.Announces system srbext.submission ∧
        state.shared.queue.history.history cmd.cid.toNat = some srbext ∧
        srbext.submission = state.shared.queue.trace.submitted.length
  | .ring => ∃ number, state.Announces system number
  | _ => False

/-- Nothing that leaves the slots of unfetched commands alone concerns the holder. -/
theorem Holding.mono {state other : SharedSystem} {system next : System} {lock : SubLock}
    (holding : state.Holding system lock)
    (announces : ∀ number, state.Announces system number → other.Announces next number)
    (submitted : other.shared.queue.trace.submitted = state.shared.queue.trace.submitted)
    (free : ∀ cid, state.shared.queue.history.history cid = none → other.shared.queue.history.history cid = none)
    (held : ∀ cid srbext, state.shared.queue.history.history cid = some srbext →
      state.device.fetched ≤ srbext.submission → other.shared.queue.history.history cid = some srbext)
    (safe : system.queue.isSafeForSubmit = true → next.queue.isSafeForSubmit = true) : other.Holding next lock := by
  cases lock with
  | push srbext cmd =>
    obtain ⟨number, empty, room⟩ := holding
    exact ⟨submitted ▸ number, free _ empty, safe room⟩
  | write srbext cmd =>
    obtain ⟨announced, present, number⟩ := holding
    exact ⟨announces _ announced, held _ _ present announced.unfetched, submitted ▸ number⟩
  | count srbext cmd =>
    obtain ⟨announced, present, number⟩ := holding
    exact ⟨announces _ announced, held _ _ present announced.unfetched, submitted ▸ number⟩
  | ring =>
    obtain ⟨number, announced⟩ := holding
    exact ⟨number, announces number announced⟩
  | _ => exact holding

/-- Which slot a completion call is at, and that the entry in it answers an outstanding command. -/
structure Reading (state : SharedSystem) (call : CompleteCall) : Prop where
  position : call.loop.cpl = state.shared.queue.trace.passed % state.shared.queue.depth
  entry : ∀ cid, call.pc = .pop cid →
    cid = (state.shared.queue.cplQ call.loop.cpl).entry.cid ∧
      state.shared.queue.subHead = (state.shared.queue.cplQ call.loop.cpl).entry.sqhd.toNat ∧
      ∃ srbext, state.shared.queue.history.history cid.toNat = some srbext ∧ srbext.submission < state.device.fetched

theorem Reading.mono {state other : SharedSystem} {call : CompleteCall} (reading : state.Reading call)
    (position : other.shared.queue.trace.passed % other.shared.queue.depth =
      state.shared.queue.trace.passed % state.shared.queue.depth)
    (entry : call.reads = true → other.shared.queue.cplQ call.loop.cpl = state.shared.queue.cplQ call.loop.cpl)
    (subHead : other.shared.queue.subHead = state.shared.queue.subHead)
    (held : ∀ cid srbext, state.shared.queue.history.history cid = some srbext →
      other.shared.queue.history.history cid = some srbext)
    (fetched : state.device.fetched ≤ other.device.fetched) : other.Reading call where
  position := reading.position.trans position.symm
  entry := by
    intro cid pops
    obtain ⟨same, seen, srbext, present, earlier⟩ := reading.entry cid pops
    rw [entry (by simp [CompleteCall.reads, pops]), subHead]
    exact ⟨same, seen, srbext, held _ _ present, Nat.lt_of_lt_of_le earlier fetched⟩

/-- What holds between the shared queue and the queue pair, at every step. -/
structure Linearizes (state : SharedSystem) (system : System) : Prop where
  finishes : state.Finishes system
  traced : Traced system
  single : state.shared.Single
  inside : ∀ cid srbext, state.shared.queue.history.history cid = some srbext → cid < state.shared.queue.history.depth
  custody : Custody state.shared.occupies fun _ => True
  clean : ∀ place address, state.shared.occupies place address → place ≠ .holder → state.drafts address = false
  holding : state.Holding system state.shared.subLock
  reading : ∀ processor call, state.shared.calls processor = some call → state.Reading call

namespace Finishes
variable {state : SharedSystem} {system : System}

theorem idle (free : ∀ processor, state.shared.calls processor = none)
    (queue : system.queue = state.shared.subLock.finish state.shared.queue) (loop : system.loop = none)
    (device : system.device = state.device)
    (heap : Heap.footprint.Agree (fun address => state.drafts address = true) system.heap
      (state.shared.subLock.finishHeap state.shared.queue state.shared.heap)) : state.Finishes system where
  queue := by rw [SharedQueue.Single.finish_idle free, queue]
  loop := by rw [SharedQueue.Single.idle free, loop, Option.map_none]
  device := device
  heap := by rwa [SharedQueue.Single.finishHeap_idle free]

theorem busy (single : state.shared.Single) {processor : Nat} {call : CompleteCall}
    (running : state.shared.calls processor = some call)
    (queue : system.queue = call.finish (state.shared.subLock.finish state.shared.queue))
    (loop : system.loop = some (call.finishLoop state.shared.queue)) (device : system.device = state.device)
    (heap : Heap.footprint.Agree (fun address => state.drafts address = true) system.heap
      (call.finishHeap state.shared.queue (state.shared.subLock.finishHeap state.shared.queue state.shared.heap))) :
    state.Finishes system where
  queue := by rw [single.finish_busy running, queue]
  loop := by rw [single.running running, loop, Option.map_some]
  device := device
  heap := by rwa [single.finishHeap_busy running]

end Finishes

namespace Linearizes

theorem initial {config : QueuePairConfig} (deep : safeSubmitThreshold < config.depth) (srbext : Nat → SrbExt)
    (slotCount : BitVec 3) (processors : Nat) :
    Linearizes (.initial config srbext slotCount processors) (.initial config srbext slotCount) := by
  have free : ∀ processor, (SharedQueue.initial config srbext slotCount processors).calls processor = none := fun _ => rfl
  have empty : ∀ place address, ¬ (SharedQueue.initial config srbext slotCount processors).occupies place address := by
    intro place address held
    cases place <;> cases held
  refine ⟨⟨?_, ?_, rfl, ?_⟩, .initial deep srbext slotCount, ⟨?_, ?_⟩, ?_, ⟨?_, ?_⟩, ?_, trivial, ?_⟩
  · exact (SharedQueue.Single.finish_idle free).symm
  · exact (congrArg (Option.map _) (SharedQueue.Single.idle free)).symm
  · rw [SharedSystem.initial, SharedQueue.Single.finishHeap_idle free]
    exact .refl _ _
  · intro first second present
    cases present
  · intro processor present
    cases present
  · intro cid found held
    cases held
  · intro place other address held
    exact absurd held (empty place address)
  · intro place address held
    trivial
  · intro place address held
    exact absurd held (empty place address)
  · intro processor call busy
    cases busy

section Facts
variable {state : SharedSystem} {system : System} (linearizes : Linearizes state system)
include linearizes

private theorem cases_running :
    ((∀ processor, state.shared.calls processor = none) ∧
      system.queue = state.shared.subLock.finish state.shared.queue ∧ system.loop = none ∧
      Heap.footprint.Agree (fun address => state.drafts address = true) system.heap
        (state.shared.subLock.finishHeap state.shared.queue state.shared.heap)) ∨
    ∃ processor call, state.shared.calls processor = some call ∧
      system.queue = call.finish (state.shared.subLock.finish state.shared.queue) ∧
      system.loop = some (call.finishLoop state.shared.queue) ∧
      Heap.footprint.Agree (fun address => state.drafts address = true) system.heap
        (call.finishHeap state.shared.queue (state.shared.subLock.finishHeap state.shared.queue state.shared.heap)) := by
  obtain ⟨queue, loop, _, heap⟩ := linearizes.finishes
  rcases linearizes.single.running_cases with ⟨idle, free⟩ | ⟨processor, call, busy, running⟩
  · rw [SharedQueue.Single.finish_idle free] at queue
    rw [idle] at loop
    rw [SharedQueue.Single.finishHeap_idle free] at heap
    exact .inl ⟨free, queue, loop, heap⟩
  · rw [linearizes.single.finish_busy busy] at queue
    rw [running] at loop
    rw [linearizes.single.finishHeap_busy busy] at heap
    exact .inr ⟨processor, call, busy, queue, loop, heap⟩

theorem depth : system.queue.depth = state.shared.queue.depth := by
  rw [linearizes.finishes.queue]
  rcases linearizes.single.running_cases with ⟨_, free⟩ | ⟨processor, call, busy, _⟩
  · simp [SharedQueue.Single.finish_idle free]
  · simp [linearizes.single.finish_busy busy]

theorem historyDepth : system.queue.history.depth = state.shared.queue.history.depth := by
  rw [linearizes.finishes.queue]
  rcases linearizes.single.running_cases with ⟨_, free⟩ | ⟨processor, call, busy, _⟩
  · simp [SharedQueue.Single.finish_idle free]
  · simp [linearizes.single.finish_busy busy]

theorem history_kept {cid : Nat} {srbext : SrbExtPtr} (held : system.queue.history.history cid = some srbext) :
    state.shared.queue.history.history cid = some srbext := by
  rcases linearizes.cases_running with ⟨_, queue, _⟩ | ⟨processor, call, _, queue, _⟩
  · rw [queue, SubLock.finish_history] at held
    exact held
  · rw [queue] at held
    have kept := CompleteCall.finish_history _ _ held
    rwa [SubLock.finish_history] at kept

theorem unused {address : Nat} (unused : ¬ state.shared.Uses address) : Custody.Free state.shared.occupies address := by
  intro place held
  apply unused
  cases place with
  | slot index =>
    obtain ⟨srbext, present, _⟩ := Option.map_eq_some_iff.mp held
    exact .inl ⟨index, linearizes.inside index srbext present, held⟩
  | holder => exact .inr (.inl held)
  | call processor =>
    obtain ⟨call, busy, _⟩ := Option.bind_eq_some_iff.mp held
    exact .inr (.inr ⟨processor, linearizes.single.inside (by rw [busy]; rfl), held⟩)

private theorem hand_place {processor : Nat} {call : CompleteCall} {srbext : SrbExtPtr}
    (busy : state.shared.calls processor = some call) (hand : call.hand state.shared.queue = some srbext) :
    state.shared.occupies (.call processor) srbext.address ∨
      ∃ index, state.shared.queue.history.history index = some srbext ∧ srbext.submission < state.device.fetched := by
  have reading := linearizes.reading processor call busy
  obtain ⟨loop, pc⟩ := call
  cases pc with
  | test => cases hand
  | decrement => cases hand
  | advance => cases hand
  | pop cid =>
    obtain ⟨same, _, found, present, fetched⟩ := reading.entry cid rfl
    rw [same] at present
    have popped := popped_of_lt (linearizes.inside _ found present)
    obtain rfl : found = srbext := Option.some.inj (present.symm.trans (popped.symm.trans hand))
    exact .inr ⟨_, present, fetched⟩
  | _ =>
    obtain rfl := Option.some.inj hand
    exact .inl (by simp [SharedQueue.occupies, busy, CompletePc.extension])

private theorem writes_slot {address : Nat} (writes : state.shared.subLock.writes = some address) :
    ∃ srbext index, srbext.address = address ∧ state.shared.queue.history.history index = some srbext ∧
      state.device.fetched ≤ srbext.submission := by
  have holding := linearizes.holding
  cases lock : state.shared.subLock with
  | write srbext cmd =>
    rw [lock] at writes holding
    obtain ⟨announces, held, _⟩ := holding
    exact ⟨srbext, cmd.cid.toNat, Option.some.inj writes, held, announces.unfetched⟩
  | _ =>
    rw [lock] at writes
    cases writes

theorem apart {processor address : Nat} {call : CompleteCall} {srbext : SrbExtPtr}
    (busy : state.shared.calls processor = some call) (hand : call.hand state.shared.queue = some srbext)
    (writes : state.shared.subLock.writes = some address) : srbext.address ≠ address := by
  obtain ⟨own, index, rfl, held, unfetched⟩ := linearizes.writes_slot writes
  have slot := SharedQueue.occupies_slot held
  intro same
  rcases linearizes.hand_place busy hand with called | ⟨other, present, fetched⟩
  · rw [same] at called
    cases linearizes.custody.exclusive called slot
  · have there := SharedQueue.occupies_slot present
    rw [same] at there
    obtain rfl := Keeper.slot.inj (linearizes.custody.exclusive there slot)
    obtain rfl := Option.some.inj (held.symm.trans present)
    omega

private theorem submissionRing : system.queue.subQ = (state.shared.subLock.finish state.shared.queue).subQ ∧
    system.queue.subDbl = (state.shared.subLock.finish state.shared.queue).subDbl ∧
    system.queue.subTail = (state.shared.subLock.finish state.shared.queue).subTail ∧
    system.queue.trace.submitted = (state.shared.subLock.finish state.shared.queue).trace.submitted := by
  rw [linearizes.finishes.queue]
  rcases linearizes.single.running_cases with ⟨_, free⟩ | ⟨processor, call, busy, _⟩
  · simp [SharedQueue.Single.finish_idle free]
  · simp [linearizes.single.finish_busy busy]

/-- A command that is announced too late for this fetch is not the one that is fetched. -/
theorem fetch_behind {number : Nat} (announces : state.Announces system number)
    (behind : state.device.sqHead ≠ state.shared.queue.subDbl) :
    state.device.fetched < number ∧ state.device.sqHead ≠ state.shared.queue.subTail ∧
      state.device.sqHead ≠ (state.shared.queue.subTail + 1) % state.shared.queue.depth := by
  have steady := linearizes.traced.orderly.steady
  have device := steady.layout.device
  rw [linearizes.depth, linearizes.finishes.device] at device
  have room := steady.flow.room
  have passed := linearizes.traced.contiguous.behind
  have counts := steady.flow.counts
  rw [linearizes.finishes.device] at passed counts
  rw [linearizes.depth, announces.last] at room
  have unfetched := announces.unfetched
  have fetched : state.device.fetched ≠ number := by
    intro same
    rw [device.sqHead, announces.subDbl, same] at behind
    exact behind rfl
  refine ⟨by omega, ?_, ?_⟩
  · rwa [announces.subTail, ← announces.subDbl]
  · rw [announces.subTail, PhaseRing.slot_succ, device.sqHead]
    exact PhaseRing.slot_ne (by omega) (by omega)

theorem fetches (behind : state.device.sqHead ≠ state.shared.queue.subDbl) :
    system.device.sqHead ≠ system.queue.subDbl ∧ system.device.fetch system.queue = state.device.fetch state.shared.queue := by
  obtain ⟨subQ, subDbl, _⟩ := linearizes.submissionRing
  have holding := linearizes.holding
  have reads : system.queue.subQ state.device.sqHead = state.shared.queue.subQ state.device.sqHead ∧
      state.device.sqHead ≠ system.queue.subDbl := by
    rw [subQ, subDbl]
    cases lock : state.shared.subLock with
    | write srbext cmd =>
      rw [lock] at holding
      obtain ⟨_, tail, next⟩ := linearizes.fetch_behind holding.1 behind
      exact ⟨Function.update_of_ne tail .., next⟩
    | count srbext cmd =>
      rw [lock] at holding
      exact ⟨rfl, (linearizes.fetch_behind holding.1 behind).2.2⟩
    | ring =>
      rw [lock] at holding
      obtain ⟨number, announces⟩ := holding
      exact ⟨rfl, (linearizes.fetch_behind announces behind).2.2⟩
    | _ => exact ⟨rfl, behind⟩
  rw [linearizes.finishes.device]
  refine ⟨reads.2, ?_⟩
  simp only [Controller.fetch, reads.1, linearizes.depth]

/-- The controller does not post into the slot a call has yet to read again. -/
theorem post_apart {processor : Nat} {call : CompleteCall} (busy : state.shared.calls processor = some call)
    (reads : call.reads = true) : call.loop.cpl ≠ state.device.cqTail := by
  have steady := linearizes.traced.orderly.steady
  have position := (linearizes.reading processor call busy).position
  have device := steady.layout.device
  have posted := steady.posted_le
  have behind := linearizes.traced.contiguous.behind
  have backlog := linearizes.traced.throttled.backlog
  have bounded := linearizes.traced.throttled.bounded
  have passed : system.queue.trace.passed = state.shared.queue.trace.passed + 1 := by
    rw [linearizes.finishes.queue, linearizes.single.finish_busy busy, CompleteCall.finish_passed reads,
      SubLock.finish_passed]
  rw [linearizes.depth, linearizes.finishes.device] at device
  rw [linearizes.finishes.device] at posted behind
  rw [linearizes.depth] at bounded
  rw [linearizes.traced.replaced] at backlog bounded
  rw [position, device.cqTail]
  have threshold : safeSubmitThreshold = 8 := rfl
  simp only [List.length_nil] at backlog bounded
  exact PhaseRing.slot_ne (by omega) (by omega)

theorem safe (free : state.shared.subLock = .free) (room : state.shared.queue.isSafeForSubmit = true) :
    system.queue.isSafeForSubmit = true := by
  have counter := linearizes.traced.throttled.counter linearizes.traced.orderly.steady.counted
  have bounded := linearizes.traced.throttled.bounded
  have deep := system.queue.depth_lt
  have depth := linearizes.depth
  have threshold : safeSubmitThreshold = 8 := rfl
  have lags : system.queue.inflightCmds = state.shared.queue.inflightCmds ∨
      system.queue.inflightCmds = longWrap (state.shared.queue.inflightCmds - 1) := by
    rcases linearizes.cases_running with ⟨_, queue, _⟩ | ⟨processor, call, _, queue, _⟩
    · rw [queue, free]
      exact .inl rfl
    · rw [queue, free]
      exact CompleteCall.finish_inflightCmds
  rw [CNvmeQueue.isSafeForSubmit, decide_eq_true_eq, ushort] at room ⊢
  rw [depth]
  rcases lags with same | behind
  · rwa [same]
  · rw [longWrap] at behind
    omega

end Facts

theorem prepare {before after : SharedSystem} {system : System} {address : Nat} {record : SrbExt}
    (linearizes : Linearizes before system) (unused : ¬ before.shared.Uses address)
    (taken : before.step (.host (.prepare address record)) = some after) : Linearizes after system := by
  obtain rfl := Option.some.inj taken
  have nowhere := linearizes.unused unused
  have puts := Heap.writes_put address fun _ => record
  have holder := @SubLock.finishHeap_commutes before.shared.queue before.shared.subLock _ _ puts.actsAt (by
    intro other writes same
    obtain ⟨srbext, index, own, held, _⟩ := linearizes.writes_slot writes
    rw [same, ← own] at nowhere
    exact nowhere (.slot index) (SharedQueue.occupies_slot held)) before.shared.heap
  have drafted : ∀ place, place = address ∨ before.drafts place = true → Function.update before.drafts address true place = true := by
    intro place either
    by_cases here : place = address
    · rw [here, Function.update_self]
    · rw [Function.update_of_ne here]
      exact either.resolve_left here
  refine ⟨?_, linearizes.traced, ⟨linearizes.single.alone, linearizes.single.inside⟩, linearizes.inside,
    ⟨linearizes.custody.exclusive, fun _ => trivial⟩, ?_, ?_, ?_⟩
  · rcases linearizes.cases_running with ⟨free, queue, loop, heap⟩ | ⟨processor, call, busy, queue, loop, heap⟩
    · refine .idle free queue loop linearizes.finishes.device ?_
      rw [holder]
      exact (heap.write puts).mono drafted
    · refine .busy ⟨linearizes.single.alone, linearizes.single.inside⟩ busy queue loop linearizes.finishes.device ?_
      rw [holder, CompleteCall.finishHeap_commutes puts]
      · exact (heap.write puts).mono drafted
      · intro srbext hand same
        rcases linearizes.hand_place busy hand with called | ⟨index, held, _⟩
        · exact nowhere (.call processor) (same ▸ called)
        · exact nowhere (.slot index) (same ▸ SharedQueue.occupies_slot held)
  · intro place other held elsewhere
    have apart : other ≠ address := by
      intro same
      exact nowhere place (same ▸ held)
    exact (Function.update_of_ne apart ..).trans (linearizes.clean place other held elsewhere)
  · refine linearizes.holding.mono ?_ rfl (fun _ empty => empty) (fun _ _ present _ => present) (fun safe => safe)
    intro number announces
    exact ⟨announces.last, announces.unfetched, announces.subTail, announces.subDbl⟩
  · intro processor call busy
    exact (linearizes.reading processor call busy).mono rfl (fun _ => rfl) rfl (fun _ _ present => present) (Nat.le_refl _)

theorem submit {before after : SharedSystem} {system : System} {address : Nat} {cmd : NvmeCommand}
    (linearizes : Linearizes before system) (unused : ¬ before.shared.Uses address)
    (unfilled : before.shared.queue.history.history cmd.cid.toNat = none)
    (taken : before.step (.host (.submit address cmd)) = some after) : Linearizes after system := by
  have nowhere := linearizes.unused unused
  obtain ⟨⟨queue, heap, lock, processors, calls⟩, device, drafts⟩ := before
  obtain ⟨shared, entered, rfl⟩ := Option.map_eq_some_iff.mp taken
  obtain ⟨rfl, rfl | ⟨_, room, rfl⟩⟩ := SharedQueue.submit_step entered
  · exact linearizes
  · have safe := linearizes.safe rfl room
    have single : SharedQueue.Single ⟨queue, heap, .push ⟨address, queue.trace.submitted.length⟩ cmd, processors, calls⟩ :=
      ⟨linearizes.single.alone, linearizes.single.inside⟩
    refine ⟨?_, linearizes.traced, single, linearizes.inside, ?_, ?_, ⟨rfl, unfilled, safe⟩, ?_⟩
    · rcases linearizes.cases_running with ⟨free, same, loop, log⟩ | ⟨processor, call, busy, same, loop, log⟩
      · exact .idle free same loop linearizes.finishes.device log
      · exact .busy single busy same loop linearizes.finishes.device log
    · apply linearizes.custody.give .holder nowhere trivial
      intro place other held
      cases place with
      | slot index => exact .inl held
      | holder => exact .inr ⟨rfl, (Option.some.inj held).symm⟩
      | call processor => exact .inl held
    · intro place other held elsewhere
      cases place with
      | slot index => exact linearizes.clean (.slot index) other held elsewhere
      | holder => exact absurd rfl elsewhere
      | call processor => exact linearizes.clean (.call processor) other held elsewhere
    · intro processor call busy
      exact (linearizes.reading processor call busy).mono rfl (fun _ => rfl) rfl (fun _ _ present => present) (Nat.le_refl _)

structure CompletesAlike (queue other : CNvmeQueue) : Prop where
  depth : other.depth = queue.depth
  history : other.history = queue.history
  cplQ : other.cplQ = queue.cplQ
  subHead : other.subHead = queue.subHead
  cplHead : other.cplHead = queue.cplHead
  passed : other.trace.passed = queue.trace.passed

section Holder
variable {queue : CNvmeQueue} {heap : Heap} {processors : Nat} {calls : Nat → Option CompleteCall} {device : Controller}
  {drafts : Nat → Bool} {system : System}

/-- After its push the holder does nothing the queue pair does not know of. -/
theorem holderMoves {lock following : SubLock} {next : CNvmeQueue} {written : Heap}
    (linearizes : Linearizes ⟨⟨queue, heap, lock, processors, calls⟩, device, drafts⟩ system)
    (alike : CompletesAlike queue next) (finish : following.finish next = lock.finish queue)
    (finishHeap : following.finishHeap next written = lock.finishHeap queue heap) (pushed : following.pushes = none)
    (holding : Holding ⟨⟨next, written, following, processors, calls⟩, device, drafts⟩ system following) :
    Linearizes ⟨⟨next, written, following, processors, calls⟩, device, drafts⟩ system := by
  have single : SharedQueue.Single ⟨next, written, following, processors, calls⟩ :=
    ⟨linearizes.single.alone, linearizes.single.inside⟩
  have fewer : ∀ place address, SharedQueue.occupies ⟨next, written, following, processors, calls⟩ place address →
      SharedQueue.occupies ⟨queue, heap, lock, processors, calls⟩ place address := by
    intro place address held
    cases place with
    | slot index =>
      rw [SharedQueue.occupies, alike.history] at held
      exact held
    | holder => exact absurd (pushed.symm.trans held) (by simp)
    | call processor => exact held
  have popped : ∀ loop, next.popped loop = queue.popped loop := by
    intro loop
    simp only [CNvmeQueue.popped, alike.history, alike.cplQ]
  refine ⟨?_, linearizes.traced, single, ?_, linearizes.custody.mono fewer fun _ _ live => live, ?_, holding, ?_⟩
  · rcases linearizes.cases_running with ⟨free, same, loop, log⟩ | ⟨processor, call, busy, same, loop, log⟩
    · refine .idle free ?_ loop linearizes.finishes.device ?_
      · rw [finish]
        exact same
      · rw [finishHeap]
        exact log
    · refine .busy single busy ?_ ?_ linearizes.finishes.device ?_
      · rw [finish]
        exact same
      · rw [loop]
        apply congrArg some
        exact (CompleteCall.finishLoop_congr (fun _ _ => popped _) (by rw [alike.cplHead, alike.depth])).symm
      · rw [finishHeap, CompleteCall.finishHeap_congr (fun _ _ => popped _) fun _ => congrFun alike.cplQ _]
        exact log
  · rw [alike.history]
    exact linearizes.inside
  · intro place address held
    exact linearizes.clean place address (fewer place address held)
  · intro processor call busy
    refine (linearizes.reading processor call busy).mono ?_ (fun _ => congrFun alike.cplQ _) alike.subHead ?_ (Nat.le_refl _)
    · rw [alike.passed, alike.depth]
    · intro cid srbext present
      rw [alike.history]
      exact present

theorem write {srbext : SrbExtPtr} {cmd : NvmeCommand}
    (linearizes : Linearizes ⟨⟨queue, heap, .write srbext cmd, processors, calls⟩, device, drafts⟩ system) :
    Linearizes ⟨⟨queue.written srbext cmd, queue.setSubIndex heap srbext.address, .count srbext cmd, processors, calls⟩,
      device, drafts⟩ system := by
  obtain ⟨announces, held, number⟩ := linearizes.holding
  exact linearizes.holderMoves ⟨rfl, rfl, rfl, rfl, rfl, rfl⟩ rfl rfl rfl
    ⟨⟨announces.last, announces.unfetched, announces.subTail, announces.subDbl⟩, held, number⟩

theorem count {srbext : SrbExtPtr} {cmd : NvmeCommand}
    (linearizes : Linearizes ⟨⟨queue, heap, .count srbext cmd, processors, calls⟩, device, drafts⟩ system) :
    Linearizes ⟨⟨queue.counted srbext cmd, heap, .ring, processors, calls⟩, device, drafts⟩ system := by
  obtain ⟨announces, held, number⟩ := linearizes.holding
  exact linearizes.holderMoves ⟨rfl, rfl, rfl, rfl, rfl, rfl⟩ rfl rfl rfl
    ⟨_, announces.last, announces.unfetched, announces.subTail, announces.subDbl⟩

theorem ring (linearizes : Linearizes ⟨⟨queue, heap, .ring, processors, calls⟩, device, drafts⟩ system) :
    Linearizes ⟨⟨queue.rung, heap, .free, processors, calls⟩, device, drafts⟩ system :=
  linearizes.holderMoves ⟨rfl, rfl, rfl, rfl, rfl, rfl⟩ rfl rfl rfl trivial

section Push
variable {srbext : SrbExtPtr} {cmd : NvmeCommand}
  (linearizes : Linearizes ⟨⟨queue, heap, .push srbext cmd, processors, calls⟩, device, drafts⟩ system)
include linearizes

private theorem push_apart {processor : Nat} {call : CompleteCall} (busy : calls processor = some call) (other : SrbExtPtr)
    (hand : call.hand queue = some other) : other.address ≠ srbext.address := by
  have held : SharedQueue.occupies ⟨queue, heap, .push srbext cmd, processors, calls⟩ .holder srbext.address := rfl
  intro same
  rcases linearizes.hand_place busy hand with called | ⟨index, present, _⟩
  · cases linearizes.custody.exclusive (same ▸ called) held
  · cases linearizes.custody.exclusive (same ▸ SharedQueue.occupies_slot present) held

private theorem push_clean (place : Keeper) (address : Nat) (elsewhere : place ≠ .holder)
    (held : SharedQueue.occupies ⟨queue, heap, .push srbext cmd, processors, calls⟩ place address) :
    Function.update drafts srbext.address false address = false := by
  by_cases here : address = srbext.address
  · rw [here, Function.update_self]
  · rw [Function.update_of_ne here]
    exact linearizes.clean place address held elsewhere

omit linearizes in
private theorem push_undrafted (place : Nat) (compared : place ≠ srbext.address ∧ drafts place = true) :
    Function.update drafts srbext.address false place = true := by
  rw [Function.update_of_ne compared.1]
  exact compared.2

/-- A push of an identifier out of range: the whole call is refused. -/
theorem pushOutside (outside : queue.history.depth ≤ cmd.cid.toNat) :
    ∃ next, system.step (.submit srbext.address (heap.srbext srbext.address) cmd) = some next ∧
      Linearizes ⟨⟨queue, heap, .free, processors, calls⟩, device, Function.update drafts srbext.address false⟩ next := by
  have refuses : ¬ system.queue.accepts cmd := by
    intro accepts
    have inside := accepts.2.2
    rw [linearizes.historyDepth] at inside
    exact Nat.not_lt_of_le outside inside
  have stepped : system.step (.submit srbext.address (heap.srbext srbext.address) cmd) =
      some (system.refused srbext.address (heap.srbext srbext.address)) := by
    rcases system.submit_eq srbext.address (heap.srbext srbext.address) cmd with ⟨accepts, _⟩ | ⟨_, same⟩
    · exact absurd accepts refuses
    · exact congrArg some same
  have puts := Heap.writes_put srbext.address fun _ => heap.srbext srbext.address
  have single : SharedQueue.Single ⟨queue, heap, .free, processors, calls⟩ := ⟨linearizes.single.alone, linearizes.single.inside⟩
  have fewer : ∀ place address, SharedQueue.occupies ⟨queue, heap, .free, processors, calls⟩ place address →
      place ≠ .holder ∧ SharedQueue.occupies ⟨queue, heap, .push srbext cmd, processors, calls⟩ place address := by
    intro place address held
    cases place with
    | slot index => exact ⟨by simp, held⟩
    | holder => cases held
    | call processor => exact ⟨by simp, held⟩
  have nothing : ReplacesNothing system (.submit srbext.address (heap.srbext srbext.address) cmd) :=
    fun accepts => absurd accepts refuses
  refine ⟨_, stepped, ?_, linearizes.traced.step ⟨rfl, rfl⟩ nothing stepped, single, linearizes.inside,
    linearizes.custody.mono (fun place address held => (fewer place address held).2) fun _ _ live => live, ?_, trivial, ?_⟩
  · rcases linearizes.cases_running with ⟨free, same, loop, log⟩ | ⟨processor, call, busy, same, loop, log⟩
    · refine .idle free same loop linearizes.finishes.device ?_
      refine (log.overwrite puts (.id srbext.address) ?_).mono push_undrafted
      exact Function.update_self ..
    · refine .busy single busy same loop linearizes.finishes.device ?_
      refine (log.overwrite puts (.id srbext.address) ?_).mono push_undrafted
      have other := CompleteCall.finishHeap_other (linearizes.push_apart busy) heap
      exact Eq.trans (Function.update_self ..) other.symm
  · intro place address held elsewhere
    exact linearizes.push_clean place address elsewhere (fewer place address held).2
  · intro processor call busy
    exact (linearizes.reading processor call busy).mono rfl (fun _ => rfl) rfl (fun _ _ present => present) (Nat.le_refl _)

private theorem push_slot (unfilled : queue.history.history cmd.cid.toNat = none) {processor : Nat} {call : CompleteCall}
    (busy : calls processor = some call) (cid : BitVec 16) (pops : call.pc = .pop cid) :
    (queue.cplQ call.loop.cpl).entry.cid.toNat ≠ cmd.cid.toNat ∧ (queue.popped call.loop).isSome := by
  obtain ⟨named, _, found, present, _⟩ := (linearizes.reading processor call busy).entry cid pops
  have named : cid = (queue.cplQ call.loop.cpl).entry.cid := named
  have present : queue.history.history cid.toNat = some found := present
  rw [named] at present
  refine ⟨?_, ?_⟩
  · intro same
    rw [same, unfilled] at present
    cases present
  · rw [popped_of_lt (linearizes.inside _ found present), present]
    rfl

omit linearizes in
private theorem push_log {concrete : Heap} {written : CNvmeQueue} (subTail : written.subTail = system.queue.subTail)
    (log : Heap.footprint.Agree (fun address => drafts address = true) system.heap concrete)
    (untouched : concrete.srbext srbext.address = heap.srbext srbext.address) :
    Heap.footprint.Agree (fun address => Function.update drafts srbext.address false address = true)
      (system.queue.setSubIndex (system.heap.put srbext.address (heap.srbext srbext.address)) srbext.address)
      (written.setSubIndex concrete srbext.address) := by
  have puts := Heap.writes_put srbext.address fun _ => heap.srbext srbext.address
  have index := Heap.writes_put srbext.address fun record => { record with subIndex := system.queue.subTail }
  have same : written.setSubIndex concrete srbext.address = system.queue.setSubIndex concrete srbext.address := by
    simp only [CNvmeQueue.setSubIndex, subTail]
  rw [same]
  refine (log.overwrite (puts.comp index) index ?_).mono push_undrafted
  simp [Heap.footprint, untouched]

omit linearizes in
private theorem push_others (cid : Nat) (elsewhere : cid ≠ cmd.cid.toNat) :
    (SharedQueue.pushed queue srbext cmd).history cid = queue.history.history cid :=
  Function.update_of_ne elsewhere ..

omit linearizes in
private theorem push_slots {cid : Nat} {found : SrbExtPtr} (held : (SharedQueue.pushed queue srbext cmd).history cid = some found) :
    cid = cmd.cid.toNat ∧ found = srbext ∨ queue.history.history cid = some found := by
  by_cases here : cid = cmd.cid.toNat
  · have stored : (SharedQueue.pushed queue srbext cmd).history cmd.cid.toNat = some srbext := Function.update_self ..
    rw [here, stored] at held
    exact .inl ⟨here, (Option.some.inj held).symm⟩
  · rw [push_others cid here] at held
    exact .inr held

private theorem push_vacant : system.queue.history.history cmd.cid.toNat = none := by
  have unfilled : queue.history.history cmd.cid.toNat = none := linearizes.holding.2.1
  cases held : system.queue.history.history cmd.cid.toNat with
  | none => rfl
  | some old => exact absurd (unfilled.symm.trans (linearizes.history_kept held)) (by simp)

private theorem push_accepted (inside : cmd.cid.toNat < queue.history.depth) :
    system.step (.submit srbext.address (heap.srbext srbext.address) cmd) =
      some (system.accepted srbext.address (heap.srbext srbext.address) cmd) := by
  have ready := linearizes.traced.orderly.steady.layout.host.ready
  have accepts : system.queue.accepts cmd := ⟨ready, linearizes.holding.2.2, linearizes.historyDepth ▸ inside⟩
  rcases system.submit_eq srbext.address (heap.srbext srbext.address) cmd with ⟨_, same⟩ | ⟨refuses, _⟩
  · exact congrArg some same
  · exact absurd accepts refuses

private theorem push_finishes : SharedSystem.Finishes
    ⟨⟨{ queue with history := SharedQueue.pushed queue srbext cmd }, heap, .write srbext cmd, processors, calls⟩, device,
      Function.update drafts srbext.address false⟩
    (system.accepted srbext.address (heap.srbext srbext.address) cmd) := by
  have number : srbext.submission = queue.trace.submitted.length := linearizes.holding.1
  have unfilled : queue.history.history cmd.cid.toNat = none := linearizes.holding.2.1
  obtain ⟨_, _, subTail, _⟩ := linearizes.submissionRing
  have subTail : system.queue.subTail = queue.subTail := subTail
  have released : (system.accepted srbext.address (heap.srbext srbext.address) cmd).heap =
      system.queue.setSubIndex (system.heap.put srbext.address (heap.srbext srbext.address)) srbext.address := by
    simp only [System.accepted, CNvmeQueue.releaseOld, linearizes.push_vacant]
  let pushed : CNvmeQueue := { queue with history := SharedQueue.pushed queue srbext cmd }
  have accepted : queue.accept srbext.address cmd = SubLock.finish pushed (.write srbext cmd) :=
    CNvmeQueue.accept_free unfilled number
  have single : SharedQueue.Single ⟨pushed, heap, .write srbext cmd, processors, calls⟩ :=
    ⟨linearizes.single.alone, linearizes.single.inside⟩
  rcases linearizes.cases_running with ⟨free, same, loop, log⟩ | ⟨processor, call, busy, same, loop, log⟩
  · refine .idle free ?_ loop linearizes.finishes.device ?_
    · rw [System.accepted, same]
      exact accepted
    · rw [released]
      exact push_log subTail.symm log rfl
  · have apart := fun cid pops => (linearizes.push_slot unfilled busy cid pops).1
    have popped := CompleteCall.popped_pushed apart (SharedQueue.pushed queue srbext cmd) rfl push_others
    have writes := Heap.writes_put srbext.address fun record => { record with subIndex := pushed.subTail }
    refine .busy single busy ?_ ?_ linearizes.finishes.device ?_
    · rw [System.accepted, same]
      have commuted := @CompleteCall.finish_accept _ _ srbext.address cmd apart fun cid pops =>
        (linearizes.push_slot unfilled busy cid pops).2
      rw [accepted] at commuted
      exact commuted.symm
    · rw [System.accepted, loop]
      exact congrArg some (CompleteCall.finishLoop_congr popped rfl).symm
    · rw [released, CompleteCall.finishHeap_congr popped fun _ => rfl]
      have commuted := CompleteCall.finishHeap_commutes writes (linearizes.push_apart busy) heap
      have untouched := CompleteCall.finishHeap_other (linearizes.push_apart busy) heap
      exact Eq.mpr (congrArg _ commuted) (push_log subTail.symm log untouched)

private theorem push_custody : Custody (SharedQueue.occupies
    ⟨{ queue with history := SharedQueue.pushed queue srbext cmd }, heap, .write srbext cmd, processors, calls⟩)
    fun _ => True := by
  apply linearizes.custody.move (.slot cmd.cid.toNat) (show SharedQueue.occupies
    ⟨queue, heap, .push srbext cmd, processors, calls⟩ .holder srbext.address from rfl)
  · intro held
    cases held
  · intro place address held
    cases place with
    | slot index =>
      obtain ⟨found, present, own⟩ := Option.map_eq_some_iff.mp held
      rcases push_slots present with ⟨rfl, rfl⟩ | old
      · exact .inr ⟨rfl, own.symm⟩
      · exact .inl (own ▸ SharedQueue.occupies_slot old)
    | holder => cases held
    | call processor => exact .inl held

private theorem push_holding : SharedSystem.Holding
    ⟨⟨{ queue with history := SharedQueue.pushed queue srbext cmd }, heap, .write srbext cmd, processors, calls⟩, device,
      Function.update drafts srbext.address false⟩
    (system.accepted srbext.address (heap.srbext srbext.address) cmd) (.write srbext cmd) := by
  have number : srbext.submission = queue.trace.submitted.length := linearizes.holding.1
  obtain ⟨_, subDbl, subTail, submitted⟩ := linearizes.submissionRing
  have submitted : system.queue.trace.submitted = queue.trace.submitted := submitted
  have subTail : system.queue.subTail = queue.subTail := subTail
  have subDbl : system.queue.subDbl = queue.subDbl := subDbl
  have layout := linearizes.traced.orderly.steady.layout
  refine ⟨⟨?_, ?_, ?_, ?_⟩, Function.update_self .., number⟩
  · simp [System.accepted, submitted, number]
  · have fetched := layout.device.fetched
    rw [linearizes.finishes.device, submitted] at fetched
    rw [number]
    exact fetched
  · have tail := layout.host.subTail
    rw [subTail, submitted, linearizes.depth] at tail
    rw [number]
    exact tail
  · have doorbell := layout.host.subDbl
    rw [subDbl, submitted, linearizes.depth] at doorbell
    rw [number]
    exact doorbell

/-- The push into a free slot is where `SubmitCmd` takes effect. -/
theorem pushInside (inside : cmd.cid.toNat < queue.history.depth) :
    ∃ next, system.step (.submit srbext.address (heap.srbext srbext.address) cmd) = some next ∧
      Linearizes ⟨⟨{ queue with history := SharedQueue.pushed queue srbext cmd }, heap, .write srbext cmd, processors, calls⟩,
        device, Function.update drafts srbext.address false⟩ next := by
  have stepped := linearizes.push_accepted inside
  have unfilled : queue.history.history cmd.cid.toNat = none := linearizes.holding.2.1
  have nothing : ReplacesNothing system (.submit srbext.address (heap.srbext srbext.address) cmd) :=
    fun _ => linearizes.push_vacant
  refine ⟨_, stepped, linearizes.push_finishes, linearizes.traced.step ⟨rfl, rfl⟩ nothing stepped,
    ⟨linearizes.single.alone, linearizes.single.inside⟩, ?_, linearizes.push_custody, ?_, linearizes.push_holding, ?_⟩
  · intro cid found held
    rcases push_slots held with ⟨rfl, _⟩ | old
    · exact inside
    · exact linearizes.inside cid found old
  · intro place address held elsewhere
    cases place with
    | slot index =>
      obtain ⟨found, present, rfl⟩ := Option.map_eq_some_iff.mp held
      rcases push_slots present with ⟨_, rfl⟩ | old
      · exact Function.update_self ..
      · exact linearizes.push_clean (.slot index) found.address elsewhere (SharedQueue.occupies_slot old)
    | holder => cases held
    | call processor => exact linearizes.push_clean (.call processor) address elsewhere held
  · intro processor call busy
    refine (linearizes.reading processor call busy).mono rfl (fun _ => rfl) rfl ?_ (Nat.le_refl _)
    intro cid found present
    have elsewhere : cid ≠ cmd.cid.toNat := by
      intro here
      rw [here] at present
      exact absurd (unfilled.symm.trans present) (by simp)
    exact (push_others cid elsewhere).trans present

end Push

theorem holder {before after : SharedSystem} (linearizes : Linearizes before system)
    (taken : before.step (.host .holder) = some after) :
    ∃ next, Machine.run System.step system (before.effect (.host .holder)) = some next ∧ Linearizes after next := by
  obtain ⟨⟨queue, heap, lock, processors, calls⟩, device, drafts⟩ := before
  obtain ⟨shared, moved, rfl⟩ := Option.map_eq_some_iff.mp taken
  cases lock with
  | free => cases moved
  | push srbext cmd =>
    by_cases outside : queue.history.depth ≤ cmd.cid.toNat
    · obtain rfl := Option.some.inj (moved.symm.trans (SharedQueue.push_outside outside))
      obtain ⟨next, stepped, kept⟩ := linearizes.pushOutside outside
      exact ⟨next, Machine.run_single stepped, kept⟩
    · have inside := Nat.lt_of_not_le outside
      have unfilled : queue.history.history cmd.cid.toNat = none := linearizes.holding.2.1
      obtain rfl := Option.some.inj (moved.symm.trans (SharedQueue.push_free inside unfilled))
      obtain ⟨next, stepped, kept⟩ := linearizes.pushInside inside
      exact ⟨next, Machine.run_single stepped, kept⟩
  | write srbext cmd =>
    obtain rfl := Option.some.inj moved
    exact ⟨system, rfl, linearizes.write⟩
  | count srbext cmd =>
    obtain rfl := Option.some.inj moved
    exact ⟨system, rfl, linearizes.count⟩
  | ring =>
    obtain rfl := Option.some.inj moved
    exact ⟨system, rfl, linearizes.ring⟩
  | _ => exact linearizes.holding.elim

end Holder

section Completer
variable {queue : CNvmeQueue} {heap : Heap} {lock : SubLock} {processors processor : Nat} {calls : Nat → Option CompleteCall}
  {device : Controller} {drafts : Nat → Bool} {system : System}

theorem enter {before after : SharedSystem} {maxCount : Nat} (linearizes : Linearizes before system)
    (idle : ∀ place < before.shared.processors, before.shared.calls place = none)
    (taken : before.step (.host (.enter processor maxCount)) = some after) :
    ∃ next, Machine.run System.step system (before.effect (.host (.enter processor maxCount))) = some next ∧
      Linearizes after next := by
  obtain ⟨shared, entered, rfl⟩ := Option.map_eq_some_iff.mp taken
  obtain ⟨inside, _, rfl⟩ := SharedQueue.enter_step entered
  have free : ∀ place, before.shared.calls place = none := by
    intro place
    apply Option.not_isSome_iff_eq_none.mp
    intro busy
    rw [idle place (linearizes.single.inside busy)] at busy
    cases busy
  rcases linearizes.cases_running with ⟨_, same, loop, log⟩ | ⟨place, call, busy, _⟩
  · have stepped : system.step (.enter maxCount) =
        some { system with loop := some (system.queue.enterCompleteCmd maxCount) } := by
      simp only [System.step, loop]
    have single : SharedQueue.Single (before.shared.goto processor (before.shared.queue.enterCompleteCmd maxCount) .test) :=
      .update _ inside fun place _ => free place
    have entry : system.queue.enterCompleteCmd maxCount = before.shared.queue.enterCompleteCmd maxCount := by
      rw [same]
      simp [CNvmeQueue.enterCompleteCmd]
    have fewer : ∀ place address, SharedQueue.occupies
        (before.shared.goto processor (before.shared.queue.enterCompleteCmd maxCount) .test) place address →
        before.shared.occupies place address := by
      intro place address held
      rcases SharedQueue.goto_occupies held with ⟨_, absent⟩ | old
      · cases absent
      · exact old
    refine ⟨_, Machine.run_single stepped, ?_, linearizes.traced.step (show Unreset (.enter maxCount) from ⟨rfl, rfl⟩)
      trivial stepped, single, linearizes.inside, linearizes.custody.mono fewer fun _ _ live => live, ?_, ?_, ?_⟩
    · refine .busy single SharedQueue.goto_here same ?_ linearizes.finishes.device log
      exact congrArg some entry
    · intro place address held
      exact linearizes.clean place address (fewer place address held)
    · refine linearizes.holding.mono ?_ rfl (fun _ empty => empty) (fun _ _ present _ => present) (fun safe => safe)
      intro number announces
      exact ⟨announces.last, announces.unfetched, announces.subTail, announces.subDbl⟩
    · intro place call busy
      by_cases here : place = processor
      · subst place
        obtain rfl := Option.some.inj (SharedQueue.goto_here.symm.trans busy)
        refine ⟨?_, fun cid pops => by cases pops⟩
        have head := linearizes.traced.orderly.steady.layout.host.cplHead
        rw [same, SubLock.finish_cplHead, SubLock.finish_passed, SubLock.finish_depth] at head
        exact head
      · exact absurd ((free place).symm.trans ((SharedQueue.goto_other here).symm.trans busy)) (by simp)
  · exact absurd ((free place).symm.trans busy) (by simp)

def Hands (queue next : CNvmeQueue) (call : CompleteCall) (pc : CompletePc) : Prop :=
  ∀ address, pc.extension = some address → call.pc.extension = some address ∨
    ∃ cid srbext, queue.history.history cid = some srbext ∧ srbext.address = address ∧ next.history.history cid = none

private theorem call_custody {call : CompleteCall} {next : CNvmeQueue} {written : Heap} {loop : CompleteLoop} {pc : CompletePc}
    (linearizes : Linearizes ⟨⟨queue, heap, lock, processors, calls⟩, device, drafts⟩ system)
    (busy : calls processor = some call) (hands : Hands queue next call pc)
    (slots : ∀ cid srbext, next.history.history cid = some srbext → queue.history.history cid = some srbext) :
    Custody (SharedQueue.occupies (SharedQueue.goto ⟨next, written, lock, processors, calls⟩ processor loop pc))
        (fun _ => True) ∧
      ∀ place address, SharedQueue.occupies (SharedQueue.goto ⟨next, written, lock, processors, calls⟩ processor loop pc)
        place address → place ≠ .holder → drafts address = false := by
  have old : ∀ place address, SharedQueue.occupies ⟨next, written, lock, processors, calls⟩ place address →
      SharedQueue.occupies ⟨queue, heap, lock, processors, calls⟩ place address := by
    intro place address held
    cases place with
    | slot index =>
      obtain ⟨srbext, present, same⟩ := Option.map_eq_some_iff.mp held
      exact same ▸ SharedQueue.occupies_slot (slots index srbext present)
    | holder => exact held
    | call other => exact held
  have called : ∀ address, call.pc.extension = some address →
      SharedQueue.occupies ⟨queue, heap, lock, processors, calls⟩ (.call processor) address := by
    intro address same
    simp only [SharedQueue.occupies, busy, Option.bind_some]
    exact same
  constructor
  · cases extension : pc.extension with
    | none =>
      apply linearizes.custody.mono _ fun _ _ live => live
      intro place address held
      rcases SharedQueue.goto_occupies held with ⟨_, present⟩ | earlier
      · exact absurd (extension.symm.trans present) (by simp)
      · exact old place address earlier
    | some own =>
      rcases hands own extension with same | ⟨cid, srbext, present, rfl, gone⟩
      · apply linearizes.custody.mono _ fun _ _ live => live
        intro place address held
        rcases SharedQueue.goto_occupies held with ⟨rfl, now⟩ | earlier
        · obtain rfl := Option.some.inj (extension.symm.trans now)
          exact called own same
        · exact old place address earlier
      · apply linearizes.custody.move (.call processor) (SharedQueue.occupies_slot present)
        · intro held
          rw [SharedQueue.occupies, SharedQueue.goto, gone] at held
          cases held
        · intro place address held
          rcases SharedQueue.goto_occupies held with ⟨rfl, now⟩ | earlier
          · exact .inr ⟨rfl, (Option.some.inj (extension.symm.trans now)).symm⟩
          · exact .inl (old place address earlier)
  · intro place address held elsewhere
    rcases SharedQueue.goto_occupies held with ⟨rfl, now⟩ | earlier
    · rcases hands address now with same | ⟨cid, srbext, present, rfl, _⟩
      · exact linearizes.clean (.call processor) address (called address same) (by simp)
      · exact linearizes.clean (.slot cid) srbext.address (SharedQueue.occupies_slot present) (by simp)
    · exact linearizes.clean place address (old place address earlier) elsewhere

/-- Between two tests a call does nothing the queue pair does not know of. -/
theorem callMoves {call : CompleteCall} {next : CNvmeQueue} {written : Heap} {loop : CompleteLoop} {pc : CompletePc}
    (linearizes : Linearizes ⟨⟨queue, heap, lock, processors, calls⟩, device, drafts⟩ system)
    (busy : calls processor = some call)
    (finish : (CompleteCall.mk loop pc).finish (lock.finish next) = call.finish (lock.finish queue))
    (finishLoop : (CompleteCall.mk loop pc).finishLoop next = call.finishLoop queue)
    (finishHeap : (CompleteCall.mk loop pc).finishHeap next (lock.finishHeap next written) =
      call.finishHeap queue (lock.finishHeap queue heap))
    (submits : next.trace.submitted = queue.trace.submitted ∧ next.subTail = queue.subTail ∧ next.subDbl = queue.subDbl ∧
      next.depth = queue.depth)
    (depth : next.history.depth = queue.history.depth)
    (slots : ∀ cid srbext, next.history.history cid = some srbext → queue.history.history cid = some srbext)
    (kept : ∀ cid srbext, queue.history.history cid = some srbext → device.fetched ≤ srbext.submission →
      next.history.history cid = some srbext)
    (hands : Hands queue next call pc)
    (reading : Reading ⟨SharedQueue.goto ⟨next, written, lock, processors, calls⟩ processor loop pc, device, drafts⟩
      ⟨loop, pc⟩) :
    Linearizes ⟨SharedQueue.goto ⟨next, written, lock, processors, calls⟩ processor loop pc, device, drafts⟩ system := by
  have here : (calls processor).isSome := by
    rw [busy]
    rfl
  have single : SharedQueue.Single (SharedQueue.goto ⟨next, written, lock, processors, calls⟩ processor loop pc) :=
    .update _ (linearizes.single.inside here) (linearizes.single.others busy)
  obtain ⟨custody, clean⟩ := @call_custody _ _ _ _ _ _ _ _ _ _ next written loop pc linearizes busy hands slots
  refine ⟨?_, linearizes.traced, single, ?_, custody, clean, ?_, ?_⟩
  · rcases linearizes.cases_running with ⟨free, _⟩ | ⟨place, other, running, same, before, log⟩
    · exact absurd ((free processor).symm.trans busy) (by simp)
    · obtain rfl : place = processor := linearizes.single.alone (by rw [running]; rfl) here
      obtain rfl := Option.some.inj (busy.symm.trans running)
      refine .busy single SharedQueue.goto_here ?_ ?_ linearizes.finishes.device ?_
      · exact same.trans finish.symm
      · exact before.trans (congrArg some finishLoop.symm)
      · exact finishHeap ▸ log
  · intro cid srbext held
    exact Nat.lt_of_lt_of_eq (linearizes.inside cid srbext (slots cid srbext held)) depth.symm
  · refine linearizes.holding.mono ?_ submits.1 ?_ kept fun safe => safe
    · intro number announces
      obtain ⟨_, subTail, subDbl, depth⟩ := submits
      refine ⟨announces.last, announces.unfetched, ?_, ?_⟩
      · exact (subTail.trans announces.subTail).trans (congrArg _ depth.symm)
      · exact (subDbl.trans announces.subDbl).trans (congrArg _ depth.symm)
    · intro cid empty
      cases held : next.history.history cid with
      | none => exact held
      | some srbext => exact absurd (empty.symm.trans (slots cid srbext held)) (by simp)
  · intro place other running
    by_cases here : place = processor
    · subst place
      obtain rfl := Option.some.inj (SharedQueue.goto_here.symm.trans running)
      exact reading
    · have idle := linearizes.single.others busy place here
      exact absurd (idle.symm.trans ((SharedQueue.goto_other here).symm.trans running)) (by simp)

private theorem callWrites {loop : CompleteLoop} {pc following : CompletePc} {srbext : SrbExtPtr} {operation : Heap → Heap}
    (linearizes : Linearizes ⟨⟨queue, heap, lock, processors, calls⟩, device, drafts⟩ system)
    (busy : calls processor = some ⟨loop, pc⟩) (acts : Heap.footprint.ActsAt srbext.address operation)
    (hand : (CompleteCall.mk loop pc).hand queue = some srbext)
    (finish : ∀ queue, (CompleteCall.mk loop following).finish queue = (CompleteCall.mk loop pc).finish queue)
    (finishLoop : (CompleteCall.mk loop following).finishLoop queue = (CompleteCall.mk loop pc).finishLoop queue)
    (rest : (lock.finishHeap queue heap).srbext srbext.address = heap.srbext srbext.address →
      (CompleteCall.mk loop following).finishHeap queue (operation (lock.finishHeap queue heap)) =
        (CompleteCall.mk loop pc).finishHeap queue (lock.finishHeap queue heap))
    (keeps : ∀ address, following.extension = some address → pc.extension = some address)
    (popped : ∀ cid, following ≠ .pop cid) :
    Linearizes ⟨SharedQueue.goto ⟨queue, operation heap, lock, processors, calls⟩ processor loop following, device, drafts⟩
      system := by
  have apart : ∀ other, lock.writes = some other → srbext.address ≠ other := fun other own => linearizes.apart busy hand own
  have untouched := @SubLock.finishHeap_other queue lock srbext.address apart heap
  refine linearizes.callMoves busy (finish _) finishLoop ?_ ⟨rfl, rfl, rfl, rfl⟩ rfl (fun _ _ held => held)
    (fun _ _ held _ => held) (fun address own => .inl (keeps address own)) ⟨?_, ?_⟩
  · rw [SubLock.finishHeap_commutes acts apart]
    exact rest untouched
  · exact (linearizes.reading processor _ busy).position
  · exact fun cid pops => absurd pops (popped cid)

private theorem completing {loop : CompleteLoop} {srbext : SrbExtPtr} {pc : CompleteSrbPc} {status : SrbStatus}
    (linearizes : Linearizes ⟨⟨queue, heap, lock, processors, calls⟩, device, drafts⟩ system)
    (busy : calls processor = some ⟨loop, .complete srbext pc status⟩) :
    Linearizes ⟨SharedQueue.completerStep ⟨queue, heap, lock, processors, calls⟩ processor
      ⟨loop, .complete srbext pc status⟩, device, drafts⟩ system := by
  cases pc with
  | store =>
    refine linearizes.callWrites busy (Heap.acts_storeSrbStatus srbext status) rfl (fun _ => rfl) rfl ?_
      (fun _ own => own) (fun _ pops => by cases pops)
    intro _
    exact congrArg (fun heap : Heap => heap.cleanUp srbext.address) (Heap.finishCompleteSrb_store _ srbext status)
  | test =>
    simp only [SharedQueue.completerStep, Heap.completeSrbStep]
    cases internal : (heap.srbext srbext.address).srb.isNone with
    | true =>
      refine @callWrites _ _ _ _ _ _ _ _ _ _ _ (.cleanUp srbext) _ _ linearizes busy (.id srbext.address) rfl (fun _ => rfl)
        rfl ?_ (fun _ own => own) (fun _ pops => by cases pops)
      intro untouched
      simp only [CompleteCall.finishHeap, Heap.finishCompleteSrb, untouched, internal, if_true]
    | false =>
      refine @callWrites _ _ _ _ _ _ _ _ _ _ _ (.complete srbext .notify status) _ _ linearizes busy (.id srbext.address) rfl
        (fun _ => rfl) rfl ?_ (fun _ own => own) (fun _ pops => by cases pops)
      intro untouched
      simp only [CompleteCall.finishHeap, Heap.finishCompleteSrb, untouched, internal, Bool.false_eq_true, if_false]
  | notify =>
    exact linearizes.callWrites busy (Heap.acts_notifySrb srbext.address status) rfl (fun _ => rfl) rfl (fun _ => rfl)
      (fun _ own => own) (fun _ pops => by cases pops)

theorem pop {loop : CompleteLoop} {cid : BitVec 16}
    (linearizes : Linearizes ⟨⟨queue, heap, lock, processors, calls⟩, device, drafts⟩ system)
    (busy : calls processor = some ⟨loop, .pop cid⟩) :
    Linearizes ⟨SharedQueue.completerStep ⟨queue, heap, lock, processors, calls⟩ processor ⟨loop, .pop cid⟩, device, drafts⟩
      system := by
  obtain ⟨position, entry⟩ := linearizes.reading processor _ busy
  obtain ⟨named, seen, srbext, present, fetched⟩ := entry cid rfl
  have named : cid = (queue.cplQ loop.cpl).entry.cid := named
  have seen : queue.subHead = (queue.cplQ loop.cpl).entry.sqhd.toNat := seen
  have present : queue.history.history cid.toNat = some srbext := present
  have popped : queue.popped loop = some srbext := by
    rw [named] at present
    rw [popped_of_lt (linearizes.inside _ srbext present), present]
  have history : queue.poppedHistory loop = Function.update queue.history.history cid.toNat none := by
    rw [named] at present ⊢
    exact poppedHistory_of_lt (linearizes.inside _ srbext present)
  obtain ⟨status, pops⟩ := SharedQueue.pop_popped queue loop
  have stepped : SharedQueue.completerStep ⟨queue, heap, lock, processors, calls⟩ processor ⟨loop, .pop cid⟩ =
      SharedQueue.goto ⟨SharedQueue.taken queue loop, heap, lock, processors, calls⟩ processor
        { loop with srbext := some srbext } (.copy srbext) := by
    simp only [SharedQueue.completerStep, named, pops, popped, SharedQueue.taken, ← seen]
  rw [stepped]
  have emptied : ∀ other found, queue.poppedHistory loop other = some found → queue.history.history other = some found := by
    intro other found held
    rw [history] at held
    exact SharedQueue.Accountable.mem_of_emptied held
  refine linearizes.callMoves busy ?_ ?_ ?_ ⟨rfl, rfl, rfl, rfl⟩ rfl emptied ?_ ?_ ⟨position, fun _ pops => by cases pops⟩
  · have taken : ((lock.finish queue).popped loop).isSome := by rw [SubLock.finish_popped, popped]; rfl
    simp only [CompleteCall.finish, SubLock.finish_taken]
    exact (CNvmeQueue.consume_popped taken).symm
  · simp only [CompleteCall.finishLoop, popped]
    rfl
  · simp only [CompleteCall.finishHeap, CNvmeQueue.poppedHeap, popped]
    cases lock <;> rfl
  · intro other found held unfetched
    have elsewhere : other ≠ cid.toNat := by
      intro here
      rw [here, present] at held
      obtain rfl := Option.some.inj held
      exact Nat.not_lt_of_le unfetched fetched
    simp only [SharedQueue.taken, history, Function.update_of_ne elsewhere]
    exact held
  · intro address own
    refine .inr ⟨cid.toNat, srbext, present, Option.some.inj own, ?_⟩
    simp only [SharedQueue.taken, history, Function.update_self]

theorem decrement {loop : CompleteLoop}
    (linearizes : Linearizes ⟨⟨queue, heap, lock, processors, calls⟩, device, drafts⟩ system)
    (busy : calls processor = some ⟨loop, .decrement⟩) :
    Linearizes ⟨SharedQueue.goto ⟨queue.discounted, heap, lock, processors, calls⟩ processor loop .advance, device, drafts⟩
      system := by
  refine linearizes.callMoves busy ?_ rfl ?_ ⟨rfl, rfl, rfl, rfl⟩ rfl (fun _ _ held => held) (fun _ _ held _ => held)
    (fun _ pops => by cases pops) ⟨(linearizes.reading processor _ busy).position, fun _ pops => by cases pops⟩
  · simp only [CompleteCall.finish, SubLock.finish_discounted]
  · cases lock <;> rfl

theorem advance {loop : CompleteLoop}
    (linearizes : Linearizes ⟨⟨queue, heap, lock, processors, calls⟩, device, drafts⟩ system)
    (busy : calls processor = some ⟨loop, .advance⟩) :
    Linearizes ⟨SharedQueue.goto ⟨queue.updateCplHeadAndPhase, heap, lock, processors, calls⟩ processor
      { loop with cpl := queue.updateCplHeadAndPhase.cplHead, updateCount := loop.updateCount + 1 } .test, device, drafts⟩
      system := by
  refine linearizes.callMoves busy ?_ rfl ?_ ⟨rfl, rfl, rfl, rfl⟩ rfl (fun _ _ held => held) (fun _ _ held _ => held)
    (fun _ pops => by cases pops) ⟨?_, fun _ pops => by cases pops⟩
  · simp only [CompleteCall.finish, SubLock.finish_advance]
  · cases lock <;> rfl
  · have head := linearizes.traced.orderly.steady.layout.host.cplHead
    rw [linearizes.finishes.queue, linearizes.single.finish_busy busy] at head
    simp only [CompleteCall.finish, CNvmeQueue.updateCplHeadAndPhase, SubLock.finish_cplHead, SubLock.finish_passed,
      SubLock.finish_depth] at head
    exact head

theorem found {loop : CompleteLoop}
    (linearizes : Linearizes ⟨⟨queue, heap, lock, processors, calls⟩, device, drafts⟩ system)
    (running : system.loop = some loop) (same : system.queue = lock.finish queue)
    (continues : queue.loopContinues loop = true) :
    ∃ srbext, queue.history.history (queue.cplQ loop.cpl).entry.cid.toNat = some srbext ∧
      srbext.submission < device.fetched := by
  have orderly := linearizes.traced.orderly
  have slot : system.nextSlot loop = queue.cplQ loop.cpl := by rw [System.nextSlot, same, SubLock.finish_cplQ]
  have arrival : newCplArrived (system.nextSlot loop).entry system.queue.phaseTag = true := by
    rw [slot, same, SubLock.finish_phaseTag]
    exact (Bool.and_eq_true_iff.mp continues).1
  obtain ⟨submission, member, cid, answers, unread⟩ := orderly.answer running arrival
  have held := orderly.settled.kept submission member (linearizes.traced.fresh _) unread
  obtain ⟨behind, posted⟩ := orderly.steady.arrived running arrival
  refine ⟨submission.srbext, ?_, ?_⟩
  · rw [← slot, cid]
    exact linearizes.history_kept held
  · have there : some submission.srbext.submission ∈ system.device.posted.map (·.answers) := by
      rw [← answers, posted]
      exact List.mem_map_of_mem (List.getElem_mem behind)
    have ranged := orderly.delivered.once.mem_iff.mp (List.mem_append_right _ there)
    rw [linearizes.finishes.device] at ranged
    simpa using ranged

/-- The test that finds an entry is where an iteration takes effect. -/
theorem iterate {loop : CompleteLoop}
    (linearizes : Linearizes ⟨⟨queue, heap, lock, processors, calls⟩, device, drafts⟩ system)
    (busy : calls processor = some ⟨loop, .test⟩) (continues : queue.loopContinues loop = true) :
    ∃ next, system.step .iterate = some next ∧
      Linearizes ⟨SharedQueue.goto ⟨{ queue with subHead := (queue.cplQ loop.cpl).entry.sqhd.toNat }, heap, lock, processors,
        calls⟩ processor loop (.pop (queue.cplQ loop.cpl).entry.cid), device, drafts⟩ next := by
  rcases linearizes.cases_running with ⟨free, _⟩ | ⟨place, call, running, same, before, log⟩
  · exact absurd ((free processor).symm.trans busy) (by simp)
  have here : (calls processor).isSome := by
    rw [busy]
    rfl
  obtain rfl : place = processor := linearizes.single.alone (by rw [running]; rfl) here
  obtain rfl := Option.some.inj (busy.symm.trans running)
  have same : system.queue = lock.finish queue := same
  have before : system.loop = some loop := before
  obtain ⟨srbext, present, fetched⟩ := linearizes.found before same continues
  have inside := linearizes.inside _ srbext present
  have popped : queue.popped loop = some srbext := (popped_of_lt inside).trans present
  have stepped : system.step .iterate = some (system.iterated loop) := by
    simp only [System.step, before, same, SubLock.finish_continues, continues, if_true, System.iterate_eq]
  let seen : CNvmeQueue := { queue with subHead := (queue.cplQ loop.cpl).entry.sqhd.toNat }
  have single : SharedQueue.Single (SharedQueue.goto ⟨seen, heap, lock, processors, calls⟩ place loop
      (.pop (queue.cplQ loop.cpl).entry.cid)) :=
    .update _ (linearizes.single.inside here) (linearizes.single.others busy)
  have fewer : ∀ keeper address, SharedQueue.occupies (SharedQueue.goto ⟨seen, heap, lock, processors, calls⟩ place loop
      (.pop (queue.cplQ loop.cpl).entry.cid)) keeper address →
      SharedQueue.occupies ⟨queue, heap, lock, processors, calls⟩ keeper address := by
    intro keeper address held
    rcases SharedQueue.goto_occupies held with ⟨_, absent⟩ | old
    · cases absent
    · cases keeper <;> exact old
  have after := linearizes.traced.step (show Unreset .iterate from ⟨rfl, rfl⟩) trivial stepped
  refine ⟨_, stepped, ?_, after, single, linearizes.inside, linearizes.custody.mono fewer fun _ _ live => live, ?_, ?_, ?_⟩
  · refine .busy single SharedQueue.goto_here ?_ ?_ linearizes.finishes.device ?_
    · rw [System.iterated, same]
      exact (lock.finish_sees _).symm
    · simp only [System.iterated, CompleteCall.finishLoop, same, SubLock.finish_cplHead, SubLock.finish_depth,
        SubLock.finish_popped]
      rfl
    · have acts := Heap.acts_finishSrbExt srbext.address (some srbext.submission) (queue.cplQ loop.cpl).entry
      have clean := linearizes.clean (.slot _) srbext.address (SharedQueue.occupies_slot present) (by simp)
      have agree := acts.agree log (fun drafted => absurd (clean.symm.trans drafted) (by simp))
      have left : (system.iterated loop).heap = finishSrbExt system.heap srbext.address (some srbext.submission)
          (queue.cplQ loop.cpl).entry := by
        simp only [System.iterated, CNvmeQueue.poppedHeap, same, SubLock.finish_popped, SubLock.finish_cplQ, popped]
      have right : seen.poppedHeap (lock.finishHeap seen heap) loop = finishSrbExt (lock.finishHeap queue heap)
          srbext.address (some srbext.submission) (queue.cplQ loop.cpl).entry := by
        have still : seen.popped loop = some srbext := popped
        simp only [CNvmeQueue.poppedHeap, still]
        cases lock <;> rfl
      rw [left]
      exact Eq.mpr (congrArg _ right) agree
  · intro keeper address held
    exact linearizes.clean keeper address (fewer keeper address held)
  · refine linearizes.holding.mono ?_ rfl (fun _ empty => empty) (fun _ _ present _ => present) ?_
    · intro number announces
      exact ⟨announces.last, announces.unfetched, announces.subTail, announces.subDbl⟩
    · intro safe
      -- the iteration leaves fewer slots occupied
      have room := (linearizes.traced.throttled.safe_iff linearizes.traced.orderly.steady.counted).mp safe
      rw [after.throttled.safe_iff after.orderly.steady.counted]
      have within : (system.queue.cplQ loop.cpl).entry.cid.toNat < system.queue.history.depth := by
        rw [linearizes.historyDepth, same, SubLock.finish_cplQ]
        exact inside
      have fewerSlots := occupied_consume within
      simp only [System.iterated, CNvmeQueue.consume_replaced, CNvmeQueue.consume_depth]
      omega
  · intro other call running
    by_cases own : other = place
    · subst other
      obtain rfl := Option.some.inj (SharedQueue.goto_here.symm.trans running)
      refine ⟨(linearizes.reading place _ busy).position, ?_⟩
      intro cid pops
      obtain rfl := CompletePc.pop.inj pops
      exact ⟨rfl, rfl, srbext, present, fetched⟩
    · have idle := linearizes.single.others busy other own
      exact absurd (idle.symm.trans ((SharedQueue.goto_other own).symm.trans running)) (by simp)

/-- A test that ends the loop ends the call. -/
theorem leave {loop : CompleteLoop}
    (linearizes : Linearizes ⟨⟨queue, heap, lock, processors, calls⟩, device, drafts⟩ system)
    (busy : calls processor = some ⟨loop, .test⟩) (ended : queue.loopContinues loop = false) :
    ∃ next, system.step .leave = some next ∧
      Linearizes ⟨⟨queue.leaveCompleteCmd loop, heap, lock, processors, Function.update calls processor none⟩, device, drafts⟩
        next := by
  rcases linearizes.cases_running with ⟨free, _⟩ | ⟨place, call, running, same, before, log⟩
  · exact absurd ((free processor).symm.trans busy) (by simp)
  have here : (calls processor).isSome := by
    rw [busy]
    rfl
  obtain rfl : place = processor := linearizes.single.alone (by rw [running]; rfl) here
  obtain rfl := Option.some.inj (busy.symm.trans running)
  have same : system.queue = lock.finish queue := same
  have before : system.loop = some loop := before
  have stepped : system.step .leave = some { system with queue := system.queue.leaveCompleteCmd loop, loop := none } := by
    simp only [System.step, before, same, SubLock.finish_continues, ended, Bool.false_eq_true, if_false]
  have free : ∀ other, Function.update calls place none other = none := by
    intro other
    by_cases own : other = place
    · rw [own, Function.update_self]
    · rw [Function.update_of_ne own]
      exact linearizes.single.others busy other own
  have single : SharedQueue.Single ⟨queue.leaveCompleteCmd loop, heap, lock, processors, Function.update calls place none⟩ :=
    .update _ (linearizes.single.inside here) (linearizes.single.others busy)
  have after := linearizes.traced.step (show Unreset .leave from ⟨rfl, rfl⟩) trivial stepped
  obtain ⟨cplDbl, doorbell⟩ := queue.leaveCompleteCmd_eq loop
  have fewer : ∀ keeper address, SharedQueue.occupies
      ⟨queue.leaveCompleteCmd loop, heap, lock, processors, Function.update calls place none⟩ keeper address →
      SharedQueue.occupies ⟨queue, heap, lock, processors, calls⟩ keeper address := by
    intro keeper address held
    rw [doorbell] at held
    cases keeper with
    | slot index => exact held
    | holder => exact held
    | call other =>
      simp only [SharedQueue.occupies, free other, Option.bind_none] at held
      cases held
  refine ⟨_, stepped, ?_, after, single, ?_, linearizes.custody.mono fewer fun _ _ live => live, ?_, ?_, ?_⟩
  · refine .idle free ?_ rfl linearizes.finishes.device ?_
    · rw [same]
      exact lock.finish_leave.symm
    · rw [doorbell]
      cases lock <;> exact log
  · rw [doorbell]
    exact linearizes.inside
  · intro keeper address held
    exact linearizes.clean keeper address (fewer keeper address held)
  · obtain ⟨other, also⟩ := system.queue.leaveCompleteCmd_eq loop
    rw [doorbell, also]
    refine linearizes.holding.mono ?_ rfl (fun _ empty => empty) (fun _ _ present _ => present) (fun safe => safe)
    intro number announces
    exact ⟨announces.last, announces.unfetched, announces.subTail, announces.subDbl⟩
  · intro other call running
    exact absurd ((free other).symm.trans running) (by simp)

theorem within {loop : CompleteLoop} {pc : CompletePc}
    (linearizes : Linearizes ⟨⟨queue, heap, lock, processors, calls⟩, device, drafts⟩ system)
    (busy : calls processor = some ⟨loop, pc⟩) (inside : pc ≠ .test) :
    Linearizes ⟨SharedQueue.completerStep ⟨queue, heap, lock, processors, calls⟩ processor ⟨loop, pc⟩, device, drafts⟩
      system := by
  cases pc with
  | test => exact absurd rfl inside
  | pop cid => exact linearizes.pop busy
  | copy srbext =>
    have writes := Heap.writes_put srbext.address fun record => { record with nvmeCpl := (queue.cplQ loop.cpl).entry }
    exact linearizes.callWrites busy writes.actsAt rfl (fun _ => rfl) rfl (fun _ => rfl) (fun _ own => own) (fun _ pops => by cases pops)
  | callback srbext =>
    have acts := Heap.acts_runCompletionCB srbext.address (some srbext.submission)
    exact linearizes.callWrites busy acts rfl (fun _ => rfl) rfl (fun _ => rfl) (fun _ own => own) (fun _ pops => by cases pops)
  | status srbext =>
    refine @callWrites _ _ _ _ _ _ _ _ _ _ _ (.complete srbext .store _) _ _ linearizes busy (.id srbext.address) rfl
      (fun _ => rfl) rfl ?_ (fun _ own => own) (fun _ pops => by cases pops)
    intro untouched
    simp only [CompleteCall.finishHeap, Heap.finishCompleteSrb, untouched]
  | complete srbext pc status => exact linearizes.completing busy
  | cleanUp srbext =>
    exact linearizes.callWrites busy (Heap.acts_cleanUp srbext.address) rfl (fun _ => rfl) rfl (fun _ => rfl)
      (fun _ pops => by cases pops) (fun _ pops => by cases pops)
  | decrement => exact linearizes.decrement busy
  | advance => exact linearizes.advance busy

theorem completer {before after : SharedSystem} (linearizes : Linearizes before system)
    (taken : before.step (.host (.completer processor)) = some after) :
    ∃ next, Machine.run System.step system (before.effect (.host (.completer processor))) = some next ∧
      Linearizes after next := by
  obtain ⟨⟨queue, heap, lock, processors, calls⟩, device, drafts⟩ := before
  obtain ⟨shared, moved, rfl⟩ := Option.map_eq_some_iff.mp taken
  obtain ⟨⟨loop, pc⟩, busy, rfl⟩ := Option.map_eq_some_iff.mp moved
  have busy : calls processor = some ⟨loop, pc⟩ := busy
  by_cases inside : pc = .test
  · subst pc
    simp only [effect, busy, Option.elim_some, callEffect, SharedQueue.completerStep]
    cases continues : queue.loopContinues loop with
    | true =>
      obtain ⟨next, stepped, kept⟩ := linearizes.iterate busy continues
      exact ⟨next, Machine.run_single stepped, kept⟩
    | false =>
      obtain ⟨next, stepped, kept⟩ := linearizes.leave busy continues
      exact ⟨next, Machine.run_single stepped, kept⟩
  · have silent : effect ⟨⟨queue, heap, lock, processors, calls⟩, device, drafts⟩ (.host (.completer processor)) = [] := by
      simp only [effect, busy, Option.elim_some, callEffect]
    rw [silent]
    exact ⟨system, rfl, linearizes.within busy inside⟩

end Completer

theorem fetch {before after : SharedSystem} {system : System} (linearizes : Linearizes before system)
    (taken : before.step .fetch = some after) :
    ∃ next, Machine.run System.step system (before.effect .fetch) = some next ∧ Linearizes after next := by
  have behind : before.device.sqHead ≠ before.shared.queue.subDbl := by
    intro caught
    simp [step, caught] at taken
  obtain ⟨ready, same⟩ := linearizes.fetches behind
  simp only [step, behind, if_false, Option.some.injEq] at taken
  subst taken
  have stepped : system.step .fetch = some { system with device := system.device.fetch system.queue } := if_neg ready
  refine ⟨_, Machine.run_single stepped, ?_⟩
  have finishes := linearizes.finishes
  refine ⟨⟨finishes.queue, finishes.loop, same, finishes.heap⟩, linearizes.traced.step (show Unreset .fetch from ⟨rfl, rfl⟩) trivial stepped,
    linearizes.single, linearizes.inside, linearizes.custody, linearizes.clean, ?_, ?_⟩
  · have holding := linearizes.holding
    refine holding.mono ?_ rfl (fun _ empty => empty) (fun _ _ present _ => present) (fun safe => safe)
    intro number announces
    exact ⟨announces.last, (linearizes.fetch_behind announces behind).1, announces.subTail, announces.subDbl⟩
  · intro processor call busy
    exact (linearizes.reading processor call busy).mono rfl (fun _ => rfl) rfl (fun _ _ present => present) (Nat.le_succ _)

theorem post {before after : SharedSystem} {system : System} {index : Nat} {reply : Reply}
    (linearizes : Linearizes before system) (taken : before.step (.post index reply) = some after) :
    ∃ next, Machine.run System.step system (before.effect (.post index reply)) = some next ∧ Linearizes after next := by
  obtain ⟨submission, pending, rfl⟩ := Option.map_eq_some_iff.mp taken
  have finishes := linearizes.finishes
  have stepped : system.step (.post index reply) = some (system.post index submission reply) := by
    simp only [System.step, finishes.device, pending, Option.map_some]
  refine ⟨_, Machine.run_single stepped, ?_⟩
  have apart : ∀ processor call, before.shared.calls processor = some call → call.reads = true →
      call.loop.cpl ≠ before.device.cqTail := fun _ _ => linearizes.post_apart
  have single : (before.post index submission reply).shared.Single := ⟨linearizes.single.alone, linearizes.single.inside⟩
  have device : (system.post index submission reply).device = (before.post index submission reply).device := by
    simp only [System.post, SharedSystem.post, finishes.device, linearizes.depth]
  have written : (system.post index submission reply).queue =
      system.queue.posted before.device.cqTail (before.device.answer submission reply) := by
    rw [System.post, finishes.device]
    rfl
  refine ⟨?_, linearizes.traced.step (show Unreset (.post index reply) from ⟨rfl, rfl⟩) trivial stepped, single,
    linearizes.inside, ⟨linearizes.custody.exclusive, fun _ => trivial⟩, linearizes.clean, ?_, ?_⟩
  · rcases linearizes.cases_running with ⟨free, queue, loop, heap⟩ | ⟨processor, call, busy, queue, loop, heap⟩
    · refine .idle free ?_ loop device ?_
      · rw [written, queue]
        exact (before.shared.subLock.finish_posted ..).symm
      · rw [← SubLock.finishHeap_posted] at heap
        exact heap
    · have elsewhere := apart processor call busy
      have popped := @CompleteCall.popped_posted before.shared.queue call before.device.cqTail
        (before.device.answer submission reply) elsewhere
      refine .busy single busy ?_ ?_ device ?_
      · rw [written, queue, ← CompleteCall.finish_posted elsewhere, ← SubLock.finish_posted]
        rfl
      · rw [System.post, loop]
        exact congrArg some (CompleteCall.finishLoop_congr popped rfl).symm
      · rw [← SubLock.finishHeap_posted, ← CompleteCall.finishHeap_congr popped] at heap
        · exact heap
        · intro reads
          exact Function.update_of_ne (elsewhere reads) ..
  · refine linearizes.holding.mono ?_ rfl (fun _ empty => empty) (fun _ _ present _ => present) (fun safe => safe)
    intro number announces
    exact ⟨announces.last, announces.unfetched, announces.subTail, announces.subDbl⟩
  · intro processor call busy
    refine (linearizes.reading processor call busy).mono rfl ?_ rfl (fun _ _ present => present) (Nat.le_refl _)
    intro reads
    exact Function.update_of_ne (apart processor call busy reads) ..

theorem follows : Machine.Follows SharedSystem.step System.step SharedSystem.effect SharedSystem.Cooperative Linearizes where
  matched := by
    intro before after system event linearizes cooperative taken
    cases event with
    | host event =>
      cases event with
      | prepare address record => exact ⟨system, rfl, linearizes.prepare cooperative taken⟩
      | submit address cmd => exact ⟨system, rfl, linearizes.submit cooperative.1 cooperative.2 taken⟩
      | reset => exact cooperative.elim
      | holder => exact linearizes.holder taken
      | enter processor maxCount => exact linearizes.enter cooperative taken
      | completer processor => exact linearizes.completer taken
      | scribble slot written => exact cooperative.elim
    | fetch => exact linearizes.fetch taken
    | post index reply => exact linearizes.post taken

end Linearizes

/-- However the steps of the calls are interleaved with each other and with the
controller's, they do what the functions do one after another, each at the step where it
takes effect; what is in progress at the end differs only by what it is about to do. -/
theorem shared_linearizes {config : QueuePairConfig} (deep : safeSubmitThreshold < config.depth) {srbext : Nat → SrbExt}
    {slotCount : BitVec 3} {processors : Nat} {events : List SharedSystemEvent} {final : SharedSystem}
    (cooperative : Machine.Meets SharedSystem.step SharedSystem.Cooperative
      (.initial config srbext slotCount processors) events)
    (ran : Machine.run SharedSystem.step (.initial config srbext slotCount processors) events = some final) :
    ∃ state, Machine.run System.step (.initial config srbext slotCount)
        (Machine.effects SharedSystem.step SharedSystem.effect (.initial config srbext slotCount processors) events) =
          some state ∧ final.Finishes state := by
  obtain ⟨state, reached, linearizes⟩ := Linearizes.follows.run (.initial deep srbext slotCount processors) cooperative ran
  exact ⟨state, reached, linearizes.finishes⟩

def sampleStart : SharedSystem := .initial sampleQueue (fun _ => .init none) 1 2

def sampleConcurrent : List SharedSystemEvent :=
  [.host (.prepare 0 (.init (some sampleSrb))), .host (.submit 0 (SharedQueue.sampleCmd 0)), .host .holder,
    .host (.prepare 1 (.init (some sampleSrb))), .host .holder, .host .holder, .host .holder, .fetch,
    .host (.submit 1 (SharedQueue.sampleCmd 1)), .host .holder, .post 0 sampleReply, .host (.enter 1 0),
    .host (.completer 1), .host .holder, .host (.completer 1), .host .holder, .host (.completer 1),
    .host (.completer 1), .host .holder, .host (.completer 1), .fetch, .host (.completer 1), .post 0 sampleReply,
    .host (.completer 1), .host (.completer 1)]

theorem shared_linearizes_overlap :
    ∃ final state, Machine.run SharedSystem.step sampleStart sampleConcurrent = some final ∧
      Machine.run System.step (.initial sampleQueue (fun _ => .init none) 1)
        (Machine.effects SharedSystem.step SharedSystem.effect sampleStart sampleConcurrent) = some state ∧
      final.Finishes state := by
  obtain ⟨final, ran⟩ := Option.isSome_iff_exists.mp
    (by decide +kernel : (Machine.run SharedSystem.step sampleStart sampleConcurrent).isSome = true)
  have cooperative : Machine.Meets SharedSystem.step SharedSystem.Cooperative sampleStart sampleConcurrent := by
    decide +kernel
  obtain ⟨state, reached, finishes⟩ := shared_linearizes (by decide) cooperative ran
  exact ⟨final, state, ran, reached, finishes⟩

end SharedSystem

end SpcNvme
