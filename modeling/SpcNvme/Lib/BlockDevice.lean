import SpcNvme.Lib.ScatterGather

/-! A block device as its clients see it: a disk, their memory, and transfers that
copy a stretch of one to the other, each in one piece. -/

namespace BlockDevice
open ScatterGather

universe u
variable {β : Type u}

/-- So many cells from the first one on. -/
def stretch (start count : Nat) : List Nat := (List.range count).map (start + ·)

@[simp] theorem length_stretch (start count : Nat) : (stretch start count).length = count := by simp [stretch]

theorem mem_stretch {start count place : Nat} : place ∈ stretch start count ↔ start ≤ place ∧ place < start + count := by
  simp only [stretch, List.mem_map, List.mem_range]
  constructor
  · intro found
    obtain ⟨index, inside, rfl⟩ := found
    omega
  · intro between
    exact ⟨place - start, by omega, by omega⟩

theorem nodup_stretch (start count : Nat) : (stretch start count).Nodup :=
  List.nodup_range.map fun _ _ same => Nat.add_left_cancel same

structure State (β : Type u) where
  memory : Nat → β
  disk : Nat → β

/-- `start` is the first cell on the disk, `buffer` the first one in memory. -/
structure Transfer where
  toDisk : Bool
  start : Nat
  buffer : Nat
  count : Nat
deriving DecidableEq, Repr

namespace Transfer

def onDisk (transfer : Transfer) : List Nat := stretch transfer.start transfer.count

def inMemory (transfer : Transfer) : List Nat := stretch transfer.buffer transfer.count

def perform (transfer : Transfer) (state : State β) : State β :=
  if transfer.toDisk then
    { state with disk := scatter state.disk transfer.onDisk (gather state.memory transfer.inMemory) }
  else { state with memory := scatter state.memory transfer.inMemory (gather state.disk transfer.onDisk) }

/-- Only a transfer to the disk that meets a stretch of it changes the stretch. -/
theorem perform_disk_apart {transfer : Transfer} {places : List Nat}
    (apart : transfer.toDisk = true → ∀ place ∈ places, place ∉ transfer.onDisk) (state : State β) :
    gather (transfer.perform state).disk places = gather state.disk places := by
  unfold perform
  split
  · next writes => exact gather_scatter_apart (apart writes)
  · rfl

theorem write_stores {write : Transfer} (writes : write.toDisk = true) (state : State β) :
    gather (write.perform state).disk write.onDisk = gather state.memory write.inMemory := by
  simp only [perform, writes, if_true]
  apply gather_scatter (nodup_stretch ..)
  simp only [length_gather, inMemory, length_stretch]

theorem read_loads {read : Transfer} (reads : read.toDisk = false) (state : State β) :
    gather (read.perform state).memory read.inMemory = gather state.disk read.onDisk := by
  simp only [perform, reads, Bool.false_eq_true, if_false]
  apply gather_scatter (nodup_stretch ..)
  simp only [length_gather, onDisk, length_stretch]

end Transfer

/-- What happens to the two: a transfer, or a client writes to its memory. -/
inductive Operation (β : Type u) where
  | transfer (copy : Transfer)
  | store (cell : Nat) (value : β)

namespace Operation

def perform (state : State β) : Operation β → State β
  | transfer copy => copy.perform state
  | store cell value => { state with memory := Function.update state.memory cell value }

def performAll (operations : List (Operation β)) (state : State β) : State β := operations.foldl perform state

@[simp] theorem performAll_nil (state : State β) : performAll [] state = state := rfl

theorem performAll_concat (operations : List (Operation β)) (last : Operation β) (state : State β) :
    performAll (operations ++ [last]) state = last.perform (performAll operations state) := by
  simp [performAll]

theorem performAll_append (first rest : List (Operation β)) (state : State β) :
    performAll (first ++ rest) state = performAll rest (performAll first state) := List.foldl_append

/-- The operation is no transfer to any of these places on the disk. -/
def SparesDisk (places : List Nat) : Operation β → Prop
  | transfer copy => copy.toDisk = true → ∀ place ∈ places, place ∉ copy.onDisk
  | store .. => True

theorem performAll_disk_apart {operations : List (Operation β)} {places : List Nat}
    (spares : ∀ operation ∈ operations, operation.SparesDisk places) (state : State β) :
    gather (performAll operations state).disk places = gather state.disk places := by
  induction operations generalizing state with
  | nil => rfl
  | cons first rest ih =>
    have here : gather (first.perform state).disk places = gather state.disk places := by
      have spared := spares first List.mem_cons_self
      cases first with
      | transfer copy => exact copy.perform_disk_apart spared state
      | store => rfl
    rw [← here]
    exact ih (fun operation member => spares operation (List.mem_cons_of_mem first member)) (first.perform state)

/-- A read gets what the last write of its stretch stored, whatever happened
elsewhere on the disk or in memory between them. -/
theorem read_after_write {write read : Transfer} {between : List (Operation β)} (writes : write.toDisk = true)
    (reads : read.toDisk = false) (same : read.onDisk = write.onDisk)
    (spares : ∀ operation ∈ between, operation.SparesDisk write.onDisk) (state : State β) :
    gather (performAll ([transfer write] ++ between ++ [transfer read]) state).memory read.inMemory =
      gather state.memory write.inMemory := by
  rw [performAll_concat]
  refine Eq.trans (read.read_loads reads _) ?_
  rw [performAll_append, same, performAll_disk_apart spares]
  exact write.write_stores writes state

end Operation

end BlockDevice
