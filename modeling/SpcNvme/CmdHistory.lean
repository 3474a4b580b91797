import SpcNvme.SrbExt

/-! The table of outstanding commands of one queue, indexed by command identifier. -/

namespace SpcNvme

/-- A `PSPCNVME_SRBEXT` held by a queue. `submission` is the number of the
accepted `SubmitCmd` call the pointer came with; no function branches on it. -/
structure SrbExtPtr where
  address : Nat
  submission : Nat
deriving DecidableEq, Repr

structure CCmdHistory where
  depth : Nat
  history : Nat → Option SrbExtPtr

namespace CCmdHistory

def setup (depth : Nat) : CCmdHistory := ⟨depth, fun _ => none⟩

def push (table : CCmdHistory) (index : Nat) (srbext : SrbExtPtr) : NtStatus × CCmdHistory :=
  if index ≥ table.depth then (.unsuccessful, table)
  else match table.history index with
    | some _ => (.alreadyCommitted, table)
    | none => (.success, { table with history := Function.update table.history index (some srbext) })

/-- `Pop`; the second component is its out-parameter, which an index out of range leaves alone. -/
def pop (table : CCmdHistory) (index : Nat) (srbext : Option SrbExtPtr) : NtStatus × Option SrbExtPtr × CCmdHistory :=
  if index ≥ table.depth then (.unsuccessful, srbext, table)
  else
    let taken := table.history index
    let cleared := { table with history := Function.update table.history index none }
    (if taken.isNone then .invalidDeviceState else .success, taken, cleared)

def resetUpTo (table : CCmdHistory) (heap : Heap) : Nat → CCmdHistory × Heap
  | 0 => (table, heap)
  | count + 1 =>
      let (table, heap) := resetUpTo table heap count
      match table.history count with
      | none => (table, heap)
      | some srbext =>
          ({ table with history := Function.update table.history count none },
            heap.completeSrb srbext.address (some srbext.submission) .busReset)

def reset (table : CCmdHistory) (heap : Heap) : CCmdHistory × Heap := table.resetUpTo heap table.depth

end CCmdHistory

end SpcNvme
