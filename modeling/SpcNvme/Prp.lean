import SpcNvme.SrbExt

/-! Physical region pages: how the address and length of a data buffer become
the two PRP fields of a command and, for long buffers, a list of pages. -/

namespace SpcNvme

/-- What the builders ask the system for: physical addresses, and the page for a
PRP list, or NULL. -/
structure Memory where
  mmGetPhysicalAddress : Nat → BitVec 64
  prp2Pool : Option Nat

def pageSize : Nat := 4096

def getDistanceToNextPage (ptr : Nat) : Nat := ptr / pageSize * pageSize + pageSize - ptr

/-- The loop of `BuildPrp2List`. Every turn takes at least one byte, so the size
itself is enough fuel. -/
def buildPrp2List (memory : Memory) (cursor sizeLeft : Nat) : Nat → List (BitVec 64)
  | 0 => []
  | fuel + 1 =>
      if sizeLeft = 0 then []
      else
        let rest := if sizeLeft ≤ pageSize then buildPrp2List memory cursor 0 fuel
          else buildPrp2List memory (cursor + pageSize) (sizeLeft - pageSize) fuel
        memory.mmGetPhysicalAddress cursor :: rest

def buildPrp (memory : Memory) (srbext : SrbExt) (cmd : NvmeCommand) (buffer bufSize : Nat) :
    Bool × SrbExt × NvmeCommand :=
  let srbext := { srbext with prpSize := bufSize }
  let cmd := { cmd with prp1 := memory.mmGetPhysicalAddress buffer }
  let distance := getDistanceToNextPage buffer
  if distance > bufSize then (true, srbext, cmd)
  else
    let sizeLeft := bufSize - distance
    let cursor := buffer + distance
    if sizeLeft ≤ pageSize then (true, srbext, { cmd with prp2 := memory.mmGetPhysicalAddress cursor })
    else match memory.prp2Pool with
      | none => (false, { srbext with prp2VA := none }, cmd)
      | some page =>
          let prp2PA := memory.mmGetPhysicalAddress page
          (true,
            { srbext with
              prp2VA := some page
              freePrp2List := true
              prp2PA := prp2PA
              prp2List := buildPrp2List memory cursor sizeLeft sizeLeft },
            { cmd with prp2 := prp2PA })

/-- Building the PRPs touches nothing of a command but its PRP fields. -/
theorem buildPrp_cmd (memory : Memory) (srbext : SrbExt) (cmd : NvmeCommand) (buffer bufSize : Nat) :
    ∃ prp1 prp2, (buildPrp memory srbext cmd buffer bufSize).2.2 = { cmd with prp1 := prp1, prp2 := prp2 } := by
  simp only [buildPrp]
  split
  · exact ⟨_, cmd.prp2, rfl⟩
  · split
    · exact ⟨_, _, rfl⟩
    · split
      · exact ⟨_, cmd.prp2, rfl⟩
      · exact ⟨_, _, rfl⟩

theorem buildPrp_srbext (memory : Memory) (srbext : SrbExt) (cmd : NvmeCommand) (buffer bufSize : Nat) :
    ∃ freePrp2List prp2VA prp2List prp2PA, (buildPrp memory srbext cmd buffer bufSize).2.1 =
      { srbext with
        freePrp2List := freePrp2List
        prp2VA := prp2VA
        prp2List := prp2List
        prp2PA := prp2PA
        prpSize := bufSize } := by
  simp only [buildPrp]
  split
  · exact ⟨_, _, _, _, rfl⟩
  · split
    · exact ⟨_, _, _, _, rfl⟩
    · split
      · exact ⟨_, _, _, _, rfl⟩
      · exact ⟨_, _, _, _, rfl⟩

end SpcNvme
