import SpcNvme.Proofs.PrpList

/-! Which bytes the PRP entries of a request address. They are bytes of its buffer,
unless the buffer ends where its first page does. -/

namespace SpcNvme

def Memory.Addresses (memory : Memory) (buffer bufSize : Nat) (entry : BitVec 64) : Prop :=
  ∃ index, index < bufSize ∧ entry = memory.mmGetPhysicalAddress (buffer + index)

/-- What `BuildPrp` stored, in a command whose PRP2 was 0 and in a list that was
empty, addresses nothing but the buffer. The address of a list is that of its own page. -/
structure PrpsInside (memory : Memory) (buffer bufSize : Nat) (srbext : SrbExt) (cmd : NvmeCommand) : Prop where
  prp1 : memory.Addresses buffer bufSize cmd.prp1
  prp2 : cmd.prp2 = 0 ∨ memory.Addresses buffer bufSize cmd.prp2 ∨ srbext.prp2List ≠ [] ∧ cmd.prp2 = srbext.prp2PA
  prp2List : ∀ entry ∈ srbext.prp2List, memory.Addresses buffer bufSize entry
  onePage : bufSize ≤ getDistanceToNextPage buffer → cmd.prp2 = 0

variable {memory : Memory} {buffer bufSize : Nat}

private theorem Memory.addresses_first (positive : 0 < bufSize) :
    memory.Addresses buffer bufSize (memory.mmGetPhysicalAddress buffer) :=
  ⟨0, positive, rfl⟩

private theorem buildPrp2List_addresses {distance : Nat} :
    ∀ entry ∈ buildPrp2List memory (buffer + distance) (bufSize - distance) (bufSize - distance),
      memory.Addresses buffer bufSize entry := by
  intro entry member
  rw [buildPrp2List_eq memory _ (Nat.le_refl _)] at member
  obtain ⟨index, inside, rfl⟩ := List.mem_map.mp member
  have page := List.mem_range.mp inside
  refine ⟨distance + index * pageSize, ?_, by rw [Nat.add_assoc]⟩
  simp only [pageSize]
  omega

private theorem buildPrp2List_ne_nil (memory : Memory) (cursor : Nat) {sizeLeft : Nat} (positive : 0 < sizeLeft) :
    buildPrp2List memory cursor sizeLeft sizeLeft ≠ [] := by
  intro empty
  have length := length_buildPrp2List memory cursor (Nat.le_refl sizeLeft)
  rw [empty, List.length_nil] at length
  omega

section
variable {srbext : SrbExt} {cmd : NvmeCommand} (empty : srbext.prp2List = [])
include empty

private theorem buildPrp_inside_of_lt (unset : cmd.prp2 = 0) (positive : 0 < bufSize) (short : bufSize < getDistanceToNextPage buffer) :
    PrpsInside memory buffer bufSize (buildPrp memory srbext cmd buffer bufSize).2.1
      (buildPrp memory srbext cmd buffer bufSize).2.2 := by
  simp only [buildPrp, gt_iff_lt, short, if_true]
  exact ⟨Memory.addresses_first positive, .inl unset, by simp [empty], fun _ => unset⟩

private theorem buildPrp_inside_of_gt (unset : cmd.prp2 = 0) (crosses : getDistanceToNextPage buffer < bufSize) :
    PrpsInside memory buffer bufSize (buildPrp memory srbext cmd buffer bufSize).2.1
      (buildPrp memory srbext cmd buffer bufSize).2.2 := by
  have first : memory.Addresses buffer bufSize (memory.mmGetPhysicalAddress buffer) :=
    Memory.addresses_first (Nat.zero_lt_of_lt crosses)
  have long : ¬ bufSize < getDistanceToNextPage buffer := Nat.not_lt.mpr (Nat.le_of_lt crosses)
  have behind : ¬ bufSize ≤ getDistanceToNextPage buffer := Nat.not_le.mpr crosses
  simp only [buildPrp, gt_iff_lt, long, if_false]
  split
  · exact ⟨first, .inr (.inl ⟨_, crosses, rfl⟩), by simp [empty], fun one => absurd one behind⟩
  · split
    · exact ⟨first, .inl unset, by simp [empty], fun _ => unset⟩
    · have built := buildPrp2List_ne_nil memory (buffer + getDistanceToNextPage buffer) (Nat.sub_pos_of_lt crosses)
      exact ⟨first, .inr (.inr ⟨built, rfl⟩), buildPrp2List_addresses, fun one => absurd one behind⟩

/-- The buffer ends with its page, and PRP2 is made for the byte behind it. -/
theorem buildPrp_inside_of_eq_iff (positive : 0 < bufSize) (ends : bufSize = getDistanceToNextPage buffer) :
    PrpsInside memory buffer bufSize (buildPrp memory srbext cmd buffer bufSize).2.1
        (buildPrp memory srbext cmd buffer bufSize).2.2 ↔
      memory.mmGetPhysicalAddress (buffer + bufSize) = 0 := by
  simp only [buildPrp, gt_iff_lt, ← ends, Nat.lt_irrefl, if_false, Nat.sub_self, Nat.zero_le, if_true]
  constructor
  · intro inside
    exact inside.onePage (Nat.le_of_eq ends)
  · intro zero
    exact ⟨Memory.addresses_first positive, .inl zero, by simp [empty], fun _ => zero⟩

end

/-- Only a buffer that ends where its first page does gets an entry for a byte that
is not its own, and none if that byte is at the physical address 0. -/
theorem buildPrp_inside_iff (memory : Memory) (srbext : SrbExt) (cmd : NvmeCommand) (buffer : Nat) {bufSize : Nat}
    (positive : 0 < bufSize) :
    PrpsInside memory buffer bufSize
        (buildPrp memory { srbext with prp2List := [] } { cmd with prp2 := 0 } buffer bufSize).2.1
        (buildPrp memory { srbext with prp2List := [] } { cmd with prp2 := 0 } buffer bufSize).2.2 ↔
      bufSize ≠ getDistanceToNextPage buffer ∨ memory.mmGetPhysicalAddress (buffer + bufSize) = 0 := by
  by_cases ends : bufSize = getDistanceToNextPage buffer
  · rw [buildPrp_inside_of_eq_iff rfl positive ends, or_iff_right (not_not.mpr ends)]
  · refine ⟨fun _ => .inl ends, fun _ => ?_⟩
    obtain short | crosses := Nat.lt_or_gt_of_ne ends
    · exact buildPrp_inside_of_lt rfl rfl positive short
    · exact buildPrp_inside_of_gt rfl rfl crosses

/-- A buffer of one byte less than its page. -/
theorem buildPrp_inside_short :
    0 < 4095 ∧ PrpsInside ⟨fun address => BitVec.ofNat 64 (4096 + address), none⟩ 0 4095
      (buildPrp ⟨fun address => BitVec.ofNat 64 (4096 + address), none⟩ { SrbExt.init none with prp2List := [] }
        { NvmeCommand.zero with prp2 := 0 } 0 4095).2.1
      (buildPrp ⟨fun address => BitVec.ofNat 64 (4096 + address), none⟩ { SrbExt.init none with prp2List := [] }
        { NvmeCommand.zero with prp2 := 0 } 0 4095).2.2 :=
  ⟨by decide, (buildPrp_inside_iff _ _ _ 0 (by decide)).mpr (.inl (by decide))⟩

/-- One whole page. -/
theorem buildPrp_points_behind :
    ¬ PrpsInside ⟨fun address => BitVec.ofNat 64 (4096 + address), none⟩ 0 4096
      (buildPrp ⟨fun address => BitVec.ofNat 64 (4096 + address), none⟩ (.init none) .zero 0 4096).2.1
      (buildPrp ⟨fun address => BitVec.ofNat 64 (4096 + address), none⟩ (.init none) .zero 0 4096).2.2 := by
  intro inside
  have stored := inside.onePage (by decide)
  cases stored

end SpcNvme
