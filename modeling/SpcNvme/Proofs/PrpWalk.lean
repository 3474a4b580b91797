import SpcNvme.Transfers
import SpcNvme.Proofs.PrpList

/-! Where a device finds the bytes of a transfer. It reads the two PRP fields and,
for a long transfer, a list of pages from memory; the buffer it arrives at is the
one `BuildPrp` was given. -/

namespace SpcNvme

namespace Memory
variable {memory : Memory}

private theorem physical_zero (memory : Memory) (buffer : Nat) : memory.physical buffer 0 = [] := rfl

private theorem physical_append (memory : Memory) (buffer first rest : Nat) :
    memory.physical buffer (first + rest) = memory.physical buffer first ++ memory.physical (buffer + first) rest := by
  simp only [physical, List.range_add, List.map_append, List.map_map, Function.comp_def, Nat.add_assoc]

/-- Inside one page addresses stay consecutive. -/
theorem PageWise.consecutive (pageWise : memory.PageWise) {buffer : Nat} {count : Nat}
    (inside : buffer % 4096 + count ≤ 4096) :
    consecutive (memory.mmGetPhysicalAddress buffer).toNat count = memory.physical buffer count := by
  have steps : ∀ index, index < count → (memory.mmGetPhysicalAddress (buffer + index)).toNat =
      (memory.mmGetPhysicalAddress buffer).toNat + index := by
    intro index
    induction index with
    | zero =>
      intro _
      rfl
    | succ index ih =>
      intro below
      have same := ih (by omega)
      have within : (buffer + index + 1) % 4096 ≠ 0 := by omega
      rw [← Nat.add_assoc, pageWise.next _ within, same, Nat.add_assoc]
  apply List.map_congr_left
  intro index member
  exact (steps index (List.mem_range.mp member)).symm

end Memory

/-- A list that lies in one page leads through the buffer it was made for. -/
theorem prpListWalk_eq {memory : Memory} (pageWise : memory.PageWise) {read : Nat → BitVec 64} {list : Nat}
    (aligned : list % 4096 = 0) {index cursor left pages : Nat} (start : cursor % 4096 = 0)
    (counts : pages = (left + 4095) / 4096) (fits : index + pages ≤ 512)
    (entries : ∀ place, place < pages →
      read (list + 8 * (index + place)) = memory.mmGetPhysicalAddress (cursor + place * 4096)) :
    prpListWalk read (list + 8 * index) left pages = memory.physical cursor left := by
  induction pages generalizing index cursor left with
  | zero =>
    obtain rfl : left = 0 := by omega
    rfl
  | succ pages ih =>
    have unchained : ¬ ((list + 8 * index) % 4096 = 4088 ∧ 4096 < left) := by omega
    have entry : read (list + 8 * index) = memory.mmGetPhysicalAddress cursor := by
      simpa using entries 0 (Nat.succ_pos pages)
    have later : ∀ place, place < pages →
        read (list + 8 * (index + 1 + place)) = memory.mmGetPhysicalAddress (cursor + 4096 + place * 4096) := by
      intro place below
      have found := entries (place + 1) (by omega)
      rw [show index + 1 + place = index + (place + 1) by omega,
        show cursor + 4096 + place * 4096 = cursor + (place + 1) * 4096 by omega]
      exact found
    have rest := @ih (index + 1) (cursor + 4096) (left - 4096) (by omega) (by omega) (by omega) later
    have slot : list + 8 * index + 8 = list + 8 * (index + 1) := by omega
    simp only [prpListWalk, prpListEntry, if_neg unchained, entry, slot, rest]
    rw [pageWise.consecutive (by omega)]
    by_cases last : left ≤ 4096
    · have none : left - 4096 = 0 := by omega
      rw [none, Nat.min_eq_left last, Memory.physical_zero, List.append_nil]
    · have whole : 4096 + (left - 4096) = left := by omega
      rw [Nat.min_eq_right (by omega), ← Memory.physical_append, whole]

private theorem readPrp2List_entry (memory : Memory) (srbext : SrbExt) {cursor left place : Nat}
    (built : srbext.prp2List = buildPrp2List memory cursor left left) (inside : place < (left + 4095) / 4096) :
    srbext.readPrp2List (srbext.prp2PA.toNat + 8 * place) = memory.mmGetPhysicalAddress (cursor + place * 4096) := by
  have index : (srbext.prp2PA.toNat + 8 * place - srbext.prp2PA.toNat) / 8 = place := by omega
  rw [SrbExt.readPrp2List, index, built, buildPrp2List_eq memory cursor (Nat.le_refl left), List.getD_eq_getElem?_getD]
  simp [inside, pageSize]

/-- For every buffer whose part behind the first page spans at most 512 pages, and
every translation page by page: when `BuildPrp` succeeds, the device finds the
bytes of the buffer, in order. -/
theorem prpWalk_eq {memory : Memory} (pageWise : memory.PageWise) (srbext : SrbExt) (cmd : NvmeCommand)
    {buffer bufSize : Nat} (spans : bufSize - getDistanceToNextPage buffer ≤ 512 * pageSize)
    (built : (buildPrp memory srbext cmd buffer bufSize).1 = true) :
    prpWalk (buildPrp memory srbext cmd buffer bufSize).2.1.readPrp2List
      (buildPrp memory srbext cmd buffer bufSize).2.2 bufSize = memory.physical buffer bufSize := by
  have distance := getDistanceToNextPage_eq buffer
  have offset := pageWise.offset buffer
  simp only [buildPrp] at built ⊢
  split
  · next short =>
    -- the buffer ends before its first page does
    have whole : bufSize ≤ 4096 - buffer % 4096 := by omega
    simp only [prpWalk, offset, Nat.min_eq_left whole, Nat.sub_self, if_true, List.append_nil]
    exact pageWise.consecutive (by omega)
  · next long =>
    rw [if_neg long] at built
    have first : min bufSize (4096 - buffer % 4096) = getDistanceToNextPage buffer := by omega
    have behind : (buffer + getDistanceToNextPage buffer) % 4096 = 0 := by omega
    have parts : getDistanceToNextPage buffer + (bufSize - getDistanceToNextPage buffer) = bufSize := by omega
    have page : consecutive (memory.mmGetPhysicalAddress buffer).toNat (getDistanceToNextPage buffer) =
        memory.physical buffer (getDistanceToNextPage buffer) := pageWise.consecutive (by omega)
    have whole := memory.physical_append buffer (getDistanceToNextPage buffer) (bufSize - getDistanceToNextPage buffer)
    rw [parts] at whole
    split
    · next second =>
      -- at most one page is left
      simp only [pageSize] at second
      simp only [prpWalk, offset, first]
      rw [page, whole]
      split
      · next none => rw [none, Memory.physical_zero]
      · rw [pageWise.consecutive (by omega)]
    · next third =>
      rw [if_neg third] at built
      simp only [pageSize] at third spans
      cases pool : memory.prp2Pool with
      | none => simp [pool] at built
      | some list =>
        have aligned : (memory.mmGetPhysicalAddress list).toNat % 4096 = 0 := by
          rw [pageWise.offset, pageWise.pool list pool]
        have none : bufSize - getDistanceToNextPage buffer ≠ 0 := by omega
        simp only [prpWalk, offset, first, if_neg none, if_neg third]
        rw [page, whole]
        congr 1
        refine @prpListWalk_eq memory pageWise _ _ aligned 0 _ _ _ behind rfl (by omega) ?_
        intro place inside
        rw [Nat.zero_add]
        exact readPrp2List_entry memory _ rfl inside

theorem sampleMemory_pageWise : Host.sampleMemory.PageWise := by
  refine ⟨?_, ?_, ?_⟩
  · intro address
    simp only [Host.sampleMemory, BitVec.toNat_ofNat]
    omega
  · intro address inside
    simp only [Host.sampleMemory, BitVec.toNat_ofNat]
    omega
  · intro page pool
    cases pool
    rfl

/-- Three pages, of which the list has two, from an unaligned start. -/
theorem prpWalk_eq_three_pages :
    prpWalk (buildPrp Host.sampleMemory (.init none) .zero 0x20800 8192).2.1.readPrp2List
      (buildPrp Host.sampleMemory (.init none) .zero 0x20800 8192).2.2 8192 = Host.sampleMemory.physical 0x20800 8192 :=
  prpWalk_eq sampleMemory_pageWise (.init none) .zero (by decide) (by decide +kernel)

end SpcNvme
