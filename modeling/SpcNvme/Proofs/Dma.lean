import SpcNvme.Storage
import SpcNvme.Proofs.Buffers
import SpcNvme.Proofs.PrpWalk
import SpcNvme.Proofs.Provenance

/-! What the controller's accesses to memory amount to. A list of pages that was
stored in a page of the pool is read back entry by entry, and carrying out the
command of a request copies exactly between its blocks and its buffer. -/

namespace SpcNvme
open ScatterGather

/-! Lists of pages in memory. -/

@[simp] theorem length_consecutive (start count : Nat) : (consecutive start count).length = count := by
  simp [consecutive]

private theorem mem_consecutive {start count place : Nat} :
    place ∈ consecutive start count ↔ start ≤ place ∧ place < start + count := BlockDevice.mem_stretch

private theorem consecutive_append (start first rest : Nat) :
    consecutive start (first + rest) = consecutive start first ++ consecutive (start + first) rest := by
  simp only [consecutive, List.range_add, List.map_append, List.map_map, Function.comp_def, Nat.add_assoc]

@[simp] theorem length_qwordBytes (value : BitVec 64) : (qwordBytes value).length = 8 := by
  simp [qwordBytes]

private theorem length_flatMap_qwordBytes (entries : List (BitVec 64)) : (entries.flatMap qwordBytes).length = 8 * entries.length := by
  induction entries with
  | nil => rfl
  | cons entry entries ih =>
    rw [List.flatMap_cons, List.length_append, ih, length_qwordBytes, List.length_cons]
    omega

private theorem toBitVec_qwordBytes (value : BitVec 64) : BigEndian.toBitVec 64 (qwordBytes value).reverse = value := by
  have small : value.toNat < 256 ^ 8 := value.isLt
  rw [qwordBytes, List.reverse_reverse, BigEndian.toBitVec, BigEndian.value_bytes_of_lt small, BitVec.ofNat_toNat,
    BitVec.setWidth_eq]

private theorem readQword_stored {cells : Nat → BitVec 8} (entries : List (BitVec 64)) {base index : Nat}
    (inside : index < entries.length) (disk : Nat → BitVec 8) :
    Storage.readQword ⟨scatter cells (consecutive base (8 * entries.length)) (entries.flatMap qwordBytes), disk⟩
      (base + 8 * index) = entries[index] := by
  induction entries generalizing cells base index with
  | nil => cases inside
  | cons entry entries ih =>
    have places : consecutive base (8 * (entry :: entries).length) =
        consecutive base 8 ++ consecutive (base + 8) (8 * entries.length) := by
      rw [← consecutive_append, List.length_cons]
      congr 1
      omega
    rw [places, List.flatMap_cons, scatter_append _ (by simp)]
    cases index with
    | zero =>
      -- the rest of the list lies behind this entry
      have behind : ∀ place ∈ consecutive base 8, place ∉ consecutive (base + 8) (8 * entries.length) := by
        intro place member also
        rw [mem_consecutive] at member also
        omega
      have distinct : (consecutive base 8).Nodup := BlockDevice.nodup_stretch base 8
      simp only [Storage.readQword, Nat.mul_zero, Nat.add_zero, List.getElem_cons_zero]
      rw [gather_scatter_apart behind, gather_scatter distinct (by simp), toBitVec_qwordBytes]
    | succ index =>
      rw [List.getElem_cons_succ, ← ih (Nat.lt_of_succ_lt_succ inside)]
      congr 1
      omega

private theorem readQword_congr {first second : Storage} {address : Nat}
    (same : ∀ place, address ≤ place → place < address + 8 → first.ram place = second.ram place) :
    first.readQword address = second.readQword address := by
  simp only [Storage.readQword]
  congr 2
  apply gather_congr
  intro place member
  rw [mem_consecutive] at member
  exact same place member.1 member.2

/-- A walk through a list that lies in one page reads its entries and nothing else. -/
theorem prpListWalk_congr {first second : Nat → BitVec 64} {list : Nat} (aligned : list % 4096 = 0)
    {index left pages : Nat} (counts : pages = (left + 4095) / 4096) (fits : index + pages ≤ 512)
    (same : ∀ place, place < pages → first (list + 8 * (index + place)) = second (list + 8 * (index + place))) :
    prpListWalk first (list + 8 * index) left pages = prpListWalk second (list + 8 * index) left pages := by
  induction pages generalizing index left with
  | zero => rfl
  | succ pages ih =>
    have unchained : ¬ ((list + 8 * index) % 4096 = 4088 ∧ 4096 < left) := by omega
    have here : first (list + 8 * index) = second (list + 8 * index) := by simpa using same 0 (Nat.succ_pos pages)
    have later : ∀ place, place < pages →
        first (list + 8 * (index + 1 + place)) = second (list + 8 * (index + 1 + place)) := by
      intro place below
      have entry := same (place + 1) (Nat.succ_lt_succ below)
      rwa [show index + (place + 1) = index + 1 + place by omega] at entry
    have slot : list + 8 * index + 8 = list + 8 * (index + 1) := by omega
    simp only [prpListWalk, prpListEntry, if_neg unchained, here, slot]
    rw [ih (by omega) (by omega) later]

theorem prpWalk_congr {first second : Nat → BitVec 64} {cmd : NvmeCommand} {count : Nat}
    (listed : 4096 < count - min count (4096 - cmd.prp1.toNat % 4096) →
      cmd.prp2.toNat % 4096 = 0 ∧ count - min count (4096 - cmd.prp1.toNat % 4096) ≤ 512 * 4096 ∧
      ∀ place, place < (count - min count (4096 - cmd.prp1.toNat % 4096) + 4095) / 4096 →
        first (cmd.prp2.toNat + 8 * place) = second (cmd.prp2.toNat + 8 * place)) :
    prpWalk first cmd count = prpWalk second cmd count := by
  simp only [prpWalk]
  split
  · rfl
  · split
    · rfl
    · next long =>
      obtain ⟨aligned, fits, same⟩ := listed (by omega)
      have walk := @prpListWalk_congr first second cmd.prp2.toNat aligned 0
        (count - min count (4096 - cmd.prp1.toNat % 4096)) _ rfl (by omega) (by simpa using same)
      rw [Nat.mul_zero, Nat.add_zero] at walk
      rw [walk]

/-- The translation of addresses, where the buffers of the clients lie, and where the
pages of lists are allocated. -/
structure DmaSetting where
  translate : Nat → BitVec 64
  client : Nat → Prop
  pool : Nat → Prop
  offset : ∀ address, (translate address).toNat % 4096 = address % 4096
  next : ∀ address, (address + 1) % 4096 ≠ 0 → (translate (address + 1)).toNat = (translate address).toNat + 1
  injective : ∀ first second, client first ∨ pool first → client second ∨ pool second →
    (translate first).toNat = (translate second).toNat → first = second
  apart : ∀ address, client address → ¬ pool address

namespace DmaSetting
variable {setting : DmaSetting} {memory : Memory} {page : Nat}

/-- What the builders are given in this setting: its translation, and a page of the pool. -/
structure Provides (setting : DmaSetting) (memory : Memory) (page : Nat) : Prop where
  translates : memory.mmGetPhysicalAddress = setting.translate
  allocates : memory.prp2Pool = some page
  aligned : page % 4096 = 0
  inPool : ∀ index, index < 4096 → setting.pool (page + index)

theorem Provides.pageWise (provides : setting.Provides memory page) : memory.PageWise where
  offset := by
    rw [provides.translates]
    exact setting.offset
  next := by
    rw [provides.translates]
    exact setting.next
  pool := by
    intro other allocated
    rw [provides.allocates, Option.some.injEq] at allocated
    subst allocated
    exact provides.aligned

theorem physical_eq (same : memory.mmGetPhysicalAddress = setting.translate) (buffer count : Nat) :
    memory.physical buffer count = (BlockDevice.stretch buffer count).map fun address => (setting.translate address).toNat := by
  simp only [Memory.physical, BlockDevice.stretch, List.map_map, same, Function.comp_def]

theorem Provides.outside (provides : setting.Provides memory page) {address count : Nat}
    (known : setting.client address ∨ setting.pool address) (elsewhere : address < page ∨ page + 4096 ≤ address)
    (short : count ≤ 4096) : (setting.translate address).toNat ∉ memory.physical page count := by
  rw [physical_eq provides.translates]
  intro member
  obtain ⟨other, inside, same⟩ := List.mem_map.mp member
  rw [BlockDevice.mem_stretch] at inside
  have pooled : setting.pool other := by
    have found := provides.inPool (other - page) (by omega)
    rwa [Nat.add_sub_cancel' inside.1] at found
  have equal := setting.injective other address (.inr pooled) known same
  omega

end DmaSetting

def Listed (storage : Storage) (record : SrbExt) : Prop :=
  ∀ index, ∀ inside : index < record.prp2List.length,
    storage.readQword (record.prp2PA.toNat + 8 * index) = record.prp2List[index]

section Store
variable {setting : DmaSetting} {memory : Memory} {page : Nat} {storage : Storage} {record : SrbExt}

@[simp] theorem storePrp2List_disk (storage : Storage) (memory : Memory) (record : SrbExt) :
    (storage.storePrp2List memory record).disk = storage.disk := by
  unfold Storage.storePrp2List
  split <;> rfl

theorem storePrp2List_outside (provides : setting.Provides memory page) (short : record.prp2List.length ≤ 512)
    (only : ∀ other, record.prp2VA = some other → other = page) {address : Nat}
    (known : setting.client address ∨ setting.pool address) (elsewhere : address < page ∨ page + 4096 ≤ address) :
    (storage.storePrp2List memory record).ram (setting.translate address).toNat =
      storage.ram (setting.translate address).toNat := by
  unfold Storage.storePrp2List
  split
  · rfl
  · next other listed =>
    obtain rfl := only other listed
    have fits : (record.prp2List.flatMap qwordBytes).length ≤ 4096 := by
      rw [length_flatMap_qwordBytes]
      omega
    simp only
    rw [scatter_of_not_mem (provides.outside known elsewhere fits),
      scatter_of_not_mem (provides.outside known elsewhere (Nat.le_refl pageSize))]

theorem storePrp2List_listed (provides : setting.Provides memory page) (short : record.prp2List.length ≤ 512)
    (listed : record.prp2VA = some page) (address : record.prp2PA = memory.mmGetPhysicalAddress page) :
    Listed (storage.storePrp2List memory record) record := by
  intro index inside
  have fits : page % 4096 + 8 * record.prp2List.length ≤ 4096 := by
    rw [provides.aligned]
    omega
  have places : memory.physical page (record.prp2List.flatMap qwordBytes).length =
      consecutive record.prp2PA.toNat (8 * record.prp2List.length) := by
    rw [length_flatMap_qwordBytes, address, provides.pageWise.consecutive fits]
  simp only [Storage.storePrp2List, listed, places]
  exact readQword_stored record.prp2List inside storage.disk

theorem Listed.congr {other : Storage} {list : Nat} (provides : setting.Provides memory list) (listed : Listed storage record)
    (short : record.prp2List.length ≤ 512)
    (address : record.prp2List ≠ [] → record.prp2PA = memory.mmGetPhysicalAddress list)
    (same : ∀ index, index < 4096 →
      other.ram (setting.translate (list + index)).toNat = storage.ram (setting.translate (list + index)).toNat) :
    Listed other record := by
  intro index inside
  rw [← listed index inside]
  have nonempty : record.prp2List ≠ [] := List.ne_nil_of_length_pos (by omega)
  have base := address nonempty
  apply readQword_congr
  intro place low high
  -- the place lies in the page, at some distance from its start
  have page : consecutive (memory.mmGetPhysicalAddress list).toNat 4096 = memory.physical list 4096 := by
    apply provides.pageWise.consecutive
    rw [provides.aligned]
  have member : place ∈ memory.physical list 4096 := by
    rw [← page, mem_consecutive, ← base]
    omega
  rw [DmaSetting.physical_eq provides.translates, List.mem_map] at member
  obtain ⟨cell, within, rfl⟩ := member
  rw [BlockDevice.mem_stretch] at within
  have found := same (cell - list) (by omega)
  rwa [Nat.add_sub_cancel' within.1] at found

end Store

/-- What `BuildPrp` leaves in the extension: the list it had, or a new one in the
page of the pool. -/
theorem buildPrp_list {memory : Memory} {page : Nat} (allocates : memory.prp2Pool = some page) (srbext : SrbExt)
    (cmd : NvmeCommand) (buffer bufSize : Nat) :
    (buildPrp memory srbext cmd buffer bufSize).1 = true ∧
    ((bufSize - getDistanceToNextPage buffer ≤ pageSize ∧
        (buildPrp memory srbext cmd buffer bufSize).2.1.prp2VA = srbext.prp2VA ∧
        (buildPrp memory srbext cmd buffer bufSize).2.1.prp2List = srbext.prp2List) ∨
      ((buildPrp memory srbext cmd buffer bufSize).2.1.prp2VA = some page ∧
        (buildPrp memory srbext cmd buffer bufSize).2.1.prp2PA = memory.mmGetPhysicalAddress page ∧
        (buildPrp memory srbext cmd buffer bufSize).2.2.prp2 = memory.mmGetPhysicalAddress page ∧
        (buildPrp memory srbext cmd buffer bufSize).2.1.prp2List.length =
          (bufSize - getDistanceToNextPage buffer + 4095) / 4096)) := by
  simp only [buildPrp, allocates]
  split
  · next short =>
    refine ⟨rfl, .inl ⟨?_, rfl, rfl⟩⟩
    omega
  · split
    · next fits => exact ⟨rfl, .inl ⟨fits, rfl, rfl⟩⟩
    · exact ⟨rfl, .inr ⟨rfl, rfl, rfl, length_buildPrp2List memory _ (Nat.le_refl _)⟩⟩

end SpcNvme
