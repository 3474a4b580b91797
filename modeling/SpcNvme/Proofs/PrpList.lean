import SpcNvme.PortConfig
import SpcNvme.Proofs.Host

/-! The list of pages `BuildPrp` makes for a long buffer, and how long the
advertised transfer length lets it become. -/

namespace SpcNvme

private theorem buildPrp2List_zero (memory : Memory) (cursor fuel : Nat) : buildPrp2List memory cursor 0 fuel = [] := by
  cases fuel <;> rfl

theorem buildPrp2List_eq (memory : Memory) (cursor : Nat) {sizeLeft fuel : Nat} (enough : sizeLeft ≤ fuel) :
    buildPrp2List memory cursor sizeLeft fuel =
      (List.range ((sizeLeft + 4095) / 4096)).map fun index => memory.mmGetPhysicalAddress (cursor + index * pageSize) := by
  induction fuel generalizing cursor sizeLeft with
  | zero =>
    obtain rfl : sizeLeft = 0 := Nat.le_zero.mp enough
    rfl
  | succ fuel ih =>
    by_cases done : sizeLeft = 0
    · subst sizeLeft
      exact buildPrp2List_zero memory cursor (fuel + 1)
    · have pages : (sizeLeft + 4095) / 4096 = (sizeLeft - 1) / 4096 + 1 := by omega
      simp only [buildPrp2List, done, if_false, pages, List.range_succ_eq_map, List.map_cons, List.map_map, Nat.zero_mul,
        Nat.add_zero, List.cons.injEq, true_and]
      by_cases last : sizeLeft ≤ pageSize
      · have none : (sizeLeft - 1) / 4096 = 0 := by
          simp only [pageSize] at last
          omega
        rw [if_pos last, none, buildPrp2List_zero]
        rfl
      · have more : sizeLeft - pageSize ≤ fuel := by
          simp only [pageSize]
          omega
        have left : (sizeLeft - pageSize + 4095) / 4096 = (sizeLeft - 1) / 4096 := by
          simp only [pageSize] at last ⊢
          omega
        rw [if_neg last, ih (cursor + pageSize) more, left]
        apply List.map_congr_left
        intro index _
        simp only [Function.comp_apply]
        congr 1
        simp only [Nat.succ_mul]
        omega

theorem length_buildPrp2List (memory : Memory) (cursor : Nat) {sizeLeft fuel : Nat} (enough : sizeLeft ≤ fuel) :
    (buildPrp2List memory cursor sizeLeft fuel).length = (sizeLeft + 4095) / 4096 := by
  rw [buildPrp2List_eq memory cursor enough, List.length_map, List.length_range]

theorem getDistanceToNextPage_eq (ptr : Nat) : getDistanceToNextPage ptr = 4096 - ptr % 4096 := by
  simp only [getDistanceToNextPage, pageSize]
  omega

/-- A buffer that begins on the last byte of a page leaves the most for the list. -/
theorem prp2List_length_le (memory : Memory) (srb : Option Srb) (cmd : NvmeCommand) (buffer bufSize : Nat) :
    (buildPrp memory (.init srb) cmd buffer bufSize).2.1.prp2List.length ≤ (bufSize + 4094) / 4096 := by
  have distance := getDistanceToNextPage_eq buffer
  simp only [buildPrp]
  split
  · exact Nat.zero_le _
  · split
    · exact Nat.zero_le _
    · split
      · exact Nat.zero_le _
      · dsimp only
        rw [length_buildPrp2List memory _ (Nat.le_refl _)]
        omega

private theorem prp2List_length_of_last_byte (memory : Memory) (srb : Option Srb) (cmd : NvmeCommand) {page bufSize : Nat}
    (pool : memory.prp2Pool = some page) (long : 4097 < bufSize) :
    (buildPrp memory (.init srb) cmd 4095 bufSize).2.1.prp2List.length = (bufSize + 4094) / 4096 := by
  have distance : getDistanceToNextPage 4095 = 1 := rfl
  have crosses : ¬ 1 > bufSize := by omega
  have list : ¬ bufSize - 1 ≤ pageSize := by
    simp only [pageSize]
    omega
  simp only [buildPrp, distance, crosses, if_false, list, pool]
  rw [length_buildPrp2List memory _ (Nat.le_refl _)]
  omega

namespace CNvmeDevice
variable (device : CNvmeDevice) (mpsmin : BitVec 4) (mdts : BitVec 8)

def prp2Capacity : Nat := 512

/-- The transfer length that is advertised is what the controller allows, not zero,
and small enough for one page of list entries. -/
structure TransferLimitSound : Prop where
  product : 0 < mdts.toNat →
    (device.found mpsmin mdts).fillPortConfiguration.maximumTransferLength.toNat =
      2 ^ mdts.toNat * 2 ^ (12 + mpsmin.toNat)
  positive : (device.found mpsmin mdts).fillPortConfiguration.maximumTransferLength ≠ 0
  fits : ∀ memory srb cmd buffer bufSize,
    bufSize ≤ (device.found mpsmin mdts).fillPortConfiguration.maximumTransferLength.toNat →
      (buildPrp memory (.init srb) cmd buffer bufSize).2.1.prp2List.length ≤ prp2Capacity

private theorem found_maxTxSize :
    (device.found mpsmin mdts).fillPortConfiguration.maximumTransferLength.toNat =
      if mdts.toNat % 32 + (12 + mpsmin.toNat) < 32 then 2 ^ (mdts.toNat % 32 + (12 + mpsmin.toNat)) else 0 := by
  have page : 12 + mpsmin.toNat < 32 := by
    have small := mpsmin.isLt
    omega
  have shift : mdts.toNat % 32 < 32 := Nat.mod_lt _ (by omega)
  have one : (1 : BitVec 32).toNat = 1 := rfl
  simp only [found, identified, updateMaxTxSize, readCtrlCap, fillPortConfiguration, BitVec.toNat_mul,
    BitVec.natCast_eq_ofNat, BitVec.toNat_ofNat, BitVec.toNat_shiftLeft, one, Nat.shiftLeft_eq, Nat.one_mul]
  rw [Nat.mod_eq_of_lt (Nat.pow_lt_pow_right (by omega) page), Nat.mod_eq_of_lt (Nat.pow_lt_pow_right (by omega) shift),
    ← Nat.pow_add]
  split
  · next fits => exact Nat.mod_eq_of_lt (Nat.pow_lt_pow_right (by omega) fits)
  · next wraps => exact Nat.mod_eq_zero_of_dvd (Nat.pow_dvd_pow 2 (Nat.le_of_not_lt wraps))

/-- With pages of 4096 bytes, exactly a controller limit of at most two megabytes is sound. -/
theorem transferLimitSound_iff : device.TransferLimitSound mpsmin mdts ↔ mdts.toNat + mpsmin.toNat ≤ 9 := by
  have limit := device.found_maxTxSize mpsmin mdts
  constructor
  · intro sound
    have positive : (device.found mpsmin mdts).fillPortConfiguration.maximumTransferLength.toNat ≠ 0 := by
      intro zero
      exact sound.positive (BitVec.eq_of_toNat_eq zero)
    have unwrapped : mdts.toNat % 32 + (12 + mpsmin.toNat) < 32 := by
      apply Classical.byContradiction
      intro wraps
      exact positive (by rw [limit, if_neg wraps])
    rw [if_pos unwrapped] at limit
    have short : mdts.toNat % 32 + (12 + mpsmin.toNat) ≤ 21 := by
      apply Classical.byContradiction
      intro long
      have large : 2 ^ 22 ≤ 2 ^ (mdts.toNat % 32 + (12 + mpsmin.toNat)) :=
        Nat.pow_le_pow_right (by omega) (by omega)
      have entries := sound.fits ⟨fun _ => 0, some 0⟩ none .zero 4095 _ (Nat.le_refl _)
      rw [prp2List_length_of_last_byte _ _ _ rfl (by omega), limit, prp2Capacity] at entries
      omega
    by_cases small : mdts.toNat < 32
    · rw [Nat.mod_eq_of_lt small] at short
      omega
    · have product := sound.product (by omega)
      rw [limit, ← Nat.pow_add] at product
      have same := Nat.pow_right_injective (Nat.le_refl 2) product
      omega
  · intro small
    have exponent : mdts.toNat % 32 = mdts.toNat := Nat.mod_eq_of_lt (by omega)
    rw [exponent, if_pos (by omega)] at limit
    refine ⟨?_, ?_, ?_⟩
    · intro _
      rw [limit, Nat.pow_add]
    · intro zero
      rw [zero] at limit
      exact absurd limit.symm (Nat.pos_iff_ne_zero.mp (Nat.two_pow_pos _))
    · intro memory srb cmd buffer bufSize inside
      have bound := prp2List_length_le memory srb cmd buffer bufSize
      have most : 2 ^ (mdts.toNat + (12 + mpsmin.toNat)) ≤ 2 ^ 21 := Nat.pow_le_pow_right (by omega) (by omega)
      rw [limit] at inside
      rw [prp2Capacity]
      omega

/-- With `MDTS` 10 one request may need 1024 entries. -/
theorem transferLimit_overruns_list :
    ¬ ((Host.sampleHost (.init none)).device.TransferLimitSound 0 10) := by
  intro sound
  have entries := sound.fits Host.sampleMemory none .zero 4095 (2 ^ 22) (by decide +kernel)
  rw [prp2List_length_of_last_byte _ _ _ rfl (by omega), prp2Capacity] at entries
  omega

end CNvmeDevice

end SpcNvme
