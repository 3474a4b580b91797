import SpcNvme.ModePages

/-! The walk of `Scsi_ModeSelect6` through a parameter list: for which lists it
ends and stays inside the data buffer, and what a list of pages leaves behind. -/

namespace SpcNvme

open Access

/-- The pages from an offset on, out of so many bytes, either end exactly there or
come to a page of length zero. The offset is a `ULONG` and wraps. -/
inductive PagesEnd (memory : Nat → BitVec 8) (cursor total : Nat) : Nat → Prop where
  | exact : PagesEnd memory cursor total total
  | empty {offset : Nat} (inside : offset + 2 ≤ total) (zero : memory (cursor + offset + 1) = 0) :
      PagesEnd memory cursor total offset
  | page {offset : Nat} (inside : offset + 2 ≤ total) (nonzero : memory (cursor + offset + 1) ≠ 0)
      (cacheBits : (memory (cursor + offset)).setWidth 6 = modePageCaching → memory (cursor + offset + 1) = 10 →
        offset + 3 ≤ total)
      (rest : PagesEnd memory cursor total ((offset + ((memory (cursor + offset + 1)).toNat + 2)) % 2 ^ 32)) :
      PagesEnd memory cursor total offset

/-- The header and the block descriptors it states fit into the buffer, and the
pages behind them end. -/
structure ListEnds (srbext : SrbExt) (memory : Nat → BitVec 8) : Prop where
  header : modeHeaderSize ≤ srbext.dataBufLen.toNat
  descriptors : modeHeaderSize + (memory 3).toNat ≤ srbext.dataBufLen.toNat
  pages : PagesEnd memory (modeHeaderSize + (memory 3).toNat)
    (srbext.dataBufLen.toNat - (modeHeaderSize + (memory 3).toNat)) 0

/-- `Scsi_ModeSelect6` returns, and has read nothing outside the data buffer. -/
def SelectsInside (srbext : SrbExt) (memory : Nat → BitVec 8) (flags : CacheFlags) : Prop :=
  ∃ fuel result, modeSelect6 srbext memory flags fuel = some result ∧ AllInside result.reads srbext.dataBufLen.toNat

variable {memory : Nat → BitVec 8} {cursor total : Nat}

private theorem allInside_selectPage {page limit : Nat} (flags : CacheFlags) :
    AllInside (selectPage memory page flags).2 limit ↔
      page + 1 < limit ∧ ((memory page).setWidth 6 = modePageCaching → memory (page + 1) = 10 → page + 2 < limit) := by
  unfold selectPage
  split
  · next foreign =>
    simp only [allInside_cons, Span.inside_single, allInside_nil, and_true]
    constructor
    · intro inside
      refine ⟨inside.1, ?_⟩
      intro caching length
      exact absurd foreign (by simp [caching, length])
    · intro inside
      omega
  · next own =>
    simp only [ne_eq, not_or, not_not] at own
    simp only [allInside_cons, Span.inside_single, allInside_nil, and_true, own, forall_const]
    omega

private theorem turnSize_toNat (pageLength : BitVec 8) : (pageLength.setWidth 32 + 2).toNat = pageLength.toNat + 2 := by
  have bounded := pageLength.isLt
  have two : (2 : BitVec 32).toNat = 2 := rfl
  rw [BitVec.toNat_add, BitVec.toNat_setWidth, two]
  omega

private theorem remaining_eq_zero_iff (bounded : total < 2 ^ 32) (offset : BitVec 32) :
    BitVec.ofNat 32 total - offset = 0 ↔ offset.toNat = total := by
  have zero : (0 : BitVec 32) + offset = offset := BitVec.zero_add offset
  rw [BitVec.sub_eq_iff_eq_add, zero, ← BitVec.toNat_inj, BitVec.toNat_ofNat, Nat.mod_eq_of_lt bounded]
  exact eq_comm

private theorem remaining_sub (total : Nat) (offset size : BitVec 32) :
    BitVec.ofNat 32 total - offset - size = BitVec.ofNat 32 total - (offset + size) :=
  BitVec.sub_sub ..

theorem nextOffset_toNat (offset : BitVec 32) (pageLength : BitVec 8) :
    (offset + (pageLength.setWidth 32 + 2)).toNat = (offset.toNat + (pageLength.toNat + 2)) % 2 ^ 32 := by
  rw [BitVec.toNat_add, turnSize_toNat]

theorem modeSelectFrom_page (bounded : total < 2 ^ 32) {offset : BitVec 32} (more : offset.toNat ≠ total)
    (nonzero : memory (cursor + offset.toNat + 1) ≠ 0) (fuel : Nat) (flags : CacheFlags) :
    modeSelectFrom memory cursor (fuel + 1) (BitVec.ofNat 32 total - offset) offset flags =
      (modeSelectFrom memory cursor fuel
        (BitVec.ofNat 32 total - (offset + ((memory (cursor + offset.toNat + 1)).setWidth 32 + 2)))
        (offset + ((memory (cursor + offset.toNat + 1)).setWidth 32 + 2))
        (selectPage memory (cursor + offset.toNat) flags).1).map
          fun rest => (rest.1, (selectPage memory (cursor + offset.toNat) flags).2 ++ rest.2) := by
  have going := mt (remaining_eq_zero_iff bounded offset).mp more
  rw [modeSelectFrom, if_neg going, if_neg nonzero, remaining_sub]

private theorem modeSelectFrom_empty (bounded : total < 2 ^ 32) {offset : BitVec 32} (more : offset.toNat ≠ total)
    (zero : memory (cursor + offset.toNat + 1) = 0) (fuel : Nat) (flags : CacheFlags) :
    modeSelectFrom memory cursor (fuel + 1) (BitVec.ofNat 32 total - offset) offset flags =
      some (flags, [⟨cursor + offset.toNat + 1, 1⟩]) := by
  have going := mt (remaining_eq_zero_iff bounded offset).mp more
  rw [modeSelectFrom, if_neg going, if_pos zero]

theorem modeSelectFrom_exact (bounded : total < 2 ^ 32) {offset : BitVec 32} (done : offset.toNat = total)
    (fuel : Nat) (flags : CacheFlags) :
    modeSelectFrom memory cursor (fuel + 1) (BitVec.ofNat 32 total - offset) offset flags = some (flags, []) := by
  rw [modeSelectFrom, if_pos ((remaining_eq_zero_iff bounded offset).mpr done)]

/-- A walk that returned without leaving the buffer came to an end of the list. -/
theorem pagesEnd_of_modeSelectFrom (bounded : total < 2 ^ 32) {fuel : Nat} :
    ∀ {offset : BitVec 32} {flags final : CacheFlags} {reads : List Span},
      modeSelectFrom memory cursor fuel (BitVec.ofNat 32 total - offset) offset flags = some (final, reads) →
      AllInside reads (cursor + total) → PagesEnd memory cursor total offset.toNat := by
  induction fuel with
  | zero =>
    intro offset flags final reads returned _
    cases returned
  | succ fuel ih =>
    intro offset flags final reads returned inside
    by_cases done : offset.toNat = total
    · rw [done]
      exact .exact
    · by_cases zero : memory (cursor + offset.toNat + 1) = 0
      · rw [modeSelectFrom_empty bounded done zero, Option.some.injEq, Prod.mk.injEq] at returned
        rw [← returned.2, allInside_cons, Span.inside_single] at inside
        exact .empty (by omega) zero
      · rw [modeSelectFrom_page bounded done zero, Option.map_eq_some_iff] at returned
        obtain ⟨⟨last, later⟩, rest, same⟩ := returned
        rw [← (Prod.mk.inj same).2, allInside_append, allInside_selectPage] at inside
        obtain ⟨⟨length, bits⟩, remaining⟩ := inside
        refine .page (by omega) zero ?_ ?_
        · intro caching ten
          have third := bits caching ten
          omega
        · rw [← nextOffset_toNat]
          exact ih rest remaining

/-- A list that ends is walked to its end, inside the buffer. -/
theorem modeSelectFrom_of_pagesEnd (bounded : total < 2 ^ 32) {start : Nat} (ends : PagesEnd memory cursor total start) :
    ∀ {offset : BitVec 32} (flags : CacheFlags), offset.toNat = start →
      ∃ fuel final reads, modeSelectFrom memory cursor fuel (BitVec.ofNat 32 total - offset) offset flags =
        some (final, reads) ∧ AllInside reads (cursor + total) := by
  induction ends with
  | exact =>
    intro offset flags same
    exact ⟨1, _, _, modeSelectFrom_exact bounded same 0 flags, allInside_nil _⟩
  | @empty start inside zero =>
    rintro offset flags rfl
    refine ⟨1, _, _, modeSelectFrom_empty bounded (by omega) zero 0 flags, ?_⟩
    rw [allInside_cons, Span.inside_single]
    exact ⟨by omega, allInside_nil _⟩
  | @page start inside nonzero cacheBits rest ih =>
    rintro offset flags rfl
    obtain ⟨fuel, final, reads, walked, within⟩ :=
      ih (selectPage memory (cursor + offset.toNat) flags).1 (nextOffset_toNat offset _)
    refine ⟨fuel + 1, final, (selectPage memory (cursor + offset.toNat) flags).2 ++ reads, ?_, ?_⟩
    · rw [modeSelectFrom_page bounded (by omega) nonzero, walked]
      rfl
    · rw [allInside_append, allInside_selectPage]
      refine ⟨⟨by omega, ?_⟩, within⟩
      intro caching ten
      have third := cacheBits caching ten
      omega

private theorem first_read_inside {fuel limit : Nat} {modeDataSize offset : BitVec 32} {flags final : CacheFlags}
    {reads : List Span} (more : modeDataSize ≠ 0)
    (walked : modeSelectFrom memory cursor fuel modeDataSize offset flags = some (final, reads))
    (inside : AllInside reads limit) : cursor + offset.toNat + 1 < limit := by
  cases fuel with
  | zero => cases walked
  | succ fuel =>
    simp only [modeSelectFrom, if_neg more] at walked
    split at walked
    · obtain ⟨_, rfl⟩ := Prod.mk.inj (Option.some.inj walked)
      rw [allInside_cons, Span.inside_single] at inside
      exact inside.1
    · rw [Option.map_eq_some_iff] at walked
      obtain ⟨⟨last, later⟩, _, same⟩ := walked
      rw [← (Prod.mk.inj same).2, allInside_append, allInside_selectPage] at inside
      exact inside.1.1

theorem startSize_eq {dataBufLen : BitVec 32} {descriptors : BitVec 8}
    (fits : modeHeaderSize + descriptors.toNat ≤ dataBufLen.toNat) :
    dataBufLen - BitVec.ofNat 32 modeHeaderSize - descriptors.setWidth 32 =
      BitVec.ofNat 32 (dataBufLen.toNat - (modeHeaderSize + descriptors.toNat)) - 0 := by
  have bounded := dataBufLen.isLt
  have short := descriptors.isLt
  simp only [modeHeaderSize] at fits ⊢
  apply BitVec.eq_of_toNat_eq
  have zero : (0 : BitVec 32).toNat = 0 := rfl
  simp only [BitVec.toNat_sub, BitVec.toNat_ofNat, BitVec.toNat_setWidth, zero]
  omega

/-- Where the sizes of the header do not fit, the size wraps instead of being zero. -/
theorem startSize_ne_zero {dataBufLen : BitVec 32} {descriptors : BitVec 8}
    (large : ¬ modeHeaderSize + descriptors.toNat ≤ dataBufLen.toNat) :
    dataBufLen - BitVec.ofNat 32 modeHeaderSize - descriptors.setWidth 32 ≠ 0 := by
  intro wrapped
  have bounded := dataBufLen.isLt
  have short := descriptors.isLt
  have none := congrArg BitVec.toNat wrapped
  have zero : (0 : BitVec 32).toNat = 0 := rfl
  simp only [modeHeaderSize] at large none
  simp only [BitVec.toNat_sub, BitVec.toNat_ofNat, BitVec.toNat_setWidth, zero] at none
  omega

/-- With the bit set, the function reads in the buffer and returns exactly if the
header and the descriptors fit and the pages come to an end. -/
theorem modeSelect6_inside_iff (srbext : SrbExt) (memory : Nat → BitVec 8) (flags : CacheFlags)
    (pageFormat : (Cdb.byte srbext.cdb 1).getLsbD 4 = true) :
    SelectsInside srbext memory flags ↔ ListEnds srbext memory := by
  have bounded := srbext.dataBufLen.isLt
  simp only [SelectsInside, modeSelect6, pageFormat, Bool.true_eq_false, if_false, Option.map_eq_some_iff]
  constructor
  · rintro ⟨fuel, result, ⟨⟨final, reads⟩, walked, rfl⟩, inside⟩
    rw [allInside_cons, Span.inside_single] at inside
    obtain ⟨header, inside⟩ := inside
    by_cases fits : modeHeaderSize + (memory 3).toNat ≤ srbext.dataBufLen.toNat
    · rw [startSize_eq fits] at walked
      have within : AllInside reads
          (modeHeaderSize + (memory 3).toNat + (srbext.dataBufLen.toNat - (modeHeaderSize + (memory 3).toNat))) := by
        rw [Nat.add_sub_cancel' fits]
        exact inside
      exact ⟨header, fits, pagesEnd_of_modeSelectFrom (by omega) walked within⟩
    · have first := first_read_inside (startSize_ne_zero fits) walked inside
      omega
  · intro ends
    obtain ⟨fuel, final, reads, walked, inside⟩ :=
      @modeSelectFrom_of_pagesEnd memory _ _ (by omega) _ ends.pages 0 flags rfl
    rw [Nat.add_sub_cancel' ends.descriptors] at inside
    rw [← startSize_eq ends.descriptors] at walked
    refine ⟨fuel, _, ⟨(final, reads), walked, rfl⟩, ?_⟩
    rw [allInside_cons, Span.inside_single]
    exact ⟨ends.header, inside⟩

def selectRequest (dataBufLen : BitVec 32) : SrbExt :=
  .init (some { sampleSrb with cdb := [0x15, 0x10, 0, 0, 0, 0], dataTransferLength := dataBufLen })

theorem modeSelect6_inside_iff_header :
    SelectsInside (selectRequest 4) (fun _ => 0) ⟨true, false⟩ ↔ ListEnds (selectRequest 4) fun _ => 0 :=
  modeSelect6_inside_iff (selectRequest 4) (fun _ => 0) ⟨true, false⟩ rfl

/-- A bare header that states a block descriptor is followed behind the buffer. -/
theorem modeSelect6_leaves_buffer : ¬ SelectsInside (selectRequest 4) (fun _ => 8) ⟨true, false⟩ := by
  rintro ⟨fuel, result, returned, inside⟩
  have pageFormat : (Cdb.byte (selectRequest 4).cdb 1).getLsbD 4 = true := rfl
  simp only [modeSelect6, pageFormat, Bool.true_eq_false, if_false, Option.map_eq_some_iff] at returned
  obtain ⟨⟨final, reads⟩, walked, rfl⟩ := returned
  rw [allInside_cons] at inside
  have fits : ¬ modeHeaderSize + (8 : BitVec 8).toNat ≤ (selectRequest 4).dataBufLen.toNat := by decide
  have first := first_read_inside (startSize_ne_zero fits) walked inside.2
  exact absurd first (by decide)

end SpcNvme
