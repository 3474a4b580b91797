import SpcNvme.Proofs.ReplyWrites
import SpcNvme.ReplyBytes

/-! The vital product data pages as an initiator gets them: which of their bytes come
from pool memory that was never set, and whether their lengths agree. -/

namespace SpcNvme

open Access

theorem handleInquiryVPDFilled_fills (device : CNvmeDevice) (ctrlIdentSN : Nat → BitVec 8) (srbext : SrbExt)
    (pool : Nat → BitVec 8) :
    ∃ footprint, handleInquiryVPDWrites device srbext true = some footprint ∧
      (handleInquiryVPDFilled device ctrlIdentSN srbext pool).Fills footprint := by
  unfold handleInquiryVPDFilled handleInquiryVPDWrites
  generalize (Cdb.byte srbext.cdb 2).toNat = code
  dsimp only
  split
  · exact ⟨_, rfl, FilledReply.copied_fills _ _ _⟩
  · split
    · exact ⟨_, rfl, FilledReply.unfilled_fills _ _⟩
    · refine ⟨_, rfl, rfl, ?_⟩
      simp [FilledReply.spans, vpdSerialNumberStores, vpdSerialNumberFields, zeroBytes]
  · exact ⟨_, rfl, FilledReply.copied_fills _ _ _⟩
  · exact ⟨_, rfl, FilledReply.copied_fills _ _ _⟩
  · exact ⟨_, rfl, FilledReply.copied_fills _ _ _⟩
  · refine ⟨_, rfl, ?_⟩
    simp_all only [FilledReply.unfilled_fills]

/-! What is assigned in a page. -/

private theorem storeBits_outside {page : Nat → BitVec 8} {address place : Nat} (low width : Nat) (value : BitVec 8)
    (outside : address ≠ place) : storeBits page place low width value address = page address := by
  apply store_outside
  rw [List.length_singleton]
  omega

private theorem vpdHeader_zero (pool : Nat → BitVec 8) (pageCode : BitVec 8) : vpdHeader pool pageCode 0 = 0 := by
  have filled : ∀ byte : BitVec 8, ((byte &&& ~~~0x1F) ||| 0) &&& ~~~0xE0 ||| 0 = 0 := by decide
  exact filled (pool 0)

private theorem vpdHeader_behind (pool : Nat → BitVec 8) (pageCode : BitVec 8) {index : Nat} (behind : 2 ≤ index) :
    vpdHeader pool pageCode index = pool index := by
  simp only [vpdHeader]
  rw [store_outside (.inr behind), storeBits_outside _ _ _ (by omega), storeBits_outside _ _ _ (by omega)]

private theorem vpdHeader_assigned (pool other : Nat → BitVec 8) (pageCode : BitVec 8) {index : Nat} (inside : index < 2) :
    vpdHeader pool pageCode index = vpdHeader other pageCode index := by
  obtain rfl | rfl : index = 0 ∨ index = 1 := by omega
  · rw [vpdHeader_zero, vpdHeader_zero]
  · rfl

private theorem vpdSupportedPages_front (pool : Nat → BitVec 8) {index : Nat} (front : index < 3) :
    vpdSupportedPages pool index = vpdHeader pool 0x00 index := by
  simp only [vpdSupportedPages]
  rw [store_outside (.inl (by omega)), store_outside (.inl (by omega)), store_outside (.inl (by omega)),
    store_outside (.inl (by omega)), store_outside (.inl (by omega)), store_outside (.inl front)]

private theorem vpdIdentification_front (subnqn : List (BitVec 8)) (pool : Nat → BitVec 8) {index : Nat} (front : index < 3) :
    vpdIdentification subnqn pool index = vpdHeader pool 0x83 index := by
  simp only [vpdIdentification]
  rw [store_outside (.inl (by omega)), store_outside (.inl (by omega)), store_outside (.inl (by omega)),
    store_outside (.inl (by omega)), storeBits_outside _ _ _ (by omega), storeBits_outside _ _ _ (by omega),
    storeBits_outside _ _ _ (by omega), store_outside (.inl front)]

private theorem vpdBlockLimits_front (maxTxSize : BitVec 32) (pool : Nat → BitVec 8) {index : Nat} (front : index < 2) :
    vpdBlockLimits maxTxSize pool index = vpdHeader pool 0xB0 index := by
  simp only [vpdBlockLimits]
  rw [store_outside (.inl (by omega)), store_outside (.inl (by omega)), store_outside (.inl (by omega)),
    store_outside (.inl front)]

private theorem vpdBlockDeviceCharacteristics_front (pool : Nat → BitVec 8) {index : Nat} (front : index < 3) :
    vpdBlockDeviceCharacteristics pool index = vpdHeader pool 0xB1 index := by
  simp only [vpdBlockDeviceCharacteristics]
  rw [storeBits_outside _ _ _ (by omega), store_outside (.inl (by omega)), store_outside (.inl front)]

private theorem vpdBlockLimits_pageLength (maxTxSize : BitVec 32) (pool : Nat → BitVec 8) :
    vpdBlockLimits maxTxSize pool 2 = 0 ∧ vpdBlockLimits maxTxSize pool 3 = 64 := ⟨rfl, rfl⟩

private theorem vpdBlockLimits_reserved (maxTxSize : BitVec 32) (pool : Nat → BitVec 8) :
    vpdBlockLimits maxTxSize pool 4 = pool 4 := rfl

/-! The reply as a function of what was in the pool. -/

/-- The first byte of a page that is left as it was, for the pages that are built in the pool. -/
def vpdGap (pageCode : Nat) : Option Nat :=
  match pageCode with
  | 0x00 | 0x83 | 0xB1 => some 2
  | 0xB0 => some 4
  | _ => none

def CNvmeDevice.vpdPageSize (device : CNvmeDevice) (pageCode : Nat) : Nat :=
  match pageCode with
  | 0x00 => 9
  | 0x83 => (vpdIdentificationSize device.ctrlIdentSUBNQN).toNat
  | 0xB0 | 0xB1 => 64
  | _ => 0

/-- A page that has a gap tells what was there unless the reply ends before it. -/
theorem copied_independent_iff {page : (Nat → BitVec 8) → Nat → BitVec 8} {place : Nat}
    (assigned : ∀ pool other, ∀ index < place, page pool index = page other index)
    (gap : ∀ pool, page pool place = pool place) (dataBufLen bufSize : BitVec 32) :
    (∀ pool other, FilledReply.copied dataBufLen bufSize (page pool) = .copied dataBufLen bufSize (page other)) ↔
      min dataBufLen.toNat bufSize.toNat ≤ place := by
  rw [← ulongMin_toNat]
  constructor
  · intro same
    apply Nat.le_of_not_lt
    intro inside
    have stores := congrArg FilledReply.stores (same (fun _ => 0) fun _ => 1)
    simp only [FilledReply.copied, List.cons.injEq, Prod.mk.injEq, true_and, and_true, load_eq_iff] at stores
    have byte := stores place inside
    rw [Nat.zero_add, gap, gap] at byte
    cases byte
  · intro ends pool other
    have content : load (page pool) 0 (ulongMin dataBufLen bufSize).toNat =
        load (page other) 0 (ulongMin dataBufLen bufSize).toNat := by
      rw [load_eq_iff]
      intro index inside
      rw [Nat.zero_add]
      exact assigned pool other index (Nat.lt_of_lt_of_le inside ends)
    simp only [FilledReply.copied, content]

/-- Three pages have nothing but their header before the first gap. -/
theorem headed_independent_iff {page : (Nat → BitVec 8) → Nat → BitVec 8} {pageCode : BitVec 8}
    (front : ∀ pool index, index < 3 → page pool index = vpdHeader pool pageCode index) (dataBufLen bufSize : BitVec 32) :
    (∀ pool other, FilledReply.copied dataBufLen bufSize (page pool) = .copied dataBufLen bufSize (page other)) ↔
      min dataBufLen.toNat bufSize.toNat ≤ 2 := by
  refine copied_independent_iff ?_ ?_ _ _
  · intro pool other index inside
    rw [front pool index (by omega), front other index (by omega), vpdHeader_assigned _ _ _ inside]
  · intro pool
    rw [front pool 2 (by omega), vpdHeader_behind _ _ (by omega)]

private theorem vpdBlockLimits_assigned (maxTxSize : BitVec 32) (pool other : Nat → BitVec 8) {index : Nat} (inside : index < 4) :
    vpdBlockLimits maxTxSize pool index = vpdBlockLimits maxTxSize other index := by
  by_cases front : index < 2
  · rw [vpdBlockLimits_front _ _ front, vpdBlockLimits_front _ _ front, vpdHeader_assigned _ _ _ front]
  · obtain ⟨high, low⟩ := vpdBlockLimits_pageLength maxTxSize pool
    obtain ⟨otherHigh, otherLow⟩ := vpdBlockLimits_pageLength maxTxSize other
    obtain rfl | rfl : index = 2 ∨ index = 3 := by omega
    · rw [high, otherHigh]
    · rw [low, otherLow]

/-- A reply is the same whatever was in the pool exactly if the page is built
elsewhere, or if the reply ends before the first byte that is not assigned. -/
theorem vpdReply_independent_iff (device : CNvmeDevice) (ctrlIdentSN : Nat → BitVec 8) (srbext : SrbExt) :
    (∀ pool other, handleInquiryVPDFilled device ctrlIdentSN srbext pool =
        handleInquiryVPDFilled device ctrlIdentSN srbext other) ↔
      ∀ place, vpdGap (Cdb.byte srbext.cdb 2).toNat = some place →
        min srbext.dataBufLen.toNat (device.vpdPageSize (Cdb.byte srbext.cdb 2).toNat) ≤ place := by
  unfold handleInquiryVPDFilled
  generalize (Cdb.byte srbext.cdb 2).toNat = code
  dsimp only
  split
  · simp only [vpdGap, CNvmeDevice.vpdPageSize, Option.some.injEq, forall_eq']
    exact headed_independent_iff (fun pool _ front => vpdSupportedPages_front pool front) _ _
  · simp [vpdGap]
  · simp only [vpdGap, CNvmeDevice.vpdPageSize, Option.some.injEq, forall_eq']
    exact headed_independent_iff (fun pool _ front => vpdIdentification_front _ pool front) _ _
  · simp only [vpdGap, CNvmeDevice.vpdPageSize, Option.some.injEq, forall_eq']
    refine copied_independent_iff ?_ (vpdBlockLimits_reserved _) _ _
    intro pool other index inside
    exact vpdBlockLimits_assigned _ pool other inside
  · simp only [vpdGap, CNvmeDevice.vpdPageSize, Option.some.injEq, forall_eq']
    exact headed_independent_iff (fun pool _ front => vpdBlockDeviceCharacteristics_front pool front) _ _
  · next zero serial identification limits characteristics =>
    have none : vpdGap code = none := by
      unfold vpdGap
      split
      all_goals simp_all
    simp [none]

def vpdInquiry (pageCode : BitVec 8) : SrbExt :=
  .init (some { sampleSrb with cdb := [0x12, 0x01, pageCode, 0, 64, 0], dataTransferLength := 64 })

/-- The third byte of the identification page is whatever was in the pool. -/
theorem vpdReply_leaks :
    ¬ ∀ pool other, handleInquiryVPDFilled (Host.sampleHost (.init none)).device (fun _ => 0x20) (vpdInquiry 0x83) pool =
      handleInquiryVPDFilled (Host.sampleHost (.init none)).device (fun _ => 0x20) (vpdInquiry 0x83) other := by
  intro same
  have short : min 64 17 ≤ 2 :=
    (headed_independent_iff (fun pool _ front => vpdIdentification_front [] pool front) 64 17).mp same
  omega

/-! The lengths in a page, and what an initiator decodes. -/

/-- The page that is built for a code, in the pool or in the data buffer. -/
def CNvmeDevice.vpdPage (device : CNvmeDevice) (ctrlIdentSN pool : Nat → BitVec 8) (pageCode : Nat) : List (BitVec 8) :=
  match pageCode with
  | 0x00 => load (vpdSupportedPages pool) 0 9
  | 0x80 => [0, 0x80, 0, 255] ++ load ctrlIdentSN 0 255
  | 0x83 => load (vpdIdentification device.ctrlIdentSUBNQN pool) 0 (vpdIdentificationSize device.ctrlIdentSUBNQN).toNat
  | 0xB0 => load (vpdBlockLimits device.maxTxSize pool) 0 64
  | 0xB1 => load (vpdBlockDeviceCharacteristics pool) 0 64
  | _ => []

/-- `PageLength` of a page; the block limits page has two bytes for it. -/
def vpdPageLength (pageCode : Nat) (page : List (BitVec 8)) : Nat :=
  if pageCode = 0xB0 then BigEndian.value [page.getD 2 0, page.getD 3 0] else (page.getD 3 0).toNat

/-- The identifier in an identification page, if its one descriptor fills the page
and the page ends where its length says. -/
def readIdentifier (page : List (BitVec 8)) : Option (List (BitVec 8)) :=
  let pageLength := (page.getD 3 0).toNat
  let identifierLength := (page.getD 7 0).toNat
  if page.length = 4 + pageLength ∧ pageLength = 4 + identifierLength then some ((page.drop 8).take identifierLength)
  else none

/-- The reply is as much of the page as fits, the page has the length it states, a
serial number is taken from `SN`, and an identifier is the vendor and the name. -/
structure VpdReplyExact (pageCode : Nat) (subnqn page : List (BitVec 8)) (ctrlIdentSN : Nat → BitVec 8)
    (dataBufLen : BitVec 32) (filled : FilledReply) : Prop where
  counted : page.length = 4 + vpdPageLength pageCode page
  reply : filled.reply = .sized .success (BitVec.ofNat 32 (min dataBufLen.toNat (4 + vpdPageLength pageCode page)))
  bytes : ∀ before, load (filled.buffer before) 0 (min dataBufLen.toNat (4 + vpdPageLength pageCode page)) =
    page.take dataBufLen.toNat
  serial : pageCode = 0x80 → page.drop 4 <+: load ctrlIdentSN 0 20
  identifier : pageCode = 0x83 → readIdentifier page = some (vendorId ++ [0x5F] ++ cString subnqn)

private theorem copied_reply (dataBufLen bufSize : BitVec 32) (page : Nat → BitVec 8) :
    (FilledReply.copied dataBufLen bufSize page).reply =
      .sized .success (BitVec.ofNat 32 (min dataBufLen.toNat bufSize.toNat)) := by
  rw [← ulongMin_toNat, BitVec.ofNat_toNat, BitVec.setWidth_eq]
  rfl

private theorem copied_bytes (dataBufLen bufSize : BitVec 32) (page before : Nat → BitVec 8) :
    load ((FilledReply.copied dataBufLen bufSize page).buffer before) 0 (min dataBufLen.toNat bufSize.toNat) =
      (load page 0 bufSize.toNat).take dataBufLen.toNat := by
  rw [take_load, ← ulongMin_toNat]
  have filled : (FilledReply.copied dataBufLen bufSize page).buffer before =
      store before 0 (load page 0 (ulongMin dataBufLen bufSize).toNat) := rfl
  rw [filled]
  exact load_of_holds (holds_store _ _ _) (length_load ..)

private theorem copied_exact {pageCode : Nat} {subnqn : List (BitVec 8)} {page ctrlIdentSN : Nat → BitVec 8}
    {dataBufLen bufSize : BitVec 32}
    (counted : bufSize.toNat = 4 + vpdPageLength pageCode (load page 0 bufSize.toNat)) (noSerial : pageCode ≠ 0x80)
    (identifier : pageCode = 0x83 →
      readIdentifier (load page 0 bufSize.toNat) = some (vendorId ++ [0x5F] ++ cString subnqn)) :
    VpdReplyExact pageCode subnqn (load page 0 bufSize.toNat) ctrlIdentSN dataBufLen (.copied dataBufLen bufSize page) := by
  refine ⟨(length_load ..).trans counted, ?_, ?_, fun serial => absurd serial noSerial, identifier⟩
  · rw [← counted]
    exact copied_reply ..
  · intro before
    rw [← counted]
    exact copied_bytes ..

/-! The identification page for a name that is short enough. -/

private theorem vpdIdentification_identifier (subnqn : List (BitVec 8)) (pool : Nat → BitVec 8) :
    Access.Holds (vpdIdentification subnqn pool) 8
      (vendorId ++ [0x5F] ++ subnqn.take (BitVec.ofNat 32 (cString subnqn).length).toNat) := by
  rw [holds_append_iff, holds_append_iff]
  refine ⟨⟨?_, ?_⟩, holds_store _ _ _⟩
  · exact ((holds_store _ _ _).store (.inl (by decide))).store (.inl (by decide))
  · exact (holds_store _ _ _).store (.inl (by simp))

private theorem vpdIdentification_pageLength (subnqn : List (BitVec 8)) (pool : Nat → BitVec 8) :
    vpdIdentification subnqn pool 3 =
      (ulongMin (vpdIdentificationSize subnqn - ScsiSize.vpdIdentificationPage) 255).setWidth 8 := by
  simp only [vpdIdentification]
  rw [store_outside (.inl (by omega)), store_outside (.inl (by omega)), store_outside (.inl (by omega)),
    store_outside (.inl (by omega)), storeBits_outside _ _ _ (by omega), storeBits_outside _ _ _ (by omega),
    storeBits_outside _ _ _ (by omega)]
  rfl

private theorem vpdIdentification_identifierLength (subnqn : List (BitVec 8)) (pool : Nat → BitVec 8) :
    vpdIdentification subnqn pool 7 =
      (ulongMin (vpdIdentificationSize subnqn - ScsiSize.vpdIdentificationPage - ScsiSize.vpdIdentificationDescriptor)
        255).setWidth 8 := by
  simp only [vpdIdentification]
  rw [store_outside (.inl (by omega)), store_outside (.inl (by omega)), store_outside (.inl (by omega))]
  rfl

section
variable {subnqn : List (BitVec 8)} (short : (cString subnqn).length ≤ 242)
include short

private theorem vpdIdentificationSize_toNat : (vpdIdentificationSize subnqn).toNat = 17 + (cString subnqn).length := by
  have fixed : (ScsiSize.vpdIdentificationPage + ScsiSize.vpdIdentificationDescriptor).toNat = 8 := rfl
  have vendor : ScsiSize.vendorId.toNat = 8 := rfl
  have one : (1 : BitVec 32).toNat = 1 := rfl
  simp only [vpdIdentificationSize, BitVec.toNat_add _ 1, BitVec.toNat_add _ ScsiSize.vendorId,
    BitVec.toNat_add _ (BitVec.ofNat 32 _), fixed, vendor, one, BitVec.toNat_ofNat]
  omega

private theorem vpdIdentification_lengths (pool : Nat → BitVec 8) :
    (vpdIdentification subnqn pool 3).toNat = 13 + (cString subnqn).length ∧
    (vpdIdentification subnqn pool 7).toNat = 9 + (cString subnqn).length := by
  have size := vpdIdentificationSize_toNat short
  have page : ScsiSize.vpdIdentificationPage.toNat = 4 := rfl
  have descriptor : ScsiSize.vpdIdentificationDescriptor.toNat = 4 := rfl
  have largest : (255 : BitVec 32).toNat = 255 := rfl
  constructor
  · rw [vpdIdentification_pageLength, BitVec.toNat_setWidth, ulongMin_toNat, BitVec.toNat_sub, size, page, largest]
    omega
  · rw [vpdIdentification_identifierLength, BitVec.toNat_setWidth, ulongMin_toNat, BitVec.toNat_sub, BitVec.toNat_sub,
      size, page, descriptor, largest]
    omega

private theorem vpdIdentification_name : subnqn.take (BitVec.ofNat 32 (cString subnqn).length).toNat = cString subnqn := by
  have small : (cString subnqn).length % 2 ^ 32 = (cString subnqn).length := Nat.mod_eq_of_lt (by omega)
  rw [BitVec.toNat_ofNat, small]
  exact (List.prefix_iff_eq_take.mp (List.takeWhile_prefix _)).symm

private theorem readIdentifier_vpdIdentification (pool : Nat → BitVec 8) :
    readIdentifier (load (vpdIdentification subnqn pool) 0 (vpdIdentificationSize subnqn).toNat) =
      some (vendorId ++ [0x5F] ++ cString subnqn) := by
  obtain ⟨pageLength, identifierLength⟩ := vpdIdentification_lengths short pool
  have held := vpdIdentification_identifier subnqn pool
  rw [vpdIdentification_name short] at held
  have length : (vendorId ++ [0x5F] ++ cString subnqn).length = 9 + (cString subnqn).length := by
    simp only [List.length_append]
    rfl
  have whole : 17 + (cString subnqn).length = 8 + (9 + (cString subnqn).length) := by omega
  rw [vpdIdentificationSize_toNat short]
  simp only [readIdentifier, getD_load _ (show 3 < 17 + (cString subnqn).length by omega),
    getD_load _ (show 7 < 17 + (cString subnqn).length by omega), Nat.zero_add, pageLength, identifierLength, length_load]
  rw [if_pos (by omega), whole, drop_load, take_load, Nat.min_self, load_of_holds held length]

end

private theorem vpdPageLength_load {pageCode size : Nat} (oneByte : pageCode ≠ 0xB0) (page : Nat → BitVec 8) (inside : 3 < size) :
    vpdPageLength pageCode (load page 0 size) = (page 3).toNat := by
  rw [vpdPageLength, if_neg oneByte, getD_load _ inside]

private theorem vpdPageLength_load_limits {size : Nat} (page : Nat → BitVec 8) (inside : 3 < size) :
    vpdPageLength 0xB0 (load page 0 size) = BigEndian.value [page 2, page 3] := by
  rw [vpdPageLength, if_pos rfl, getD_load _ inside, getD_load _ (Nat.lt_of_succ_lt inside)]

/-- A length of one byte has no room for a longer name. -/
theorem readIdentifier_length {page identifier : List (BitVec 8)} (reads : readIdentifier page = some identifier) :
    identifier.length ≤ 251 := by
  simp only [readIdentifier] at reads
  split at reads
  · next fills =>
    obtain rfl := Option.some.inj reads
    have byte := (page.getD 3 0).isLt
    rw [List.length_take, List.length_drop]
    omega
  · cases reads

/-- The reply is exact for the list of pages, and for the identification page of a
controller whose name has at most 242 characters. The serial number is always
padded with what follows it, and the two longer pages count their header as well. -/
theorem vpdReply_exact_iff (device : CNvmeDevice) (ctrlIdentSN : Nat → BitVec 8) (srbext : SrbExt)
    (pool : Nat → BitVec 8) :
    VpdReplyExact (Cdb.byte srbext.cdb 2).toNat device.ctrlIdentSUBNQN
        (device.vpdPage ctrlIdentSN pool (Cdb.byte srbext.cdb 2).toNat) ctrlIdentSN srbext.dataBufLen
        (handleInquiryVPDFilled device ctrlIdentSN srbext pool) ↔
      (Cdb.byte srbext.cdb 2).toNat = 0x00 ∨
      (Cdb.byte srbext.cdb 2).toNat = 0x83 ∧ (cString device.ctrlIdentSUBNQN).length ≤ 242 := by
  unfold handleInquiryVPDFilled
  generalize (Cdb.byte srbext.cdb 2).toNat = code
  dsimp only
  split
  · refine iff_of_true ?_ (.inl rfl)
    have counted : ScsiSize.vpdSupportedPages.toNat =
        4 + vpdPageLength 0 (load (vpdSupportedPages pool) 0 ScsiSize.vpdSupportedPages.toNat) := by
      rw [vpdPageLength_load (by omega) _ (by decide)]
      rfl
    exact copied_exact counted (by omega) fun other => absurd other (by omega)
  · refine iff_of_false ?_ (by simp)
    intro exact
    have longer := (exact.serial rfl).length_le
    simp [CNvmeDevice.vpdPage] at longer
  · constructor
    · intro exact
      have fits := readIdentifier_length (exact.identifier rfl)
      have vendor : (vendorId ++ [0x5F]).length = 9 := rfl
      rw [List.length_append, vendor] at fits
      exact .inr ⟨rfl, by omega⟩
    · rintro (other | ⟨_, short⟩)
      · cases other
      · have size := vpdIdentificationSize_toNat short
        have byte : 3 < (vpdIdentificationSize device.ctrlIdentSUBNQN).toNat := by omega
        refine copied_exact ?_ (by omega) fun _ => readIdentifier_vpdIdentification short pool
        rw [vpdPageLength_load (by omega) _ byte, (vpdIdentification_lengths short pool).1, size]
        omega
  · refine iff_of_false ?_ (by simp)
    intro exact
    have counted := exact.counted
    obtain ⟨high, low⟩ := vpdBlockLimits_pageLength device.maxTxSize pool
    rw [CNvmeDevice.vpdPage, length_load, vpdPageLength_load_limits _ (by omega), high, low] at counted
    cases counted
  · refine iff_of_false ?_ (by simp)
    intro exact
    have counted := exact.counted
    have length : vpdBlockDeviceCharacteristics pool 3 = 64 := rfl
    rw [CNvmeDevice.vpdPage, length_load, vpdPageLength_load (by omega) _ (by omega), length] at counted
    cases counted
  · next zero serial identification limits characteristics =>
    refine iff_of_false ?_ ?_
    · intro exact
      have counted := exact.counted
      have none : device.vpdPage ctrlIdentSN pool code = [] := by
        unfold CNvmeDevice.vpdPage
        split
        all_goals simp_all
      rw [none, List.length_nil] at counted
      omega
    · rintro (same | ⟨same, _⟩)
      · exact zero same
      · exact identification same

/-- The block limits page has 60 bytes after its header and states 64. -/
theorem vpdBlockLimits_miscounts :
    ¬ VpdReplyExact 0xB0 [] ((Host.sampleHost (.init none)).device.vpdPage (fun _ => 0x20) (fun _ => 0) 0xB0) (fun _ => 0x20)
      64 (handleInquiryVPDFilled (Host.sampleHost (.init none)).device (fun _ => 0x20) (vpdInquiry 0xB0) fun _ => 0) := by
  intro exact
  have counted := exact.counted
  rw [CNvmeDevice.vpdPage, length_load, vpdPageLength_load_limits _ (by omega)] at counted
  cases counted

end SpcNvme
