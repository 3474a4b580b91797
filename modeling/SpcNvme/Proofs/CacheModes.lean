import SpcNvme.Proofs.ModeSelect

/-! The cache flags between MODE SELECT and MODE SENSE: what a list of mode pages
sets them to, and that a complete reply sets them to what they are. -/

namespace SpcNvme

open Access

/-- A mode page of non-zero length. Its first byte also holds the bit for savable
pages and a reserved one. -/
structure ModePage where
  flagBits : BitVec 2
  code : BitVec 6
  body : List (BitVec 8)
  nonempty : 0 < body.length
  short : body.length < 256

namespace ModePage

def bytes (page : ModePage) : List (BitVec 8) := (page.flagBits ++ page.code) :: BitVec.ofNat 8 page.body.length :: page.body

def isCaching (page : ModePage) : Bool := page.code == modePageCaching && page.body.length == 10

def readDisableCache (page : ModePage) : Bool := (page.body.getD 0 0).getLsbD 0
def writeCacheEnable (page : ModePage) : Bool := (page.body.getD 0 0).getLsbD 2

end ModePage

def modePagesBytes (pages : List ModePage) : List (BitVec 8) := pages.flatMap ModePage.bytes

/-- A parameter list: the first three bytes of the header, the block descriptors
whose length the fourth states, and pages up to the end. -/
structure ModeParameterList where
  modeDataLength : BitVec 8
  mediumType : BitVec 8
  deviceSpecificParameter : BitVec 8
  descriptors : List (BitVec 8)
  pages : List ModePage
  short : descriptors.length < 256

namespace ModeParameterList

def header (list : ModeParameterList) : List (BitVec 8) :=
  [list.modeDataLength, list.mediumType, list.deviceSpecificParameter, BitVec.ofNat 8 list.descriptors.length]

def bytes (list : ModeParameterList) : List (BitVec 8) := list.header ++ (list.descriptors ++ modePagesBytes list.pages)

/-- The bits of the last caching page of correct length, or else those a reply
would have carried before. -/
def cacheBits (list : ModeParameterList) (flags : CacheFlags) : Bool × Bool :=
  match (list.pages.filter ModePage.isCaching).getLast? with
  | some page => (page.readDisableCache, page.writeCacheEnable)
  | none => (!flags.readCacheEnabled, flags.writeCacheEnabled)

end ModeParameterList

/-- MODE SELECT with the page format bit and exactly these bytes in the data buffer. -/
structure Selects (srbext : SrbExt) (memory : Nat → BitVec 8) (bytes : List (BitVec 8)) : Prop where
  pageFormat : (Cdb.byte srbext.cdb 1).getLsbD 4 = true
  length : srbext.dataBufLen.toNat = bytes.length
  content : Holds memory 0 bytes

/-- However long one waits, the function has returned this. -/
def SelectReturns (srbext : SrbExt) (memory : Nat → BitVec 8) (flags final : CacheFlags) : Prop :=
  ∃ enough, ∀ extra, ∃ reads, modeSelect6 srbext memory flags (enough + extra) = some ⟨.success, final, reads⟩

def CacheFlags.select (flags : CacheFlags) (page : ModePage) : CacheFlags :=
  if page.isCaching then ⟨!page.readDisableCache, page.writeCacheEnable⟩ else flags

variable {memory : Nat → BitVec 8} {cursor total : Nat}

private theorem ModePage.length_toNat (page : ModePage) : (BitVec.ofNat 8 page.body.length).toNat = page.body.length := by
  have short := page.short
  rw [BitVec.toNat_ofNat]
  omega

private theorem ModePage.length_ne_zero (page : ModePage) : BitVec.ofNat 8 page.body.length ≠ 0 := by
  intro zero
  have none := congrArg BitVec.toNat zero
  rw [page.length_toNat] at none
  exact absurd none (Nat.pos_iff_ne_zero.mp page.nonempty)

private theorem ModePage.length_eq_ten_iff (page : ModePage) : BitVec.ofNat 8 page.body.length = 10 ↔ page.body.length = 10 := by
  rw [← BitVec.toNat_inj, page.length_toNat]
  exact Iff.rfl

private theorem ModePage.holds_fields {start : Nat} {page : ModePage} (holds : Holds memory start page.bytes) :
    (memory start).setWidth 6 = page.code ∧ memory (start + 1) = BitVec.ofNat 8 page.body.length ∧
      memory (start + 2) = page.body.getD 0 0 := by
  obtain ⟨first, rest⟩ := holds_cons_iff.mp holds
  obtain ⟨second, body⟩ := holds_cons_iff.mp rest
  refine ⟨?_, second, ?_⟩
  · rw [first]
    exact BitVec.setWidth_append_eq_right
  · rw [List.getD_eq_getElem?_getD, List.getElem?_eq_getElem page.nonempty]
    exact body 0 page.nonempty

/-- A page that stands in memory does to the flags what it says. -/
theorem selectPage_fst {start : Nat} {page : ModePage} (holds : Holds memory start page.bytes) (flags : CacheFlags) :
    (selectPage memory start flags).1 = flags.select page := by
  obtain ⟨code, length, bits⟩ := ModePage.holds_fields holds
  unfold selectPage CacheFlags.select
  rw [code, length]
  by_cases caching : page.code = modePageCaching ∧ page.body.length = 10
  · have own : page.isCaching = true := by simp [ModePage.isCaching, caching]
    rw [if_pos own, if_neg (by simp [caching])]
    simp only [CacheFlags.ofPage, bits, ModePage.readDisableCache, ModePage.writeCacheEnable]
  · have foreign : page.isCaching = false := by
      rw [← Bool.not_eq_true]
      simpa [ModePage.isCaching] using caching
    have skipped : page.code ≠ modePageCaching ∨ BitVec.ofNat 8 page.body.length ≠ 10 := by
      rw [ne_eq, ne_eq, page.length_eq_ten_iff, ← not_and_or]
      exact caching
    rw [if_pos skipped, foreign]
    rfl

/-- The walk through pages that stand in memory up to the end of the list. -/
theorem modeSelectFrom_pages (bounded : total < 2 ^ 32) {pages : List ModePage} :
    ∀ {offset : BitVec 32} {flags : CacheFlags}, offset.toNat + (modePagesBytes pages).length = total →
      Holds memory (cursor + offset.toNat) (modePagesBytes pages) →
      ∀ extra, ∃ reads, modeSelectFrom memory cursor (pages.length + 1 + extra) (BitVec.ofNat 32 total - offset)
        offset flags = some (pages.foldl CacheFlags.select flags, reads) := by
  induction pages with
  | nil =>
    intro offset flags ends _ extra
    have fuel : ([] : List ModePage).length + 1 + extra = extra + 1 := by simp [Nat.add_comm]
    rw [fuel]
    exact ⟨[], modeSelectFrom_exact bounded ends extra flags⟩
  | cons page pages ih =>
    intro offset flags ends holds extra
    obtain ⟨here, later⟩ := holds_append_iff.mp holds
    have size : page.bytes.length = page.body.length + 2 := rfl
    have whole : (modePagesBytes (page :: pages)).length = page.body.length + 2 + (modePagesBytes pages).length := by
      rw [modePagesBytes, List.flatMap_cons, List.length_append, size]
      rfl
    have length := (ModePage.holds_fields here).2.1
    have next : (offset + ((memory (cursor + offset.toNat + 1)).setWidth 32 + 2)).toNat =
        offset.toNat + (page.body.length + 2) := by
      rw [nextOffset_toNat, length, page.length_toNat]
      omega
    have ends' : (offset + ((memory (cursor + offset.toNat + 1)).setWidth 32 + 2)).toNat +
        (modePagesBytes pages).length = total := by
      rw [next]
      omega
    have later' : Holds memory (cursor + (offset + ((memory (cursor + offset.toNat + 1)).setWidth 32 + 2)).toNat)
        (modePagesBytes pages) := by
      rw [next, ← size, ← Nat.add_assoc]
      exact later
    obtain ⟨reads, walked⟩ := @ih _ (flags.select page) ends' later' extra
    have fuel : (page :: pages).length + 1 + extra = pages.length + 1 + extra + 1 := by
      rw [List.length_cons]
      omega
    refine ⟨(selectPage memory (cursor + offset.toNat) flags).2 ++ reads, ?_⟩
    have nonzero : memory (cursor + offset.toNat + 1) ≠ 0 := by
      rw [length]
      exact page.length_ne_zero
    rw [fuel, modeSelectFrom_page bounded (by omega) nonzero, selectPage_fst here, walked]
    rfl

private theorem foldl_select (pages : List ModePage) (flags : CacheFlags) :
    pages.foldl CacheFlags.select flags =
      match (pages.filter ModePage.isCaching).getLast? with
      | some page => ⟨!page.readDisableCache, page.writeCacheEnable⟩
      | none => flags := by
  induction pages using List.reverseRecOn with
  | nil => rfl
  | append_singleton pages page ih =>
    rw [List.foldl_append, List.foldl_cons, List.foldl_nil, CacheFlags.select, List.filter_append]
    by_cases caching : page.isCaching = true
    · simp [caching]
    · simp [caching, ih]

theorem ModeParameterList.length_bytes (list : ModeParameterList) :
    list.bytes.length = modeHeaderSize + list.descriptors.length + (modePagesBytes list.pages).length := by
  simp [bytes, header, modeHeaderSize]
  omega

private theorem selectReturns_of_selects {list : ModeParameterList} {srbext : SrbExt} (selects : Selects srbext memory list.bytes)
    (flags : CacheFlags) : SelectReturns srbext memory flags (list.pages.foldl CacheFlags.select flags) := by
  have bounded := srbext.dataBufLen.isLt
  have total := selects.length.trans list.length_bytes
  obtain ⟨header, rest⟩ := holds_append_iff.mp selects.content
  obtain ⟨_, pages⟩ := holds_append_iff.mp rest
  have stated : memory 3 = BitVec.ofNat 8 list.descriptors.length := header 3 (Nat.lt_succ_self 3)
  have length : (memory 3).toNat = list.descriptors.length := by
    have short := list.short
    rw [stated, BitVec.toNat_ofNat]
    omega
  have size : srbext.dataBufLen.toNat - (modeHeaderSize + (memory 3).toNat) = (modePagesBytes list.pages).length := by
    omega
  have start : modeHeaderSize + (memory 3).toNat + (0 : BitVec 32).toNat = 0 + list.header.length + list.descriptors.length := by
    rw [length]
    rfl
  refine ⟨list.pages.length + 1, ?_⟩
  intro extra
  obtain ⟨reads, walked⟩ := @modeSelectFrom_pages memory (modeHeaderSize + (memory 3).toNat) _
    (by omega : (modePagesBytes list.pages).length < 2 ^ 32) list.pages 0 flags (Nat.zero_add _) (start ▸ pages) extra
  refine ⟨⟨3, 1⟩ :: reads, ?_⟩
  simp only [modeSelect6, selects.pageFormat, Bool.true_eq_false, if_false]
  rw [startSize_eq (by omega), size, walked]
  rfl

/-! A reply is a list of such pages, without block descriptors. -/

namespace ModePage

def ofBody (flagBits : BitVec 2) (code : BitVec 6) (body : List (BitVec 8)) (ten : body.length = 10) : ModePage where
  flagBits := flagBits
  code := code
  body := body
  nonempty := by omega
  short := by omega

def caching (flags : CacheFlags) : ModePage := ofBody 2 modePageCaching ((fillModePageCaching flags).drop 2) rfl
def control : ModePage := ofBody 0 modePageControl (fillModePageControl.drop 2) rfl
def infoException : ModePage := ofBody 0 modePageFaultReporting (fillModePageInfoException.drop 2) rfl

private theorem select_caching (flags : CacheFlags) : flags.select (caching flags) = flags := by
  obtain ⟨read, write⟩ := flags
  cases read <;> cases write <;> rfl

@[simp] theorem select_control (flags : CacheFlags) : flags.select control = flags := rfl

@[simp] theorem select_infoException (flags : CacheFlags) : flags.select infoException = flags := rfl

end ModePage

def ModeParameterList.reply (modeDataLength : BitVec 8) (pages : List ModePage) : ModeParameterList :=
  ⟨modeDataLength, 0, 0, [], pages, Nat.zero_lt_succ _⟩

private theorem copyToCdbBuffer_whole {reply : ModeReply} {page : List (BitVec 8)} (fits : page.length ≤ reply.bufSize.toNat) :
    (reply.copyToCdbBuffer page).pages = reply.pages ++ page ∧
      (reply.copyToCdbBuffer page).bufSize.toNat = reply.bufSize.toNat - page.length := by
  have bounded := reply.bufSize.isLt
  have size : (BitVec.ofNat 32 page.length).toNat = page.length := by
    rw [BitVec.toNat_ofNat]
    omega
  have copied : ulongMin (BitVec.ofNat 32 page.length) reply.bufSize = BitVec.ofNat 32 page.length := by
    apply BitVec.eq_of_toNat_eq
    rw [ulongMin_toNat, size]
    omega
  simp only [ModeReply.copyToCdbBuffer, copied, size, List.take_length, true_and]
  rw [BitVec.toNat_sub, size]
  omega

theorem copyWhileRoom_eq (reply : ModeReply) (page : List (BitVec 8)) :
    reply.copyWhileRoom page = reply.copyToCdbBuffer page := by
  unfold ModeReply.copyWhileRoom
  split
  · rfl
  · next full =>
    have room : reply.bufSize = 0 := by
      rw [gt_iff_lt, BitVec.lt_def] at full
      exact BitVec.eq_of_toNat_eq (Nat.le_zero.mp (Nat.le_of_not_lt full))
    have copied : ulongMin (BitVec.ofNat 32 page.length) reply.bufSize = 0 := by
      apply BitVec.eq_of_toNat_eq
      rw [ulongMin_toNat, room]
      exact Nat.min_zero _
    simp only [ModeReply.copyToCdbBuffer, copied]
    simp

/-- What is written later stays behind what is written first. -/
theorem pages_prefix_copyToCdbBuffer (reply : ModeReply) (page : List (BitVec 8)) :
    reply.pages <+: (reply.copyToCdbBuffer page).pages := List.prefix_append ..

theorem header_bufSize {dataBufLen : BitVec 32} (fits : modeHeaderSize ≤ dataBufLen.toNat) :
    (ModeReply.header dataBufLen).bufSize.toNat = dataBufLen.toNat - modeHeaderSize := by
  have bounded := dataBufLen.isLt
  have four : ScsiSize.modeParameterHeader.toNat = modeHeaderSize := rfl
  rw [ModeReply.header, BitVec.toNat_sub, four]
  omega

structure SensesCaching (sense : SrbExt) : Prop where
  buffer : sense.dataBuf ≠ 0
  room : modeHeaderSize + modePageSize ≤ sense.dataBufLen.toNat
  page : (Cdb.byte sense.cdb 2).setWidth 6 = modePageCaching ∨ (Cdb.byte sense.cdb 2).setWidth 6 = modeSenseReturnAll

structure SensesWhole (sense : SrbExt) : Prop where
  buffer : sense.dataBuf ≠ 0
  room :
    ((Cdb.byte sense.cdb 2).setWidth 6 ∈ [modePageCaching, modePageControl, modePageFaultReporting] ∧
      modeHeaderSize + modePageSize ≤ sense.dataBufLen.toNat) ∨
    ((Cdb.byte sense.cdb 2).setWidth 6 = modeSenseReturnAll ∧
      modeHeaderSize + 3 * modePageSize ≤ sense.dataBufLen.toNat)

structure CarriesCaching (written : List (BitVec 8)) (bits : Bool × Bool) : Prop where
  whole : modeHeaderSize + modePageSize ≤ written.length
  code : (written.getD 4 0).setWidth 6 = modePageCaching
  length : written.getD 5 0 = 10
  readDisableCache : (written.getD 6 0).getLsbD 0 = bits.1
  writeCacheEnable : (written.getD 6 0).getLsbD 2 = bits.2

private theorem carriesCaching_of_prefix {flags : CacheFlags} {reply : ModeReply} (first : fillModePageCaching flags <+: reply.pages) :
    CarriesCaching reply.bytes (!flags.readCacheEnabled, flags.writeCacheEnabled) := by
  obtain ⟨rest, whole⟩ := first
  obtain ⟨read, write⟩ := flags
  rw [ModeReply.bytes, ← whole]
  simp only [fillModePageCaching, List.cons_append, List.nil_append]
  constructor
  · simp [modeHeaderSize, modePageSize]
  · exact (by decide : (0x80 ||| modePageCaching.setWidth 8 : BitVec 8).setWidth 6 = modePageCaching)
  · rfl
  all_goals
    simp only [List.getD_cons_succ, List.getD_cons_zero]
    cases read <;> cases write <;> rfl

theorem not_short {sense : SrbExt} (buffer : sense.dataBuf ≠ 0) (room : modeHeaderSize ≤ sense.dataBufLen.toNat) :
    ¬ (sense.dataBufLen < ScsiSize.modeParameterHeader ∨ sense.dataBuf = 0) := by
  have four : ScsiSize.modeParameterHeader.toNat = modeHeaderSize := rfl
  rw [BitVec.lt_def, four, not_or]
  exact ⟨Nat.not_lt_of_le room, buffer⟩

private theorem modeSense6_carriesCaching {sense : SrbExt} (senses : SensesCaching sense) (flags : CacheFlags) :
    CarriesCaching (modeSense6 sense flags).written (!flags.readCacheEnabled, flags.writeCacheEnabled) := by
  have room := senses.room
  have size := @header_bufSize sense.dataBufLen (by omega)
  simp only [modeHeaderSize, modePageSize] at room size
  have first : ((ModeReply.header sense.dataBufLen).copyToCdbBuffer (fillModePageCaching flags)).pages =
      fillModePageCaching flags := by
    have ten : (fillModePageCaching flags).length = 12 := rfl
    rw [(copyToCdbBuffer_whole (by omega)).1]
    rfl
  rw [modeSense6, if_neg (not_short senses.buffer (by simp only [modeHeaderSize]; omega))]
  obtain caching | all := senses.page
  · simp only [caching, if_true]
    apply carriesCaching_of_prefix
    rw [first]
  · have others : modeSenseReturnAll ≠ modePageCaching ∧ modeSenseReturnAll ≠ modePageControl ∧
        modeSenseReturnAll ≠ modePageFaultReporting := by decide
    simp only [all, others, if_false, if_true]
    apply carriesCaching_of_prefix
    have control := pages_prefix_copyToCdbBuffer
      ((ModeReply.header sense.dataBufLen).copyToCdbBuffer (fillModePageCaching flags)) fillModePageControl
    have begins := control.trans (pages_prefix_copyToCdbBuffer _ fillModePageInfoException)
    rw [first] at begins
    simp only [copyWhileRoom_eq]
    exact begins

private theorem bytes_eq_reply {reply : ModeReply} {pages : List ModePage} (same : reply.pages = modePagesBytes pages) :
    reply.bytes = (ModeParameterList.reply reply.modeDataLength pages).bytes := by
  rw [ModeReply.bytes, same]
  rfl

private theorem copyToCdbBuffer_page {reply : ModeReply} {page : ModePage} (fits : page.bytes.length ≤ reply.bufSize.toNat) :
    (reply.copyToCdbBuffer page.bytes).pages = reply.pages ++ modePagesBytes [page] := by
  rw [(copyToCdbBuffer_whole fits).1, modePagesBytes, List.flatMap_singleton]

private theorem copyWhileRoom_page {reply : ModeReply} {page : ModePage} {left : Nat} (twelve : page.bytes.length = modePageSize)
    (room : reply.bufSize.toNat = left + modePageSize) :
    (reply.copyWhileRoom page.bytes).pages = reply.pages ++ modePagesBytes [page] ∧
      (reply.copyWhileRoom page.bytes).bufSize.toNat = left := by
  have fits : page.bytes.length ≤ reply.bufSize.toNat := by omega
  rw [copyWhileRoom_eq, copyToCdbBuffer_page fits, (copyToCdbBuffer_whole fits).2]
  exact ⟨rfl, by omega⟩

/-- The bytes of a whole reply are a parameter list whose pages leave the flags alone. -/
theorem modeSense6_whole {sense : SrbExt} (senses : SensesWhole sense) (flags : CacheFlags) :
    ∃ list : ModeParameterList, (modeSense6 sense flags).written = list.bytes ∧
      list.pages.foldl CacheFlags.select flags = flags := by
  have caching : fillModePageCaching flags = (ModePage.caching flags).bytes := rfl
  have control : fillModePageControl = ModePage.control.bytes := rfl
  have infoException : fillModePageInfoException = ModePage.infoException.bytes := rfl
  have distinct : modePageControl ≠ modePageCaching ∧ modePageFaultReporting ≠ modePageCaching ∧
      modePageFaultReporting ≠ modePageControl ∧ modeSenseReturnAll ≠ modePageCaching ∧
      modeSenseReturnAll ≠ modePageControl ∧ modeSenseReturnAll ≠ modePageFaultReporting := by decide
  have enough : 16 ≤ sense.dataBufLen.toNat := by
    obtain ⟨_, room⟩ | ⟨_, room⟩ := senses.room
    · exact room
    · exact Nat.le_trans (by decide) room
  have header : modeHeaderSize ≤ sense.dataBufLen.toNat := Nat.le_trans (by decide) enough
  have size := header_bufSize header
  have single : ∀ page : ModePage, page.bytes.length = 12 →
      ((ModeReply.header sense.dataBufLen).copyToCdbBuffer page.bytes).pages = modePagesBytes [page] := by
    intro page twelve
    rw [copyToCdbBuffer_page]
    · rfl
    · rw [size, twelve]
      exact Nat.le_sub_of_add_le enough
  rw [modeSense6, if_neg (not_short senses.buffer header)]
  obtain ⟨one, _⟩ | ⟨all, room⟩ := senses.room
  · simp only [List.mem_cons, List.not_mem_nil, or_false] at one
    obtain code | code | code := one
    · simp only [code, if_true, caching]
      exact ⟨_, bytes_eq_reply (single (ModePage.caching flags) rfl), ModePage.select_caching flags⟩
    · simp only [code, distinct, if_true, if_false, control]
      exact ⟨_, bytes_eq_reply (single ModePage.control rfl), rfl⟩
    · simp only [code, distinct, if_true, if_false, infoException]
      exact ⟨_, bytes_eq_reply (single ModePage.infoException rfl), rfl⟩
  · simp only [all, distinct, if_false, if_true, caching, control, infoException]
    have start : (ModeReply.header sense.dataBufLen).bufSize.toNat =
        sense.dataBufLen.toNat - (modeHeaderSize + 3 * modePageSize) + modePageSize + modePageSize + modePageSize := by
      omega
    obtain ⟨first, left⟩ := copyWhileRoom_page (rfl : (ModePage.caching flags).bytes.length = modePageSize) start
    obtain ⟨second, left⟩ := copyWhileRoom_page (rfl : ModePage.control.bytes.length = modePageSize) left
    obtain ⟨third, _⟩ := copyWhileRoom_page (rfl : ModePage.infoException.bytes.length = modePageSize) left
    have pages : ((ModeReply.header sense.dataBufLen).pages ++ modePagesBytes [ModePage.caching flags] ++
        modePagesBytes [ModePage.control]) ++ modePagesBytes [ModePage.infoException] =
        modePagesBytes [ModePage.caching flags, ModePage.control, ModePage.infoException] := by
      simp [modePagesBytes, ModeReply.header]
    rw [second, first, pages] at third
    exact ⟨_, bytes_eq_reply third, ModePage.select_caching flags⟩

private theorem carries_cacheBits (list : ModeParameterList) (flags : CacheFlags) :
    (!(list.pages.foldl CacheFlags.select flags).readCacheEnabled,
      (list.pages.foldl CacheFlags.select flags).writeCacheEnabled) = list.cacheBits flags := by
  rw [foldl_select, ModeParameterList.cacheBits]
  split
  · rw [Bool.not_not]
  · rfl

/-- After a list of pages the caching page of a reply carries the bits of the last
caching page of the list, and a whole reply sent back changes nothing. -/
theorem modeSelect6_modeSense6 :
    (∀ (list : ModeParameterList) (srbext : SrbExt) (memory : Nat → BitVec 8) (flags : CacheFlags),
      Selects srbext memory list.bytes → ∃ final, SelectReturns srbext memory flags final ∧
        ∀ sense, SensesCaching sense → CarriesCaching (modeSense6 sense final).written (list.cacheBits flags)) ∧
    ∀ (flags : CacheFlags) (sense srbext : SrbExt) (memory : Nat → BitVec 8),
      SensesWhole sense → Selects srbext memory (modeSense6 sense flags).written →
        SelectReturns srbext memory flags flags := by
  constructor
  · intro list srbext memory flags selects
    refine ⟨_, selectReturns_of_selects selects flags, ?_⟩
    intro sense senses
    rw [← carries_cacheBits]
    exact modeSense6_carriesCaching senses _
  · intro flags sense srbext memory senses selects
    obtain ⟨list, same, unchanged⟩ := modeSense6_whole senses flags
    rw [same] at selects
    have returns := selectReturns_of_selects selects flags
    rw [unchanged] at returns
    exact returns

def cachesOn : ModeParameterList := .reply 0 [ModePage.caching ⟨true, true⟩]

theorem modeSelect6_modeSense6_cachesOn :
    ∃ final, SelectReturns (selectRequest 16) (fun address => cachesOn.bytes.getD address 0) ⟨false, false⟩ final ∧
      ∀ sense, SensesCaching sense → CarriesCaching (modeSense6 sense final).written (cachesOn.cacheBits ⟨false, false⟩) :=
  modeSelect6_modeSense6.1 cachesOn (selectRequest 16) _ ⟨false, false⟩ ⟨rfl, rfl, holds_getD _ _⟩

end SpcNvme
