import Mathlib.Data.List.Flatten
import SpcNvme.ModeSense
import SpcNvme.Proofs.ReplyWrites

/-! A MODE SENSE reply that does not fit is cut off. For every length of the data
buffer, what stands there is a front of the whole reply, counted in its header: the
buffer holds what `modeSense6` has written, which grows page by page. -/

namespace SpcNvme

open Access

def modePagesOf (flags : CacheFlags) (pageCode : BitVec 6) : Option (List (List (BitVec 8))) :=
  if pageCode = modePageCaching then some [fillModePageCaching flags]
  else if pageCode = modePageControl then some [fillModePageControl]
  else if pageCode = modePageFaultReporting then some [fillModePageInfoException]
  else if pageCode = modeSenseReturnAll then
    some [fillModePageCaching flags, fillModePageControl, fillModePageInfoException]
  else none

/-- A reply is a header and as many bytes of the pages as there is room for. The
length in the header is one less than what is returned, as numbers: it has not wrapped. -/
structure RepliesFront (dataBufLen : Nat) (pages : List (BitVec 8)) (before : Nat → BitVec 8) (reply : ModeSenseReturn) :
    Prop where
  success : reply.srbStatus = .success
  length : reply.transferLength.toNat = min dataBufLen (modeHeaderSize + pages.length)
  front :
    load reply.dataBuf modeHeaderSize (reply.transferLength.toNat - modeHeaderSize) =
      pages.take (reply.transferLength.toNat - modeHeaderSize)
  untouched : ∀ address, reply.transferLength.toNat ≤ address → reply.dataBuf address = before address
  counted : (reply.dataBuf 0).toNat + 1 = reply.transferLength.toNat

/-! What the handler does to the buffer is to store the bytes of the reply there. -/

def ModeSenseResult.inBuffer (result : ModeSenseResult) (before : Nat → BitVec 8) : ModeSenseReturn :=
  ⟨result.status, result.retSize, store before 0 result.written⟩

variable {before : Nat → BitVec 8} {reply : ModeReply} {vars : ModeSenseVars}

/-- The bytes of the reply stand at the start of the buffer, and the pointer is behind them. -/
structure ModeSenseVars.Renders (vars : ModeSenseVars) (reply : ModeReply) (before : Nat → BitVec 8) : Prop where
  memory : vars.memory = store before 0 reply.bytes
  buffer : vars.buffer = 0 + reply.bytes.length
  bufSize : vars.bufSize = reply.bufSize
  retSize : vars.retSize = reply.retSize

private theorem fillParamHeader_eq (before : Nat → BitVec 8) : fillParamHeader before = store before 0 [3, 0, 0, 0] := by
  have two := store_append before 0 [3] [0]
  have three := store_append before 0 [3, 0] [0]
  have four := store_append before 0 [3, 0, 0] [0]
  rw [List.cons_append, List.nil_append] at two
  rw [List.cons_append, List.cons_append, List.nil_append, ← two] at three
  rw [List.cons_append, List.cons_append, List.cons_append, List.nil_append, ← three] at four
  exact four

private theorem copiedSize_eq (pageSize bufSize : BitVec 32) :
    (if pageSize > bufSize then bufSize else pageSize) = ulongMin pageSize bufSize := by
  apply BitVec.eq_of_toNat_eq
  rw [ulongMin_toNat]
  split
  · next more =>
    rw [gt_iff_lt, BitVec.lt_def] at more
    omega
  · next fits =>
    rw [gt_iff_lt, BitVec.lt_def] at fits
    omega

namespace ModeSenseVars

def Copies (answer : ModeSenseVars → BitVec 32 × ModeSenseVars) (page : List (BitVec 8)) : Prop :=
  ∀ vars, answer vars = vars.copyToCdbBuffer page (BitVec.ofNat 32 page.length)

private theorem replyModePageCaching_copies (flags : CacheFlags) : Copies (replyModePageCaching flags) (fillModePageCaching flags) :=
  fun _ => rfl

private theorem replyModePageControl_copies : Copies replyModePageControl fillModePageControl := fun _ => rfl

private theorem replyModePageInfoExceptionCtrl_copies : Copies replyModePageInfoExceptionCtrl fillModePageInfoException :=
  fun _ => rfl

variable {answer : ModeSenseVars → BitVec 32 × ModeSenseVars} {page : List (BitVec 8)}

theorem Renders.counting (renders : vars.Renders reply before) (copies : Copies answer page) :
    (vars.counting answer).Renders (reply.copyToCdbBuffer page) before := by
  have copied := ulongMin_toNat (BitVec.ofNat 32 page.length) reply.bufSize
  simp only [ModeSenseVars.counting, copies vars, ModeSenseVars.copyToCdbBuffer, copiedSize_eq, renders.bufSize,
    renders.retSize, renders.memory, renders.buffer, store_append]
  generalize piece : page.take (ulongMin (BitVec.ofNat 32 page.length) reply.bufSize).toNat = copy
  constructor
  · have first := (holds_cons_iff.mp (holds_store before 0 (reply.bytes ++ copy))).1
    rw [first]
    simp only [ModeReply.copyToCdbBuffer, piece]
    exact store_head before 0 _ _ _
  · have length : copy.length = (ulongMin (BitVec.ofNat 32 page.length) reply.bufSize).toNat := by
      rw [← piece, List.length_take, copied, BitVec.toNat_ofNat]
      omega
    have header : ∀ first : BitVec 8, [first, 0, 0, 0].length = modeHeaderSize := fun _ => rfl
    simp only [ModeReply.copyToCdbBuffer, ModeReply.bytes, List.length_append, header, piece, length]
    omega
  · rfl
  · rfl

theorem Renders.countingWhileRoom (renders : vars.Renders reply before) (copies : Copies answer page) :
    (vars.countingWhileRoom answer).Renders (reply.copyWhileRoom page) before := by
  unfold ModeSenseVars.countingWhileRoom ModeReply.copyWhileRoom
  rw [renders.bufSize]
  split
  · exact renders.counting copies
  · exact renders

theorem Renders.returning (renders : vars.Renders reply before) (status : SrbStatus) :
    vars.returning status = (reply.result status).inBuffer before := by
  rw [ModeSenseVars.returning, renders.retSize, renders.memory]
  rfl

end ModeSenseVars

/-- On every request the handler leaves the buffer with the bytes it is said to write. -/
theorem modeSense6InBuffer_eq (srbext : SrbExt) (flags : CacheFlags) (before : Nat → BitVec 8) :
    modeSense6InBuffer srbext flags before = (modeSense6 srbext flags).inBuffer before := by
  have header : (ModeSenseVars.mk (fillParamHeader before) ScsiSize.modeParameterHeader.toNat
      (srbext.dataBufLen - ScsiSize.modeParameterHeader) (0 + ScsiSize.modeParameterHeader)).Renders
      (.header srbext.dataBufLen) before := ⟨fillParamHeader_eq before, rfl, rfl, rfl⟩
  have caching := ModeSenseVars.replyModePageCaching_copies flags
  have control := ModeSenseVars.replyModePageControl_copies
  have infoException := ModeSenseVars.replyModePageInfoExceptionCtrl_copies
  simp only [modeSense6InBuffer, modeSense6, apply_ite (ModeSenseResult.inBuffer · before)]
  split
  · simp only [ModeSenseResult.inBuffer, store_nil]
  · split
    · exact (header.counting caching).returning .success
    · split
      · exact (header.counting control).returning .success
      · split
        · exact (header.counting infoException).returning .success
        · split
          · have first := header.countingWhileRoom caching
            have second := first.countingWhileRoom control
            exact (second.countingWhileRoom infoException).returning .success
          · exact header.returning .invalidRequest

/-! How the bytes that are written follow from the pages. -/

namespace ModeReply

/-- The pages so far are cut off at the end of the buffer, and the header counts
what of them is there. -/
structure Cut (reply : ModeReply) (total : Nat) (output : List (BitVec 8)) : Prop where
  counts : reply.Counts total
  pages : reply.pages = output.take (total - modeHeaderSize)
  counted : reply.modeDataLength = (reply.retSize - 1).setWidth 8

variable {total : Nat} {output : List (BitVec 8)}

private theorem header_cut {dataBufLen : BitVec 32} (fits : modeHeaderSize ≤ dataBufLen.toNat) :
    (header dataBufLen).Cut dataBufLen.toNat [] where
  counts := header_counts fits
  pages := List.take_nil.symm
  counted := show (3 : BitVec 8) = (ScsiSize.modeParameterHeader - 1).setWidth 8 by decide

theorem Cut.bufSize (cut : reply.Cut total output) : reply.bufSize.toNat = total - modeHeaderSize - output.length := by
  have returned := cut.counts.returned
  have left := cut.counts.left
  rw [cut.pages, List.length_take] at returned
  omega

theorem Cut.retSize (cut : reply.Cut total output) (fits : modeHeaderSize ≤ total) :
    reply.retSize.toNat = min total (modeHeaderSize + output.length) := by
  have returned := cut.counts.returned
  rw [cut.pages, List.length_take] at returned
  omega

theorem Cut.copy (cut : reply.Cut total output) (bounded : total < 2 ^ 32) {page : List (BitVec 8)}
    (short : page.length < 2 ^ 32) : (reply.copyToCdbBuffer page).Cut total (output ++ page) := by
  constructor
  · exact cut.counts.copy bounded short
  · have copied := ulongMin_toNat (BitVec.ofNat 32 page.length) reply.bufSize
    rw [BitVec.toNat_ofNat, Nat.mod_eq_of_lt short, cut.bufSize] at copied
    have piece : page.take (ulongMin (BitVec.ofNat 32 page.length) reply.bufSize).toNat =
        page.take (total - modeHeaderSize - output.length) := by
      rw [List.take_eq_take_iff, copied]
      omega
    simp only [copyToCdbBuffer, piece, cut.pages, List.take_append]
  · simp only [copyToCdbBuffer, cut.counted]
    have sum : reply.retSize + ulongMin (BitVec.ofNat 32 page.length) reply.bufSize - 1 =
        reply.retSize - 1 + ulongMin (BitVec.ofNat 32 page.length) reply.bufSize := by
      bv_omega
    rw [sum, BitVec.setWidth_add _ _ (by omega : 8 ≤ 32)]

theorem Cut.copies (bounded : total < 2 ^ 32) {pages : List (List (BitVec 8))} (short : ∀ page ∈ pages, page.length < 2 ^ 32) :
    ∀ {reply : ModeReply} {output : List (BitVec 8)}, reply.Cut total output →
      (pages.foldl copyToCdbBuffer reply).Cut total (output ++ pages.flatten) := by
  induction pages with
  | nil =>
    intro reply output cut
    rw [List.flatten_nil, List.append_nil]
    exact cut
  | cons page pages ih =>
    intro reply output cut
    have next := cut.copy bounded (short page List.mem_cons_self)
    rw [List.flatten_cons, ← List.append_assoc]
    exact ih (fun other member => short other (List.mem_cons_of_mem page member)) next

/-- What is cut off like this is a front, as long as the header can count it. -/
theorem Cut.repliesFront (cut : reply.Cut total output) (fits : modeHeaderSize ≤ total)
    (countable : modeHeaderSize + output.length ≤ 2 ^ 8) (before : Nat → BitVec 8) :
    RepliesFront total output before ((reply.result .success).inBuffer before) := by
  have four : modeHeaderSize = 4 := rfl
  have returned := cut.counts.returned
  have retSize := cut.retSize fits
  have stored := holds_store before 0 reply.bytes
  constructor
  · rfl
  · exact retSize
  · have size : reply.pages.length = reply.retSize.toNat - modeHeaderSize := by omega
    have pages : reply.pages = output.take (reply.retSize.toNat - modeHeaderSize) := by
      rw [cut.pages, List.take_eq_take_iff]
      omega
    exact (load_of_holds (holds_append_iff.mp stored).2 size).trans pages
  · intro address behind
    have length : reply.bytes.length = modeHeaderSize + reply.pages.length := List.length_append
    have outside : 0 + reply.bytes.length ≤ address := by
      rw [length, ← returned, Nat.zero_add]
      exact behind
    exact store_outside (.inr outside)
  · have first : store before 0 reply.bytes 0 = reply.modeDataLength := (holds_cons_iff.mp stored).1
    have counted : reply.modeDataLength.toNat + 1 = reply.retSize.toNat := by
      have one : (1 : BitVec 32).toNat = 1 := rfl
      rw [cut.counted, BitVec.toNat_setWidth, BitVec.toNat_sub, one]
      omega
    show (store before 0 reply.bytes 0).toNat + 1 = reply.retSize.toNat
    rw [first]
    exact counted

end ModeReply

variable {srbext : SrbExt} {flags : CacheFlags} {pageCode : BitVec 6} {pages : List (List (BitVec 8))}

private theorem modePagesOf_sublist (supported : modePagesOf flags pageCode = some pages) :
    pages.Sublist [fillModePageCaching flags, fillModePageControl, fillModePageInfoException] := by
  unfold modePagesOf at supported
  split at supported
  · cases supported
    simp
  · split at supported
    · cases supported
      simp
    · split at supported
      · cases supported
        simp
      · split at supported
        · cases supported
          exact List.Sublist.refl _
        · cases supported

private theorem modePagesOf_length (supported : modePagesOf flags pageCode = some pages) {page : List (BitVec 8)}
    (member : page ∈ pages) : page.length = modePageSize := by
  have known := (modePagesOf_sublist supported).subset member
  simp only [List.mem_cons, List.not_mem_nil, or_false] at known
  obtain same | same | same := known
  · rw [same]
    rfl
  · rw [same]
    rfl
  · rw [same]
    rfl

private theorem modePagesOf_total (supported : modePagesOf flags pageCode = some pages) :
    pages.flatten.length ≤ 3 * modePageSize :=
  (modePagesOf_sublist supported).flatten.length_le

private theorem modeSense6_eq_copies (buffer : srbext.dataBuf ≠ 0) (room : modeHeaderSize ≤ srbext.dataBufLen.toNat)
    (supported : modePagesOf flags ((Cdb.byte srbext.cdb 2).setWidth 6) = some pages) :
    modeSense6 srbext flags =
      (pages.foldl ModeReply.copyToCdbBuffer (.header srbext.dataBufLen)).result .success := by
  rw [modeSense6, if_neg (not_short buffer room)]
  simp only [copyWhileRoom_eq]
  unfold modePagesOf at supported
  split at supported
  · next code =>
    cases supported
    rw [if_pos code]
    rfl
  · next notCaching =>
    rw [if_neg notCaching]
    split at supported
    · next code =>
      cases supported
      rw [if_pos code]
      rfl
    · next notControl =>
      rw [if_neg notControl]
      split at supported
      · next code =>
        cases supported
        rw [if_pos code]
        rfl
      · next notInfoException =>
        rw [if_neg notInfoException]
        split at supported
        · next code =>
          cases supported
          rw [if_pos code]
          rfl
        · cases supported

def senseRequest (dataBufLen : BitVec 32) : SrbExt :=
  .init (some { sampleSrb with cdb := [0x1A, 0, 0x3F, 0, 0, 0], dataTransferLength := dataBufLen, dataBuffer := 0x1000 })

/-- Whatever the length of the data buffer, the cache flags, the page code and the
content of the buffer. -/
theorem modeSense6InBuffer_repliesFront (buffer : srbext.dataBuf ≠ 0) (room : modeHeaderSize ≤ srbext.dataBufLen.toNat)
    (supported : modePagesOf flags ((Cdb.byte srbext.cdb 2).setWidth 6) = some pages) (before : Nat → BitVec 8) :
    RepliesFront srbext.dataBufLen.toNat pages.flatten before (modeSense6InBuffer srbext flags before) := by
  have total := modePagesOf_total supported
  have twelve : modePageSize < 2 ^ 32 := by decide
  have short : ∀ page ∈ pages, page.length < 2 ^ 32 := by
    intro page member
    rw [modePagesOf_length supported member]
    exact twelve
  have cut := ModeReply.Cut.copies srbext.dataBufLen.isLt short (ModeReply.header_cut room)
  rw [List.nil_append] at cut
  have countable : modeHeaderSize + pages.flatten.length ≤ 2 ^ 8 := by
    simp only [modeHeaderSize, modePageSize] at total ⊢
    omega
  rw [modeSense6InBuffer_eq, modeSense6_eq_copies buffer room supported]
  exact cut.repliesFront room countable before

/-- All pages in a buffer of 20 bytes: one page and four bytes of the next. -/
theorem modeSense6InBuffer_repliesFront_cut :
    RepliesFront 20 [fillModePageCaching ⟨true, false⟩, fillModePageControl, fillModePageInfoException].flatten
      (fun _ => 0xCC) (modeSense6InBuffer (senseRequest 20) ⟨true, false⟩ fun _ => 0xCC) := by
  have buffer : (senseRequest 20).dataBuf ≠ 0 := Nat.succ_ne_zero _
  have room : modeHeaderSize ≤ (senseRequest 20).dataBufLen.toNat := by decide
  exact modeSense6InBuffer_repliesFront buffer room rfl _

end SpcNvme
