import SpcNvme.Scsi
import SpcNvme.Transfers
import SpcNvme.Proofs.Host

/-! Which blocks a read or write command moves, and how many bytes. The request
says it in its command block, the command in a zero-based 16-bit field, and the
physical region pages follow the length of the data buffer. -/

namespace SpcNvme

inductive CdbFormat where
  | six
  | ten
  | twelve
  | sixteen
deriving DecidableEq, Repr

namespace CdbFormat

def lba (cdb : List (BitVec 8)) : CdbFormat → Nat
  | six => BigEndian.value [Cdb.byte cdb 1 &&& 0x1F, Cdb.byte cdb 2, Cdb.byte cdb 3]
  | ten => BigEndian.value (Cdb.field cdb 2 4)
  | twelve => BigEndian.value (Cdb.field cdb 2 4)
  | sixteen => BigEndian.value (Cdb.field cdb 2 8)

/-- The number of blocks; the short format writes 256 as 0. -/
def blocks (cdb : List (BitVec 8)) : CdbFormat → Nat
  | six => if (Cdb.byte cdb 4).toNat = 0 then 256 else (Cdb.byte cdb 4).toNat
  | ten => BigEndian.value (Cdb.field cdb 7 2)
  | twelve => BigEndian.value (Cdb.field cdb 6 4)
  | sixteen => BigEndian.value (Cdb.field cdb 10 4)

def parse : CdbFormat → List (BitVec 8) → BitVec 64 × BitVec 32
  | six => parseReadWrite6
  | ten => parseReadWrite10
  | twelve => parseReadWrite12
  | sixteen => parseReadWrite16

def handler (host : Host) (memory : Memory) (address processor : Nat) : CdbFormat → Bool → Option (SrbStatus × Host)
  | six, false => host.scsiRead6 memory address processor
  | six, true => host.scsiWrite6 memory address processor
  | ten, false => host.scsiRead10 memory address processor
  | ten, true => host.scsiWrite10 memory address processor
  | twelve, false => host.scsiRead12 memory address processor
  | twelve, true => host.scsiWrite12 memory address processor
  | sixteen, false => host.scsiRead16 memory address processor
  | sixteen, true => host.scsiWrite16 memory address processor

theorem handler_eq (host : Host) (memory : Memory) (address processor : Nat) (format : CdbFormat) (isWrite : Bool) :
    format.handler host memory address processor isWrite =
      host.scsiReadWrite memory address processor (format.parse (host.heap.srbext address).cdb).1
        (format.parse (host.heap.srbext address).cdb).2 isWrite := by
  cases format <;> cases isWrite <;> rfl

end CdbFormat

theorem Cdb.length_field (cdb : List (BitVec 8)) (start size : Nat) : (Cdb.field cdb start size).length = size := by
  simp [Cdb.field]

private theorem Cdb.toNat_reverseBytes {width size : Nat} (cdb : List (BitVec 8)) (start : Nat) (fits : 8 * size ≤ width) :
    (Cdb.reverseBytes width cdb start size).toNat = BigEndian.value (Cdb.field cdb start size) := by
  apply BigEndian.toNat_toBitVec
  rwa [Cdb.length_field]

private theorem toNat_or_bytes (high middle low : BitVec 8) :
    ((high.setWidth 64 <<< 16) ||| (middle.setWidth 64 <<< 8) ||| low.setWidth 64).toNat =
      BigEndian.value [high, middle, low] := by
  have first := high.isLt
  have second := middle.isLt
  have third := low.isLt
  have highShift : (high.setWidth 64 <<< 16).toNat = high.toNat <<< 16 := by
    simp only [BitVec.toNat_shiftLeft, BitVec.toNat_setWidth, Nat.shiftLeft_eq]
    omega
  have middleShift : (middle.setWidth 64 <<< 8).toNat = middle.toNat <<< 8 := by
    simp only [BitVec.toNat_shiftLeft, BitVec.toNat_setWidth, Nat.shiftLeft_eq]
    omega
  have inner : middle.toNat <<< 8 ||| low.toNat = middle.toNat <<< 8 + low.toNat :=
    (Nat.shiftLeft_add_eq_or_of_lt third middle.toNat).symm
  have below : middle.toNat <<< 8 + low.toNat < 2 ^ 16 := by
    rw [Nat.shiftLeft_eq]
    omega
  rw [BitVec.toNat_or, BitVec.toNat_or, highShift, middleShift, BitVec.toNat_setWidth, Nat.mod_eq_of_lt (by omega),
    Nat.or_assoc, inner, ← Nat.shiftLeft_add_eq_or_of_lt below, Nat.shiftLeft_eq, Nat.shiftLeft_eq]
  simp only [BigEndian.value, List.foldl_cons, List.foldl_nil]
  omega

namespace CdbFormat

theorem parse_lba (format : CdbFormat) (cdb : List (BitVec 8)) : (format.parse cdb).1.toNat = format.lba cdb := by
  cases format with
  | six => exact toNat_or_bytes ..
  | ten => exact Cdb.toNat_reverseBytes cdb 2 (by omega)
  | twelve => exact Cdb.toNat_reverseBytes cdb 2 (by omega)
  | sixteen => exact Cdb.toNat_reverseBytes cdb 2 (by omega)

theorem parse_blocks (format : CdbFormat) (cdb : List (BitVec 8)) :
    (format.parse cdb).2.toNat = format.blocks cdb := by
  cases format with
  | six =>
    have small := (Cdb.byte cdb 4).isLt
    have zero : (Cdb.byte cdb 4).setWidth 32 = 0 ↔ (Cdb.byte cdb 4).toNat = 0 := by
      rw [← BitVec.toNat_inj, BitVec.toNat_setWidth, Nat.mod_eq_of_lt (by omega)]
      rfl
    simp only [parse, parseReadWrite6, blocks, zero]
    split
    · rfl
    · rw [BitVec.toNat_setWidth, Nat.mod_eq_of_lt (by omega)]
  | ten => exact Cdb.toNat_reverseBytes cdb 7 (by omega)
  | twelve => exact Cdb.toNat_reverseBytes cdb 6 (by omega)
  | sixteen => exact Cdb.toNat_reverseBytes cdb 10 (by omega)

end CdbFormat

theorem buiildCmdReadWrite_fields (memory : Memory) (srbext : SrbExt) (offset : BitVec 64) (blocks : BitVec 32)
    (isWrite : Bool) :
    (buiildCmdReadWrite memory srbext offset blocks isWrite).nvmeCmd.slba = offset.toNat ∧
    (buiildCmdReadWrite memory srbext offset blocks isWrite).nvmeCmd.nlb = (blocks.toNat + 4294967295) % 65536 ∧
    (buiildCmdReadWrite memory srbext offset blocks isWrite).nvmeCmd.cid = srbext.cid ∧
    (buiildCmdReadWrite memory srbext offset blocks isWrite).nvmeCmd.nsid = srbext.lun.setWidth 32 + 1 ∧
    (buiildCmdReadWrite memory srbext offset blocks isWrite).prpSize = srbext.dataBufLen.toNat := by
  have wide := offset.isLt
  have count := blocks.isLt
  obtain ⟨prp1, prp2, freePrp2List, prp2VA, prp2List, prp2PA, built⟩ := srbext.withBuffer_eq memory
    { NvmeCommand.zero with
      opc := if isWrite then Opcode.nvmWrite else Opcode.nvmRead
      cid := srbext.cid
      nsid := srbext.lun.setWidth 32 + 1 } srbext.dataBuf srbext.dataBufLen.toNat
  simp only [buiildCmdReadWrite, built]
  have one : (1 : BitVec 32).toNat = 1 := rfl
  refine ⟨?_, ?_, trivial, trivial, trivial⟩
  · simp only [NvmeCommand.slba, BitVec.toNat_setWidth, BitVec.toNat_ushiftRight, Nat.shiftRight_eq_div_pow]
    omega
  · simp only [NvmeCommand.nlb, nlbField, BitVec.toNat_setWidth, BitVec.toNat_sub, one]
    omega

def SubmittedIo (before after : Host) (submission : Submission) : Prop :=
  ∃ index queue longer, before.device.ioQueue index = some queue ∧ after.device.ioQueue index = some longer ∧
    longer.trace.submitted = queue.trace.submitted ++ [submission]

private theorem not_submittedIo {before after : Host} (kept : after.device.ioQueue = before.device.ioQueue)
    (submission : Submission) : ¬ SubmittedIo before after submission := by
  intro submitted
  obtain ⟨index, queue, longer, present, found, grown⟩ := submitted
  rw [kept, present, Option.some.injEq] at found
  subst found
  exact absurd (congrArg List.length grown) (by simp)

private theorem submittedIo_accepted {host : Host} {address processor : Nat} {queue : CNvmeQueue} {submission : Submission}
    (accepts : host.AcceptsIo processor (host.heap.srbext address).nvmeCmd queue) :
    SubmittedIo host (host.acceptedIo address processor queue) submission ↔
      submission = ⟨(host.heap.srbext address).nvmeCmd, address, queue.trace.submitted.length⟩ := by
  constructor
  · intro submitted
    obtain ⟨index, other, longer, present, found, grown⟩ := submitted
    by_cases same : index = processor % host.device.registeredIoQ.toNat
    · subst index
      obtain rfl : queue = other := Option.some.inj (accepts.selected.symm.trans present)
      simp only [Host.acceptedIo, Function.update_self, Option.some.injEq] at found
      subst found
      simpa [eq_comm] using grown
    · simp only [Host.acceptedIo, Function.update_of_ne same, present, Option.some.injEq] at found
      subst found
      exact absurd (congrArg List.length grown) (by simp)
  · intro same
    subst same
    refine ⟨_, queue, queue.accept address (host.heap.srbext address).nvmeCmd, accepts.selected, ?_, rfl⟩
    simp only [Host.acceptedIo, Function.update_self]

structure MovesExactly (cmd : NvmeCommand) (lba blocks : Nat) : Prop where
  slba : cmd.slba = lba
  count : cmd.nlb + 1 = blocks

private theorem movesExactly_iff (memory : Memory) (srbext : SrbExt) (offset : BitVec 64) (blocks : BitVec 32) (isWrite : Bool) :
    MovesExactly (buiildCmdReadWrite memory srbext offset blocks isWrite).nvmeCmd offset.toNat blocks.toNat ↔
      1 ≤ blocks.toNat ∧ blocks.toNat ≤ 65536 := by
  have bounded := blocks.isLt
  obtain ⟨slba, nlb, _, _⟩ := buiildCmdReadWrite_fields memory srbext offset blocks isWrite
  constructor
  · intro exact
    have count := exact.count
    rw [nlb] at count
    omega
  · intro fits
    refine ⟨slba, ?_⟩
    rw [nlb]
    omega

/-- The range check lets the request through, and so do the device and the queue. -/
structure AdmitsReadWrite (host : Host) (memory : Memory) (address processor : Nat) (offset : BitVec 64)
    (len : BitVec 32) (isWrite : Bool) (queue : CNvmeQueue) : Prop where
  inRange : host.device.isInValidIoRange ((host.heap.srbext address).lun.setWidth 32 + 1) offset len = true
  accepts : host.AcceptsIo processor (buiildCmdReadWrite memory (host.heap.srbext address) offset len isWrite).nvmeCmd queue

/-- `Scsi_ReadWrite` submits the command it built exactly for the requests that are admitted. -/
theorem scsiReadWrite_submits_iff {host : Host} {memory : Memory} {address processor : Nat} {offset : BitVec 64}
    {len : BitVec 32} {isWrite : Bool} {submission : Submission} :
    (∃ status after, host.scsiReadWrite memory address processor offset len isWrite = some (status, after) ∧
      SubmittedIo host after submission) ↔
    ∃ queue, AdmitsReadWrite host memory address processor offset len isWrite queue ∧
      submission = ⟨(buiildCmdReadWrite memory (host.heap.srbext address) offset len isWrite).nvmeCmd, address,
        queue.trace.submitted.length⟩ := by
  let built := host.putSrbExt address (buiildCmdReadWrite memory (host.heap.srbext address) offset len isWrite)
  have command : (built.heap.srbext address).nvmeCmd =
      (buiildCmdReadWrite memory (host.heap.srbext address) offset len isWrite).nvmeCmd := by
    simp [built, Host.putSrbExt]
  constructor
  · intro call
    obtain ⟨status, after, returned, submitted⟩ := call
    simp only [Host.scsiReadWrite] at returned
    split at returned
    · cases returned
      exact absurd submitted (not_submittedIo rfl submission)
    · next inRange =>
      split at returned
      · cases returned
      · next code last called =>
        have submits : SubmittedIo built last submission := by
          split at returned <;> cases returned <;> exact submitted
        by_cases accepts : ∃ queue, built.AcceptsIo processor (built.heap.srbext address).nvmeCmd queue
        · obtain ⟨queue, accepts⟩ := accepts
          rw [Host.submitIoCmd_accepts accepts] at called
          cases called
          rw [submittedIo_accepted accepts, command] at submits
          rw [command] at accepts
          exact ⟨queue, ⟨by simpa using inRange, ⟨accepts.working, accepts.registered, accepts.selected, accepts.accepts⟩⟩,
            submits⟩
        · obtain ⟨_, rfl | rfl⟩ := Host.submitIoCmd_refuses (fun queue taken => accepts ⟨queue, taken⟩) called
          · exact absurd submits (not_submittedIo rfl submission)
          · exact absurd submits (not_submittedIo rfl submission)
  · intro admitted
    obtain ⟨queue, ⟨inRange, accepts⟩, same⟩ := admitted
    have accepted : built.AcceptsIo processor (built.heap.srbext address).nvmeCmd queue := by
      rw [command]
      exact ⟨accepts.working, accepts.registered, accepts.selected, accepts.accepts⟩
    refine ⟨.pending, built.acceptedIo address processor queue, ?_, ?_⟩
    · have called : (host.putSrbExt address (buiildCmdReadWrite memory (host.heap.srbext address) offset len
          isWrite)).submitIoCmd address processor = some (.success, built.acceptedIo address processor queue) :=
        Host.submitIoCmd_accepts accepted
      simp only [Host.scsiReadWrite, inRange, Bool.not_true, Bool.false_eq_true, if_false, called]
      rfl
    · have submits : SubmittedIo built (built.acceptedIo address processor queue) submission := by
        rw [submittedIo_accepted accepted, command]
        exact same
      exact submits

theorem AdmitsReadWrite.submits {host : Host} {memory : Memory} {address processor : Nat} {offset : BitVec 64}
    {len : BitVec 32} {isWrite : Bool} {queue : CNvmeQueue}
    (admits : AdmitsReadWrite host memory address processor offset len isWrite queue) :
    ∃ status after submission, host.scsiReadWrite memory address processor offset len isWrite = some (status, after) ∧
      SubmittedIo host after submission ∧
      submission.cmd = (buiildCmdReadWrite memory (host.heap.srbext address) offset len isWrite).nvmeCmd := by
  obtain ⟨status, after, returned, submitted⟩ := scsiReadWrite_submits_iff.mpr ⟨queue, admits, rfl⟩
  exact ⟨status, after, _, returned, submitted, rfl⟩

/-- For every request of every format: whatever the handler submits moves exactly
the blocks of the command block if and only if a request that is admitted asks
for at least one and at most 65536 blocks. -/
theorem readWrite_exact_iff (host : Host) (memory : Memory) (address processor : Nat) (format : CdbFormat)
    (isWrite : Bool) :
    (∀ status after submission, format.handler host memory address processor isWrite = some (status, after) →
      SubmittedIo host after submission →
      MovesExactly submission.cmd (format.lba (host.heap.srbext address).cdb)
        (format.blocks (host.heap.srbext address).cdb)) ↔
    (∀ queue, AdmitsReadWrite host memory address processor (format.parse (host.heap.srbext address).cdb).1
        (format.parse (host.heap.srbext address).cdb).2 isWrite queue →
      1 ≤ format.blocks (host.heap.srbext address).cdb ∧ format.blocks (host.heap.srbext address).cdb ≤ 65536) := by
  rw [← CdbFormat.parse_lba, ← CdbFormat.parse_blocks]
  simp only [CdbFormat.handler_eq]
  constructor
  · intro exact queue admits
    obtain ⟨status, after, submission, returned, submitted, cmd⟩ := admits.submits
    have moves := exact status after submission returned submitted
    rw [cmd] at moves
    exact (movesExactly_iff ..).mp moves
  · intro fits status after submission returned submitted
    obtain ⟨queue, admits, rfl⟩ := scsiReadWrite_submits_iff.mp ⟨status, after, returned, submitted⟩
    apply (movesExactly_iff ..).mpr
    exact fits queue admits

def sampleRead : Srb := { sampleSrb with cdb := [0x28, 0, 0, 0, 0, 1, 0, 0, 0, 0] }

/-- The command for no blocks moves 65536 of them. -/
theorem empty_read_moves_blocks :
    ¬ ∀ (host : Host) (memory : Memory) (address processor : Nat) (format : CdbFormat) (isWrite : Bool)
      (status : SrbStatus) (after : Host) (submission : Submission),
      format.handler host memory address processor isWrite = some (status, after) →
      SubmittedIo host after submission →
      MovesExactly submission.cmd (format.lba (host.heap.srbext address).cdb)
        (format.blocks (host.heap.srbext address).cdb) := by
  intro exact
  let host := Host.sampleHost (.init (some sampleRead))
  have admits : AdmitsReadWrite host Host.sampleMemory 0 0 (CdbFormat.ten.parse (host.heap.srbext 0).cdb).1
      (CdbFormat.ten.parse (host.heap.srbext 0).cdb).2 false (.setup sampleQueue) := by
    refine ⟨by decide +kernel, ⟨rfl, ?_, rfl, by decide +kernel⟩⟩
    exact ne_of_beq_false rfl
  obtain ⟨status, after, submission, returned, submitted, cmd⟩ := admits.submits
  rw [← CdbFormat.handler_eq] at returned
  have moves := exact host Host.sampleMemory 0 0 .ten false status after submission returned submitted
  rw [cmd] at moves
  exact absurd moves.count (by decide +kernel)

end SpcNvme
