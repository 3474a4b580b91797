import SpcNvme.QueueBuffer

/-! Where the rings of a queue lie after a successful `Setup`. In its own buffer they
always have room; in a buffer that was given, rounding can move them onto each other
or out of it. -/

namespace SpcNvme

namespace QueueBuffer
variable {queue : QueueBuffer} {depth : BitVec 16} {history : NtStatus}

/-- The rings are whole pages apart and inside the buffer. -/
structure LayoutSound (queue : QueueBuffer) (depth : BitVec 16) : Prop where
  subAligned : queue.subQVA % pageSize = 0
  cplAligned : queue.cplQVA % pageSize = 0
  disjoint : queue.subQVA + depth.toNat * 64 ≤ queue.cplQVA ∨ queue.cplQVA + depth.toNat * 16 ≤ queue.subQVA
  subInside : queue.buffer ≤ queue.subQVA ∧ queue.subQVA + depth.toNat * 64 ≤ queue.buffer + queue.bufferSize
  cplInside : queue.buffer ≤ queue.cplQVA ∧ queue.cplQVA + depth.toNat * 16 ≤ queue.buffer + queue.bufferSize

def Rejects (buffer bufferSize : Nat) (depth : BitVec 16) : Prop :=
  (buffer + bufferSize) % 2 ^ 64 < (buffer + depth.toNat * 80) % 2 ^ 64

/-- A buffer with room for both rings once they are rounded: nothing wraps, the
second ring is rounded past the end of the first, and it ends in the buffer. -/
structure HasRoom (buffer bufferSize : Nat) (depth : BitVec 16) : Prop where
  below : buffer + depth.toNat * 64 + 4095 < 2 ^ 64
  apart : buffer % 4096 = 0 ∨ depth.toNat * 64 % 4096 = 0 ∨ 4096 < buffer % 4096 + depth.toNat * 64 % 4096
  ends : (buffer + depth.toNat * 64 + 4095) / 4096 * 4096 + depth.toNat * 16 ≤ buffer + bufferSize

private theorem roundToPages_aligned (address : Nat) : roundToPages address % pageSize = 0 := by
  rw [roundToPages, Nat.mul_mod_left]

private theorem roundToPages_of_lt {address : Nat} (below : address + 4095 < 2 ^ 64) :
    roundToPages address = (address + 4095) / 4096 * 4096 := by
  rw [roundToPages, Nat.mod_eq_of_lt below, pageSize]

/-- An address in the last page is rounded to 0. -/
theorem roundToPages_of_wraps {address : Nat} (bounded : address < 2 ^ 64) (wraps : 2 ^ 64 ≤ address + 4095) :
    roundToPages address = 0 := by
  rw [roundToPages, pageSize]
  omega

private theorem initQueueBuffer_fst (queue : QueueBuffer) (depth : BitVec 16) :
    (queue.initQueueBuffer depth).1 = true ↔ ¬ Rejects queue.buffer queue.bufferSize depth := by
  have sum : ((queue.buffer + depth.toNat * 64) % 2 ^ 64 + depth.toNat * 16) % 2 ^ 64 =
      (queue.buffer + depth.toNat * 80) % 2 ^ 64 := by
    rw [Nat.mod_add_mod]
    congr 1
    omega
  simp only [initQueueBuffer, sizeofNvmeCommand, sizeofNvmeCompletionEntry, sum, Rejects]
  split
  · next rejects => exact iff_of_false Bool.false_ne_true (not_not.mpr rejects)
  · next accepts => exact iff_of_true rfl accepts

private theorem initQueueBuffer_snd (accepts : ¬ Rejects queue.buffer queue.bufferSize depth) :
    (queue.initQueueBuffer depth).2 = { queue with
      subQSize := depth.toNat * sizeofNvmeCommand
      cplQSize := depth.toNat * sizeofNvmeCompletionEntry
      subQVA := roundToPages queue.buffer
      cplQVA := roundToPages ((queue.buffer + depth.toNat * sizeofNvmeCommand) % 2 ^ 64) } := by
  have ok := (initQueueBuffer_fst queue depth).mpr accepts
  simp only [initQueueBuffer] at ok ⊢
  split at ok
  · cases ok
  · next within => rw [if_neg within]

private theorem initQueueBuffer_sound_iff (positive : depth ≠ 0) (bounded : queue.buffer < 2 ^ 64)
    (accepts : ¬ Rejects queue.buffer queue.bufferSize depth) :
    (queue.initQueueBuffer depth).2.LayoutSound depth ↔ HasRoom queue.buffer queue.bufferSize depth := by
  have entries : 0 < depth.toNat := Nat.pos_of_ne_zero fun zero => positive (BitVec.eq_of_toNat_eq zero)
  have small := depth.isLt
  rw [initQueueBuffer_snd accepts]
  by_cases below : queue.buffer + depth.toNat * 64 + 4095 < 2 ^ 64
  · have first : roundToPages queue.buffer = (queue.buffer + 4095) / 4096 * 4096 := roundToPages_of_lt (by omega)
    have unwrapped : (queue.buffer + depth.toNat * 64) % 2 ^ 64 = queue.buffer + depth.toNat * 64 :=
      Nat.mod_eq_of_lt (by omega)
    have second : roundToPages (queue.buffer + depth.toNat * 64) =
        (queue.buffer + depth.toNat * 64 + 4095) / 4096 * 4096 := roundToPages_of_lt below
    constructor
    · rintro ⟨_, _, disjoint, _, _, ends⟩
      simp only [sizeofNvmeCommand, unwrapped, first, second] at disjoint ends
      exact ⟨below, by omega, ends⟩
    · rintro ⟨_, apart, ends⟩
      refine ⟨roundToPages_aligned _, roundToPages_aligned _, ?_, ?_, ?_⟩
      all_goals
        simp only [sizeofNvmeCommand, unwrapped, first, second]
        omega
  · refine iff_of_false ?_ fun room => below room.below
    rintro ⟨_, _, _, ⟨starts, _⟩, ⟨cplStarts, _⟩⟩
    simp only [sizeofNvmeCommand] at starts cplStarts
    by_cases wraps : queue.buffer + depth.toNat * 64 < 2 ^ 64
    · rw [Nat.mod_eq_of_lt wraps, roundToPages_of_wraps wraps (by omega)] at cplStarts
      omega
    · have short : (queue.buffer + depth.toNat * 64) % 2 ^ 64 = queue.buffer + depth.toNat * 64 - 2 ^ 64 := by omega
      rw [short, roundToPages_of_lt (by omega)] at cplStarts
      omega

theorem LayoutSound.ready {ready : Bool} :
    LayoutSound { queue with isReady := ready } depth ↔ queue.LayoutSound depth :=
  ⟨fun sound => ⟨sound.1, sound.2, sound.3, sound.4, sound.5⟩, fun sound => ⟨sound.1, sound.2, sound.3, sound.4, sound.5⟩⟩

private theorem setupRings_success_iff :
    (queue.setupRings depth history).1.ntSuccess = true ↔
      ¬ Rejects queue.buffer queue.bufferSize depth ∧ history.ntSuccess = true := by
  rw [← initQueueBuffer_fst]
  simp only [setupRings]
  cases (queue.initQueueBuffer depth).1 with
  | false => simp [NtStatus.ntSuccess]
  | true =>
    cases history with
    | success => simp [NtStatus.ntSuccess]
    | _ => simp [NtStatus.ntSuccess]

private theorem setupRings_snd (succeeds : (queue.setupRings depth history).1.ntSuccess = true) :
    (queue.setupRings depth history).2 = { (queue.initQueueBuffer depth).2 with isReady := true } := by
  obtain ⟨accepts, recorded⟩ := setupRings_success_iff.mp succeeds
  have ok := (initQueueBuffer_fst queue depth).mpr accepts
  simp [setupRings, ok, recorded]

private theorem setupRings_sound_iff (positive : depth ≠ 0) (bounded : queue.buffer < 2 ^ 64) :
    ((queue.setupRings depth history).1.ntSuccess = true → (queue.setupRings depth history).2.LayoutSound depth) ↔
      history.ntSuccess = false ∨ Rejects queue.buffer queue.bufferSize depth ∨
        HasRoom queue.buffer queue.bufferSize depth := by
  by_cases succeeds : (queue.setupRings depth history).1.ntSuccess = true
  · obtain ⟨accepts, recorded⟩ := setupRings_success_iff.mp succeeds
    rw [setupRings_snd succeeds, LayoutSound.ready, initQueueBuffer_sound_iff positive bounded accepts]
    simp [succeeds, accepts, recorded]
  · have fails := mt setupRings_success_iff.mpr succeeds
    refine iff_of_true (fun also => absurd also succeeds) ?_
    by_cases rejects : Rejects queue.buffer queue.bufferSize depth
    · exact .inr (.inl rejects)
    · exact .inl (Bool.eq_false_iff.mpr fun recorded => fails ⟨rejects, recorded⟩)

end QueueBuffer

private theorem bytesToPages_eq (size : Nat) : bytesToPages size = (size + 4095) / 4096 := by
  rw [bytesToPages, pageSize]
  split <;> omega

namespace ContiguousMemory
variable {depth : BitVec 16} (memory : ContiguousMemory (calcQueueBufferSize depth))

theorem accepts : ¬ QueueBuffer.Rejects memory.address (calcQueueBufferSize depth) depth := by
  have enough : depth.toNat * 80 ≤ calcQueueBufferSize depth := by
    simp only [calcQueueBufferSize, bytesToPages_eq, sizeofNvmeCommand, sizeofNvmeCompletionEntry, pageSize]
    omega
  have wrapped := Nat.mod_le (memory.address + depth.toNat * 80) (2 ^ 64)
  rw [QueueBuffer.Rejects, Nat.mod_eq_of_lt memory.fits]
  omega

/-- A buffer that begins with a page has room for what was added up in pages. -/
theorem hasRoom (positive : depth ≠ 0) : QueueBuffer.HasRoom memory.address (calcQueueBufferSize depth) depth := by
  have entries : 0 < depth.toNat := Nat.pos_of_ne_zero fun zero => positive (BitVec.eq_of_toNat_eq zero)
  have fits := memory.fits
  have aligned := memory.aligned
  simp only [calcQueueBufferSize, bytesToPages_eq, sizeofNvmeCommand, sizeofNvmeCompletionEntry, pageSize] at fits aligned
  refine ⟨by omega, .inl aligned, ?_⟩
  simp only [calcQueueBufferSize, bytesToPages_eq, sizeofNvmeCommand, sizeofNvmeCompletionEntry, pageSize]
  omega

end ContiguousMemory

namespace QueueBuffer

/-- A successful `Setup` leaves a sound layout, and the check never turns down the
buffer that the queue has allocated for itself. -/
structure SetupSound (config : QueueBufferConfig) (alloc : Option (ContiguousMemory (calcQueueBufferSize config.depth)))
    (history : NtStatus) : Prop where
  layout : (setup config alloc history).1.ntSuccess = true → (setup config alloc history).2.LayoutSound config.depth
  ownPasses : config.preAllocBuffer = 0 → ∀ memory, alloc = some memory →
    (initQueueBuffer { init with
      buffer := memory.address
      bufferSize := calcQueueBufferSize config.depth } config.depth).1 = true

section
variable {config : QueueBufferConfig} {alloc : Option (ContiguousMemory (calcQueueBufferSize config.depth))}
  {history : NtStatus}

private theorem setup_own (own : config.preAllocBuffer = 0) (memory : ContiguousMemory (calcQueueBufferSize config.depth)) :
    setup config (some memory) history =
      setupRings { init with buffer := memory.address, bufferSize := calcQueueBufferSize config.depth }
        config.depth history := by
  have null : config.preAllocBuffer.toNat = 0 := by rw [own]; rfl
  simp only [setup, null, if_true, init]

private theorem setup_given (given : config.preAllocBuffer ≠ 0) :
    setup config alloc history =
      setupRings { init with
        buffer := config.preAllocBuffer.toNat
        bufferSize := config.preAllocBufSize.toNat
        useExtBuffer := true } config.depth history := by
  have address : config.preAllocBuffer.toNat ≠ 0 := fun zero => given (BitVec.eq_of_toNat_eq zero)
  simp only [setup, if_neg address]

end

/-- The queue's own buffer is always right. A buffer that was given is exactly if the
history cannot be set up, the check turns it down, or it has room after rounding. -/
theorem setup_sound_iff (config : QueueBufferConfig) (alloc : Option (ContiguousMemory (calcQueueBufferSize config.depth)))
    (history : NtStatus) (positive : config.depth ≠ 0) :
    SetupSound config alloc history ↔
      config.preAllocBuffer = 0 ∨ history.ntSuccess = false ∨
        Rejects config.preAllocBuffer.toNat config.preAllocBufSize.toNat config.depth ∨
        HasRoom config.preAllocBuffer.toNat config.preAllocBufSize.toNat config.depth := by
  by_cases own : config.preAllocBuffer = 0
  · refine iff_of_true ⟨?_, ?_⟩ (.inl own)
    · cases alloc with
      | none => simp [setup, init, own, NtStatus.ntSuccess]
      | some memory =>
        have bounded : memory.address < 2 ^ 64 := Nat.lt_of_le_of_lt (Nat.le_add_right _ _) memory.fits
        rw [setup_own own]
        exact (setupRings_sound_iff positive bounded).mpr (.inr (.inr (memory.hasRoom positive)))
    · rintro _ memory rfl
      exact (initQueueBuffer_fst _ _).mpr memory.accepts
  · rw [or_iff_right own]
    constructor
    · intro sound
      have layout := sound.layout
      rw [setup_given own] at layout
      exact (setupRings_sound_iff positive config.preAllocBuffer.isLt).mp layout
    · intro right
      refine ⟨?_, fun null => absurd null own⟩
      rw [setup_given own]
      exact (setupRings_sound_iff positive config.preAllocBuffer.isLt).mpr right

/-- Two rings of one page each, in a buffer of two pages. -/
theorem setup_sound_pages : SetupSound ⟨64, 0x10000, 8192⟩ none .success :=
  (setup_sound_iff ⟨64, 0x10000, 8192⟩ none .success (by decide)).mpr
    (.inr (.inr (.inr ⟨by decide, .inl (by decide), by decide⟩)))

/-- With room for 65 commands and completions, but not for the page they are rounded
up to, the second ring ends behind the buffer. -/
theorem setup_leaves_buffer : ¬ SetupSound ⟨65, 0x10000, 5200⟩ none .success := by
  intro sound
  have inside := (sound.layout (by decide)).cplInside.2
  exact absurd inside (by decide)

end QueueBuffer

end SpcNvme
