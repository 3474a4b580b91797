import SpcNvme.Config
import SpcNvme.Prp

/-! The memory of a queue pair: how `Setup` of the queue finds room for the two rings
in one buffer. Addresses are numbers below 2^64. -/

namespace SpcNvme

/-- `ROUND_TO_PAGES`. The sum wraps; the mask takes the offset in the page away. -/
def roundToPages (address : Nat) : Nat := (address + 4095) % 2 ^ 64 / pageSize * pageSize

/-- `BYTES_TO_PAGES`. -/
def bytesToPages (size : Nat) : Nat := size / pageSize + if size % pageSize ≠ 0 then 1 else 0

def sizeofNvmeCommand : Nat := 64

def sizeofNvmeCompletionEntry : Nat := 16

def calcQueueBufferSize (depth : BitVec 16) : Nat :=
  let pageCount := bytesToPages (depth.toNat * sizeofNvmeCommand) + bytesToPages (depth.toNat * sizeofNvmeCompletionEntry)
  pageCount * pageSize

/-- What `StorPortAllocateContiguousMemorySpecifyCacheNode` hands out: whole pages
whose end is an address. -/
structure ContiguousMemory (size : Nat) where
  address : Nat
  allocated : address ≠ 0
  aligned : address % pageSize = 0
  fits : address + size < 2 ^ 64

/-- The members of `QUEUE_PAIR_CONFIG` that say where the rings are. The address 0 is `NULL`. -/
structure QueueBufferConfig where
  depth : BitVec 16
  preAllocBuffer : BitVec 64
  preAllocBufSize : BitVec 64

/-- The members of `CNvmeQueue` about its memory. -/
structure QueueBuffer where
  buffer : Nat
  bufferSize : Nat
  useExtBuffer : Bool
  subQVA : Nat
  subQSize : Nat
  cplQVA : Nat
  cplQSize : Nat
  isReady : Bool

namespace QueueBuffer

/-- As the constructor leaves the members. -/
def init : QueueBuffer where
  buffer := 0
  bufferSize := 0
  useExtBuffer := false
  subQVA := 0
  subQSize := 0
  cplQVA := 0
  cplQSize := 0
  isReady := false

/-- `InitQueueBuffer`. The cursor that is moved behind the commands is the one that
was not rounded, and so is the one in the check. -/
def initQueueBuffer (queue : QueueBuffer) (depth : BitVec 16) : Bool × QueueBuffer :=
  let queue := { queue with
    subQSize := depth.toNat * sizeofNvmeCommand
    cplQSize := depth.toNat * sizeofNvmeCompletionEntry }
  let cursor := queue.buffer
  let queue := { queue with subQVA := roundToPages cursor }
  let cursor := (cursor + queue.subQSize) % 2 ^ 64
  let queue := { queue with cplQVA := roundToPages cursor }
  if (cursor + queue.cplQSize) % 2 ^ 64 > (queue.buffer + queue.bufferSize) % 2 ^ 64 then
    (false, { queue with subQSize := 0, subQVA := 0, cplQSize := 0, cplQVA := 0 })
  else (true, queue)

/-- A buffer that was given is not the queue's to free. -/
def deallocQueueBuffer (queue : QueueBuffer) : QueueBuffer :=
  if queue.useExtBuffer then queue else { queue with buffer := 0, bufferSize := 0 }

def teardown (queue : QueueBuffer) : QueueBuffer := { queue with isReady := false }.deallocQueueBuffer

/-- `Setup` behind the buffer: the rings, and the history with the result of its `Setup`. -/
def setupRings (queue : QueueBuffer) (depth : BitVec 16) (history : NtStatus) : NtStatus × QueueBuffer :=
  let (ok, queue) := queue.initQueueBuffer depth
  if !ok then (.internalError, queue.teardown)
  else if !history.ntSuccess then (history, queue.teardown)
  else (.success, { queue with isReady := true })

/-- `Setup`, for what the allocation of the buffer yields. -/
def setup (config : QueueBufferConfig) (alloc : Option (ContiguousMemory (calcQueueBufferSize config.depth)))
    (history : NtStatus) : NtStatus × QueueBuffer :=
  let queue := { init with
    buffer := config.preAllocBuffer.toNat
    bufferSize := config.preAllocBufSize.toNat }
  if queue.buffer = 0 then
    let queue := { queue with bufferSize := calcQueueBufferSize config.depth }
    match alloc with
    | none => (.memoryNotAllocated, queue.teardown)
    | some memory => { queue with buffer := memory.address }.setupRings config.depth history
  else { queue with useExtBuffer := true }.setupRings config.depth history

end QueueBuffer

end SpcNvme
