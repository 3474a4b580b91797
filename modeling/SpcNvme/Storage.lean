import SpcNvme.Adapter
import SpcNvme.Lib.BlockDevice
import SpcNvme.Transfers

/-! Where the data goes. The driver never looks at the bytes of a transfer: it stores
lists of pages, and the controller follows the PRPs of a command when it executes it.
Memory is physical memory; the disk holds the bytes of namespace 1. -/

namespace SpcNvme
open ScatterGather

structure Storage where
  ram : Nat → BitVec 8
  disk : Nat → BitVec 8

/-- A `ULONG64` in memory, the least significant byte first. -/
def qwordBytes (value : BitVec 64) : List (BitVec 8) := (BigEndian.bytes 8 value.toNat).reverse

namespace Storage

def readQword (storage : Storage) (address : Nat) : BitVec 64 :=
  BigEndian.toBitVec 64 (gather storage.ram (consecutive address 8)).reverse

/-- `RtlZeroMemory` of the page and the stores of `BuildPrp2List`; nothing for an
extension without a list. -/
def storePrp2List (storage : Storage) (memory : Memory) (srbext : SrbExt) : Storage :=
  match srbext.prp2VA with
  | none => storage
  | some page =>
      let zeroed := scatter storage.ram (memory.physical page pageSize) (List.replicate pageSize 0)
      let entries := srbext.prp2List.flatMap qwordBytes
      { storage with ram := scatter zeroed (memory.physical page entries.length) entries }

/-- The controller executes a read or write: so many bytes between the disk, from
the starting block on, and the places its PRPs lead to. -/
def execute (storage : Storage) (device : CNvmeDevice) (cmd : NvmeCommand) : Storage :=
  let count := cmd.ioBytes device
  let places := prpWalk storage.readQword cmd count
  let blocks := consecutive (cmd.slba * device.blockBytes cmd.nsid) count
  if cmd.opc = Opcode.nvmRead then { storage with ram := scatter storage.ram places (gather storage.disk blocks) }
  else if cmd.opc = Opcode.nvmWrite then { storage with disk := scatter storage.disk blocks (gather storage.ram places) }
  else storage

end Storage

/-- The command was carried out. -/
def Reply.succeeds (reply : Reply) : Bool := reply.sct == 0 && reply.sc == 0

/-- What was done to the data: a command was carried out, the one a queue accepted
under this number, for this request; or a client wrote to its memory. -/
inductive Deed where
  | request (msgid number : Nat) (srb : Srb)
  | store (address : Nat) (value : BitVec 8)
deriving DecidableEq

inductive DataEvent where
  | adapter (event : AdapterEvent)
  | store (memory : Memory) (address : Nat) (value : BitVec 8)

/-- The adapter with what its I/O commands move. `performed` records what was done,
in order; no function reads it. -/
structure DataPath where
  adapter : Adapter
  storage : Storage
  performed : List Deed

namespace DataPath

/-- The command an event carries out, and its queue: the controller of an I/O queue
answers it with success. -/
def carriesOut (state : DataPath) : AdapterEvent → Option (Nat × Submission)
  | .advance msgid (.post index reply) =>
      if msgid ≠ 0 ∧ reply.succeeds = true then
        (state.adapter.controllers msgid).pending[index]?.map fun submission => (msgid, submission)
      else none
  | _ => none

/-- The storage after an event that leads to this adapter. -/
def store (state : DataPath) (after : Adapter) : AdapterEvent → Storage
  | .startIo address _ _ memory => state.storage.storePrp2List memory (after.host.heap.srbext address)
  | event =>
      match state.carriesOut event with
      | none => state.storage
      | some (_, submission) => state.storage.execute state.adapter.host.device submission.cmd

/-- The request in the extension of the command that was carried out. -/
def record (state : DataPath) (event : AdapterEvent) : List Deed :=
  match state.carriesOut event with
  | none => state.performed
  | some (msgid, submission) =>
      let request := (state.adapter.host.heap.srbext submission.srbext.address).srb
      state.performed ++ request.toList.map (.request msgid submission.srbext.submission)

def step (state : DataPath) : DataEvent → Option DataPath
  | .adapter event =>
      (state.adapter.step event).map fun after => ⟨after, state.store after event, state.record event⟩
  | .store memory address value =>
      let ram := Function.update state.storage.ram (memory.mmGetPhysicalAddress address).toNat value
      some { state with
        storage := { state.storage with ram := ram }
        performed := state.performed ++ [.store address value] }

end DataPath

end SpcNvme
