import SpcNvme.Device

/-! What the controller does with the data of a command: how many bytes it transfers,
and the physical addresses it finds in the PRP fields and in the list they lead to. -/

namespace SpcNvme

def CNvmeDevice.blockBytes (device : CNvmeDevice) (nsid : BitVec 32) : Nat :=
  2 ^ ((device.nsData (nsid - 1)).lbads (device.nsData (nsid - 1)).lbaFormatIndex).toNat

namespace NvmeCommand

/-- The starting block of a read or write, `LBAHIGH:LBALOW`. -/
def slba (cmd : NvmeCommand) : Nat := cmd.cdw11.toNat * 4294967296 + cmd.cdw10.toNat

/-- The zero-based number of blocks of a read or write. -/
def nlb (cmd : NvmeCommand) : Nat := (cmd.cdw12.setWidth 16).toNat

/-- The zero-based number of dwords of a log page, `NUMDU:NUMDL`. -/
def numd (cmd : NvmeCommand) : Nat := (cmd.cdw11.setWidth 16).toNat * 65536 + (cmd.cdw10 >>> 16).toNat

def ioBytes (cmd : NvmeCommand) (device : CNvmeDevice) : Nat := (cmd.nlb + 1) * device.blockBytes cmd.nsid

/-- The bytes an admin command of the driver transfers; setting features needs no buffer. -/
def admBytes (cmd : NvmeCommand) : Nat :=
  if cmd.opc = Opcode.adminIdentify then 4096
  else if cmd.opc = Opcode.adminGetLogPage then 4 * (cmd.numd + 1)
  else 0

end NvmeCommand

/-- Consecutive physical addresses. -/
def consecutive (start count : Nat) : List Nat := (List.range count).map (start + ·)

/-- The entry of a PRP list at an address, and where the next one is. The last slot
of a page points to the rest of the list if more than one page is left. -/
def prpListEntry (read : Nat → BitVec 64) (slot left : Nat) : BitVec 64 × Nat :=
  if slot % 4096 = 4088 ∧ 4096 < left then (read (read slot).toNat, (read slot).toNat + 8)
  else (read slot, slot + 8)

/-- The pages of a list in turn. -/
def prpListWalk (read : Nat → BitVec 64) (slot left : Nat) : Nat → List Nat
  | 0 => []
  | pages + 1 =>
      let (entry, slot) := prpListEntry read slot left
      consecutive entry.toNat (min left 4096) ++ prpListWalk read slot (left - 4096) pages

/-- The physical addresses of a transfer of `count` bytes, in order: PRP1 up to the
end of its page, then PRP2 as a page or as the address of a list. -/
def prpWalk (read : Nat → BitVec 64) (cmd : NvmeCommand) (count : Nat) : List Nat :=
  let first := min count (4096 - cmd.prp1.toNat % 4096)
  let left := count - first
  consecutive cmd.prp1.toNat first ++
    if left = 0 then []
    else if left ≤ 4096 then consecutive cmd.prp2.toNat left
    else prpListWalk read cmd.prp2.toNat left ((left + 4095) / 4096)

/-- What is in memory at the physical address of an extension's list. The page is
zeroed before the list is written to it. -/
def SrbExt.readPrp2List (srbext : SrbExt) (address : Nat) : BitVec 64 :=
  srbext.prp2List.getD ((address - srbext.prp2PA.toNat) / 8) 0

/-- Translation goes page by page, and an allocation of a page is a page. -/
structure Memory.PageWise (memory : Memory) : Prop where
  offset : ∀ address, (memory.mmGetPhysicalAddress address).toNat % 4096 = address % 4096
  next : ∀ address, (address + 1) % 4096 ≠ 0 →
    (memory.mmGetPhysicalAddress (address + 1)).toNat = (memory.mmGetPhysicalAddress address).toNat + 1
  pool : ∀ page, memory.prp2Pool = some page → page % 4096 = 0

/-- The physical addresses of a buffer. -/
def Memory.physical (memory : Memory) (buffer count : Nat) : List Nat :=
  (List.range count).map fun index => (memory.mmGetPhysicalAddress (buffer + index)).toNat

end SpcNvme
