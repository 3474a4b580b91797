import SpcNvme.Proofs.Dma
import SpcNvme.Proofs.Provenance

/-! A read or write as a transfer of a block device, and what a command on its way to
the controller needs for that: the request in its extension, and the pages of its
buffer in the list it names. -/

namespace SpcNvme
open ScatterGather

def Srb.transfer (device : CNvmeDevice) (srb : Srb) : BlockDevice.Transfer :=
  match parseReadWriteOffsetAndLen srb.cdb with
  | none => ⟨false, 0, 0, 0⟩
  | some (offset, len) =>
      { toDisk := Cdb.isWrite srb.cdb
        start := offset.toNat * device.blockBytes 1
        buffer := srb.dataBuffer
        count := len.toNat * device.blockBytes 1 }

theorem Srb.transfer_of_parsed {device : CNvmeDevice} {srb : Srb} {offset : BitVec 64} {len : BitVec 32}
    (parsed : parseReadWriteOffsetAndLen srb.cdb = some (offset, len)) :
    srb.transfer device =
      ⟨Cdb.isWrite srb.cdb, offset.toNat * device.blockBytes 1, srb.dataBuffer, len.toNat * device.blockBytes 1⟩ := by
  simp only [Srb.transfer, parsed]

/-- The request's buffer belongs to a client, is as long as its blocks, and the list of
its pages has room in one page; the number of blocks is one a command can express. -/
structure Fits (setting : DmaSetting) (device : CNvmeDevice) (srb : Srb) (len : BitVec 32) : Prop where
  least : 1 ≤ len.toNat
  most : len.toNat ≤ 65536
  length : srb.dataTransferLength.toNat = len.toNat * device.blockBytes 1
  spans : srb.dataTransferLength.toNat - getDistanceToNextPage srb.dataBuffer ≤ 512 * pageSize
  inClient : ∀ index, index < srb.dataTransferLength.toNat → setting.client (srb.dataBuffer + index)

theorem Fits.client {setting : DmaSetting} {device : CNvmeDevice} {srb : Srb} {len : BitVec 32}
    (fits : Fits setting device srb len) (address : Nat)
    (member : address ∈ BlockDevice.stretch srb.dataBuffer srb.dataTransferLength.toNat) : setting.client address := by
  rw [BlockDevice.mem_stretch] at member
  have found := fits.inClient (address - srb.dataBuffer) (by omega)
  rwa [Nat.add_sub_cancel' member.1] at found

/-- The view of the storage as a block device; the pages of lists are no part of it. -/
structure Shows (setting : DmaSetting) (storage : Storage) (state : BlockDevice.State (BitVec 8)) : Prop where
  disk : storage.disk = state.disk
  memory : ∀ address, setting.client address →
    storage.ram (setting.translate address).toNat = state.memory address

def Srb.builtReadWrite (srb : Srb) (memory : Memory) (offset : BitVec 64) (len : BitVec 32) : SrbExt :=
  buiildCmdReadWrite memory (.init (some srb)) offset len (Cdb.isWrite srb.cdb)

section Built
variable {setting : DmaSetting} {device : CNvmeDevice} {srb : Srb} {memory : Memory} {page : Nat}
  {offset : BitVec 64} {len : BitVec 32} {storage : Storage}

private theorem Srb.builtReadWrite_prp1 (srb : Srb) (memory : Memory) (offset : BitVec 64) (len : BitVec 32) :
    (srb.builtReadWrite memory offset len).nvmeCmd.prp1 = memory.mmGetPhysicalAddress srb.dataBuffer := by
  simp only [builtReadWrite, buiildCmdReadWrite, SrbExt.withBuffer, buildPrp]
  split
  · rfl
  · split
    · rfl
    · split
      · rfl
      · rfl

theorem Srb.builtReadWrite_list (allocates : memory.prp2Pool = some page) (srb : Srb) (offset : BitVec 64) (len : BitVec 32) :
    (srb.dataTransferLength.toNat - getDistanceToNextPage srb.dataBuffer ≤ pageSize ∧
        (srb.builtReadWrite memory offset len).prp2VA = none ∧ (srb.builtReadWrite memory offset len).prp2List = []) ∨
      ((srb.builtReadWrite memory offset len).prp2VA = some page ∧
        (srb.builtReadWrite memory offset len).prp2PA = memory.mmGetPhysicalAddress page ∧
        (srb.builtReadWrite memory offset len).nvmeCmd.prp2 = memory.mmGetPhysicalAddress page ∧
        (srb.builtReadWrite memory offset len).prp2List.length =
          (srb.dataTransferLength.toNat - getDistanceToNextPage srb.dataBuffer + 4095) / 4096) :=
  (buildPrp_list allocates (.init (some srb)) { NvmeCommand.zero with
    opc := if Cdb.isWrite srb.cdb then Opcode.nvmWrite else Opcode.nvmRead
    cid := (SrbExt.init (some srb)).cid
    nsid := (SrbExt.init (some srb)).lun.setWidth 32 + 1 } srb.dataBuffer srb.dataTransferLength.toNat).2

theorem Srb.builtReadWrite_short (allocates : memory.prp2Pool = some page) (fits : Fits setting device srb len) (offset : BitVec 64) :
    (srb.builtReadWrite memory offset len).prp2List.length ≤ 512 := by
  have spans := fits.spans
  rcases srb.builtReadWrite_list allocates offset len with ⟨_, _, empty⟩ | ⟨_, _, _, length⟩
  · rw [empty]
    exact Nat.zero_le 512
  · rw [length]
    simp only [pageSize] at spans
    omega

/-- The controller finds the request's buffer, as long as the list is in memory. -/
theorem prpWalk_built (provides : setting.Provides memory page) (fits : Fits setting device srb len)
    (listed : Listed storage (srb.builtReadWrite memory offset len)) :
    prpWalk storage.readQword (srb.builtReadWrite memory offset len).nvmeCmd srb.dataTransferLength.toNat =
      memory.physical srb.dataBuffer srb.dataTransferLength.toNat := by
  let cmd := { NvmeCommand.zero with
    opc := if Cdb.isWrite srb.cdb then Opcode.nvmWrite else Opcode.nvmRead
    cid := (SrbExt.init (some srb)).cid
    nsid := (SrbExt.init (some srb)).lun.setWidth 32 + 1 }
  have succeeded := (buildPrp_list provides.allocates (.init (some srb)) cmd srb.dataBuffer
    srb.dataTransferLength.toNat).1
  have walk : prpWalk (srb.builtReadWrite memory offset len).readPrp2List
      (srb.builtReadWrite memory offset len).nvmeCmd srb.dataTransferLength.toNat =
      memory.physical srb.dataBuffer srb.dataTransferLength.toNat :=
    prpWalk_eq provides.pageWise (.init (some srb)) cmd fits.spans succeeded
  rw [← walk]
  have first : (srb.builtReadWrite memory offset len).nvmeCmd.prp1.toNat % 4096 = srb.dataBuffer % 4096 := by
    rw [srb.builtReadWrite_prp1, provides.pageWise.offset]
  have distance := getDistanceToNextPage_eq srb.dataBuffer
  have spans := fits.spans
  apply prpWalk_congr
  intro long
  rw [first] at long ⊢
  simp only [pageSize] at spans
  rcases srb.builtReadWrite_list provides.allocates offset len with ⟨short, _⟩ | ⟨_, address, prp2, length⟩
  · simp only [pageSize] at short
    omega
  · refine ⟨?_, by omega, ?_⟩
    · rw [prp2, provides.pageWise.offset, provides.aligned]
    · intro place below
      have inside : place < (srb.builtReadWrite memory offset len).prp2List.length := by
        rw [length]
        omega
      have slot : ((srb.builtReadWrite memory offset len).prp2PA.toNat + 8 * place -
          (srb.builtReadWrite memory offset len).prp2PA.toNat) / 8 = place := by omega
      rw [prp2, ← address, listed place inside, SrbExt.readPrp2List, slot, List.getD_eq_getElem?_getD,
        List.getElem?_eq_getElem inside, Option.getD_some]

end Built

namespace SameSettings

theorem blockBytes {first second : CNvmeDevice} (same : SameSettings first second) (nsid : BitVec 32) :
    first.blockBytes nsid = second.blockBytes nsid := by
  simp only [CNvmeDevice.blockBytes, same.nsData]

end SameSettings

/-- A command on its way carries its request: the extension still has the request and
the list, the command is the one that was built for it, and its list is in memory. -/
structure Carried (setting : DmaSetting) (device : CNvmeDevice) (storage : Storage) (record : SrbExt) (cmd : NvmeCommand)
    (srb : Srb) (offset : BitVec 64) (len : BitVec 32) (memory : Memory) (page : Nat) : Prop where
  request : record.srb = some srb
  translates : Translates device memory srb cmd offset len
  fits : Fits setting device srb len
  provides : setting.Provides memory page
  built : cmd = (srb.builtReadWrite memory offset len).nvmeCmd
  holds : record.prp2VA = (srb.builtReadWrite memory offset len).prp2VA
  listed : Listed storage (srb.builtReadWrite memory offset len)

section Execute
variable {setting : DmaSetting} {device current : CNvmeDevice} {storage : Storage} {record : SrbExt} {cmd : NvmeCommand}
  {srb : Srb} {offset : BitVec 64} {len : BitVec 32} {memory : Memory} {page : Nat} {state : BlockDevice.State (BitVec 8)}

theorem Carried.count (carried : Carried setting device storage record cmd srb offset len memory page)
    (same : SameSettings current device) : cmd.ioBytes current = srb.dataTransferLength.toNat := by
  have least := carried.fits.least
  have most := carried.fits.most
  have blocks : cmd.nlb + 1 = len.toNat := by
    rw [carried.translates.nlb]
    omega
  rw [NvmeCommand.ioBytes, blocks, carried.translates.nsid, same.blockBytes, carried.fits.length]

theorem Carried.walk (carried : Carried setting device storage record cmd srb offset len memory page) :
    prpWalk storage.readQword cmd srb.dataTransferLength.toNat =
      (BlockDevice.stretch srb.dataBuffer srb.dataTransferLength.toNat).map fun address =>
        (setting.translate address).toNat := by
  rw [carried.built, prpWalk_built carried.provides carried.fits carried.listed]
  exact DmaSetting.physical_eq carried.provides.translates _ _

/-- Carrying out the command is the transfer the request asks for. -/
theorem Carried.execute (carried : Carried setting device storage record cmd srb offset len memory page)
    (same : SameSettings current device) (shows : Shows setting storage state) :
    Shows setting (storage.execute current cmd) ((srb.transfer device).perform state) := by
  obtain ⟨disk, client⟩ := shows
  have blocks : cmd.slba * current.blockBytes cmd.nsid = offset.toNat * device.blockBytes 1 := by
    rw [carried.translates.slba, carried.translates.nsid, same.blockBytes]
  have length := carried.fits.length
  have opc := carried.translates.opc
  simp only [Storage.execute, carried.count same, carried.walk, blocks]
  rw [Srb.transfer_of_parsed carried.translates.parsed, ← length]
  by_cases writes : Cdb.isWrite srb.cdb = true
  · have code : cmd.opc = Opcode.nvmWrite := by rw [opc, if_pos writes]
    have other : ¬ Opcode.nvmWrite = Opcode.nvmRead := by decide
    simp only [code, if_neg other, if_true, BlockDevice.Transfer.perform, writes]
    refine ⟨?_, client⟩
    have loaded : gather storage.ram ((BlockDevice.stretch srb.dataBuffer srb.dataTransferLength.toNat).map fun address =>
        (setting.translate address).toNat) =
        gather state.memory (BlockDevice.stretch srb.dataBuffer srb.dataTransferLength.toNat) := by
      rw [gather_map]
      apply gather_congr
      intro address member
      exact client address (carried.fits.client address member)
    rw [loaded, disk]
    rfl
  · have code : cmd.opc = Opcode.nvmRead := by rw [opc, if_neg writes]
    simp only [code, if_true, BlockDevice.Transfer.perform, writes, Bool.false_eq_true, if_false, disk]
    refine ⟨rfl, ?_⟩
    intro address known
    refine Eq.trans (scatter_map ?_) (scatter_congr (client address known) _ _)
    intro other member equal
    exact setting.injective other address (.inl (carried.fits.client other member)) (.inl known) equal

theorem Carried.execute_pool (carried : Carried setting device storage record cmd srb offset len memory page)
    (same : SameSettings current device) {address : Nat} (pooled : setting.pool address) :
    (storage.execute current cmd).ram (setting.translate address).toNat = storage.ram (setting.translate address).toNat := by
  simp only [Storage.execute, carried.count same, carried.walk]
  split
  · apply scatter_of_not_mem
    intro member
    obtain ⟨other, inside, equal⟩ := List.mem_map.mp member
    have known := carried.fits.client other inside
    have here := setting.injective other address (.inl known) (.inr pooled) equal
    exact setting.apart address (here ▸ known) pooled
  · split <;> rfl

end Execute

/-- What a storage change must leave alone for a command to stay carried: the page of its list. -/
theorem Carried.keep {setting : DmaSetting} {device : CNvmeDevice} {storage other : Storage} {record : SrbExt}
    {cmd : NvmeCommand} {srb : Srb} {offset : BitVec 64} {len : BitVec 32} {memory : Memory} {page : Nat}
    (carried : Carried setting device storage record cmd srb offset len memory page)
    (same : record.prp2VA = some page → ∀ index, index < 4096 →
      other.ram (setting.translate (page + index)).toNat = storage.ram (setting.translate (page + index)).toNat) :
    Carried setting device other record cmd srb offset len memory page := by
  refine ⟨carried.request, carried.translates, carried.fits, carried.provides, carried.built, carried.holds, ?_⟩
  rcases srb.builtReadWrite_list carried.provides.allocates offset len with ⟨_, _, empty⟩ | ⟨holds, address, _⟩
  · intro index inside
    rw [empty] at inside
    cases inside
  · apply carried.listed.congr carried.provides (srb.builtReadWrite_short carried.provides.allocates carried.fits offset)
      (fun _ => address)
    exact same (carried.holds.trans holds)

def Proper (setting : DmaSetting) (device : CNvmeDevice) (srb : Srb) : Prop :=
  ∀ offset len, srb.function = SrbFunction.executeScsi → parseReadWriteOffsetAndLen srb.cdb = some (offset, len) →
    device.isInValidIoRange 1 offset len = true → Fits setting device srb len

/-- What the run may rely on: requests that fit, and pages for lists that no extension has. -/
def Allocates (setting : DmaSetting) (device : CNvmeDevice) (adapter : Adapter) : AdapterEvent → Prop
  | .buildIo _ srb => Proper setting device srb
  | .startIo _ _ _ memory => ∃ page, setting.Provides memory page ∧
      ∀ address, (adapter.host.heap.srbext address).prp2VA ≠ some page
  | _ => True

section Started
variable {setting : DmaSetting} {device : CNvmeDevice} {host after : Host} {memory : Memory}
  {address processor logpage page : Nat} {srb : Srb}

private theorem acceptedHeap_free {queue : CNvmeQueue} {heap : Heap}
    (free : queue.history.history (heap.srbext address).nvmeCmd.cid.toNat = none) :
    (Host.acceptedHeap queue heap address).srbext address = { heap.srbext address with subIndex := queue.subTail } := by
  simp only [Host.acceptedHeap, CNvmeQueue.releaseOld, free, CNvmeQueue.setSubIndex, Heap.put_srbext, Function.update_self]

private theorem acceptedHeap_prp2VA (queue : CNvmeQueue) (heap : Heap) (address : Nat) :
    ((Host.acceptedHeap queue heap address).srbext address).prp2VA = (heap.srbext address).prp2VA := by
  have released : ((queue.releaseOld heap (heap.srbext address).nvmeCmd).srbext address).prp2VA =
      (heap.srbext address).prp2VA := by
    unfold CNvmeQueue.releaseOld
    split
    · rfl
    · next old _ =>
      by_cases same : address = old.address
      · subst same
        cases present : (heap.srbext old.address).srb <;> simp [SrbExt.completeSrb, present]
      · simp [same]
  simpa [Host.acceptedHeap, CNvmeQueue.setSubIndex] using released

structure Admitted (host : Host) (srb : Srb) (offset : BitVec 64) (len : BitVec 32) : Prop where
  function : srb.function = SrbFunction.executeScsi
  unit : srb.lun = 0
  parsed : parseReadWriteOffsetAndLen srb.cdb = some (offset, len)
  inRange : host.device.isInValidIoRange 1 offset len = true

section Fresh
variable (fresh : host.heap.srbext address = .init (some srb)) (unit : srb.function = SrbFunction.executeScsi → srb.lun = 0)
include fresh unit

private theorem admitted_of_fresh {offset : BitVec 64} {len : BitVec 32}
    (scsi : (host.heap.srbext address).funcCode = SrbFunction.executeScsi)
    (parsed : parseReadWriteOffsetAndLen (host.heap.srbext address).cdb = some (offset, len))
    (inRange : host.device.isInValidIoRange ((host.heap.srbext address).lun.setWidth 32 + 1) offset len = true) :
    Admitted host srb offset len := by
  rw [fresh] at scsi parsed inRange
  have function : srb.function = SrbFunction.executeScsi := scsi
  refine ⟨function, unit function, parsed, ?_⟩
  simpa [SrbExt.lun, SrbExt.init, unit function] using inRange

omit unit in
private theorem withReadWrite_fresh (offset : BitVec 64) (len : BitVec 32) :
    (host.withReadWrite memory address offset len).heap.srbext address = srb.builtReadWrite memory offset len := by
  simp only [Host.withReadWrite, Host.putSrbExt, Heap.put_srbext, Function.update_self, fresh]
  rfl

theorem Host.Started.sent {msgid : Nat} {old : CNvmeQueue} {cmd : NvmeCommand}
    (started : host.Started memory address processor logpage after) (nonzero : msgid ≠ 0)
    (present : host.queue msgid = some old) (free : old.history.history (host.heap.srbext address).cid.toNat = none)
    (found : after.queue msgid = some (old.accept address cmd)) :
    ∃ offset len, Admitted host srb offset len ∧ cmd = (srb.builtReadWrite memory offset len).nvmeCmd ∧
      ∃ ioQueueIndex subIndex, after.heap.srbext address =
        { srb.builtReadWrite memory offset len with ioQueueIndex := ioQueueIndex, subIndex := subIndex } := by
  have longer : old.accept address cmd ≠ old := by
    intro same
    have lengths := congrArg (fun queue : CNvmeQueue => queue.trace.submitted.length) same
    simp at lengths
  cases started with
  | answered => exact absurd (Option.some.inj (found.symm.trans present)) longer
  | firmware =>
    rw [Host.queue_acceptedAdm, Function.update_of_ne nonzero] at found
    exact absurd (Option.some.inj (found.symm.trans present)) longer
  | @readWrite offset len queue scsi parsed inRange accepts =>
    have admitted := admitted_of_fresh fresh unit scsi parsed inRange
    have built : (host.withReadWrite memory address offset len).heap.srbext address =
        srb.builtReadWrite memory offset len := withReadWrite_fresh fresh offset len
    have selected := accepts.queue
    rw [Host.queue_acceptedIo] at found
    by_cases here : msgid =
        processor % (host.withReadWrite memory address offset len).device.registeredIoQ.toNat + 1
    · subst here
      obtain rfl : queue = old := Option.some.inj (selected.symm.trans present)
      rw [Function.update_self, Option.some.injEq] at found
      refine ⟨offset, len, admitted, ?_, ?_⟩
      · have submissions := congrArg (fun queue : CNvmeQueue => queue.trace.submitted) found
        simp only [CNvmeQueue.accept_submitted, List.append_cancel_left_eq, List.cons.injEq, Submission.mk.injEq] at submissions
        rw [← submissions.1.1, built]
      · refine ⟨processor % (host.withReadWrite memory address offset len).device.registeredIoQ.toNat, queue.subTail, ?_⟩
        have slot : queue.history.history
            (((host.withReadWrite memory address offset len).indexedHeap address processor).srbext address).nvmeCmd.cid.toNat =
              none := by
          rw [Host.indexedHeap_nvmeCmd, host.withReadWrite_cid]
          exact free
        refine (acceptedHeap_free slot).trans ?_
        simp only [Host.indexedHeap, Heap.put_srbext, Function.update_self, SrbExt.setIoQueueIndex, built]
    · rw [Function.update_of_ne here] at found
      exact absurd (Option.some.inj (found.symm.trans present)) longer

theorem Host.Started.list (started : host.Started memory address processor logpage after)
    (free : ∀ msgid queue, msgid ≠ 0 → host.queue msgid = some queue →
      queue.history.history (host.heap.srbext address).cid.toNat = none) :
    (after.heap.srbext address).prp2VA = none ∨ ∃ offset len, Admitted host srb offset len ∧
      (after.heap.srbext address).prp2VA = (srb.builtReadWrite memory offset len).prp2VA ∧
      (after.heap.srbext address).prp2List = (srb.builtReadWrite memory offset len).prp2List := by
  have none : (host.heap.srbext address).prp2VA = none := by
    rw [fresh]
    rfl
  cases started with
  | @answered record status final list =>
    have completed : (((host.putSrbExt address record).completeSrb address status).heap.srbext address).prp2VA =
        record.prp2VA ∧ (((host.putSrbExt address record).completeSrb address status).heap.srbext address).prp2List =
        record.prp2List := by
      simp only [Host.completeSrb, Host.putSrbExt, Heap.completeSrb_srbext, Heap.put_srbext, Function.update_self,
        SrbExt.completeSrb]
      split <;> exact ⟨rfl, rfl⟩
    rw [completed.1, completed.2]
    rcases list with old | ⟨offset, len, scsi, parsed, inRange, pages, entries⟩
    · exact .inl (old.trans none)
    · have built : (host.withReadWrite memory address offset len).heap.srbext address =
          srb.builtReadWrite memory offset len := withReadWrite_fresh fresh offset len
      rw [built] at pages entries
      exact .inr ⟨offset, len, admitted_of_fresh fresh unit scsi parsed inRange, pages, entries⟩
  | firmware =>
    apply Or.inl
    refine (acceptedHeap_prp2VA ..).trans ?_
    simp only [Host.withFirmwareInfo, Host.putSrbExt, Heap.put_srbext, Function.update_self, firmwareGetInfoCmd_prp2VA, none]
  | @readWrite offset len queue scsi parsed inRange accepts =>
    have slot := free _ queue (Nat.succ_ne_zero _) (show host.queue _ = some queue from accepts.queue)
    have started : host.Started memory address processor logpage
        ((host.withReadWrite memory address offset len).acceptedIo address processor queue) :=
      .readWrite scsi parsed inRange accepts
    obtain ⟨first, count, admitted, _, _, _, record⟩ := started.sent fresh unit (Nat.succ_ne_zero _)
      (show host.queue _ = some queue from accepts.queue) slot
      (by rw [Host.queue_acceptedIo, Function.update_self])
    rw [record]
    exact .inr ⟨first, count, admitted, rfl, rfl⟩

end Fresh

end Started

end SpcNvme
