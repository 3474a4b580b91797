import SpcNvme.Ioctl
import SpcNvme.Proofs.Status
import SpcNvme.Proofs.Transfer

/-! How many bytes the controller transfers for a command, against the length of
the buffer its physical region pages describe. Identify commands fit; a read or
write fits if the request's own buffer does; and the log page commands ask for
one dword too many. -/

namespace SpcNvme

namespace NvmeCommand

private theorem admBytes_logPage {cmd : NvmeCommand} (page : cmd.opc = Opcode.adminGetLogPage) :
    cmd.admBytes = 4 * ((cmd.cdw11.setWidth 16).toNat * 65536 + (cmd.cdw10 >>> 16).toNat + 1) := by
  rw [admBytes, page, if_neg (by decide), if_pos rfl, numd]

end NvmeCommand

namespace Waiter

/-- The extension and the memory the waiting function hands to the admin queue;
none if it returns before it built a command. -/
def built (waiter : Waiter) (host : Host) (memory : Memory) (pool : Nat) : Option (Nat × Host) :=
  if !host.device.isWorking then none
  else match waiter with
    | identifyController srbext ident _ =>
        let (address, host) := host.ownSrbExt srbext pool
        some (address, host.putSrbExt address (buildCmdIdentCtrler memory (host.heap.srbext address) ident))
    | identifyNamespace srbext nsid data =>
        let (address, host) := host.ownSrbExt srbext pool
        some (address, host.putSrbExt address (buildCmdIdentSpecifiedNS memory (host.heap.srbext address) data nsid))
    | identifyActiveNamespaceIdList srbext nsidList _ =>
        if nsidList = 0 then none
        else
          let (address, host) := host.ownSrbExt srbext pool
          some (address,
            host.putSrbExt address (buildCmdIdentActiveNsidList memory (host.heap.srbext address) nsidList pageSize))
    | setNumberOfIoQueue count =>
        let host := host.putSrbExt pool (.init none)
        some (pool, host.putSrbExt pool (buildCmdSetIoQueueCount (host.heap.srbext pool) count))

def polls : Waiter → Bool
  | identifyController _ _ poll => poll
  | _ => false

def adopt (waiter : Waiter) (pool : Nat) (host : Host) : Host :=
  match waiter with
  | identifyController .. => { host with device := host.device.updateMaxTxSize }
  | identifyNamespace .. | identifyActiveNamespaceIdList .. => host
  | setNumberOfIoQueue _ =>
      { host with device := { host.device with desiredIoQ := 0xFFFF &&& ((host.heap.srbext pool).nvmeCpl.dw0 + 1) } }

theorem call_unbuilt {waiter : Waiter} {host : Host} {memory : Memory} {pool : Nat}
    (unbuilt : waiter.built host memory pool = none) (stalls : List (Host → Host)) :
    ∃ status, status.ntSuccess = false ∧ waiter.call host memory pool stalls = some (status, host) := by
  cases working : host.device.isWorking with
  | false =>
    refine ⟨.invalidDeviceState, rfl, ?_⟩
    cases waiter <;> simp [call, Host.identifyController, Host.identifyNamespace, Host.identifyActiveNamespaceIdList,
      Host.setNumberOfIoQueue, working]
  | true =>
    cases waiter with
    | identifyActiveNamespaceIdList srbext nsidList contents =>
      have missing : nsidList = 0 := by simpa [built, working] using unbuilt
      exact ⟨.invalidParameter, rfl, by simp [call, Host.identifyActiveNamespaceIdList, working, missing]⟩
    | _ => simp [built, working] at unbuilt

/-- Every waiting function submits the command it built and waits for it. -/
theorem call_built {waiter : Waiter} {host ready : Host} {memory : Memory} {pool address : Nat}
    (built : waiter.built host memory pool = some (address, ready)) (stalls : List (Host → Host)) :
    waiter.call host memory pool stalls = (ready.submitAndWait waiter.polls address stalls).map
      fun (status, after) => (status, if status = .success then waiter.adopt pool after else after) := by
  cases working : host.device.isWorking with
  | false => simp [Waiter.built, working] at built
  | true =>
    cases waiter with
    | identifyController srbext ident poll =>
      simp only [Waiter.built, working, Bool.not_true, Bool.false_eq_true, if_false, Option.some.injEq,
        Prod.mk.injEq] at built
      obtain ⟨rfl, rfl⟩ := built
      simp only [call, Host.identifyController, working, Bool.not_true, Bool.false_eq_true, if_false, polls]
      split
      · next waited => simp [waited]
      · next waited => simp [waited, adopt]
      · next other waited =>
        simp only [waited, Option.map_some, Option.some.injEq, Prod.mk.injEq, true_and]
        exact (if_neg other).symm
    | identifyNamespace srbext nsid data =>
      simp only [Waiter.built, working, Bool.not_true, Bool.false_eq_true, if_false, Option.some.injEq,
        Prod.mk.injEq] at built
      obtain ⟨rfl, rfl⟩ := built
      simp [call, Host.identifyNamespace, working, polls, adopt]
    | identifyActiveNamespaceIdList srbext nsidList contents =>
      simp only [Waiter.built, working, Bool.not_true, Bool.false_eq_true, if_false] at built
      split at built
      · cases built
      · next present =>
        simp only [Option.some.injEq, Prod.mk.injEq] at built
        obtain ⟨rfl, rfl⟩ := built
        simp only [call, Host.identifyActiveNamespaceIdList, working, Bool.not_true, Bool.false_eq_true, if_false,
          present, polls]
        split
        · next waited => simp [waited]
        · next waited => simp [waited, adopt]
        · next other waited => simp [waited, adopt]
    | setNumberOfIoQueue count =>
      simp only [Waiter.built, working, Bool.not_true, Bool.false_eq_true, if_false, Option.some.injEq,
        Prod.mk.injEq] at built
      obtain ⟨rfl, rfl⟩ := built
      simp only [call, Host.setNumberOfIoQueue, working, Bool.not_true, Bool.false_eq_true, if_false, polls]
      split
      · next waited => simp [waited]
      · next waited => simp [waited, adopt]
      · next other waited =>
        simp only [waited, Option.map_some, Option.some.injEq, Prod.mk.injEq, true_and]
        exact (if_neg other).symm

end Waiter

inductive BufferedCall where
  | readWrite (format : CdbFormat) (isWrite : Bool) (address processor : Nat)
  | wait (waiter : Waiter) (pool : Nat)
  | firmwareGetInfo (address logpage : Nat)

namespace BufferedCall

/-- The extension and the memory the call hands to a queue; none if it returns
before it built a command. -/
def built (host : Host) (memory : Memory) : BufferedCall → Option (Nat × Host)
  | readWrite format isWrite address _ =>
      let srbext := host.heap.srbext address
      let (offset, len) := format.parse srbext.cdb
      if !host.device.isInValidIoRange (srbext.lun.setWidth 32 + 1) offset len then none
      else some (address, host.putSrbExt address (buiildCmdReadWrite memory srbext offset len isWrite))
  | wait waiter pool => waiter.built host memory pool
  | firmwareGetInfo address logpage =>
      some (address, host.putSrbExt address (host.firmwareGetInfoCmd memory (host.heap.srbext address) logpage))

def Accepted (built : Host) (cmd : NvmeCommand) : BufferedCall → Prop
  | readWrite _ _ _ processor => ∃ queue, built.AcceptsIo processor cmd queue
  | wait .. | firmwareGetInfo .. => ∃ queue, built.AcceptsAdm cmd queue

def bytes (built : Host) (cmd : NvmeCommand) : BufferedCall → Nat
  | readWrite .. => cmd.ioBytes built.device
  | wait .. | firmwareGetInfo .. => cmd.admBytes

theorem readWrite_built (host : Host) (memory : Memory) (format : CdbFormat) (isWrite : Bool) (address processor : Nat) :
    format.handler host memory address processor isWrite =
      match (readWrite format isWrite address processor).built host memory with
      | none => some (.error, host)
      | some (address, ready) => (ready.submitIoCmd address processor).map fun (status, after) =>
          (if status.ntSuccess then .pending else if status = .deviceBusy then .busy else .error, after) := by
  rw [CdbFormat.handler_eq]
  simp only [Host.scsiReadWrite, built]
  split
  · rfl
  · simp only
    split
    · next submitted => simp [submitted]
    · next status after submitted =>
      cases success : status.ntSuccess <;> simp [submitted, success]

theorem firmwareGetInfo_built (host : Host) (memory : Memory) (address logpage : Nat) :
    some (host.firmwareGetInfo memory address logpage) =
      ((firmwareGetInfo address logpage).built host memory).map fun (address, ready) =>
        (if (ready.submitAdmCmd address).1.ntSuccess then .pending else .internalError,
          (ready.submitAdmCmd address).2) := by
  simp only [Host.firmwareGetInfo, built, Option.map_some]
  split <;> simp_all

/-- When the transfer stays inside the buffer: always for the identify commands,
never for a log page, and for a read or write as the request's buffer allows. -/
def Fits (host : Host) (memory : Memory) : BufferedCall → Prop
  | readWrite format isWrite address processor =>
      let srbext := host.heap.srbext address
      ∀ queue, AdmitsReadWrite host memory address processor (format.parse srbext.cdb).1 (format.parse srbext.cdb).2
        isWrite queue →
        ((format.blocks srbext.cdb + 4294967295) % 65536 + 1) * host.device.blockBytes (srbext.lun.setWidth 32 + 1) ≤
          srbext.dataBufLen.toNat
  | wait .. => True
  | firmwareGetInfo address logpage =>
      ∀ queue, ¬ host.AcceptsAdm (host.firmwareGetInfoCmd memory (host.heap.srbext address) logpage).nvmeCmd queue

end BufferedCall

private theorem buildCmdIdentify_bytes (memory : Memory) (srbext : SrbExt) (nsid : BitVec 32) (cns : IdentifyCns)
    (buffer bufSize : Nat) :
    (buildCmdIdentify memory srbext nsid cns buffer bufSize).nvmeCmd.admBytes = 4096 ∧
    (buildCmdIdentify memory srbext nsid cns buffer bufSize).prpSize = bufSize := by
  obtain ⟨prp1, prp2, freePrp2List, prp2VA, prp2List, prp2PA, built⟩ := srbext.withBuffer_eq memory
    { NvmeCommand.zero with
      opc := Opcode.adminIdentify
      cid := srbext.cid
      nsid := nsid
      cdw10 := cns.code } buffer bufSize
  simp [buildCmdIdentify, built, NvmeCommand.admBytes]

private theorem buildCmdGetFirmwareSlotsInfo_bytes (memory : Memory) (srbext : SrbExt) (info : Nat) :
    (buildCmdGetFirmwareSlotsInfo memory srbext info).nvmeCmd.admBytes = 516 ∧
    (buildCmdGetFirmwareSlotsInfo memory srbext info).prpSize = 512 := by
  obtain ⟨prp1, prp2, freePrp2List, prp2VA, prp2List, prp2PA, built⟩ := srbext.withBuffer_eq memory
    { NvmeCommand.zero with
      opc := Opcode.adminGetLogPage
      cid := srbext.cid
      nsid := unspecificNsid
      cdw10 := firmwareSlotInfoDwords.setWidth 16 ++ (0 : BitVec 8) ++ logPageFirmwareSlotInfo
      cdw11 := (0 : BitVec 16) ++ (firmwareSlotInfoDwords >>> 16).setWidth 16 } info sizeofFirmwareSlotInfoLog
  simp only [buildCmdGetFirmwareSlotsInfo, built]
  refine ⟨?_, rfl⟩
  rw [NvmeCommand.admBytes_logPage rfl]
  dsimp only
  decide

private theorem buildCmdGetFirmwareSlotsInfoV1_bytes (memory : Memory) (srbext : SrbExt) (info : Nat) :
    (buildCmdGetFirmwareSlotsInfoV1 memory srbext info).nvmeCmd.admBytes = 516 ∧
    (buildCmdGetFirmwareSlotsInfoV1 memory srbext info).prpSize = 512 := by
  obtain ⟨prp1, prp2, freePrp2List, prp2VA, prp2List, prp2PA, built⟩ := srbext.withBuffer_eq memory
    { NvmeCommand.zero with
      opc := Opcode.adminGetLogPage
      cid := srbext.cid
      nsid := unspecificNsid
      cdw10 := (0 : BitVec 4) ++ (firmwareSlotInfoDwords.setWidth 16 &&& 0x0FFF).setWidth 12 ++ (0 : BitVec 8) ++
        logPageFirmwareSlotInfo } info sizeofFirmwareSlotInfoLog
  simp only [buildCmdGetFirmwareSlotsInfoV1, built]
  refine ⟨?_, rfl⟩
  rw [NvmeCommand.admBytes_logPage rfl]
  dsimp only
  decide

private theorem firmwareGetInfoCmd_bytes (host : Host) (memory : Memory) (srbext : SrbExt) (logpage : Nat) :
    (host.firmwareGetInfoCmd memory srbext logpage).nvmeCmd.admBytes = 516 ∧
    (host.firmwareGetInfoCmd memory srbext logpage).prpSize = 512 := by
  simp only [Host.firmwareGetInfoCmd]
  split
  · exact buildCmdGetFirmwareSlotsInfo_bytes ..
  · exact buildCmdGetFirmwareSlotsInfoV1_bytes ..

private theorem Waiter.built_fits {waiter : Waiter} {host ready : Host} {memory : Memory} {pool address : Nat}
    (built : waiter.built host memory pool = some (address, ready)) :
    (ready.heap.srbext address).nvmeCmd.admBytes ≤ (ready.heap.srbext address).prpSize := by
  cases waiter with
  | identifyController srbext ident poll =>
    simp only [Waiter.built] at built
    split at built
    · cases built
    · cases built
      simp only [Host.putSrbExt, Heap.put_srbext, Function.update_self, buildCmdIdentCtrler, buildCmdIdentify_bytes]
      exact Nat.le_refl _
  | identifyNamespace srbext nsid data =>
    simp only [Waiter.built] at built
    split at built
    · cases built
    · cases built
      simp only [Host.putSrbExt, Heap.put_srbext, Function.update_self, buildCmdIdentSpecifiedNS, buildCmdIdentify_bytes]
      exact Nat.le_refl _
  | identifyActiveNamespaceIdList srbext nsidList contents =>
    simp only [Waiter.built] at built
    split at built
    · cases built
    · split at built
      · cases built
      · cases built
        simp only [Host.putSrbExt, Heap.put_srbext, Function.update_self, buildCmdIdentActiveNsidList,
          buildCmdIdentify_bytes]
        exact Nat.le_refl _
  | setNumberOfIoQueue count =>
    simp only [Waiter.built] at built
    split at built
    · cases built
    · cases built
      simp only [Host.putSrbExt, Heap.put_srbext, Function.update_self, buildCmdSetIoQueueCount]
      exact Nat.zero_le _

/-- For every command the driver builds and submits: the controller transfers no
more bytes than the buffer length `BuildPrp` was called with, if and only if the
call is one that fits. -/
theorem transfer_fits_iff (call : BufferedCall) (host : Host) (memory : Memory) :
    (∀ address ready, call.built host memory = some (address, ready) →
      call.Accepted ready (ready.heap.srbext address).nvmeCmd →
      call.bytes ready (ready.heap.srbext address).nvmeCmd ≤ (ready.heap.srbext address).prpSize) ↔
    call.Fits host memory := by
  cases call with
  | readWrite format isWrite address processor =>
    let srbext := host.heap.srbext address
    let readyExt := buiildCmdReadWrite memory srbext (format.parse srbext.cdb).1 (format.parse srbext.cdb).2 isWrite
    obtain ⟨_, nlb, _, nsid, size⟩ := buiildCmdReadWrite_fields memory srbext (format.parse srbext.cdb).1
      (format.parse srbext.cdb).2 isWrite
    have found : ((host.putSrbExt address readyExt).heap.srbext address) = readyExt := by simp [Host.putSrbExt]
    have bytes : readyExt.nvmeCmd.ioBytes host.device =
        ((format.blocks srbext.cdb + 4294967295) % 65536 + 1) *
          host.device.blockBytes (srbext.lun.setWidth 32 + 1) := by
      rw [NvmeCommand.ioBytes, nlb, nsid, CdbFormat.parse_blocks]
    constructor
    · intro fits queue admits
      have inside := fits address (host.putSrbExt address readyExt)
        (by simpa [BufferedCall.built] using ⟨admits.inRange, rfl⟩)
      rw [found] at inside
      have bounded := inside ⟨queue, admits.accepts.working, admits.accepts.registered, admits.accepts.selected,
        admits.accepts.accepts⟩
      rw [size] at bounded
      exact bytes ▸ bounded
    · intro fits other ready built accepted
      simp only [BufferedCall.built] at built
      split at built
      · cases built
      · next inRange =>
        cases built
        rw [found] at accepted ⊢
        obtain ⟨queue, accepts⟩ := accepted
        have bounded := fits queue ⟨by simpa using inRange,
          ⟨accepts.working, accepts.registered, accepts.selected, accepts.accepts⟩⟩
        rw [size]
        rw [← bytes] at bounded
        exact bounded
  | wait waiter pool =>
    refine ⟨fun _ => trivial, ?_⟩
    intro _ address ready built _
    exact Waiter.built_fits built
  | firmwareGetInfo address logpage =>
    obtain ⟨bytes, size⟩ := firmwareGetInfoCmd_bytes host memory (host.heap.srbext address) logpage
    have found : ((host.putSrbExt address (host.firmwareGetInfoCmd memory (host.heap.srbext address) logpage)).heap.srbext
        address) = host.firmwareGetInfoCmd memory (host.heap.srbext address) logpage := by simp [Host.putSrbExt]
    constructor
    · intro fits queue accepts
      have inside := fits address _ rfl
      rw [found] at inside
      have bounded := inside ⟨queue, accepts.working, accepts.selected, accepts.accepts⟩
      simp only [BufferedCall.bytes, bytes, size] at bounded
      omega
    · intro never other ready built accepted
      cases built
      rw [found] at accepted
      obtain ⟨queue, accepts⟩ := accepted
      exact absurd ⟨accepts.working, accepts.selected, accepts.accepts⟩ (never queue)

theorem log_page_exceeds_buffer :
    ¬ ∀ (call : BufferedCall) (host : Host) (memory : Memory) (address : Nat) (ready : Host),
      call.built host memory = some (address, ready) → call.Accepted ready (ready.heap.srbext address).nvmeCmd →
      call.bytes ready (ready.heap.srbext address).nvmeCmd ≤ (ready.heap.srbext address).prpSize := by
  intro fits
  have inside := fits (.firmwareGetInfo 0 0x2000) (Host.sampleHost (.init (some sampleIoctl))) Host.sampleMemory 0 _ rfl
    ⟨.setup sampleQueue, rfl, rfl, by decide +kernel⟩
  exact absurd inside (by decide +kernel)

end SpcNvme
