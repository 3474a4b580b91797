import SpcNvme.Prp

/-! The commands the driver builds in an extension. Every builder zeroes the
command, fills its fields and, for a command with a data buffer, calls `BuildPrp`
and ignores whether that succeeded. -/

namespace SpcNvme

namespace Opcode

def nvmWrite : BitVec 8 := 0x01
def nvmRead : BitVec 8 := 0x02
def adminGetLogPage : BitVec 8 := 0x02
def adminIdentify : BitVec 8 := 0x06
def adminSetFeatures : BitVec 8 := 0x09

end Opcode

inductive IdentifyCns where
  | specificNamespace
  | controller
  | activeNamespaces
  | allocatedNamespaceList
deriving DecidableEq, Repr

def IdentifyCns.code : IdentifyCns → BitVec 32
  | .specificNamespace => 0x00
  | .controller => 0x01
  | .activeNamespaces => 0x02
  | .allocatedNamespaceList => 0x10

def unspecificNsid : BitVec 32 := 0
def sizeofIdentifyData : Nat := 4096
def sizeofFirmwareSlotInfoLog : Nat := 512
def logPageFirmwareSlotInfo : BitVec 8 := 0x03
def featureNumberOfQueues : BitVec 32 := 0x07

namespace SrbExt

/-- `CDW0.CID`, a 16-bit field, set to the queue tag. -/
def cid (srbext : SrbExt) : BitVec 16 := (scsiQTag srbext.srb).setWidth 16

/-- The end of a builder: `BuildPrp` on the extension's own command. -/
def withBuffer (srbext : SrbExt) (memory : Memory) (cmd : NvmeCommand) (buffer bufSize : Nat) : SrbExt :=
  let (_, srbext, cmd) := buildPrp memory srbext cmd buffer bufSize
  { srbext with nvmeCmd := cmd }

end SrbExt

/-- Packs `NVME_CDW12_READ_WRITE` with only its 16-bit `NLB` field set. -/
def nlbField (blocks : BitVec 32) : BitVec 32 := (blocks.setWidth 16).setWidth 32

def buiildCmdReadWrite (memory : Memory) (srbext : SrbExt) (offset : BitVec 64) (blocks : BitVec 32) (isWrite : Bool) :
    SrbExt :=
  let nsid := srbext.lun.setWidth 32 + 1
  let cmd := { NvmeCommand.zero with
    opc := if isWrite then Opcode.nvmWrite else Opcode.nvmRead
    cid := srbext.cid
    nsid := nsid }
  let srbext := srbext.withBuffer memory cmd srbext.dataBuf srbext.dataBufLen.toNat
  { srbext with
    nvmeCmd := { srbext.nvmeCmd with
      cdw10 := offset.setWidth 32
      cdw11 := (offset >>> 32).setWidth 32
      cdw12 := nlbField (blocks - 1) } }

/-- The four identify builders, which differ in namespace, structure and buffer. -/
def buildCmdIdentify (memory : Memory) (srbext : SrbExt) (nsid : BitVec 32) (cns : IdentifyCns) (buffer bufSize : Nat) :
    SrbExt :=
  let cmd := { NvmeCommand.zero with
    opc := Opcode.adminIdentify
    cid := srbext.cid
    nsid := nsid
    cdw10 := cns.code }
  srbext.withBuffer memory cmd buffer bufSize

def buildCmdIdentCtrler (memory : Memory) (srbext : SrbExt) (data : Nat) : SrbExt :=
  buildCmdIdentify memory srbext unspecificNsid .controller data sizeofIdentifyData

def buildCmdIdentActiveNsidList (memory : Memory) (srbext : SrbExt) (nsidList listSize : Nat) : SrbExt :=
  buildCmdIdentify memory srbext unspecificNsid .activeNamespaces nsidList listSize

def buildCmdIdentSpecifiedNS (memory : Memory) (srbext : SrbExt) (data : Nat) (nsid : BitVec 32) : SrbExt :=
  buildCmdIdentify memory srbext nsid .specificNamespace data sizeofIdentifyData

def buildCmdIdentAllNSList (memory : Memory) (srbext : SrbExt) (nsBuf bufSize : Nat) : SrbExt :=
  buildCmdIdentify memory srbext unspecificNsid .allocatedNamespaceList nsBuf bufSize

def buildCmdSetIoQueueCount (srbext : SrbExt) (count : BitVec 16) : SrbExt :=
  let queues := count - 1
  { srbext with
    nvmeCmd := { NvmeCommand.zero with
      opc := Opcode.adminSetFeatures
      cid := srbext.cid
      cdw10 := featureNumberOfQueues
      cdw11 := queues ++ queues } }

/-- `dword_count`: the size of the log in dwords, which is one more than the
zero-based fields below should hold. -/
def firmwareSlotInfoDwords : BitVec 32 := BitVec.ofNat 32 (sizeofFirmwareSlotInfoLog / 4)

def buildCmdGetFirmwareSlotsInfo (memory : Memory) (srbext : SrbExt) (info : Nat) : SrbExt :=
  let dwordCount := firmwareSlotInfoDwords
  let numdl := dwordCount.setWidth 16
  let numdu := (dwordCount >>> 16).setWidth 16
  let cmd := { NvmeCommand.zero with
    opc := Opcode.adminGetLogPage
    cid := srbext.cid
    nsid := unspecificNsid
    cdw10 := numdl ++ (0 : BitVec 8) ++ logPageFirmwareSlotInfo
    cdw11 := (0 : BitVec 16) ++ numdu }
  srbext.withBuffer memory cmd info sizeofFirmwareSlotInfoLog

/-- The same log page for controllers of version 1.0, with a 12-bit count. -/
def buildCmdGetFirmwareSlotsInfoV1 (memory : Memory) (srbext : SrbExt) (info : Nat) : SrbExt :=
  let dwordCount := firmwareSlotInfoDwords.setWidth 16
  let numd := (dwordCount &&& 0x0FFF).setWidth 12
  let cmd := { NvmeCommand.zero with
    opc := Opcode.adminGetLogPage
    cid := srbext.cid
    nsid := unspecificNsid
    cdw10 := (0 : BitVec 4) ++ numd ++ (0 : BitVec 8) ++ logPageFirmwareSlotInfo }
  srbext.withBuffer memory cmd info sizeofFirmwareSlotInfoLog

namespace SrbExt

theorem withBuffer_eq (srbext : SrbExt) (memory : Memory) (cmd : NvmeCommand) (buffer bufSize : Nat) :
    ∃ prp1 prp2 freePrp2List prp2VA prp2List prp2PA, srbext.withBuffer memory cmd buffer bufSize =
      { srbext with
        nvmeCmd := { cmd with prp1 := prp1, prp2 := prp2 }
        freePrp2List := freePrp2List
        prp2VA := prp2VA
        prp2List := prp2List
        prp2PA := prp2PA
        prpSize := bufSize } := by
  obtain ⟨prp1, prp2, built⟩ := buildPrp_cmd memory srbext cmd buffer bufSize
  obtain ⟨freePrp2List, prp2VA, prp2List, prp2PA, kept⟩ := buildPrp_srbext memory srbext cmd buffer bufSize
  refine ⟨prp1, prp2, freePrp2List, prp2VA, prp2List, prp2PA, ?_⟩
  simp only [withBuffer, built, kept]

end SrbExt

end SpcNvme
