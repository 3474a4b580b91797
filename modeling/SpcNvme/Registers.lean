import SpcNvme.Lib.Program
import SpcNvme.Config

/-! The controller registers, and the functions that disable the controller, tell
it its admin queue and enable it again. Between any two accesses the controller
may change its status. -/

namespace SpcNvme

structure NvmeControllerConfiguration where
  en : Bool
  css : BitVec 3
  mps : BitVec 4
  ams : BitVec 3
  shn : BitVec 2
  iosqes : BitVec 4
  iocqes : BitVec 4
deriving DecidableEq, Repr

structure NvmeControllerStatus where
  rdy : Bool
  cfs : Bool
deriving DecidableEq, Repr

structure NvmeRegisters where
  cc : NvmeControllerConfiguration
  csts : NvmeControllerStatus
  aqa : NvmeAdminQueueAttributes
  asq : BitVec 64
  acq : BitVec 64
deriving DecidableEq, Repr

/-- The places that read `CSTS`. The functions do the same at all of them; the
place tells what the answer is used for. -/
inductive ReadSite where
  | enableGuard
  | enableWait
  | disableGuard
  | disableWait
  | registerGuard
  | waitReady
  | report
deriving DecidableEq, Repr

inductive RegisterAccess where
  | readCc
  | readCsts (site : ReadSite)
  | writeCc (cc : NvmeControllerConfiguration)
  | writeAqa (aqa : NvmeAdminQueueAttributes)
  | writeAsq (asq : BitVec 64)
  | writeAcq (acq : BitVec 64)
deriving DecidableEq, Repr

namespace RegisterAccess

abbrev Answer : RegisterAccess → Type
  | readCc => NvmeControllerConfiguration
  | readCsts _ => NvmeControllerStatus
  | writeCc _ | writeAqa _ | writeAsq _ | writeAcq _ => Unit

end RegisterAccess

abbrev RegisterProgram := Program RegisterAccess.Answer

def NvmeRegisters.execute (regs : NvmeRegisters) : (op : RegisterAccess) → op.Answer × NvmeRegisters
  | .readCc => (regs.cc, regs)
  | .readCsts _ => (regs.csts, regs)
  | .writeCc cc => ((), { regs with cc := cc })
  | .writeAqa aqa => ((), { regs with aqa := aqa })
  | .writeAsq asq => ((), { regs with asq := asq })
  | .writeAcq acq => ((), { regs with acq := acq })

/-- What `IsControllerReady` makes of a status: ready, and not in a fatal state. -/
def NvmeControllerStatus.ready (csts : NvmeControllerStatus) : Bool := csts.rdy && !csts.cfs

def isControllerEnabled : RegisterProgram Bool := .access .readCc fun cc => .done cc.en

def isControllerReady (site : ReadSite) : RegisterProgram Bool := .access (.readCsts site) fun csts => .done csts.ready

/-- The constant of `StorPortStallExecution`, in microseconds. -/
def stallDelay : Nat := 100

/-- How often a wait may stall before `elapsed` exceeds the time it was given. -/
def stallsWithin (timeUs : Nat) : Nat := timeUs / stallDelay

/-- `WaitForCtrlerState(time_us, csts_rdy)`, by the stalls it has left. -/
def waitForCtrlerReady (site : ReadSite) (cstsRdy : Bool) : Nat → RegisterProgram Bool
  | 0 => (isControllerReady site).bind fun ready => .done (ready == cstsRdy)
  | stalls + 1 => (isControllerReady site).bind fun ready =>
      if ready == cstsRdy then .done true else waitForCtrlerReady site cstsRdy stalls

/-- `WaitForCtrlerState(time_us, csts_rdy, cc_en)`. -/
def waitForCtrlerState (site : ReadSite) (cstsRdy ccEn : Bool) : Nat → RegisterProgram Bool
  | 0 => isControllerEnabled.bind fun enabled => (isControllerReady site).bind fun ready =>
      .done (ready == cstsRdy && enabled == ccEn)
  | stalls + 1 => isControllerEnabled.bind fun enabled => (isControllerReady site).bind fun ready =>
      if ready == cstsRdy && enabled == ccEn then .done true else waitForCtrlerState site cstsRdy ccEn stalls

/-- What the functions read of the device extension: `DeviceTimeout`, whether the
device is working, and the physical addresses of the admin queue's two rings. -/
structure ControllerSetting where
  deviceTimeout : Nat
  isWorking : Bool
  admQueue : Option (BitVec 64 × BitVec 64)
  params : QueueParams

namespace ControllerSetting
variable (setting : ControllerSetting)

def stalls : Nat := stallsWithin setting.deviceTimeout

/-- `cc` as `EnableController` first writes it, with `IOSQES` and `IOCQES`. -/
def initialConfiguration : NvmeControllerConfiguration := ⟨false, 0, 0, 0, 0, 6, 4⟩

def enableController : RegisterProgram NtStatus :=
  (isControllerReady .enableGuard).bind fun ready =>
    if ready then .done .success
    else (waitForCtrlerState .enableWait false false setting.stalls).bind fun ok =>
      if !ok then .done .invalidDeviceState
      else
        .access (.writeCc initialConfiguration) fun _ =>
        .access (.writeCc { initialConfiguration with en := true }) fun _ =>
        (waitForCtrlerReady .waitReady true setting.stalls).bind fun ok =>
          .done (if !ok then .internalError else .success)

def disableController : RegisterProgram NtStatus :=
  (isControllerReady .disableGuard).bind fun ready =>
    if !ready then .done .success
    else (waitForCtrlerState .waitReady true true setting.stalls).bind fun ok =>
      if !ok then .done .invalidDeviceState
      else
        .access .readCc fun cc =>
        .access (.writeCc { cc with en := false }) fun _ =>
        (waitForCtrlerReady .disableWait false setting.stalls).bind fun ok =>
          .done (if !ok then .internalError else .success)

/-- `RegisterAdmQ`, which stops the system where the controller is ready or the queue missing. -/
def registerAdmQ : RegisterProgram NtStatus :=
  (isControllerReady .registerGuard).bind fun ready =>
    match ready, setting.admQueue with
    | false, some (subq, cplq) =>
        if subq = 0 ∨ cplq = 0 then .done .memoryNotAllocated
        else
          .access (.writeAqa (registerAdmQAttributes setting.params)) fun _ =>
          .access (.writeAsq subq) fun _ =>
          .access (.writeAcq cplq) fun _ => .done .success
    | _, _ => .access (.readCsts .report) fun _ => .stop

/-- `InitController`, without the counter it clears. -/
def initController : RegisterProgram NtStatus :=
  if !setting.isWorking then .done .invalidDeviceState
  else setting.disableController.bind fun status =>
    if !status.ntSuccess then .done status
    else setting.registerAdmQ.bind fun status =>
      if !status.ntSuccess then .done status
      else setting.enableController

end ControllerSetting

/-- The calls that bring the controller down and up. -/
inductive ControllerCall where
  | initController
  | enableController
  | disableController
  | registerAdmQ
deriving DecidableEq, Repr

def ControllerSetting.body (setting : ControllerSetting) : ControllerCall → RegisterProgram NtStatus
  | .initController => setting.initController
  | .enableController => setting.enableController
  | .disableController => setting.disableController
  | .registerAdmQ => setting.registerAdmQ

end SpcNvme
