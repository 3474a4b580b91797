import SpcNvme.Device

/-! How much StorPort may ask for in one transfer: what `ReadCtrlCap` and
`IdentifyController` make of the controller's limits, and what the port
configuration says of that. -/

namespace SpcNvme

/-- `DEFAULT_MAX_TXSIZE`. -/
def defaultMaxTxSize : BitVec 32 := 131072

/-- The fields of `PORT_CONFIGURATION_INFORMATION` that limit a transfer. -/
structure PortConfiguration where
  maximumTransferLength : BitVec 32
  numberOfPhysicalBreaks : BitVec 32
deriving DecidableEq, Repr

namespace CNvmeDevice

/-- `ReadCtrlCap`, as far as it concerns transfers. The identify data it looks at is
what an earlier start left. -/
def readCtrlCap (device : CNvmeDevice) (mpsmin : BitVec 4) : CNvmeDevice :=
  let minPageSize : BitVec 32 := (1 : BitVec 32) <<< (12 + mpsmin.toNat)
  let product := ((1 : BitVec 32) <<< (device.ctrlIdentMDTS.toNat % 32)) * minPageSize
  let maxTxSize := if product = 0 then defaultMaxTxSize else product
  { device with
    minPageSize := minPageSize
    maxTxSize := maxTxSize
    maxTxPages := maxTxSize / BitVec.ofNat 32 pageSize }

/-- What the success of `IdentifyController` leaves of its data. -/
def identified (device : CNvmeDevice) (mdts : BitVec 8) : CNvmeDevice :=
  { device with ctrlIdentMDTS := mdts }.updateMaxTxSize

def fillPortConfiguration (device : CNvmeDevice) : PortConfiguration := ⟨device.maxTxSize, device.maxTxPages⟩

/-- The device when `HwFindAdapter` fills the port configuration. -/
def found (device : CNvmeDevice) (mpsmin : BitVec 4) (mdts : BitVec 8) : CNvmeDevice :=
  (device.readCtrlCap mpsmin).identified mdts

end CNvmeDevice

end SpcNvme
