import SpcNvme.Scsi

/-! How the driver finds its namespaces: the list of active identifiers is read
first, then each listed namespace is identified into the next entry of `NsData`. -/

namespace SpcNvme

/-- `SUPPORT_NAMESPACES`, the number of entries of `NsData`. -/
def supportNamespaces : Nat := 4

/-- What the controller transfers: the list of active identifiers, and the
identify data of each of them. A call may return success where the controller
refused the command, so `transferred` tells which calls really got their data. The
commands transfer straight into `NsData`: where one does not succeed, `leftover` is
what it left in its entry, if it transferred anything. -/
structure IdentifyReply where
  nsidList : List (BitVec 32)
  identified : BitVec 32 → NvmeIdentifyNamespaceData
  transferred : Nat → Bool
  leftover : Nat → Option NvmeIdentifyNamespaceData

/-- The `ret_count` of `IdentifyActiveNamespaceIdList`. -/
def IdentifyReply.retCount (reply : IdentifyReply) : Nat := ((reply.nsidList.take maxNsCount).takeWhile (· ≠ 0)).length

namespace CNvmeDevice

/-- The members that only the functions here, and `InitVars`, change. -/
def namespaces (device : CNvmeDevice) : BitVec 32 × (BitVec 32 → NvmeIdentifyNamespaceData) :=
  (device.namespaceCount, device.nsData)

/-- `InitVars`, as far as it sets the members modelled here; every byte of
`NsData` becomes 0xFF. -/
def initVars (device : CNvmeDevice) : CNvmeDevice :=
  { device with
    state := .stop
    nvmeVerMNR := 0
    ctrlIdentMDTS := 0
    ctrlIdentSUBNQN := []
    namespaceCount := 0
    nsData := fun _ => ⟨BitVec.allOnes 64, BitVec.allOnes 4, fun _ => BitVec.allOnes 8⟩
    desiredIoQ := 16
    registeredIoQ := 0
    admQueue := none
    ioQueue := fun _ => none }

def setNamespaceCount (device : CNvmeDevice) (count : Nat) : CNvmeDevice :=
  { device with namespaceCount := BitVec.ofNat 32 count }

/-- `NsData[index]` as an identify command that did not succeed leaves it. -/
def spoilNamespace (device : CNvmeDevice) (reply : IdentifyReply) (index : Nat) : CNvmeDevice :=
  match reply.leftover index with
  | none => device
  | some data => { device with nsData := Function.update device.nsData (BitVec.ofNat 32 index) data }

/-- `NsData[index]` as a call of `IdentifyNamespace` that returned success leaves it. -/
def putNamespace (device : CNvmeDevice) (reply : IdentifyReply) (index : Nat) (nsid : BitVec 32) : CNvmeDevice :=
  if reply.transferred index then
    { device with nsData := Function.update device.nsData (BitVec.ofNat 32 index) (reply.identified nsid) }
  else device.spoilNamespace reply index

/-- The loop of `IdentifyAllNamespaces` for what its calls of `IdentifyNamespace` return. -/
def identifyFrom (device : CNvmeDevice) (reply : IdentifyReply) (statuses : Nat → NtStatus) (index : Nat) :
    Nat → NtStatus × CNvmeDevice
  | 0 => (.success, device)
  | left + 1 =>
      let nsid := reply.nsidList.getD index 0
      if nsid = 0 then (.success, device)
      else match statuses index with
        | .success => (device.putNamespace reply index nsid).identifyFrom reply statuses (index + 1) left
        | failed => (failed, device.spoilNamespace reply index)

/-- `IdentifyAllNamespaces`, with the results of all its calls: `listed` of the
call for the list, and `statuses` of the calls for its entries. -/
def identifyAllNamespaces (device : CNvmeDevice) (reply : IdentifyReply) (listed : NtStatus) (statuses : Nat → NtStatus) :
    NtStatus × CNvmeDevice :=
  if !listed.ntSuccess then (listed, device)
  else
    let count := min reply.retCount supportNamespaces
    (device.setNamespaceCount count).identifyFrom reply statuses 0 count

/-- `IdentifyFirstNamespace`, for controllers of version 1.0. -/
def identifyFirstNamespace (device : CNvmeDevice) (reply : IdentifyReply) (status : NtStatus) : NtStatus × CNvmeDevice :=
  if status.ntSuccess then (status, (device.putNamespace reply 0 1).setNamespaceCount 1)
  else (status, device.spoilNamespace reply 0)

end CNvmeDevice

/-- What the rest of the system does while a waiting function stalls; the
namespaces are not its business. -/
structure Meanwhile where
  act : Host → Host
  namespaces : ∀ host, (act host).device.namespaces = host.device.namespaces

/-- One call of a waiting function: where its extension is allocated, and its stalls. -/
structure WaitingCall where
  pool : Nat
  stalls : List Meanwhile

def WaitingCall.acts (call : WaitingCall) : List (Host → Host) := call.stalls.map Meanwhile.act

namespace Host

def putNamespace (host : Host) (reply : IdentifyReply) (index : Nat) (nsid : BitVec 32) : Host :=
  { host with device := host.device.putNamespace reply index nsid }

def spoilNamespace (host : Host) (reply : IdentifyReply) (index : Nat) : Host :=
  { host with device := host.device.spoilNamespace reply index }

/-- The same loop with the commands it submits; `nsData` is the address of the array. -/
def identifyFrom (host : Host) (memory : Memory) (nsData : Nat) (reply : IdentifyReply) (calls : Nat → WaitingCall)
    (index : Nat) : Nat → Option (NtStatus × Host)
  | 0 => some (.success, host)
  | left + 1 =>
      let nsid := reply.nsidList.getD index 0
      if nsid = 0 then some (.success, host)
      else
        let entry := nsData + index * sizeofIdentifyData
        match host.identifyNamespace memory (calls index).pool none nsid entry (calls index).acts with
        | none => none
        | some (.success, host) =>
            (host.putNamespace reply index nsid).identifyFrom memory nsData reply calls (index + 1) left
        | some (failed, host) => some (failed, host.spoilNamespace reply index)

/-- `IdentifyAllNamespaces`; `idlist` is the buffer it allocates for the list. -/
def identifyAllNamespaces (host : Host) (memory : Memory) (nsData idlist : Nat) (reply : IdentifyReply)
    (listCall : WaitingCall) (calls : Nat → WaitingCall) : Option (NtStatus × Host) :=
  match host.identifyActiveNamespaceIdList memory listCall.pool none idlist reply.nsidList listCall.acts with
  | none => none
  | some (.success, retCount, host) =>
      let count := min (retCount.getD 0) supportNamespaces
      { host with device := host.device.setNamespaceCount count }.identifyFrom memory nsData reply calls 0 count
  | some (failed, _, host) => some (failed, host)

end Host

end SpcNvme
