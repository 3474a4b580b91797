import SpcNvme.Namespaces
import SpcNvme.Proofs.Transfer

/-! Units, entries of `NsData` and namespace identifiers: which identifier a read
or write command carries, and whose identify data checked its range. -/

namespace SpcNvme

namespace CNvmeDevice

/-- The driver answers questions about a unit out of this identify data. -/
structure AnswersWith (device : CNvmeDevice) (lun : BitVec 8) (data : NvmeIdentifyNamespaceData) : Prop where
  entry : device.nsData (lun.setWidth 32) = data
  totalBlocks : device.getNamespaceTotalBlocks (lun.setWidth 32 + 1) = (NtStatus.success, some data.nsze)
  blockSize : device.getNamespaceBlockSize (lun.setWidth 32 + 1) =
    (NtStatus.success, some (BitVec.ofNat 32 (2 ^ ((data.lbads data.lbaFormatIndex).toNat % 32))))
  range : ∀ offset len, device.isInValidIoRange (lun.setWidth 32 + 1) offset len =
    !decide (offset + len.setWidth 64 - 1 > data.nsze - 1)

/-- Reads and writes for a unit go to the namespace whose data answers for it. -/
def ServesLun (device : CNvmeDevice) (identified : BitVec 32 → NvmeIdentifyNamespaceData) (lun : BitVec 8) : Prop :=
  ∀ memory srbext offset blocks isWrite, srbext.lun = lun →
    device.AnswersWith lun (identified (buiildCmdReadWrite memory srbext offset blocks isWrite).nvmeCmd.nsid)

private theorem lun_succ_ne_zero (lun : BitVec 8) : lun.setWidth 32 + 1 ≠ (0 : BitVec 32) := by
  have bounded := lun.isLt
  intro zero
  have sum := congrArg BitVec.toNat zero
  rw [BitVec.toNat_add, BitVec.toNat_setWidth] at sum
  have one : (1 : BitVec 32).toNat = 1 := rfl
  have none : (0 : BitVec 32).toNat = 0 := rfl
  omega

theorem answersWith_iff {device : CNvmeDevice} (counted : device.namespaceCount ≠ 0) (lun : BitVec 8)
    (data : NvmeIdentifyNamespaceData) : device.AnswersWith lun data ↔ device.nsData (lun.setWidth 32) = data := by
  have positive := lun_succ_ne_zero lun
  constructor
  · exact AnswersWith.entry
  · intro entry
    have total : device.getNamespaceTotalBlocks (lun.setWidth 32 + 1) = (.success, some data.nsze) := by
      simp only [getNamespaceTotalBlocks, if_neg positive, if_neg counted, BitVec.add_sub_cancel, entry]
    refine ⟨entry, total, ?_, ?_⟩
    · simp only [getNamespaceBlockSize, if_neg positive, if_neg counted, BitVec.add_sub_cancel, entry,
        Nat.one_shiftLeft]
      rfl
    · intro offset len
      simp only [isInValidIoRange, positive, counted, or_self, if_false, total]

private theorem servesLun_iff {device : CNvmeDevice} (counted : device.namespaceCount ≠ 0)
    (identified : BitVec 32 → NvmeIdentifyNamespaceData) (lun : BitVec 8) :
    device.ServesLun identified lun ↔ device.nsData (lun.setWidth 32) = identified (lun.setWidth 32 + 1) := by
  have nsid : ∀ memory srbext offset blocks isWrite, srbext.lun = lun →
      (buiildCmdReadWrite memory srbext offset blocks isWrite).nvmeCmd.nsid = lun.setWidth 32 + 1 := by
    intro memory srbext offset blocks isWrite same
    obtain ⟨_, _, _, nsid, _⟩ := buiildCmdReadWrite_fields memory srbext offset blocks isWrite
    rw [nsid, same]
  constructor
  · intro serves
    have answers := serves ⟨fun _ => 0, none⟩ (.init (some { sampleSrb with lun := lun })) 0 0 false rfl
    rw [nsid _ _ _ _ _ rfl] at answers
    exact answers.entry
  · intro entry memory srbext offset blocks isWrite same
    rw [nsid memory srbext offset blocks isWrite same]
    exact (answersWith_iff counted lun _).mpr entry

@[simp] theorem setNamespaceCount_nsData (device : CNvmeDevice) (count : Nat) :
    (device.setNamespaceCount count).nsData = device.nsData := rfl

@[simp] theorem spoilNamespace_namespaceCount (device : CNvmeDevice) (reply : IdentifyReply) (index : Nat) :
    (device.spoilNamespace reply index).namespaceCount = device.namespaceCount := by
  unfold spoilNamespace
  split <;> rfl

@[simp] theorem putNamespace_namespaceCount (device : CNvmeDevice) (reply : IdentifyReply) (index : Nat)
    (nsid : BitVec 32) : (device.putNamespace reply index nsid).namespaceCount = device.namespaceCount := by
  unfold putNamespace
  split
  · rfl
  · exact spoilNamespace_namespaceCount device reply index

theorem spoilNamespace_nsData (device : CNvmeDevice) (reply : IdentifyReply) (index : Nat) (entry : BitVec 32) :
    (device.spoilNamespace reply index).nsData entry =
      if entry = BitVec.ofNat 32 index then (reply.leftover index).getD (device.nsData entry) else device.nsData entry := by
  unfold spoilNamespace
  cases reply.leftover index with
  | none => simp
  | some data => simp only [Function.update_apply, Option.getD_some]

theorem putNamespace_nsData (device : CNvmeDevice) (reply : IdentifyReply) (index : Nat) (nsid entry : BitVec 32) :
    (device.putNamespace reply index nsid).nsData entry =
      if entry = BitVec.ofNat 32 index then
        if reply.transferred index = true then reply.identified nsid
        else (reply.leftover index).getD (device.nsData entry)
      else device.nsData entry := by
  unfold putNamespace
  by_cases moved : reply.transferred index = true
  · simp only [moved, if_true, Function.update_apply]
  · simp only [moved, if_false, spoilNamespace_nsData, Bool.false_eq_true]

/-- What a finished loop leaves: the listed entries, each with the data of its
own identifier where the data came. -/
theorem identifyFrom_nsData {reply : IdentifyReply} {statuses : Nat → NtStatus} {left : Nat} :
    ∀ {device final : CNvmeDevice} {index : Nat}, index + left ≤ 4294967296 →
      (∀ listed, index ≤ listed → listed < index + left → reply.nsidList.getD listed 0 ≠ 0) →
      device.identifyFrom reply statuses index left = (.success, final) →
      final.namespaceCount = device.namespaceCount ∧ ∀ entry : BitVec 32, final.nsData entry =
        if index ≤ entry.toNat ∧ entry.toNat < index + left then
          if reply.transferred entry.toNat = true then reply.identified (reply.nsidList.getD entry.toNat 0)
          else (reply.leftover entry.toNat).getD (device.nsData entry)
        else device.nsData entry := by
  induction left with
  | zero =>
    intro device final index _ _ finished
    obtain rfl : device = final := congrArg Prod.snd finished
    refine ⟨rfl, ?_⟩
    intro entry
    rw [if_neg]
    omega
  | succ left ih =>
    intro device final index bounded nonzero finished
    have here := nonzero index (Nat.le_refl index) (by omega)
    simp only [identifyFrom, if_neg here] at finished
    split at finished
    · have later : ∀ listed, index + 1 ≤ listed → listed < index + 1 + left → reply.nsidList.getD listed 0 ≠ 0 := by
        intro listed above below
        exact nonzero listed (by omega) (by omega)
      obtain ⟨count, entries⟩ := ih (by omega) later finished
      refine ⟨by rw [count, putNamespace_namespaceCount], ?_⟩
      intro entry
      rw [entries entry, putNamespace_nsData]
      by_cases same : entry.toNat = index
      · have named : entry = BitVec.ofNat 32 index := by rw [← same, BitVec.ofNat_toNat, BitVec.setWidth_eq]
        have above : ¬ (index + 1 ≤ entry.toNat ∧ entry.toNat < index + 1 + left) := by omega
        have inside : index ≤ entry.toNat ∧ entry.toNat < index + (left + 1) := by omega
        rw [if_neg above, if_pos inside, if_pos named]
        simp only [same]
      · have other : entry ≠ BitVec.ofNat 32 index := by
          intro equal
          apply same
          rw [equal, BitVec.toNat_ofNat]
          omega
        have range : (index + 1 ≤ entry.toNat ∧ entry.toNat < index + 1 + left) ↔
            index ≤ entry.toNat ∧ entry.toNat < index + (left + 1) := by omega
        simp only [other, if_false, range]
    · next refused =>
      exact absurd (congrArg Prod.fst finished) refused

private theorem identifyFrom_success (device : CNvmeDevice) (reply : IdentifyReply) (index left : Nat) :
    ∃ final, device.identifyFrom reply (fun _ => .success) index left = (.success, final) := by
  induction left generalizing device index with
  | zero => exact ⟨device, rfl⟩
  | succ left ih =>
    simp only [identifyFrom]
    split
    · exact ⟨device, rfl⟩
    · apply ih

end CNvmeDevice

namespace IdentifyReply

def visited (reply : IdentifyReply) : Nat := min reply.retCount supportNamespaces

theorem visited_le (reply : IdentifyReply) : reply.visited ≤ 4 := Nat.min_le_right ..

theorem getD_ne_zero {reply : IdentifyReply} {index : Nat} (inside : index < reply.visited) :
    reply.nsidList.getD index 0 ≠ 0 := by
  let active := (reply.nsidList.take maxNsCount).takeWhile (· ≠ 0)
  have short : index < active.length := Nat.lt_of_lt_of_le inside (Nat.min_le_left ..)
  obtain ⟨rest, whole⟩ : active <+: reply.nsidList :=
    (List.takeWhile_prefix _).trans (List.take_prefix maxNsCount reply.nsidList)
  have first : reply.nsidList.getD index 0 = active[index] := by
    rw [← whole, List.getD_eq_getElem?_getD, List.getElem?_append_left short, List.getElem?_eq_getElem short]
    rfl
  have nonzero := List.all_eq_true.mp (List.all_takeWhile ..) active[index] (List.getElem_mem short)
  rw [first]
  simpa using nonzero

end IdentifyReply

/-- The first entries of the list are the identifiers 1, 2, 3, 4, as far as there
are namespaces, and their identify data came. -/
def IdentifyReply.Consecutive (reply : IdentifyReply) : Prop :=
  ∀ index, index < reply.visited →
    reply.nsidList.getD index 0 = BitVec.ofNat 32 index + 1 ∧ reply.transferred index = true

namespace CNvmeDevice

private theorem identifyAllNamespaces_nsData {device final : CNvmeDevice} {reply : IdentifyReply} {listed : NtStatus}
    {statuses : Nat → NtStatus} (succeeded : device.identifyAllNamespaces reply listed statuses = (.success, final)) :
    final.namespaceCount = BitVec.ofNat 32 reply.visited ∧ ∀ entry : BitVec 32, final.nsData entry =
      if entry.toNat < reply.visited then
        if reply.transferred entry.toNat = true then reply.identified (reply.nsidList.getD entry.toNat 0)
        else (reply.leftover entry.toNat).getD (device.nsData entry)
      else device.nsData entry := by
  have few := reply.visited_le
  unfold identifyAllNamespaces at succeeded
  split at succeeded
  · next refused =>
    have same : listed = .success := congrArg Prod.fst succeeded
    rw [same] at refused
    cases refused
  · have nonzero : ∀ index, 0 ≤ index → index < 0 + reply.visited → reply.nsidList.getD index 0 ≠ 0 := by
      intro index _ inside
      exact IdentifyReply.getD_ne_zero (by omega)
    obtain ⟨count, entries⟩ := identifyFrom_nsData (by omega) nonzero succeeded
    refine ⟨count, ?_⟩
    intro entry
    rw [entries entry]
    simp only [Nat.zero_le, true_and, Nat.zero_add, setNamespaceCount_nsData]

private theorem identifyAllNamespaces_success (device : CNvmeDevice) (reply : IdentifyReply) :
    ∃ final, device.identifyAllNamespaces reply .success (fun _ => .success) = (.success, final) :=
  identifyFrom_success _ reply 0 _

private theorem identifyAllNamespaces_servesLun_iff {device final : CNvmeDevice} {reply : IdentifyReply} {listed : NtStatus}
    {statuses : Nat → NtStatus} (succeeded : device.identifyAllNamespaces reply listed statuses = (.success, final))
    {lun : BitVec 8} (inside : lun.toNat < reply.visited) :
    final.ServesLun reply.identified lun ↔
      (if reply.transferred lun.toNat = true then reply.identified (reply.nsidList.getD lun.toNat 0)
        else (reply.leftover lun.toNat).getD (device.nsData (lun.setWidth 32))) =
        reply.identified (lun.setWidth 32 + 1) := by
  obtain ⟨count, entries⟩ := identifyAllNamespaces_nsData succeeded
  have few := reply.visited_le
  have bounded := lun.isLt
  have wide : (lun.setWidth 32).toNat = lun.toNat := by
    rw [BitVec.toNat_setWidth]
    omega
  have counted : final.namespaceCount ≠ 0 := by
    intro zero
    have none := congrArg BitVec.toNat (count.symm.trans zero)
    rw [BitVec.toNat_ofNat] at none
    have nothing : (0 : BitVec 32).toNat = 0 := rfl
    omega
  rw [servesLun_iff counted, entries, wide, if_pos inside]

private theorem lun_lt_visited_iff (reply : IdentifyReply) (lun : BitVec 8) :
    lun.setWidth 32 < BitVec.ofNat 32 reply.visited ↔ lun.toNat < reply.visited := by
  have few := reply.visited_le
  have bounded := lun.isLt
  rw [BitVec.lt_def, BitVec.toNat_setWidth, BitVec.toNat_ofNat]
  omega

private theorem servesLun_of_consecutive {device final : CNvmeDevice} {reply : IdentifyReply} {listed : NtStatus}
    {statuses : Nat → NtStatus} (consecutive : reply.Consecutive)
    (succeeded : device.identifyAllNamespaces reply listed statuses = (.success, final)) {lun : BitVec 8}
    (below : lun.setWidth 32 < final.namespaceCount) : final.ServesLun reply.identified lun := by
  have count := (identifyAllNamespaces_nsData succeeded).1
  have inside : lun.toNat < reply.visited := (lun_lt_visited_iff reply lun).mp (count ▸ below)
  obtain ⟨own, came⟩ := consecutive lun.toNat inside
  rw [identifyAllNamespaces_servesLun_iff succeeded inside]
  simp only [came, if_true, own]
  rw [BitVec.ofNat_toNat]

/-- Every unit of every success is served right, whatever the identify data,
exactly where the controller lists its namespaces as 1, 2, 3 and 4. -/
theorem identifyAllNamespaces_serves_iff (device : CNvmeDevice) (reply : IdentifyReply) :
    (∀ identified listed statuses final,
      device.identifyAllNamespaces { reply with identified := identified } listed statuses = (.success, final) →
      ∀ lun : BitVec 8, lun.setWidth 32 < final.namespaceCount → final.ServesLun identified lun) ↔
    reply.Consecutive := by
  have few := reply.visited_le
  constructor
  · intro serves index inside
    -- data that tells the entry's own namespace from every other one and from what the entry holds without it
    let before := (reply.leftover index).getD (device.nsData (BitVec.ofNat 32 index))
    let identified := fun nsid : BitVec 32 =>
      if nsid = BitVec.ofNat 32 index + 1 then { before with nsze := before.nsze + 1 } else before
    have differ : before ≠ { before with nsze := before.nsze + 1 } := by
      intro equal
      have sizes : before.nsze = before.nsze + 1 := congrArg NvmeIdentifyNamespaceData.nsze equal
      exact absurd (BitVec.self_eq_add_right.mp sizes) (by simp)
    let lun := BitVec.ofNat 8 index
    have small : lun.toNat = index := by
      rw [BitVec.toNat_ofNat]
      omega
    have wide : lun.setWidth 32 = BitVec.ofNat 32 index := by rw [← BitVec.ofNat_toNat, small]
    obtain ⟨final, succeeded⟩ := device.identifyAllNamespaces_success { reply with identified := identified }
    have count := (identifyAllNamespaces_nsData succeeded).1
    have inside' : lun.toNat < reply.visited := by omega
    have served := serves identified .success (fun _ => .success) final succeeded lun 
      (count ▸ (lun_lt_visited_iff reply lun).mpr inside')
    have entry := (identifyAllNamespaces_servesLun_iff succeeded inside').mp served
    simp only [wide, small, identified, if_true] at entry
    constructor
    · by_contra other
      simp only [other, if_false, before, ite_self] at entry
      exact differ entry
    · by_contra missing
      simp only [missing, if_false] at entry
      exact differ entry
  · intro consecutive identified listed statuses final succeeded lun below
    have same : IdentifyReply.Consecutive { reply with identified := identified } := consecutive
    exact servesLun_of_consecutive same succeeded below

def secondNamespaceOnly : IdentifyReply := 
  ⟨[2], fun nsid => ⟨nsid.setWidth 64, 0, fun _ => 9⟩, fun _ => true, fun _ => none⟩

/-- Unit 0 answers with the data of namespace 2, and its commands go to namespace 1. -/
theorem identifyAllNamespaces_misdirects :
    ¬ ∀ final, (Host.sampleHost (.init none)).device.identifyAllNamespaces secondNamespaceOnly .success
        (fun _ => .success) = (.success, final) →
      ∀ lun : BitVec 8, lun.setWidth 32 < final.namespaceCount → final.ServesLun secondNamespaceOnly.identified lun := by
  intro serves
  obtain ⟨final, succeeded⟩ :=
    (Host.sampleHost (.init none)).device.identifyAllNamespaces_success secondNamespaceOnly
  have count := (identifyAllNamespaces_nsData succeeded).1
  have served := serves final succeeded 0 (by rw [count]; decide)
  have entry := (identifyAllNamespaces_servesLun_iff succeeded (by decide)).mp served
  have sizes := congrArg NvmeIdentifyNamespaceData.nsze entry
  revert sizes
  decide

end CNvmeDevice

namespace Host

private theorem submitAdmCmd_namespaces (host : Host) (address : Nat) :
    (host.submitAdmCmd address).2.device.namespaces = host.device.namespaces := by
  simp only [submitAdmCmd]
  split
  · rfl
  · split <;> rfl

private theorem completeAdmCmd_namespaces {host after : Host} (completed : host.completeAdmCmd = some after) :
    after.device.namespaces = host.device.namespaces := by
  simp only [completeAdmCmd] at completed
  split at completed
  · cases completed
  · cases completed
    rfl

private theorem waitWhilePending_namespaces {poll : Bool} {address : Nat} {stalls : List Meanwhile} :
    ∀ {host after : Host}, host.waitWhilePending poll address (stalls.map Meanwhile.act) = some after →
      after.device.namespaces = host.device.namespaces := by
  induction stalls with
  | nil =>
    intro host after returned
    cases returned
  | cons stall stalls ih =>
    intro host after returned
    simp only [List.map_cons, waitWhilePending] at returned
    split at returned
    · cases returned
    · next next polled =>
      have here : next.device.namespaces = host.device.namespaces := by
        cases poll with
        | false =>
          cases polled
          exact stall.namespaces host
        | true => exact (completeAdmCmd_namespaces polled).trans (stall.namespaces host)
      split at returned
      · exact (ih returned).trans here
      · cases returned
        exact here

private theorem submitAndWait_namespaces {host after : Host} {poll : Bool} {address : Nat} {call : WaitingCall}
    {status : NtStatus} (returned : host.submitAndWait poll address call.acts = some (status, after)) :
    after.device.namespaces = host.device.namespaces := by
  simp only [submitAndWait] at returned
  split at returned
  · cases returned
    exact submitAdmCmd_namespaces host address
  · split at returned
    · cases returned
    · next waited =>
      cases returned
      exact (waitWhilePending_namespaces waited).trans (submitAdmCmd_namespaces host address)

private theorem identifyNamespace_namespaces {host after : Host} {memory : Memory} {call : WaitingCall} {nsid : BitVec 32}
    {data : Nat} {status : NtStatus}
    (returned : host.identifyNamespace memory call.pool none nsid data call.acts = some (status, after)) :
    after.device.namespaces = host.device.namespaces := by
  simp only [identifyNamespace] at returned
  split at returned
  · cases returned
    rfl
  · exact (submitAndWait_namespaces returned).trans rfl

private theorem identifyActiveNamespaceIdList_spec {host after : Host} {memory : Memory} {call : WaitingCall} {idlist : Nat}
    {reply : IdentifyReply} {status : NtStatus} {retCount : Option Nat}
    (returned : host.identifyActiveNamespaceIdList memory call.pool none idlist reply.nsidList call.acts =
      some (status, retCount, after)) :
    after.device.namespaces = host.device.namespaces ∧ (status = .success → retCount = some reply.retCount) := by
  simp only [identifyActiveNamespaceIdList] at returned
  split at returned
  · cases returned
    exact ⟨rfl, by simp⟩
  · split at returned
    · cases returned
      exact ⟨rfl, by simp⟩
    · split at returned
      · cases returned
      · next waited =>
        cases returned
        exact ⟨(submitAndWait_namespaces waited).trans rfl, fun _ => rfl⟩
      · next refused waited =>
        cases returned
        refine ⟨(submitAndWait_namespaces waited).trans rfl, ?_⟩
        intro success
        exact absurd success refused

end Host

namespace CNvmeDevice

private theorem spoilNamespace_congr {device other : CNvmeDevice} (same : device.namespaces = other.namespaces)
    (reply : IdentifyReply) (index : Nat) :
    (device.spoilNamespace reply index).namespaces = (other.spoilNamespace reply index).namespaces := by
  obtain ⟨count, data⟩ := Prod.mk.inj same
  unfold spoilNamespace
  split <;> simp [namespaces, count, data]

private theorem putNamespace_congr {device other : CNvmeDevice} (same : device.namespaces = other.namespaces)
    (reply : IdentifyReply) (index : Nat) (nsid : BitVec 32) :
    (device.putNamespace reply index nsid).namespaces = (other.putNamespace reply index nsid).namespaces := by
  obtain ⟨count, data⟩ := Prod.mk.inj same
  unfold putNamespace
  split
  · simp [namespaces, count, data]
  · exact spoilNamespace_congr same reply index

private theorem identifyFrom_congr {reply : IdentifyReply} {statuses other : Nat → NtStatus} {left : Nat} :
    ∀ {device : CNvmeDevice} {index : Nat}, (∀ later, index ≤ later → statuses later = other later) →
      device.identifyFrom reply statuses index left = device.identifyFrom reply other index left := by
  induction left with
  | zero =>
    intro device index _
    rfl
  | succ left ih =>
    intro device index same
    simp only [identifyFrom, same index (Nat.le_refl index)]
    split
    · rfl
    · split
      · apply ih
        intro later above
        exact same later (by omega)
      · rfl

end CNvmeDevice

/-- A run of the loop over the host is a run of the loop over the device, for the
results its calls returned. -/
theorem Host.identifyFrom_refines {memory : Memory} {nsData : Nat} {reply : IdentifyReply} {calls : Nat → WaitingCall}
    {left : Nat} : ∀ {host final : Host} {device : CNvmeDevice} {index : Nat} {status : NtStatus},
      device.namespaces = host.device.namespaces →
      host.identifyFrom memory nsData reply calls index left = some (status, final) →
      ∃ statuses, (device.identifyFrom reply statuses index left).1 = status ∧
        (device.identifyFrom reply statuses index left).2.namespaces = final.device.namespaces := by
  induction left with
  | zero =>
    intro host final device index status same returned
    cases returned
    exact ⟨fun _ => .success, rfl, same⟩
  | succ left ih =>
    intro host final device index status same returned
    simp only [Host.identifyFrom] at returned
    split at returned
    · next listed =>
      cases returned
      refine ⟨fun _ => .success, ?_⟩
      simp only [CNvmeDevice.identifyFrom, if_pos listed]
      exact ⟨trivial, same⟩
    · next listed =>
      split at returned
      · cases returned
      · next next identified =>
        have kept := (identifyNamespace_namespaces identified).trans same.symm
        have filled := CNvmeDevice.putNamespace_congr kept.symm reply index (reply.nsidList.getD index 0)
        obtain ⟨statuses, result, left⟩ := ih filled returned
        have later : ∀ other, index + 1 ≤ other → Function.update statuses index .success other = statuses other := by
          intro other above
          exact Function.update_of_ne (by omega) ..
        refine ⟨Function.update statuses index .success, ?_⟩
        simp only [CNvmeDevice.identifyFrom, if_neg listed, Function.update_self, CNvmeDevice.identifyFrom_congr later]
        exact ⟨result, left⟩
      · next failed refused identified =>
        cases returned
        have kept := (identifyNamespace_namespaces identified).trans same.symm
        refine ⟨fun _ => status, ?_⟩
        simp only [CNvmeDevice.identifyFrom, if_neg listed]
        exact ⟨trivial, CNvmeDevice.spoilNamespace_congr kept.symm reply index⟩

/-- `IdentifyAllNamespaces` with its commands is `IdentifyAllNamespaces` with their results. -/
theorem Host.identifyAllNamespaces_refines {host final : Host} {memory : Memory} {nsData idlist : Nat}
    {reply : IdentifyReply} {listCall : WaitingCall} {calls : Nat → WaitingCall} {status : NtStatus}
    (returned : host.identifyAllNamespaces memory nsData idlist reply listCall calls = some (status, final)) :
    ∃ listed statuses, (host.device.identifyAllNamespaces reply listed statuses).1 = status ∧
      (host.device.identifyAllNamespaces reply listed statuses).2.namespaces = final.device.namespaces := by
  simp only [Host.identifyAllNamespaces] at returned
  split at returned
  · cases returned
  · next retCount next listed =>
    obtain ⟨kept, counted⟩ := identifyActiveNamespaceIdList_spec listed
    obtain rfl := counted rfl
    have same : (host.device.setNamespaceCount reply.visited).namespaces =
        (next.device.setNamespaceCount reply.visited).namespaces := congrArg (fun pair => (_, pair.2)) kept.symm
    obtain ⟨statuses, result, left⟩ := Host.identifyFrom_refines same returned
    exact ⟨.success, statuses, result, left⟩
  · next refused listed =>
    cases returned
    have failed : status.ntSuccess = false := by
      cases status <;> first | rfl | exact absurd rfl refused
    refine ⟨status, fun _ => .success, ?_⟩
    simp only [CNvmeDevice.identifyAllNamespaces, failed, Bool.not_false, if_true]
    exact ⟨trivial, (identifyActiveNamespaceIdList_spec listed).1.symm⟩

theorem CNvmeDevice.ServesLun.congr {device other : CNvmeDevice} {identified : BitVec 32 → NvmeIdentifyNamespaceData}
    {lun : BitVec 8} (serves : device.ServesLun identified lun) (counted : device.namespaceCount ≠ 0)
    (same : device.namespaces = other.namespaces) : other.ServesLun identified lun := by
  obtain ⟨count, data⟩ := Prod.mk.inj same
  rw [CNvmeDevice.servesLun_iff counted, data] at serves
  exact (CNvmeDevice.servesLun_iff (count ▸ counted) identified lun).mpr serves

/-- Through all its commands and stalls, `IdentifyAllNamespaces` leaves the units
served right if the list is consecutive. -/
theorem Host.identifyAllNamespaces_serves {host final : Host} {memory : Memory} {nsData idlist : Nat}
    {reply : IdentifyReply} {listCall : WaitingCall} {calls : Nat → WaitingCall} (consecutive : reply.Consecutive)
    (returned : host.identifyAllNamespaces memory nsData idlist reply listCall calls = some (.success, final))
    {lun : BitVec 8} (below : lun.setWidth 32 < final.device.namespaceCount) :
    final.device.ServesLun reply.identified lun := by
  obtain ⟨listed, statuses, succeeded, same⟩ := Host.identifyAllNamespaces_refines returned
  have count := (Prod.mk.inj same).1
  rw [← count] at below
  have counted : (host.device.identifyAllNamespaces reply listed statuses).2.namespaceCount ≠ 0 := by
    intro zero
    rw [zero] at below
    exact absurd below (by simp)
  exact (CNvmeDevice.servesLun_of_consecutive consecutive (Prod.ext succeeded rfl) below).congr counted same

/-- On version 1.0 there is one unit, and it is namespace 1. -/
theorem CNvmeDevice.identifyFirstNamespace_serves {device : CNvmeDevice} {reply : IdentifyReply}
    (came : reply.transferred 0 = true) :
    (device.identifyFirstNamespace reply .success).2.ServesLun reply.identified 0 := by
  have counted : (device.identifyFirstNamespace reply .success).2.namespaceCount ≠ 0 := by
    show BitVec.ofNat 32 1 ≠ 0
    decide
  rw [CNvmeDevice.servesLun_iff counted]
  show (device.putNamespace reply 0 1).nsData _ = _
  have first : (0 : BitVec 8).setWidth 32 = BitVec.ofNat 32 0 := rfl
  rw [CNvmeDevice.putNamespace_nsData, if_pos first, if_pos came]
  rfl

end SpcNvme
