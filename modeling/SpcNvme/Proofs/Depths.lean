import SpcNvme.Config
import SpcNvme.Proofs.Throttle

/-! The size of every ring as the host and the controller know it, for every
registry and every controller. -/

namespace SpcNvme

structure RingAgrees (ring programmed : Nat) (mqes : BitVec 16) : Prop where
  same : ring = programmed + 1
  lower : 2 ≤ ring
  upper : ring ≤ mqes.toNat + 1
  safe : safeSubmitThreshold < ring

theorem RingAgrees.throttled {request : QueuePairRequest} {programmed : Nat} {mqes : BitVec 16}
    (agrees : RingAgrees request.depth.toNat programmed mqes) (tags : request.historyDepth ≠ 0) :
    ∃ slots, Throttled (.setup (request.config slots tags)) := by
  have slots : request.depth ≠ 0 := by
    intro zero
    have lower := agrees.lower
    rw [zero] at lower
    exact absurd lower (by decide)
  exact ⟨slots, .setup agrees.safe⟩

/-- Every queue that `Setup`, `RegisterAdmQ`, `CreateIoQ` and `RegisterIoQueues`
make out of one registry and one controller. -/
structure RingsAgree (registry : Registry) (mqes : BitVec 16) : Prop where
  submission : RingAgrees (QueuePairRequest.createAdmQ (.setup registry mqes)).depth.toNat
    (registerAdmQAttributes (.setup registry mqes)).asqs.toNat mqes
  completion : RingAgrees (QueuePairRequest.createAdmQ (.setup registry mqes)).depth.toNat
    (registerAdmQAttributes (.setup registry mqes)).acqs.toNat mqes
  ioSubmission : ∀ index srbext subQPA,
    RingAgrees (QueuePairRequest.createIoQ (.setup registry mqes) index).depth.toNat
      (buildCmdRegIoSubQ srbext (.createIoQ (.setup registry mqes) index) subQPA).nvmeCmd.qsize.toNat mqes
  ioCompletion : ∀ index srbext cplQPA,
    RingAgrees (QueuePairRequest.createIoQ (.setup registry mqes) index).depth.toNat
      (buildCmdRegIoCplQ srbext (.createIoQ (.setup registry mqes) index) cplQPA).nvmeCmd.qsize.toNat mqes

namespace Registry

def askedAdmDepth (registry : Registry) : Nat := (registry.admQDepth.map (·.toNat % 65536)).getD 64

def askedIoDepth (registry : Registry) : Nat := (registry.ioQDepth.map (·.toNat % 65536)).getD 256

/-- Both depths and the controller's limit lie above the submit threshold, and
the admin depth fits the 12 bits of `AQA`. -/
structure Suitable (registry : Registry) (mqes : BitVec 16) : Prop where
  admin : safeSubmitThreshold < registry.askedAdmDepth
  io : safeSubmitThreshold < registry.askedIoDepth
  allowed : safeSubmitThreshold ≤ mqes.toNat
  fits : registry.askedAdmDepth ≤ 4096 ∨ mqes.toNat < 4096

private theorem getD_setWidth (value : Option (BitVec 32)) (default : BitVec 16) :
    ((value.map (·.setWidth 16)).getD default).toNat = (value.map (·.toNat % 65536)).getD default.toNat := by
  cases value with
  | none => rfl
  | some value => simp [BitVec.toNat_setWidth]

end Registry

private theorem minQueueEntries_toNat (mqes depth : BitVec 16) :
    (QueueParams.minQueueEntries mqes depth).toNat = min (mqes.toNat + 1) depth.toNat := by
  have bounded := depth.isLt
  simp only [QueueParams.minQueueEntries]
  split
  · rw [BitVec.toNat_ofNat]
    omega
  · omega

private theorem setup_admDepth (registry : Registry) (mqes : BitVec 16) :
    (QueueParams.setup registry mqes).admDepth.toNat = min (mqes.toNat + 1) registry.askedAdmDepth := by
  simp only [QueueParams.setup, QueueParams.readCtrlCap, QueueParams.loadRegistry, minQueueEntries_toNat,
    Registry.getD_setWidth]
  rfl

private theorem setup_ioDepth (registry : Registry) (mqes : BitVec 16) :
    (QueueParams.setup registry mqes).ioDepth.toNat = min (mqes.toNat + 1) registry.askedIoDepth := by
  simp only [QueueParams.setup, QueueParams.readCtrlCap, QueueParams.loadRegistry, minQueueEntries_toNat,
    Registry.getD_setWidth]
  rfl

private theorem pred_setWidth (depth : BitVec 16) (width : Nat) :
    ((depth.setWidth 32 - 1).setWidth width).toNat = (depth.toNat + 4294967295) % 4294967296 % 2 ^ width := by
  have bounded := depth.isLt
  have one : (1 : BitVec 32).toNat = 1 := rfl
  have wrapped : (2 ^ 32 - 1 + depth.toNat % 2 ^ 32) % 2 ^ 32 = (depth.toNat + 4294967295) % 4294967296 := by omega
  rw [BitVec.toNat_setWidth, BitVec.toNat_sub, BitVec.toNat_setWidth, one, wrapped]

private theorem registerAdmQAttributes_entries (params : QueueParams) :
    (registerAdmQAttributes params).asqs.toNat = (params.admDepth.toNat + 4095) % 4096 ∧
      (registerAdmQAttributes params).acqs = (registerAdmQAttributes params).asqs := by
  have bounded := params.admDepth.isLt
  refine ⟨?_, rfl⟩
  simp only [registerAdmQAttributes, pred_setWidth]
  omega

private theorem createQueueDword_qsize (queue : QueuePairRequest) :
    ((createQueueDword queue).extractLsb' 16 16).toNat = (queue.depth.toNat + 65535) % 65536 := by
  have bounded := queue.depth.isLt
  have split : (createQueueDword queue).extractLsb' 16 16 = (queue.depth.setWidth 32 - 1).setWidth 16 :=
    BitVec.extractLsb'_append_eq_left
  rw [split, pred_setWidth]
  omega

/-- A field of `width` bits holds the size of a ring exactly up to its range. -/
theorem ringAgrees_iff {ring : Nat} {mqes : BitVec 16} (range : Nat) (wide : safeSubmitThreshold < range)
    (upper : ring ≤ mqes.toNat + 1) :
    RingAgrees ring ((ring + (range - 1)) % range) mqes ↔ safeSubmitThreshold < ring ∧ ring ≤ range := by
  simp only [safeSubmitThreshold] at wide ⊢
  constructor
  · intro agrees
    refine ⟨agrees.safe, ?_⟩
    have field := Nat.mod_lt (ring + (range - 1)) (by omega : 0 < range)
    rw [agrees.same]
    omega
  · intro bounds
    obtain ⟨above, below⟩ := bounds
    have field : (ring + (range - 1)) % range = ring - 1 := by
      have shifted : ring + (range - 1) = ring - 1 + range := by omega
      rw [shifted, Nat.add_mod_right]
      exact Nat.mod_eq_of_lt (by omega)
    refine ⟨?_, by omega, upper, above⟩
    rw [field]
    omega

private theorem adminRing_agrees_iff (registry : Registry) (mqes : BitVec 16) :
    RingAgrees (QueuePairRequest.createAdmQ (.setup registry mqes)).depth.toNat
        (registerAdmQAttributes (.setup registry mqes)).asqs.toNat mqes ↔
      safeSubmitThreshold < registry.askedAdmDepth ∧ safeSubmitThreshold ≤ mqes.toNat ∧
        (registry.askedAdmDepth ≤ 4096 ∨ mqes.toNat < 4096) := by
  have depth := setup_admDepth registry mqes
  rw [(registerAdmQAttributes_entries _).1]
  simp only [QueuePairRequest.createAdmQ, depth]
  rw [ringAgrees_iff 4096 (by decide) (Nat.min_le_left ..)]
  omega

private theorem ioRing_agrees_iff (registry : Registry) (mqes : BitVec 16) (index : BitVec 16) (cmd : NvmeCommand)
    (sized : cmd.cdw10 = createQueueDword (.createIoQ (.setup registry mqes) index)) :
    RingAgrees (QueuePairRequest.createIoQ (.setup registry mqes) index).depth.toNat cmd.qsize.toNat mqes ↔
      safeSubmitThreshold < registry.askedIoDepth ∧ safeSubmitThreshold ≤ mqes.toNat := by
  have depth := setup_ioDepth registry mqes
  have bounded := (QueueParams.setup registry mqes).ioDepth.isLt
  rw [NvmeCommand.qsize, sized, createQueueDword_qsize]
  simp only [QueuePairRequest.createIoQ]
  rw [ringAgrees_iff 65536 (by decide) (by omega)]
  omega

/-- Host and controller agree on every ring exactly where the depths are suitable. -/
theorem ringsAgree_iff (registry : Registry) (mqes : BitVec 16) :
    RingsAgree registry mqes ↔ registry.Suitable mqes := by
  have admin := adminRing_agrees_iff registry mqes
  have same := (registerAdmQAttributes_entries (.setup registry mqes)).2
  constructor
  · intro agree
    obtain ⟨adm, allowed, fits⟩ := admin.mp agree.submission
    obtain ⟨io, _⟩ := (ioRing_agrees_iff registry mqes 0 _ rfl).mp (agree.ioSubmission 0 (.init none) 0)
    exact ⟨adm, io, allowed, fits⟩
  · intro suitable
    have submission := admin.mpr ⟨suitable.admin, suitable.allowed, suitable.fits⟩
    refine ⟨submission, ?_, ?_, ?_⟩
    · rw [same]
      exact submission
    · intro index srbext subQPA
      exact (ioRing_agrees_iff registry mqes index _ rfl).mpr ⟨suitable.io, suitable.allowed⟩
    · intro index srbext cplQPA
      exact (ioRing_agrees_iff registry mqes index _ rfl).mpr ⟨suitable.io, suitable.allowed⟩

/-- An admin depth of 8192 is cut off by the 12 bits of `AQA`. -/
theorem ringsAgree_fails : ¬ RingsAgree ⟨some 8192, none, none⟩ 16383 := by
  intro agree
  have same := agree.submission.same
  revert same
  decide

end SpcNvme
