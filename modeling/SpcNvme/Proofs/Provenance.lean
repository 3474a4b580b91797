import SpcNvme.Proofs.Frame

/-! Where the commands on an I/O queue come from. Whatever a controller fetches
there, in any run of the adapter, is the read or write of a request that StorPort
delivered, for the blocks its command block names. -/

namespace SpcNvme

/-- PRP2 of a buffer, as `BuildPrp` leaves it in a zeroed command: nothing for a buffer
that ends in its first page, the page after it, or the page of a list if there is one. -/
def secondPrp (memory : Memory) (buffer bufSize : Nat) : BitVec 64 :=
  let distance := getDistanceToNextPage buffer
  if distance > bufSize then 0
  else if bufSize - distance ≤ pageSize then memory.mmGetPhysicalAddress (buffer + distance)
  else (memory.prp2Pool.map memory.mmGetPhysicalAddress).getD 0

/-- The command is the read or write the request asks for, on the only namespace a
request can name, and its range passed the check. `NLB` has 16 bits and is one less than
the count; the PRPs are those of the request's buffer. -/
structure Translates (device : CNvmeDevice) (memory : Memory) (srb : Srb) (cmd : NvmeCommand) (offset : BitVec 64)
    (len : BitVec 32) : Prop where
  function : srb.function = SrbFunction.executeScsi
  parsed : parseReadWriteOffsetAndLen srb.cdb = some (offset, len)
  inRange : device.isInValidIoRange 1 offset len = true
  opc : cmd.opc = if Cdb.isWrite srb.cdb then Opcode.nvmWrite else Opcode.nvmRead
  cid : cmd.cid = srb.queueTag.setWidth 16
  nsid : cmd.nsid = 1
  slba : cmd.slba = offset.toNat
  nlb : cmd.nlb = (len.toNat + 4294967295) % 65536
  prp1 : cmd.prp1 = memory.mmGetPhysicalAddress srb.dataBuffer
  prp2 : cmd.prp2 = secondPrp memory srb.dataBuffer srb.dataTransferLength.toNat

/-- The same namespaces and registered queues. No step of the adapter changes these. -/
structure SameSettings (first second : CNvmeDevice) : Prop where
  namespaceCount : first.namespaceCount = second.namespaceCount
  nsData : first.nsData = second.nsData
  registeredIoQ : first.registeredIoQ = second.registeredIoQ

namespace SameSettings
variable {first second third : CNvmeDevice}

theorem refl (device : CNvmeDevice) : SameSettings device device := ⟨rfl, rfl, rfl⟩

theorem trans (one : SameSettings first second) (two : SameSettings second third) : SameSettings first third :=
  ⟨one.namespaceCount.trans two.namespaceCount, one.nsData.trans two.nsData, one.registeredIoQ.trans two.registeredIoQ⟩

theorem isInValidIoRange (same : SameSettings first second) (nsid : BitVec 32) (offset : BitVec 64) (len : BitVec 32) :
    first.isInValidIoRange nsid offset len = second.isInValidIoRange nsid offset len := by
  simp only [CNvmeDevice.isInValidIoRange, CNvmeDevice.getNamespaceTotalBlocks, same.namespaceCount, same.nsData]

end SameSettings

section Settings
variable {host after : Host} {address processor logpage : Nat} {memory : Memory}

private theorem teardown_settings (host : Host) : SameSettings host.teardown.device host.device := by
  unfold Host.teardown
  split <;> exact ⟨rfl, rfl, rfl⟩

private theorem shutdownController_settings (host : Host) : SameSettings host.shutdownController.device host.device := by
  unfold Host.shutdownController
  split <;> exact ⟨rfl, rfl, rfl⟩

private theorem buildIoSrbPnpHandler_settings (action : StorPnpAction) (adapterRequest : Bool) :
    SameSettings (host.buildIoSrbPnpHandler address action adapterRequest).2.device host.device := by
  unfold Host.buildIoSrbPnpHandler
  split
  · exact ⟨rfl, rfl, rfl⟩
  · cases action with
    | queryCapabilities => exact ⟨rfl, rfl, rfl⟩
    | other => exact ⟨rfl, rfl, rfl⟩
    | removeDevice => exact (teardown_settings host.shutdownController).trans (shutdownController_settings host)
    | surpriseRemoval => exact teardown_settings host

private theorem hwBuildIo_settings (srb : Srb) : SameSettings (host.hwBuildIo address srb).2.device host.device := by
  simp only [Host.hwBuildIo]
  split
  · exact ⟨rfl, rfl, rfl⟩
  · split
    · exact ⟨rfl, rfl, rfl⟩
    · split
      · unfold Host.buildIoScsiHandler
        split <;> exact ⟨rfl, rfl, rfl⟩
      · split
        · exact ⟨rfl, rfl, rfl⟩
        · split
          · exact buildIoSrbPnpHandler_settings ..
          · exact ⟨rfl, rfl, rfl⟩

theorem Host.Started.settings (started : host.Started memory address processor logpage after) :
    SameSettings after.device host.device := by
  cases started <;> exact ⟨rfl, rfl, rfl⟩

private theorem resetIoQueues_settings {count : Nat} (returned : host.resetIoQueues count = some after) :
    SameSettings after.device host.device := by
  induction count generalizing after with
  | zero =>
    cases returned
    exact .refl _
  | succ count ih =>
    simp only [Host.resetIoQueues] at returned
    split at returned
    · cases returned
    · next earlier ran =>
      split at returned
      · cases returned
      · cases returned
        have earlier := ih ran
        exact ⟨earlier.namespaceCount, earlier.nsData, earlier.registeredIoQ⟩

private theorem hwResetBus_settings (returned : host.hwResetBus = some after) : SameSettings after.device host.device := by
  simp only [Host.hwResetBus, Host.resetOutstandingCmds] at returned
  split at returned
  · cases returned
    exact .refl _
  · split at returned
    · cases returned
      exact .refl _
    · obtain ⟨last, ran, rfl⟩ := Option.map_eq_some_iff.mp returned
      have looped := resetIoQueues_settings ran
      exact ⟨looped.namespaceCount, looped.nsData, looped.registeredIoQ⟩

private theorem Host.setQueue_settings (host : Host) (msgid : Nat) (queue : CNvmeQueue) :
    SameSettings (host.setQueue msgid queue).device host.device := by
  unfold Host.setQueue
  split <;> exact ⟨rfl, rfl, rfl⟩

private theorem Adapter.command_settings (before : Adapter) (address : Nat) (cmd : NvmeCommand) :
    SameSettings (before.command address cmd).host.device before.host.device := by
  rcases (before.host.putSrbExt address { SrbExt.init none with nvmeCmd := cmd }).submitAdmCmd_spec address with
    ⟨queue, accepts, called⟩ | ⟨_, status, fails, called⟩
  · simp only [Adapter.command, called]
    exact ⟨rfl, rfl, rfl⟩
  · simp only [Adapter.command, called, fails]
    exact ⟨rfl, rfl, rfl⟩

theorem Adapter.step_settings {before after : Adapter} {event : AdapterEvent} (taken : before.step event = some after) :
    SameSettings after.host.device before.host.device := by
  cases event with
  | buildIo address srb =>
    obtain ⟨_, rfl⟩ := Adapter.step_buildIo taken
    exact hwBuildIo_settings srb
  | startIo address processor logpage memory =>
    obtain ⟨_, host, returned, rfl⟩ := Adapter.step_startIo taken
    exact (hwStartIo_started returned).settings
  | command address cmd =>
    obtain ⟨_, rfl⟩ := Adapter.step_command taken
    exact before.command_settings address cmd
  | resetBus =>
    obtain ⟨host, returned, rfl⟩ := Adapter.step_resetBus taken
    exact hwResetBus_settings returned
  | surpriseRemoval =>
    cases taken
    exact teardown_settings before.host
  | advance msgid event =>
    obtain ⟨_, _, _, next, _, rfl⟩ := Adapter.step_advance taken
    exact before.host.setQueue_settings msgid next.queue

end Settings

/-- `HwBuildIo` passes a request on untouched, and a SCSI request only for unit 0. -/
theorem hwBuildIo_passes {host : Host} {address : Nat} {srb : Srb} (passes : (host.hwBuildIo address srb).1 = true) :
    (host.hwBuildIo address srb).2.heap.srbext address = .init (some srb) ∧
      (srb.function = SrbFunction.executeScsi → srb.lun = 0) := by
  have delivered : (host.putSrbExt address (.init (some srb))).heap.srbext address = .init (some srb) := by
    simp [Host.putSrbExt]
  have code : ((host.putSrbExt address (.init (some srb))).heap.srbext address).funcCode = srb.function := by
    rw [delivered]
    rfl
  simp only [Host.hwBuildIo, code] at passes ⊢
  split at passes
  · cases passes
  · next refused =>
    rw [if_neg refused]
    split at passes
    · cases passes
    · next power =>
      rw [if_neg power]
      split at passes
      · next scsi =>
        rw [if_pos scsi]
        simp only [Host.buildIoScsiHandler] at passes ⊢
        split at passes
        · next zero =>
          rw [if_pos zero]
          exact ⟨delivered, fun _ => zero.2.2⟩
        · cases passes
      · next other =>
        rw [if_neg other]
        split at passes
        · next ioctl =>
          rw [if_pos ioctl]
          exact ⟨delivered, fun scsi => absurd scsi other⟩
        · split at passes
          · have answered : ∀ (host : Host) (action : StorPnpAction) (adapterRequest : Bool),
                (host.buildIoSrbPnpHandler address action adapterRequest).1 = false := by
              intro host action adapterRequest
              unfold Host.buildIoSrbPnpHandler
              split
              · rfl
              · cases action <;> rfl
            rw [answered] at passes
            cases passes
          · cases passes

private theorem lun_setWidth_zero : (0 : BitVec 8).setWidth 32 + 1 = (1 : BitVec 32) := rfl

private theorem buiildCmdReadWrite_opc (memory : Memory) (srbext : SrbExt) (offset : BitVec 64) (blocks : BitVec 32) (isWrite : Bool) :
    (buiildCmdReadWrite memory srbext offset blocks isWrite).nvmeCmd.opc =
      if isWrite then Opcode.nvmWrite else Opcode.nvmRead := by
  obtain ⟨prp1, prp2, freePrp2List, prp2VA, prp2List, prp2PA, built⟩ := srbext.withBuffer_eq memory
    { NvmeCommand.zero with
      opc := if isWrite then Opcode.nvmWrite else Opcode.nvmRead
      cid := srbext.cid
      nsid := srbext.lun.setWidth 32 + 1 } srbext.dataBuf srbext.dataBufLen.toNat
  simp only [buiildCmdReadWrite, built]

private theorem buildPrp_prps (memory : Memory) (srbext : SrbExt) (cmd : NvmeCommand) (buffer bufSize : Nat) (zeroed : cmd.prp2 = 0) :
    (buildPrp memory srbext cmd buffer bufSize).2.2 =
      { cmd with prp1 := memory.mmGetPhysicalAddress buffer, prp2 := secondPrp memory buffer bufSize } := by
  simp only [buildPrp, secondPrp]
  split
  · rw [← zeroed]
  · split
    · rfl
    · cases memory.prp2Pool with
      | none => rw [Option.map_none, Option.getD_none, ← zeroed]
      | some page => rfl

theorem translates_of_built {device : CNvmeDevice} {srb : Srb} {offset : BitVec 64} {len : BitVec 32} (memory : Memory)
    (function : srb.function = SrbFunction.executeScsi) (unit : srb.lun = 0)
    (parsed : parseReadWriteOffsetAndLen srb.cdb = some (offset, len))
    (inRange : device.isInValidIoRange 1 offset len = true) :
    Translates device memory srb
      (buiildCmdReadWrite memory (.init (some srb)) offset len (Cdb.isWrite srb.cdb)).nvmeCmd offset len := by
  obtain ⟨slba, nlb, cid, nsid, _⟩ :=
    buiildCmdReadWrite_fields memory (.init (some srb)) offset len (Cdb.isWrite srb.cdb)
  have prps := buildPrp_prps memory (.init (some srb)) { NvmeCommand.zero with
    opc := if Cdb.isWrite srb.cdb then Opcode.nvmWrite else Opcode.nvmRead
    cid := (SrbExt.init (some srb)).cid
    nsid := (SrbExt.init (some srb)).lun.setWidth 32 + 1 } srb.dataBuffer srb.dataTransferLength.toNat rfl
  refine ⟨function, parsed, inRange, buiildCmdReadWrite_opc .., cid, ?_, slba, nlb, ?_, ?_⟩
  · rw [nsid]
    simp only [SrbExt.lun, SrbExt.init, unit]
    exact lun_setWidth_zero
  · exact congrArg NvmeCommand.prp1 prps
  · exact congrArg NvmeCommand.prp2 prps

/-- What every run keeps: a waiting extension is as its request was delivered, and
every command in an I/O queue is the translation of a delivered request. -/
structure Provenance (device : CNvmeDevice) (delivered : Nat → Srb → Prop) (mapped : Nat → Memory → Prop)
    (adapter : Adapter) : Prop where
  settings : SameSettings adapter.host.device device
  waiting : ∀ address, adapter.waiting address = true → ∃ srb, delivered address srb ∧
    adapter.host.heap.srbext address = .init (some srb) ∧ (srb.function = SrbFunction.executeScsi → srb.lun = 0)
  commands : ∀ msgid queue, msgid ≠ 0 → adapter.host.queue msgid = some queue →
    ∀ submission ∈ queue.trace.submitted, ∃ srb memory offset len, delivered submission.srbext.address srb ∧
      mapped submission.srbext.address memory ∧ Translates device memory srb submission.cmd offset len

def Delivers (delivered : Nat → Srb → Prop) (mapped : Nat → Memory → Prop) : AdapterEvent → Prop
  | .buildIo address srb => delivered address srb
  | .startIo address _ _ memory => mapped address memory
  | _ => True

private theorem CNvmeQueue.resetAllCmd_submitted (queue : CNvmeQueue) (heap : Heap) :
    (queue.resetAllCmd heap).1.trace.submitted = queue.trace.submitted := by
  have forward : ∀ (queue : CNvmeQueue) (fuel : Nat), (queue.fastForward fuel).trace.submitted = queue.trace.submitted := by
    intro queue fuel
    induction fuel generalizing queue with
    | zero => rfl
    | succ fuel ih =>
      simp only [CNvmeQueue.fastForward]
      split
      · rfl
      · rw [ih]
        rfl
  simp only [CNvmeQueue.resetAllCmd, forward]

namespace Provenance
variable {device : CNvmeDevice} {delivered : Nat → Srb → Prop} {mapped : Nat → Memory → Prop} {before after : Adapter}

theorem initial (device : CNvmeDevice) (admConfig : Option QueuePairConfig) (ioConfig : Nat → Option QueuePairConfig)
    (srbext : Nat → SrbExt) (slotCount : BitVec 3) :
    Provenance device delivered mapped (.initial device admConfig ioConfig srbext slotCount) where
  settings := ⟨rfl, rfl, rfl⟩
  waiting := fun _ waits => by cases waits
  commands := by
    intro msgid queue nonzero present submission member
    simp only [Adapter.initial, Host.queue, nonzero, if_false, Option.map_eq_some_iff] at present
    obtain ⟨config, _, rfl⟩ := present
    cases member

theorem untouched {event : AdapterEvent} {address : Nat} (sound : before.Sound 2) (waits : before.waiting address = true)
    (taken : before.step event = some after)
    (apart : ∀ target, (∃ processor logpage memory, event = .startIo target processor logpage memory) → target ≠ address) :
    ¬ event.Touches before address := by
  have here : Holds before.host.slots before.waiting .startIo address := waits
  have unheld : ∀ msgid cid srbext, before.host.slots msgid cid = some srbext → srbext.address ≠ address := by
    intro msgid cid srbext held same
    have there : Holds before.host.slots before.waiting (.slot msgid cid) address := by simp [Holds, held, same]
    exact absurd (sound.custody.exclusive here there) (by simp)
  have busy : ¬ before.idle address = true := fun idle => sound.free_of_idle idle .startIo here
  intro touches
  cases event with
  | buildIo target srb =>
    obtain rfl : target = address := touches
    exact busy (Adapter.step_buildIo taken).1
  | startIo target processor logpage memory =>
    rcases touches with same | ⟨msgid, srbext, same, held⟩
    · exact apart target ⟨processor, logpage, memory, rfl⟩ same
    · exact unheld _ _ srbext held same
  | command target cmd =>
    rcases touches with rfl | ⟨srbext, same, held⟩
    · exact busy (Adapter.step_command taken).1
    · exact unheld _ _ srbext held same
  | resetBus =>
    obtain ⟨msgid, cid, srbext, same, held⟩ := touches
    exact unheld msgid cid srbext held same
  | surpriseRemoval => exact touches
  | advance msgid own =>
    cases own with
    | iterate =>
      obtain ⟨queue, loop, srbext, same, present, _, popped⟩ := touches
      have inside := (sound.inRange msgid queue present).cplQ loop.cpl
      rw [popped_of_lt inside] at popped
      have held : before.host.slots msgid (queue.cplQ loop.cpl).entry.cid.toNat = some srbext := by
        rw [Host.slots_of_queue present]
        exact popped
      exact unheld msgid _ srbext held same
    | _ => exact touches

/-- Only `HwStartIo` puts commands into an I/O queue. -/
theorem old_commands {event : AdapterEvent} {property : Submission → Prop}
    (commands : ∀ msgid queue, msgid ≠ 0 → before.host.queue msgid = some queue →
      ∀ submission ∈ queue.trace.submitted, property submission) (taken : before.step event = some after)
    (notStarted : ∀ target processor logpage memory, event ≠ .startIo target processor logpage memory) {msgid : Nat}
    {queue : CNvmeQueue} (nonzero : msgid ≠ 0) (found : after.host.queue msgid = some queue) {submission : Submission}
    (member : submission ∈ queue.trace.submitted) : property submission := by
  cases Adapter.step_pair taken msgid with
  | kept fewer => exact commands msgid queue nonzero (fewer queue found) submission member
  | submitted sends =>
    cases event with
    | startIo target processor logpage memory => exact absurd rfl (notStarted target processor logpage memory)
    | command => exact absurd sends.1 nonzero
    | _ => exact sends.elim
  | reset present now =>
    obtain rfl := Option.some.inj (now.symm.trans found)
    rw [CNvmeQueue.resetAllCmd_submitted] at member
    exact commands msgid _ nonzero present submission member
  | @advanced own next old present ofPair stepped =>
    obtain rfl : next.queue = queue := by
      rw [Adapter.queue_withQueuePair, Function.update_self, Option.some.injEq] at found
      exact found
    rw [System.step_submitted ofPair stepped] at member
    exact commands msgid old nonzero present submission member

private theorem step_waiting {event : AdapterEvent} (provenance : Provenance device delivered mapped before)
    (sound : before.Sound 2) (delivers : Delivers delivered mapped event) (taken : before.step event = some after)
    {address : Nat} (waits : after.waiting address = true) :
    ∃ srb, delivered address srb ∧ after.host.heap.srbext address = .init (some srb) ∧
      (srb.function = SrbFunction.executeScsi → srb.lun = 0) := by
  have still : ∀ (was : before.waiting address = true),
      (∀ target, (∃ processor logpage memory, event = .startIo target processor logpage memory) → target ≠ address) →
      ∃ srb, delivered address srb ∧ after.host.heap.srbext address = .init (some srb) ∧
        (srb.function = SrbFunction.executeScsi → srb.lun = 0) := by
    intro was apart
    rw [Adapter.step_frame taken (untouched sound was taken apart)]
    exact provenance.waiting address was
  cases event with
  | buildIo target srb =>
    obtain ⟨_, rfl⟩ := Adapter.step_buildIo taken
    by_cases same : address = target
    · subst same
      have passes : (before.host.hwBuildIo address srb).1 = true := by
        simpa [Adapter.buildIo] using waits
      exact ⟨srb, delivers, hwBuildIo_passes passes⟩
    · apply still
      · simpa [Adapter.buildIo, same] using waits
      · simp
  | startIo target processor logpage memory =>
    obtain ⟨_, host, _, rfl⟩ := Adapter.step_startIo taken
    by_cases same : address = target
    · subst same
      simp at waits
    · apply still
      · simpa [same] using waits
      · intro other called also
        obtain ⟨_, _, _, equal⟩ := called
        cases equal
        exact same also.symm
  | command target cmd =>
    obtain ⟨_, rfl⟩ := Adapter.step_command taken
    exact still waits (by simp)
  | resetBus =>
    obtain ⟨host, _, rfl⟩ := Adapter.step_resetBus taken
    exact still waits (by simp)
  | surpriseRemoval =>
    cases taken
    exact still waits (by simp)
  | advance msgid own =>
    obtain ⟨_, _, _, next, _, rfl⟩ := Adapter.step_advance taken
    exact still waits (by simp)

private theorem step_commands {event : AdapterEvent} (provenance : Provenance device delivered mapped before)
    (delivers : Delivers delivered mapped event) (taken : before.step event = some after) {msgid : Nat}
    {queue : CNvmeQueue} (nonzero : msgid ≠ 0) (found : after.host.queue msgid = some queue) {submission : Submission}
    (member : submission ∈ queue.trace.submitted) :
    ∃ srb memory offset len, delivered submission.srbext.address srb ∧ mapped submission.srbext.address memory ∧
      Translates device memory srb submission.cmd offset len := by
  obtain ⟨settings, waiting, commands⟩ := provenance
  cases event with
  | startIo target processor logpage memory =>
    obtain ⟨waits, host, returned, rfl⟩ := Adapter.step_startIo taken
    have kept : ∀ pair ring, before.host.queue pair = some ring → pair ≠ 0 →
        submission ∈ ring.trace.submitted → ∃ srb memory offset len, delivered submission.srbext.address srb ∧
          mapped submission.srbext.address memory ∧ Translates device memory srb submission.cmd offset len :=
      fun pair ring present nonzero member => commands pair ring nonzero present submission member
    cases hwStartIo_started returned with
    | answered => exact kept msgid queue found nonzero member
    | firmware =>
      have present : before.host.queue msgid = some queue := by
        rw [Host.queue_acceptedAdm, Function.update_of_ne nonzero] at found
        exact found
      exact kept msgid queue present nonzero member
    | @readWrite offset len old scsi parsed inRange accepts =>
      rw [Host.queue_acceptedIo] at found
      by_cases here : msgid = processor % before.host.device.registeredIoQ.toNat + 1
      · -- the new command is the one built for the request that waited
        have chosen : processor % (before.host.withReadWrite memory target offset len).device.registeredIoQ.toNat + 1 =
            msgid := here.symm
        rw [chosen, Function.update_self, Option.some.injEq] at found
        subst found
        rw [CNvmeQueue.accept_submitted, List.mem_append, List.mem_singleton] at member
        rcases member with earlier | rfl
        · have present := accepts.queue
          rw [chosen] at present
          exact kept msgid old present nonzero earlier
        · obtain ⟨srb, known, fresh, unit⟩ := waiting target waits
          rw [fresh] at scsi parsed inRange
          have function : srb.function = SrbFunction.executeScsi := scsi
          have checked : device.isInValidIoRange 1 offset len = true := by
            rw [← settings.isInValidIoRange]
            simpa [SrbExt.lun, SrbExt.init, unit function] using inRange
          refine ⟨srb, memory, offset, len, known, delivers, ?_⟩
          have built : ((before.host.withReadWrite memory target offset len).heap.srbext target).nvmeCmd =
              (buiildCmdReadWrite memory (.init (some srb)) offset len (Cdb.isWrite srb.cdb)).nvmeCmd := by
            simp only [Host.withReadWrite, Host.putSrbExt, Heap.put_srbext, Function.update_self, fresh]
            rfl
          rw [built]
          exact translates_of_built memory function (unit function) parsed checked
      · have apart : ¬ msgid =
            processor % (before.host.withReadWrite memory target offset len).device.registeredIoQ.toNat + 1 := here
        rw [Function.update_of_ne apart] at found
        exact kept msgid queue found nonzero member
  | _ => exact old_commands commands taken (by simp) nonzero found member

theorem step {event : AdapterEvent} (provenance : Provenance device delivered mapped before) (sound : before.Sound 2)
    (delivers : Delivers delivered mapped event) (taken : before.step event = some after) :
    Provenance device delivered mapped after where
  settings := (Adapter.step_settings taken).trans provenance.settings
  waiting := fun _ waits => provenance.step_waiting sound delivers taken waits
  commands := fun _ _ nonzero found _ member => provenance.step_commands delivers taken nonzero found member

end Provenance

end SpcNvme
