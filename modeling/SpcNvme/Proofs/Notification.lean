import SpcNvme.Proofs.ExactlyOnce
import SpcNvme.Proofs.Outstanding

/-! StorPort is notified once for a request. Every entry point either deals with
the request it was given or passes it on, and an extension is completed only when
it leaves its place; the exception is the firmware callback, after which
`CompleteCmd` completes the request a second time. -/

namespace SpcNvme

inductive Handled (limit : Nat) (after : Host) (controllers : Nat → Controller) (waiting : Nat → Bool) (address : Nat) :
    SrbStatus → Prop where
  | pending (sound : Sound limit after controllers waiting) : Handled limit after controllers waiting address .pending
  | decided {status : SrbStatus} (final : status ≠ .pending) (hand : InHand limit after controllers waiting address) :
      Handled limit after controllers waiting address status

section Handlers
variable {limit : Nat} {host after : Host} {controllers : Nat → Controller} {waiting : Nat → Bool}
  {address processor logpage : Nat} {memory : Memory} {status : SrbStatus}

theorem SrbExt.Outstanding.withBuffer {srbext : SrbExt} (outstanding : srbext.Outstanding) (memory : Memory)
    (cmd : NvmeCommand) (buffer bufSize : Nat) : (srbext.withBuffer memory cmd buffer bufSize).Outstanding := by
  obtain ⟨prp1, prp2, freePrp2List, prp2VA, prp2List, prp2PA, built⟩ := srbext.withBuffer_eq memory cmd buffer bufSize
  rw [built]
  exact ⟨outstanding.initOK, outstanding.notified, outstanding.polled⟩

theorem SrbExt.Outstanding.readWrite {srbext : SrbExt} (outstanding : srbext.Outstanding) (memory : Memory)
    (offset : BitVec 64) (blocks : BitVec 32) (isWrite : Bool) :
    (buiildCmdReadWrite memory srbext offset blocks isWrite).Outstanding := by
  have built := outstanding.withBuffer memory { NvmeCommand.zero with
    opc := if isWrite then Opcode.nvmWrite else Opcode.nvmRead
    cid := srbext.cid
    nsid := srbext.lun.setWidth 32 + 1 } srbext.dataBuf srbext.dataBufLen.toNat
  exact ⟨built.initOK, built.notified, built.polled⟩

theorem SrbExt.Outstanding.firmware {srbext : SrbExt} (outstanding : srbext.Outstanding) (host : Host) (memory : Memory)
    (logpage : Nat) : (host.firmwareGetInfoCmd memory srbext logpage).Outstanding := by
  have called : SrbExt.Outstanding
      { srbext.resetExtBuf (some logpage) with completionCB := some .completeFirmwareInfo } :=
    ⟨outstanding.initOK, outstanding.notified, outstanding.polled⟩
  simp only [Host.firmwareGetInfoCmd]
  split
  · exact called.withBuffer ..
  · exact called.withBuffer ..

private theorem scsiReadWrite_handled {offset : BitVec 64} {len : BitVec 32} {isWrite : Bool}
    (hand : InHand limit host controllers waiting address)
    (returned : host.scsiReadWrite memory address processor offset len isWrite = some (status, after)) :
    Handled limit after controllers waiting address status := by
  have built := hand.putSrbExt (hand.outstanding.readWrite memory offset len isWrite)
  simp only [Host.scsiReadWrite] at returned
  split at returned
  · cases returned
    exact .decided (by simp) hand
  · split at returned
    · cases returned
    · next submitted =>
      rcases built.submitIoCmd submitted with ⟨success, sound⟩ | ⟨fails, kept⟩
      · simp only [success, Bool.not_true, Bool.false_eq_true, if_false, Option.some.injEq, Prod.mk.injEq] at returned
        obtain ⟨rfl, rfl⟩ := returned
        exact .pending sound
      · simp only [fails, Bool.not_false, if_true, Option.some.injEq, Prod.mk.injEq] at returned
        obtain ⟨rfl, rfl⟩ := returned
        refine .decided ?_ kept
        split <;> simp

private theorem scsiReadWriteCdb_handled {parse : List (BitVec 8) → BitVec 64 × BitVec 32} {isWrite : Bool}
    (hand : InHand limit host controllers waiting address)
    (returned : host.scsiReadWriteCdb memory address processor parse isWrite = some (status, after)) :
    Handled limit after controllers waiting address status :=
  scsiReadWrite_handled hand returned

private theorem reply_handled {answer : DataReply} (hand : InHand limit host controllers waiting address)
    (final : answer.status ≠ .pending) (returned : some (host.reply address answer) = some (status, after)) :
    Handled limit after controllers waiting address status := by
  unfold Host.reply at returned
  split at returned
  · cases returned
    exact .decided final hand
  · cases returned
    refine .decided final (hand.putSrbExt ?_)
    refine ⟨hand.outstanding.initOK, hand.outstanding.notified, ?_⟩
    intro missing
    apply hand.outstanding.polled
    simpa [SrbExt.setTransferLength] using missing

end Handlers

/-! No handler that answers at once leaves the request pending. -/

private theorem handleInquiryVPD_final (device : CNvmeDevice) (srbext : SrbExt) :
    (handleInquiryVPD device srbext).status ≠ .pending := by
  unfold handleInquiryVPD
  split
  · simp [DataReply.sized]
  · simp only [DataReply.sized]
    split <;> simp
  · simp [DataReply.sized]
  · simp [DataReply.sized]
  · simp [DataReply.sized]
  · simp [DataReply.sized]

theorem scsiInquiry6_final (device : CNvmeDevice) (srbext : SrbExt) : (scsiInquiry6 device srbext).status ≠ .pending := by
  unfold scsiInquiry6
  split
  · exact handleInquiryVPD_final device srbext
  · split
    · simp [DataReply.sized]
    · split <;> simp [DataReply.sized]

theorem scsiModeSense6_final (srbext : SrbExt) : (scsiModeSense6 srbext).status ≠ .pending := by
  unfold scsiModeSense6
  split
  · simp [DataReply.sized]
  · simp only
    split <;> simp [DataReply.sized]

theorem scsiModeSelect6_final (srbext : SrbExt) : (scsiModeSelect6 srbext).status ≠ .pending := by
  unfold scsiModeSelect6
  split <;> simp [DataReply.sized, DataReply.invalidRequest]

theorem scsiReadCapacity10_final (device : CNvmeDevice) (srbext : SrbExt) :
    (scsiReadCapacity10 device srbext).status ≠ .pending := by
  simp only [scsiReadCapacity10]
  split
  · simp [DataReply.sized]
  · split
    · simp [DataReply.sized]
    · split
      · simp [DataReply.sized]
      · split <;> simp [DataReply.sized]

theorem scsiReadCapacity16_final (device : CNvmeDevice) (srbext : SrbExt) :
    (scsiReadCapacity16 device srbext).status ≠ .pending := by
  simp only [scsiReadCapacity16]
  split
  · simp [DataReply.sized]
  · split
    · simp [DataReply.sized]
    · split <;> simp [DataReply.sized]

section Entries
variable {limit : Nat} {host after : Host} {controllers : Nat → Controller} {waiting : Nat → Bool}
  {address processor logpage : Nat} {memory : Memory} {status : SrbStatus}

private theorem startIoScsiHandler_handled (hand : InHand limit host controllers waiting address)
    (returned : host.startIoScsiHandler memory address processor = some (status, after)) :
    Handled limit after controllers waiting address status := by
  have rejects : DataReply.invalidRequest.status ≠ .pending := by simp [DataReply.invalidRequest]
  simp only [Host.startIoScsiHandler] at returned
  split at returned
  · exact reply_handled hand (scsiModeSelect6_final _) returned
  · exact scsiReadWriteCdb_handled hand returned
  · exact scsiReadWriteCdb_handled hand returned
  · exact reply_handled hand (scsiInquiry6_final _ _) returned
  · exact reply_handled hand (scsiModeSense6_final _) returned
  · exact reply_handled hand rejects returned
  · exact reply_handled hand rejects returned
  · exact reply_handled hand rejects returned
  · exact reply_handled hand rejects returned
  · exact reply_handled hand (scsiReadCapacity10_final _ _) returned
  · exact scsiReadWriteCdb_handled hand returned
  · exact scsiReadWriteCdb_handled hand returned
  · exact reply_handled hand rejects returned
  · exact reply_handled hand rejects returned
  · exact reply_handled hand rejects returned
  · exact reply_handled hand rejects returned
  · exact scsiReadWriteCdb_handled hand returned
  · exact scsiReadWriteCdb_handled hand returned
  · exact scsiReadWriteCdb_handled hand returned
  · exact scsiReadWriteCdb_handled hand returned
  · exact reply_handled hand rejects returned
  · exact reply_handled hand (scsiReadCapacity16_final _ _) returned
  · cases returned
    exact .decided (by simp) hand

private theorem firmwareGetInfo_handled (hand : InHand limit host controllers waiting address)
    (returned : host.firmwareGetInfo memory address logpage = (status, after)) :
    Handled limit after controllers waiting address status := by
  have built := hand.putSrbExt (hand.outstanding.firmware host memory logpage)
  simp only [Host.firmwareGetInfo] at returned
  cases called : (host.putSrbExt address
      (host.firmwareGetInfoCmd memory (host.heap.srbext address) logpage)).submitAdmCmd address with
  | mk code next =>
    rw [called] at returned
    rcases built.submitAdmCmd called with ⟨success, sound⟩ | ⟨fails, kept⟩
    · simp only [success, Bool.not_true, Bool.false_eq_true, if_false, Prod.mk.injEq] at returned
      obtain ⟨rfl, rfl⟩ := returned
      exact .pending sound
    · simp only [fails, Bool.not_false, if_true, Prod.mk.injEq] at returned
      obtain ⟨rfl, rfl⟩ := returned
      exact .decided (by simp) kept

private theorem startIoIoctlHandler_handled (hand : InHand limit host controllers waiting address)
    (returned : host.startIoIoctlHandler memory address logpage = (status, after)) :
    Handled limit after controllers waiting address status := by
  unfold Host.startIoIoctlHandler at returned
  split at returned
  · cases returned
    exact .decided (by simp) hand
  · split at returned
    · simp only [Host.ioctlScsiMiniportFirmware] at returned
      split at returned
      · cases returned
        refine .decided (by simp) (hand.putSrbExt ?_)
        refine ⟨hand.outstanding.initOK, hand.outstanding.notified, ?_⟩
        intro missing
        apply hand.outstanding.polled
        simpa [SrbExt.setReturnCode] using missing
      · split at returned
        · exact firmwareGetInfo_handled hand returned
        · cases returned
          exact .decided (by simp) hand
    · cases returned
      exact .decided (by simp) hand

theorem Sound.hwStartIo (hand : InHand limit host controllers waiting address)
    (returned : host.hwStartIo memory address processor logpage = some after) : Sound limit after controllers waiting := by
  have handled : ∀ status next, host.startIo memory address processor logpage = some (status, next) →
      Handled limit next controllers waiting address status := by
    intro status next called
    simp only [Host.startIo] at called
    split at called
    · exact startIoScsiHandler_handled hand called
    · split at called
      · exact startIoIoctlHandler_handled hand (Option.some.inj called)
      · cases called
        exact .decided (by simp) hand
  simp only [Host.hwStartIo] at returned
  split at returned
  · cases returned
  · next status next called =>
    cases handled status next called with
    | pending sound =>
      simp only [ne_eq, not_true_eq_false, if_false, Option.some.injEq] at returned
      exact returned ▸ sound
    | decided final hand =>
      simp only [ne_eq, final, not_false_eq_true, if_true, Option.some.injEq] at returned
      exact returned ▸ hand.complete none status

theorem teardown_fewer (host : Host) (msgid : Nat) (queue : CNvmeQueue)
    (present : host.teardown.queue msgid = some queue) : host.queue msgid = some queue := by
  unfold Host.teardown at present
  split at present
  · exact present
  · simp [Host.queue] at present

theorem teardown_heap (host : Host) : host.teardown.heap = host.heap := by
  unfold Host.teardown
  split <;> rfl

theorem shutdownController_queue (host : Host) : host.shutdownController.queue = host.queue := by
  unfold Host.shutdownController
  split <;> rfl

theorem shutdownController_heap (host : Host) : host.shutdownController.heap = host.heap := by
  unfold Host.shutdownController
  split <;> rfl

theorem InHand.teardown (hand : InHand limit host controllers waiting address) :
    InHand limit host.teardown controllers waiting address :=
  hand.drop (teardown_fewer host) (teardown_heap host)

theorem InHand.shutdownController (hand : InHand limit host controllers waiting address) :
    InHand limit host.shutdownController controllers waiting address := by
  refine hand.drop ?_ (shutdownController_heap host)
  intro msgid queue present
  rwa [shutdownController_queue] at present

private theorem Sound.refuse (sound : Sound limit host controllers waiting) (address : Nat) :
    Sound limit host controllers (Function.update waiting address false) := by
  refine ⟨sound.positive, sound.inRange, sound.custody.mono ?_ (fun _ _ outstanding => outstanding), sound.once⟩
  intro place other held
  cases place with
  | slot msgid cid => exact held
  | startIo =>
    by_cases same : other = address
    · subst other
      simp [Holds] at held
    · simpa [Holds, Function.update_of_ne same] using held

private theorem buildIoSrbPnpHandler_sound {action : StorPnpAction} {adapterRequest : Bool}
    (hand : InHand limit host controllers waiting address) :
    (host.buildIoSrbPnpHandler address action adapterRequest).1 = false ∧
    Sound limit (host.buildIoSrbPnpHandler address action adapterRequest).2 controllers waiting := by
  unfold Host.buildIoSrbPnpHandler
  split
  · exact ⟨rfl, hand.complete none _⟩
  · cases action with
    | queryCapabilities => exact ⟨rfl, hand.complete none _⟩
    | removeDevice => exact ⟨rfl, hand.shutdownController.teardown.complete none _⟩
    | surpriseRemoval => exact ⟨rfl, hand.teardown.complete none _⟩
    | other => exact ⟨rfl, hand.complete none _⟩

theorem Sound.hwBuildIo {srb : Srb} (hand : InHand limit (host.putSrbExt address (.init (some srb))) controllers waiting address) :
    Sound limit (host.hwBuildIo address srb).2 controllers
      (Function.update waiting address (host.hwBuildIo address srb).1) := by
  simp only [Host.hwBuildIo]
  split
  · exact (hand.complete none _).refuse address
  · split
    · exact (hand.complete none _).refuse address
    · split
      · simp only [Host.buildIoScsiHandler]
        split
        · exact hand.wait
        · exact (hand.complete none _).refuse address
      · split
        · exact hand.wait
        · split
          · obtain ⟨passed, sound⟩ := @buildIoSrbPnpHandler_sound _ _ _ _ _ srb.pnpAction srb.pnpAdapterRequest hand
            rw [passed]
            exact sound.refuse address
          · exact (hand.complete none _).refuse address

end Entries

section Reset
variable {limit : Nat} {host after : Host} {controllers : Nat → Controller} {waiting : Nat → Bool}

theorem Sound.resetIoQueues (sound : Sound limit host controllers waiting) (count : Nat)
    (returned : host.resetIoQueues count = some after) : Sound limit after controllers waiting := by
  induction count generalizing after with
  | zero =>
    cases returned
    exact sound
  | succ count ih =>
    simp only [Host.resetIoQueues] at returned
    split at returned
    · cases returned
    · next earlier reached =>
      split at returned
      · cases returned
      · next queue present =>
        have found : earlier.queue (count + 1) = some queue := by simpa [Host.queue] using present
        have reset := (ih reached).resetAllCmd found
        cases returned
        simpa [Host.setQueue] using reset

/-- A bus reset completes what is in the history slots and nothing else. -/
theorem Sound.hwResetBus (sound : Sound limit host controllers waiting) (returned : host.hwResetBus = some after) :
    Sound limit after controllers waiting := by
  simp only [Host.hwResetBus, Host.resetOutstandingCmds] at returned
  split at returned
  · cases returned
    exact sound
  · split at returned
    · cases returned
      exact sound
    · next queue present =>
      obtain ⟨last, reset, rfl⟩ := Option.map_eq_some_iff.mp returned
      have found : (host.setState .resetbus).queue 0 = some queue := present
      have marked : Sound limit (host.setState .resetbus) controllers waiting := sound.congr rfl rfl
      exact ((marked.resetAllCmd found).resetIoQueues _ reset).congr rfl rfl

end Reset

/-- StorPort was notified at most once since each request was delivered. -/
def NotifiedOnce (adapter : Adapter) : Prop :=
  ∀ address, (adapter.host.heap.srbext address).notified ≤ 1

/-- No iteration of a completion loop pops an extension whose callback completes it. -/
def QuietAdapter (adapter : Adapter) : AdapterEvent → Prop
  | .advance msgid event => ∀ queue ∈ adapter.host.queue msgid, QuietCallbacks (adapter.queuePair msgid queue) event
  | _ => True

abbrev Adapter.Sound (limit : Nat) (adapter : Adapter) : Prop :=
  SpcNvme.Sound limit adapter.host adapter.controllers adapter.waiting

theorem Adapter.Sound.initial (device : CNvmeDevice) (admConfig : Option QueuePairConfig)
    (ioConfig : Nat → Option QueuePairConfig) (srbext : Nat → SrbExt) (slotCount : BitVec 3) {limit : Nat}
    (positive : 1 ≤ limit) : (Adapter.initial device admConfig ioConfig srbext slotCount).Sound limit := by
  have setup : ∀ msgid queue, (Adapter.initial device admConfig ioConfig srbext slotCount).host.queue msgid = some queue →
      ∃ config, queue = .setup config := by
    intro msgid queue present
    simp only [Host.queue, Adapter.initial] at present
    split at present
    · obtain ⟨config, _, same⟩ := Option.map_eq_some_iff.mp present
      exact ⟨config, same.symm⟩
    · obtain ⟨config, _, same⟩ := Option.map_eq_some_iff.mp present
      exact ⟨config, same.symm⟩
  have nothing : ∀ place address, ¬ Holds (Adapter.initial device admConfig ioConfig srbext slotCount).host.slots
      (fun _ => false) place address := by
    intro place address held
    cases place with
    | startIo => cases held
    | slot msgid cid =>
      cases present : (Adapter.initial device admConfig ioConfig srbext slotCount).host.queue msgid with
      | none => simp [Holds, Host.slots, present] at held
      | some queue =>
        obtain ⟨config, rfl⟩ := setup msgid queue present
        simp [Holds, Host.slots, present, CNvmeQueue.setup, CCmdHistory.setup] at held
  refine ⟨positive, ?_, ⟨fun held => absurd held (nothing _ _), fun held => absurd held (nothing _ _)⟩, ?_⟩
  · intro msgid queue present
    obtain ⟨config, rfl⟩ := setup msgid queue present
    refine ⟨fun _ => config.historyDepth_pos, ?_, fun _ => config.historyDepth_pos⟩
    intro submission member
    cases member
  · intro address
    exact Nat.zero_le limit

theorem Adapter.Sound.free_of_idle {limit : Nat} {adapter : Adapter} (sound : adapter.Sound limit) {address : Nat}
    (idle : adapter.idle address = true) : Custody.Free (Holds adapter.host.slots adapter.waiting) address := by
  intro place held
  have outstanding := sound.custody.live held
  have polled : (adapter.host.heap.srbext address).srb = none ∧
      (adapter.host.heap.srbext address).srbStatus ≠ .pending := by
    simpa [Adapter.idle, outstanding.initOK, outstanding.notified] using idle
  exact polled.2 (outstanding.polled polled.1)

private theorem Adapter.Sound.deliver {limit : Nat} {adapter : Adapter} (sound : adapter.Sound limit) {address : Nat} {srbext : SrbExt}
    (idle : adapter.idle address = true) (outstanding : srbext.Outstanding) :
    InHand limit (adapter.host.putSrbExt address srbext) adapter.controllers adapter.waiting address := by
  have free := sound.free_of_idle idle
  refine ⟨sound.spend free ?_ ?_, free, ?_⟩
  · intro other apart
    simp [apart]
  · simp [outstanding.notified]
  · simpa [Outstanding, Host.putSrbExt] using outstanding

section Advance
variable {limit : Nat} {host : Host} {controllers : Nat → Controller} {waiting : Nat → Bool} {msgid : Nat}
  {queue : CNvmeQueue}

theorem Sound.advance {after : CNvmeQueue} {controller : Controller} (sound : Sound limit host controllers waiting)
    (present : host.queue msgid = some queue)
    (fewer : ∀ cid srbext, after.history.history cid = some srbext → queue.history.history cid = some srbext)
    (inRange : InRange after controller) :
    Sound limit { host.setQueue msgid after with heap := host.heap } (Function.update controllers msgid controller) waiting :=
  (sound.setQueue present fewer inRange).congr rfl (by simp)

theorem Sound.consume {loop : CompleteLoop} (sound : Sound limit host controllers waiting)
    (present : host.queue msgid = some queue)
    (quiet : 2 ≤ limit ∨ ∀ srbext ∈ queue.history.history (queue.cplQ loop.cpl).entry.cid.toNat,
      (host.heap.srbext srbext.address).completesItself = false) :
    Sound limit { host.setQueue msgid (queue.consume loop) with heap := queue.poppedHeap host.heap loop } controllers waiting := by
  have old := sound.inRange msgid queue present
  have inRange : InRange (queue.consume loop) (controllers msgid) := ⟨old.subQ, old.pending, old.cplQ⟩
  have slot := popped_of_lt (old.cplQ loop.cpl)
  cases held : queue.history.history (queue.cplQ loop.cpl).entry.cid.toNat with
  | none =>
    have heap : queue.poppedHeap host.heap loop = host.heap := by simp [CNvmeQueue.poppedHeap, slot, held]
    have advanced := sound.advance present (fun _ _ => Held.kept) inRange
    rwa [Function.update_eq_self, ← heap] at advanced
  | some srbext =>
    have heap : queue.poppedHeap host.heap loop =
        finishSrbExt host.heap srbext.address (some srbext.submission) (queue.cplQ loop.cpl).entry := by
      simp [CNvmeQueue.poppedHeap, slot, held]
    have taken := sound.take present held (poppedHistory_of_lt (old.cplQ loop.cpl)) inRange
    rw [Function.update_eq_self] at taken
    have outstanding : Outstanding host.heap srbext.address := by simpa [Outstanding] using taken.outstanding
    apply taken.sound.spend taken.free
    · intro other apart
      rw [heap, Host.setQueue_heap]
      exact finishSrbExt_other _ _ apart
    · rw [heap]
      cases loud : (host.heap.srbext srbext.address).completesItself with
      | false =>
        have once := finishSrbExt_notified_le (some srbext.submission) (queue.cplQ loop.cpl).entry loud
        rw [outstanding.notified] at once
        exact Nat.le_trans once sound.positive
      | true =>
        have twice := finishSrbExt_notified_twice (some srbext.submission) (queue.cplQ loop.cpl).entry loud
        rw [outstanding.notified] at twice
        rw [twice]
        apply quiet.resolve_right
        intro plain
        exact Bool.false_ne_true ((plain srbext held).symm.trans loud)

theorem Sound.queuePair {before : Adapter} {event : Event} {next : System} (sound : before.Sound limit)
    (present : before.host.queue msgid = some queue) (own : event.ofQueuePair = true)
    (quiet : 2 ≤ limit ∨ QuietCallbacks (before.queuePair msgid queue) event)
    (taken : (before.queuePair msgid queue).step event = some next) : (before.withQueuePair msgid next).Sound limit := by
  have old := sound.inRange msgid queue present
  cases System.step_transition taken with
  | accepted => cases own
  | refused => cases own
  | fetched behind =>
    refine sound.advance present (fun _ _ holds => holds) ⟨old.subQ, ?_, old.cplQ⟩
    intro submission member
    simp only [Controller.fetch, List.mem_append, List.mem_singleton] at member
    rcases member with earlier | rfl
    · exact old.pending submission earlier
    · exact old.subQ _
  | @posted index reply submission pending =>
    refine sound.advance present (fun _ _ holds => holds) ⟨old.subQ, ?_, ?_⟩
    · intro other member
      exact old.pending other (List.mem_of_mem_eraseIdx member)
    · intro slot
      by_cases here : slot = (before.controllers msgid).cqTail
      · subst slot
        have inside := old.pending submission (List.mem_of_getElem? pending)
        simpa [System.post, Adapter.queuePair, Controller.answer] using inside
      · simpa [System.post, Adapter.queuePair, here] using old.cplQ slot
  | entered idle => exact sound.advance present (fun _ _ holds => holds) old
  | @iterated loop running arrived more =>
    have consumed := sound.consume present (quiet.imp_right fun plain => plain loop running)
    simpa [Adapter.Sound, Adapter.withQueuePair, System.iterated, Adapter.queuePair] using consumed
  | @left loop running ended =>
    obtain ⟨cplDbl, doorbell⟩ := queue.leaveCompleteCmd_eq loop
    have inRange : InRange { queue with cplDbl := cplDbl } (before.controllers msgid) :=
      ⟨old.subQ, old.pending, old.cplQ⟩
    have history : (queue.leaveCompleteCmd loop).history = queue.history := by rw [doorbell]
    rw [← doorbell] at inRange
    refine sound.advance present ?_ inRange
    intro cid srbext holds
    exact history ▸ holds
  | reset => cases own
  | scribbled => cases own

end Advance

theorem Adapter.Sound.step {limit : Nat} {before after : Adapter} {event : AdapterEvent} (sound : before.Sound limit)
    (quiet : 2 ≤ limit ∨ QuietAdapter before event) (taken : before.step event = some after) : after.Sound limit := by
  cases event with
  | buildIo address srb =>
    obtain ⟨idle, rfl⟩ := Adapter.step_buildIo taken
    have hand : InHand limit (before.host.putSrbExt address (.init (some srb))) before.controllers before.waiting address :=
      sound.deliver idle ⟨rfl, rfl, fun missing => by cases missing⟩
    exact .hwBuildIo hand
  | startIo address processor logpage memory =>
    obtain ⟨waits, host, returned, rfl⟩ := Adapter.step_startIo taken
    exact .hwStartIo (sound.startIo waits) returned
  | command address cmd =>
    obtain ⟨idle, rfl⟩ := Adapter.step_command taken
    have hand : InHand limit (before.host.putSrbExt address { SrbExt.init none with nvmeCmd := cmd }) before.controllers
        before.waiting address := sound.deliver idle ⟨rfl, rfl, fun _ => rfl⟩
    cases called : (before.host.putSrbExt address
        { SrbExt.init none with nvmeCmd := cmd }).submitAdmCmd address with
    | mk status host =>
      simp only [Adapter.Sound, Adapter.command, called]
      rcases hand.submitAdmCmd called with ⟨success, stored⟩ | ⟨fails, kept⟩
      · rwa [success]
      · rw [fails]
        apply kept.sound.spend kept.free
        · intro other apart
          simp [apart]
        · simp [kept.outstanding.notified]
  | resetBus =>
    obtain ⟨host, returned, rfl⟩ := Adapter.step_resetBus taken
    exact sound.hwResetBus returned
  | surpriseRemoval =>
    cases taken
    exact sound.drop (teardown_fewer before.host) (teardown_heap before.host)
  | advance msgid event =>
    obtain ⟨queue, present, own, next, stepped, rfl⟩ := Adapter.step_advance taken
    exact Sound.queuePair sound present own (quiet.imp_right fun plain => plain queue present) stepped

def sampleAdapter : Adapter :=
  .initial (Host.sampleHost (.init none)).device (some sampleQueue) (fun _ => none) (fun _ => .init none) 1

def sampleFirmwareRequest : List AdapterEvent :=
  [.buildIo 0 sampleIoctl, .startIo 0 0 0x2000 Host.sampleMemory, .advance 0 .fetch, .advance 0 (.post 0 sampleReply),
    .advance 0 (.enter 0), .advance 0 .iterate]

end SpcNvme
