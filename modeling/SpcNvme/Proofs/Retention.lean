import SpcNvme.Proofs.Frame
import SpcNvme.Proofs.Tags

/-! No request gets lost: whoever waits for an extension waits for `HwStartIo` or for
the command in one history slot. Only a surprise removal with commands in the queues
breaks this, since the queues are deleted with what they hold. -/

namespace SpcNvme

/-! What a completion leaves behind. -/

private theorem SrbExt.completeSrb_done (srbext : SrbExt) {status : SrbStatus} (final : status ≠ .pending) :
    ¬ (srbext.completeSrb status).Outstanding := by
  intro outstanding
  have notified := outstanding.notified
  rw [SrbExt.completeSrb_notified] at notified
  split at notified
  · omega
  · next missing =>
    have none : srbext.srb = none := by simpa using missing
    have polled := outstanding.polled (by simp [SrbExt.completeSrb, none])
    rw [SrbExt.completeSrb_srbStatus] at polled
    exact final polled

private theorem Heap.completeSrb_done (heap : Heap) (address : Nat) (submission : Option Nat) {status : SrbStatus}
    (final : status ≠ .pending) : ¬ Outstanding (heap.completeSrb address submission status) address := by
  simp only [Outstanding, Heap.completeSrb_srbext, Function.update_self]
  exact SrbExt.completeSrb_done _ final

private theorem finishSrbExt_done (heap : Heap) (address : Nat) (submission : Option Nat) (cpl : NvmeCompletionEntry) :
    ¬ Outstanding (finishSrbExt heap address submission cpl) address := by
  intro outstanding
  have before := (Heap.Ages.cleanUp _ address).outstanding address outstanding
  exact Heap.completeSrb_done _ address submission (nvmeToSrbStatus_final _) before

private theorem releaseOld_done {queue : CNvmeQueue} {heap : Heap} {cmd : NvmeCommand} {old : SrbExtPtr}
    (held : queue.history.history cmd.cid.toNat = some old) : ¬ Outstanding (queue.releaseOld heap cmd) old.address := by
  simp only [CNvmeQueue.releaseOld, held]
  exact heap.completeSrb_done old.address _ (by simp)

private theorem acceptedHeap_done {queue : CNvmeQueue} {heap : Heap} {address : Nat} {old : SrbExtPtr}
    (held : queue.history.history (heap.srbext address).nvmeCmd.cid.toNat = some old) (apart : old.address ≠ address) :
    ¬ Outstanding (Host.acceptedHeap queue heap address) old.address := by
  intro outstanding
  apply @releaseOld_done queue heap _ old held
  simpa [Outstanding, Host.acceptedHeap, CNvmeQueue.setSubIndex, apart] using outstanding

section Reset
variable {host after : Host} {msgid cid : Nat} {srbext : SrbExtPtr}

private theorem resetUpTo_done {table : CCmdHistory} {heap : Heap} {count : Nat} (held : table.history cid = some srbext)
    (inside : cid < count) : ¬ Outstanding (table.resetUpTo heap count).2 srbext.address := by
  induction count with
  | zero => exact absurd inside (Nat.not_lt_zero cid)
  | succ count ih =>
    have untouched : (table.resetUpTo heap count).1.history count = table.history count := by
      simp [resetUpTo_table]
    simp only [CCmdHistory.resetUpTo, untouched]
    by_cases here : cid = count
    · subst here
      simp only [held]
      exact Heap.completeSrb_done _ srbext.address _ (by simp)
    · have earlier := ih (by omega)
      split
      · exact earlier
      · intro outstanding
        exact earlier ((Heap.Ages.completeSrb _ (by simp)).outstanding _ outstanding)

private theorem resetAllCmd_held {queue : CNvmeQueue} (heap : Heap) (held : queue.history.history cid = some srbext) :
    (queue.resetAllCmd heap).1.history.history cid = some srbext ∨
      ¬ Outstanding (queue.resetAllCmd heap).2 srbext.address := by
  by_cases inside : cid < queue.history.depth
  · exact .inr (resetUpTo_done held inside)
  · apply Or.inl
    simp only [CNvmeQueue.resetAllCmd, CCmdHistory.reset, (CNvmeQueue.fastForward_frame _ _).1, resetUpTo_table, inside,
      if_false]
    exact held

private theorem resetIoQueues_held {count : Nat} (returned : host.resetIoQueues count = some after)
    (held : host.slots msgid cid = some srbext) :
    after.slots msgid cid = some srbext ∨ ¬ Outstanding after.heap srbext.address := by
  induction count generalizing after with
  | zero =>
    cases returned
    exact .inl held
  | succ count ih =>
    simp only [Host.resetIoQueues] at returned
    split at returned
    · cases returned
    · next earlier ran =>
      split at returned
      · cases returned
      · next queue selected =>
        cases returned
        rcases ih ran with still | done
        · by_cases here : msgid = count + 1
          · subst here
            rw [Host.slots_of_queue (show earlier.queue (count + 1) = some queue from selected)] at still
            have reset := resetAllCmd_held earlier.heap still
            simpa [Host.slots, Host.queue] using reset
          · apply Or.inl
            by_cases admin : msgid = 0
            · simpa [Host.slots, Host.queue, admin] using still
            · have apart : msgid - 1 ≠ count := by omega
              simpa [Host.slots, Host.queue, admin, apart] using still
        · apply Or.inr
          intro outstanding
          exact done ((Heap.Ages.resetUpTo ..).outstanding _ outstanding)

private theorem hwResetBus_held (returned : host.hwResetBus = some after) (held : host.slots msgid cid = some srbext) :
    after.slots msgid cid = some srbext ∨ ¬ Outstanding after.heap srbext.address := by
  simp only [Host.hwResetBus, Host.resetOutstandingCmds] at returned
  split at returned
  · cases returned
    exact .inl held
  · split at returned
    · cases returned
      exact .inl held
    · next admin selected =>
      obtain ⟨last, ran, rfl⟩ := Option.map_eq_some_iff.mp returned
      have ages := (Host.resetIoQueues_eases (.of_same (.refl _) fun _ present => present) _ ran).ages
      by_cases zero : msgid = 0
      · subst zero
        rw [Host.slots_of_queue (show host.queue 0 = some admin from selected)] at held
        rcases resetAllCmd_held host.heap held with still | done
        · apply resetIoQueues_held ran
          simpa [Host.slots, Host.queue, Host.setState] using still
        · apply Or.inr
          intro outstanding
          exact done (ages.outstanding _ outstanding)
      · apply resetIoQueues_held ran
        simpa [Host.slots, Host.queue, zero, Host.setState] using held

end Reset

def AdapterEvent.removesQueues : AdapterEvent → Bool
  | .surpriseRemoval => true
  | .buildIo _ srb => srb.function == SrbFunction.pnp && srb.pnpAdapterRequest && srb.pnpAction == .surpriseRemoval
  | _ => false

/-- The adapter is removed by surprise only while no command is in its queues. -/
def RemovedIdle (before : Adapter) (event : AdapterEvent) : Prop :=
  event.removesQueues = true → before.host.device.isWorking = true → ∀ msgid cid, before.host.slots msgid cid = none

section Removal
variable {host : Host} {address : Nat} {srb : Srb}

/-- `RemoveDevice` shuts the controller down first, and `Teardown` then does nothing. -/
theorem shutdownController_teardown (host : Host) : host.shutdownController.teardown = host.shutdownController := by
  simp only [Host.shutdownController]
  split
  · next idle =>
    simp only [Host.teardown]
    simp_all
  · simp [Host.teardown, Host.setState, CNvmeDevice.isWorking]

private theorem buildIoSrbPnpHandler_queue {action : StorPnpAction} {adapterRequest : Bool}
    (stays : (adapterRequest && action == .surpriseRemoval) = false) :
    (host.buildIoSrbPnpHandler address action adapterRequest).2.queue = host.queue := by
  unfold Host.buildIoSrbPnpHandler
  split
  · rfl
  · next requested =>
    cases action with
    | queryCapabilities => rfl
    | removeDevice =>
      change host.shutdownController.teardown.queue = host.queue
      rw [shutdownController_teardown, shutdownController_queue]
    | surpriseRemoval => simp_all
    | other => rfl

theorem hwBuildIo_queue (stays : (AdapterEvent.buildIo address srb).removesQueues = false) :
    (host.hwBuildIo address srb).2.queue = host.queue := by
  simp only [Host.hwBuildIo]
  split
  · rfl
  · split
    · rfl
    · split
      · unfold Host.buildIoScsiHandler
        split <;> rfl
      · split
        · rfl
        · split
          · next pnp =>
            have function : srb.function = SrbFunction.pnp := by simpa [SrbExt.funcCode, Host.putSrbExt, SrbExt.init] using pnp
            simp only [AdapterEvent.removesQueues, function, beq_self_eq_true, Bool.true_and] at stays
            exact buildIoSrbPnpHandler_queue stays
          · rfl

theorem hwBuildIo_removes (removes : (AdapterEvent.buildIo address srb).removesQueues = true) :
    host.hwBuildIo address srb = (false, (host.putSrbExt address (.init (some srb))).teardown.completeSrb address .success) := by
  simp only [AdapterEvent.removesQueues, Bool.and_eq_true, beq_iff_eq] at removes
  obtain ⟨⟨function, requested⟩, action⟩ := removes
  simp [Host.hwBuildIo, SrbExt.funcCode, Host.putSrbExt, SrbExt.init, function, requested, action, SrbFunction.pnp,
    SrbFunction.abortCommand, SrbFunction.resetLogicalUnit, SrbFunction.resetDevice, SrbFunction.resetBus,
    SrbFunction.power, SrbFunction.executeScsi, SrbFunction.ioControl, Host.buildIoSrbPnpHandler]

private theorem hwBuildIo_done (kept : (host.hwBuildIo address srb).1 = false) :
    ¬ Outstanding (host.hwBuildIo address srb).2.heap address := by
  have completed : ∀ (other : Host) {status : SrbStatus}, status ≠ .pending →
      ¬ Outstanding (other.completeSrb address status).heap address :=
    fun other _ final => other.heap.completeSrb_done address none final
  simp only [Host.hwBuildIo] at kept ⊢
  split
  · exact completed _ (by simp)
  · next notReset =>
    rw [if_neg notReset] at kept
    split
    · exact completed _ (by simp)
    · next notPower =>
      rw [if_neg notPower] at kept
      split
      · next scsi =>
        rw [if_pos scsi] at kept
        unfold Host.buildIoScsiHandler at kept ⊢
        split
        · next disk => simp [disk] at kept
        · exact completed _ (by simp)
      · next notScsi =>
        rw [if_neg notScsi] at kept
        split
        · next ioctl => simp [ioctl] at kept
        · split
          · unfold Host.buildIoSrbPnpHandler
            split
            · exact completed _ (by simp)
            · split
              · exact completed _ (by simp)
              · exact completed _ (by simp)
              · exact completed _ (by simp)
              · exact completed _ (by simp)
          · exact completed _ (by simp)

end Removal

section Submission
variable {host after : Host} {memory : Memory} {address processor logpage msgid pair cid : Nat} {srbext : SrbExtPtr}
  {queue : CNvmeQueue} {cmd : NvmeCommand}

private theorem slots_accept (present : host.queue pair = some queue)
    (changed : after.queue = Function.update host.queue pair (some (queue.accept address cmd)))
    (held : host.slots msgid cid = some srbext) :
    after.slots msgid cid = some srbext ∨ msgid = pair ∧ cid = cmd.cid.toNat := by
  by_cases here : msgid = pair
  · subst here
    by_cases same : cid = cmd.cid.toNat
    · exact .inr ⟨rfl, same⟩
    · apply Or.inl
      rw [Host.slots_of_queue present] at held
      simpa [Host.slots, changed, same] using held
  · apply Or.inl
    simpa [Host.slots, changed, here] using held

private theorem slots_accepted (changed : after.queue = Function.update host.queue pair (some (queue.accept address cmd))) :
    ∃ number, after.slots pair cmd.cid.toNat = some ⟨address, number⟩ :=
  ⟨queue.trace.submitted.length, by simp [Host.slots, changed]⟩

/-- The request `HwStartIo` was called for is answered, or its command is in a slot. -/
theorem Host.Started.covered (started : host.Started memory address processor logpage after) :
    (∃ msgid cid number, after.slots msgid cid = some ⟨address, number⟩) ∨ ¬ Outstanding after.heap address := by
  cases started with
  | answered final => exact .inr (Heap.completeSrb_done _ address none final)
  | readWrite => exact .inl ⟨_, _, slots_accepted (Host.queue_acceptedIo ..)⟩
  | firmware => exact .inl ⟨_, _, slots_accepted (Host.queue_acceptedAdm ..)⟩

theorem Host.Started.held (started : host.Started memory address processor logpage after)
    (held : host.slots msgid cid = some srbext) (apart : srbext.address ≠ address) :
    after.slots msgid cid = some srbext ∨ ¬ Outstanding after.heap srbext.address := by
  cases started with
  | answered => exact .inl held
  | @readWrite offset len queue _ _ _ accepts =>
    have changed := Host.queue_acceptedIo (host.withReadWrite memory address offset len) address processor queue
    rcases slots_accept accepts.queue changed held with still | ⟨rfl, rfl⟩
    · exact .inl still
    · apply Or.inr
      refine acceptedHeap_done ?_ apart
      rw [Host.indexedHeap_nvmeCmd]
      exact (congrFun (Host.slots_of_queue accepts.queue) _).symm.trans held
  | @firmware queue _ accepts =>
    have changed := Host.queue_acceptedAdm (host.withFirmwareInfo memory address logpage) address queue
    rcases slots_accept accepts.queue changed held with still | ⟨rfl, rfl⟩
    · exact .inl still
    · apply Or.inr
      refine acceptedHeap_done ?_ apart
      exact (congrFun (Host.slots_of_queue accepts.queue) _).symm.trans held

end Submission

section Steps
variable {before after : Adapter} {address target msgid cid : Nat} {srbext : SrbExtPtr} {cmd : NvmeCommand}

private theorem Adapter.command_cases (before : Adapter) (target : Nat) (cmd : NvmeCommand) :
    (∃ queue heap, before.host.queue 0 = some queue ∧ (heap.srbext target).nvmeCmd = cmd ∧
      (before.command target cmd).host.queue =
        Function.update before.host.queue 0 (some (queue.accept target cmd)) ∧
      (before.command target cmd).host.heap = Host.acceptedHeap queue heap target) ∨
    ((before.command target cmd).host.queue = before.host.queue ∧
      ¬ Outstanding (before.command target cmd).host.heap target) := by
  let ready := before.host.putSrbExt target { SrbExt.init none with nvmeCmd := cmd }
  have sent : (ready.heap.srbext target).nvmeCmd = cmd := by simp [ready, Host.putSrbExt]
  rcases ready.submitAdmCmd_spec target with ⟨queue, accepts, called⟩ | ⟨_, status, fails, called⟩
  · have host : (before.command target cmd).host = ready.acceptedAdm target queue := by
      simp only [Adapter.command, ready] at called ⊢
      rw [called]
      rfl
    refine .inl ⟨queue, ready.heap, accepts.queue, sent, ?_, ?_⟩
    · rw [host, Host.queue_acceptedAdm, sent]
      rfl
    · rw [host]
      rfl
  · apply Or.inr
    simp only [Adapter.command, ready] at called ⊢
    rw [called, fails]
    refine ⟨rfl, ?_⟩
    intro outstanding
    have initOK := outstanding.initOK
    simp [Host.putSrbExt] at initOK

private theorem Adapter.command_held (held : before.host.slots msgid cid = some srbext) (apart : srbext.address ≠ target) :
    (before.command target cmd).host.slots msgid cid = some srbext ∨
      ¬ Outstanding (before.command target cmd).host.heap srbext.address := by
  rcases before.command_cases target cmd with ⟨queue, heap, present, sent, changed, result⟩ | ⟨same, _⟩
  · rcases slots_accept present changed held with still | ⟨rfl, rfl⟩
    · exact .inl still
    · apply Or.inr
      rw [result]
      refine acceptedHeap_done ?_ apart
      rw [sent]
      exact (congrFun (Host.slots_of_queue present) _).symm.trans held
  · apply Or.inl
    rwa [Host.slots, same]

private theorem System.step_held {before after : System} {event : Event} (own : event.ofQueuePair = true)
    (taken : before.step event = some after) (held : before.queue.history.history cid = some srbext) :
    after.queue.history.history cid = some srbext ∨ ¬ Outstanding after.heap srbext.address := by
  cases System.step_transition taken with
  | accepted => cases own
  | refused => cases own
  | fetched => exact .inl held
  | posted => exact .inl held
  | entered => exact .inl held
  | @iterated loop running arrived more =>
    simp only [System.iterated, CNvmeQueue.consume_history, CNvmeQueue.poppedHistory, CNvmeQueue.poppedHeap,
      CNvmeQueue.popped]
    by_cases outside : before.queue.history.depth ≤ (before.queue.cplQ loop.cpl).entry.cid.toNat
    · simp [outside, held]
    · by_cases here : cid = (before.queue.cplQ loop.cpl).entry.cid.toNat
      · subst here
        simp only [outside, if_false, held]
        exact .inr (finishSrbExt_done _ srbext.address _ _)
      · simp [outside, here, held]
  | @left loop running ended =>
    obtain ⟨cplDbl, doorbell⟩ := before.queue.leaveCompleteCmd_eq loop
    rw [doorbell]
    exact .inl held
  | reset => cases own
  | scribbled => cases own

private theorem Adapter.slots_withQueuePair (before : Adapter) (pair : Nat) (next : System) :
    (before.withQueuePair pair next).host.slots = Function.update before.host.slots pair next.queue.history.history :=
  before.host.slots_setQueue pair next.queue

/-- A command stays in its slot, or nobody waits for its extension any more. -/
theorem Adapter.Sound.slot_held {event : AdapterEvent} (sound : before.Sound 2) (idle : RemovedIdle before event)
    (taken : before.step event = some after) (held : before.host.slots msgid cid = some srbext) :
    after.host.slots msgid cid = some srbext ∨ ¬ Outstanding after.host.heap srbext.address := by
  have here : Holds before.host.slots before.waiting (.slot msgid cid) srbext.address := by simp [Holds, held]
  have busy : ∀ target, before.idle target = true → srbext.address ≠ target :=
    fun target free same => sound.free_of_idle free (.slot msgid cid) (same ▸ here)
  have kept : ∀ host : Host, host.queue = before.host.queue → host.slots msgid cid = some srbext := by
    intro host same
    rwa [Host.slots, same]
  have removed : event.removesQueues = true → before.host.device.isWorking = false := by
    intro removes
    apply Bool.eq_false_of_not_eq_true
    intro working
    rw [idle removes working msgid cid] at held
    cases held
  cases event with
  | buildIo target srb =>
    obtain ⟨_, rfl⟩ := Adapter.step_buildIo taken
    apply Or.inl
    cases removes : (AdapterEvent.buildIo target srb).removesQueues with
    | false => exact kept _ (hwBuildIo_queue removes)
    | true =>
      apply kept
      simp only [Adapter.buildIo, hwBuildIo_removes removes]
      simp [Host.completeSrb, Host.teardown, Host.putSrbExt, removed removes]
      rfl
  | startIo target processor logpage memory =>
    obtain ⟨waits, host, returned, rfl⟩ := Adapter.step_startIo taken
    refine (hwStartIo_started returned).held held ?_
    intro same
    have there : Holds before.host.slots before.waiting .startIo srbext.address := same ▸ waits
    exact absurd (sound.custody.exclusive there here) (by simp)
  | command target cmd =>
    obtain ⟨free, rfl⟩ := Adapter.step_command taken
    exact Adapter.command_held held (busy target free)
  | resetBus =>
    obtain ⟨host, returned, rfl⟩ := Adapter.step_resetBus taken
    exact hwResetBus_held returned held
  | surpriseRemoval =>
    cases taken
    apply Or.inl
    apply kept
    simp [Host.teardown, removed rfl]
  | advance pair event =>
    obtain ⟨queue, present, own, next, stepped, rfl⟩ := Adapter.step_advance taken
    rw [Adapter.slots_withQueuePair]
    by_cases same : msgid = pair
    · subst same
      rw [Host.slots_of_queue present] at held
      rw [Function.update_self]
      exact System.step_held own stepped held
    · apply Or.inl
      rwa [Function.update_of_ne same]

/-- An extension that waits for `HwStartIo` goes on waiting, or `HwStartIo` deals with it. -/
theorem Adapter.Sound.waiting_held {event : AdapterEvent} (sound : before.Sound 2)
    (taken : before.step event = some after) (waits : before.waiting address = true) :
    (∃ place, Holds after.host.slots after.waiting place address) ∨ ¬ Outstanding after.host.heap address := by
  cases event with
  | buildIo target srb =>
    obtain ⟨free, rfl⟩ := Adapter.step_buildIo taken
    have apart : address ≠ target := fun same => sound.free_of_idle free .startIo (same ▸ waits)
    refine .inl ⟨.startIo, ?_⟩
    simpa [Holds, Adapter.buildIo, apart] using waits
  | startIo target processor logpage memory =>
    obtain ⟨_, host, returned, rfl⟩ := Adapter.step_startIo taken
    by_cases same : address = target
    · subst same
      apply (hwStartIo_started returned).covered.imp_left
      rintro ⟨msgid, cid, number, held⟩
      exact ⟨.slot msgid cid, by simp [Holds, held]⟩
    · refine .inl ⟨.startIo, ?_⟩
      simpa [Holds, same] using waits
  | command target cmd =>
    obtain ⟨_, rfl⟩ := Adapter.step_command taken
    exact .inl ⟨.startIo, waits⟩
  | resetBus =>
    obtain ⟨host, _, rfl⟩ := Adapter.step_resetBus taken
    exact .inl ⟨.startIo, waits⟩
  | surpriseRemoval =>
    cases taken
    exact .inl ⟨.startIo, waits⟩
  | advance pair event =>
    obtain ⟨queue, _, _, next, _, rfl⟩ := Adapter.step_advance taken
    exact .inl ⟨.startIo, waits⟩

private theorem Adapter.step_delivered {event : AdapterEvent} (delivers : event.DeliversTo address)
    (taken : before.step event = some after) (outstanding : Outstanding after.host.heap address) :
    ∃ place, Holds after.host.slots after.waiting place address := by
  cases event with
  | buildIo target srb =>
    obtain ⟨_, rfl⟩ := Adapter.step_buildIo taken
    obtain rfl : target = address := delivers
    cases passed : (before.host.hwBuildIo target srb).1 with
    | false => exact absurd outstanding (hwBuildIo_done passed)
    | true => exact ⟨.startIo, by simp [Holds, Adapter.buildIo, passed]⟩
  | command target cmd =>
    obtain ⟨_, rfl⟩ := Adapter.step_command taken
    obtain rfl : target = address := delivers
    rcases before.command_cases target cmd with ⟨queue, heap, _, _, changed, _⟩ | ⟨_, done⟩
    · obtain ⟨number, filled⟩ := slots_accepted changed
      exact ⟨.slot 0 cmd.cid.toNat, by simp [Holds, filled]⟩
    · exact absurd outstanding done
  | _ => exact delivers.elim

abbrev Adapter.Retains (adapter : Adapter) : Prop :=
  Covered (Holds adapter.host.slots adapter.waiting) (Outstanding adapter.host.heap)

theorem Adapter.Retains.step {event : AdapterEvent} (retains : before.Retains) (sound : before.Sound 2)
    (idle : RemovedIdle before event) (taken : before.step event = some after) : after.Retains := by
  apply Covered.change retains
  · intro place address held outstanding
    have kept : (∃ place, Holds after.host.slots after.waiting place address) ∨ ¬ Outstanding after.host.heap address := by
      cases place with
      | startIo => exact sound.waiting_held taken held
      | slot msgid cid =>
        obtain ⟨srbext, found, rfl⟩ := Option.map_eq_some_iff.mp held
        apply (sound.slot_held idle taken found).imp_left
        intro still
        exact ⟨.slot msgid cid, by simp [Holds, still]⟩
    exact kept.resolve_right (not_not_intro outstanding)
  · intro address outstanding free
    by_cases delivers : event.DeliversTo address
    · exact Adapter.step_delivered delivers taken outstanding
    · have same := Adapter.step_frame taken (Adapter.unused_untouched sound free delivers taken)
      simp only [Outstanding, same] at outstanding
      exact absurd outstanding free

theorem Adapter.Sound.loses {event : AdapterEvent} (sound : before.Sound 2) (taken : before.step event = some after)
    (busy : ¬ RemovedIdle before event) : ¬ after.Retains := by
  simp only [RemovedIdle] at busy
  push Not at busy
  obtain ⟨removes, working, msgid, cid, filled⟩ := busy
  obtain ⟨srbext, held⟩ := Option.ne_none_iff_exists'.mp filled
  have here : Holds before.host.slots before.waiting (.slot msgid cid) srbext.address := by simp [Holds, held]
  have outstanding := sound.custody.live here
  have unwaiting : ¬ Holds before.host.slots before.waiting .startIo srbext.address := by
    intro there
    exact absurd (sound.custody.exclusive there here) (by simp)
  intro retains
  cases event with
  | surpriseRemoval =>
    cases taken
    obtain ⟨place, lost⟩ := retains srbext.address (by rwa [teardown_heap])
    cases place with
    | startIo => exact unwaiting lost
    | slot pair tag => simp [Holds, Host.slots, Host.teardown, working, Host.queue] at lost
  | buildIo target srb =>
    obtain ⟨free, rfl⟩ := Adapter.step_buildIo taken
    have apart : srbext.address ≠ target := fun same => sound.free_of_idle free (.slot msgid cid) (same ▸ here)
    have still : Outstanding (before.buildIo target srb).host.heap srbext.address := by
      have same : (before.buildIo target srb).host.heap.srbext srbext.address = before.host.heap.srbext srbext.address :=
        hwBuildIo_other apart
      simpa only [Outstanding, same] using outstanding
    obtain ⟨place, lost⟩ := retains srbext.address still
    simp only [Adapter.buildIo, hwBuildIo_removes removes] at lost
    cases place with
    | startIo => exact unwaiting (by simpa [Holds, apart] using lost)
    | slot pair tag =>
      simp [Holds, Host.slots, Host.completeSrb, Host.teardown, Host.putSrbExt, working, Host.queue] at lost
  | _ => cases removes

end Steps

/-- Somebody waits for an extension exactly if it is in one place, and it is in no other. -/
def Adapter.Accountable (adapter : Adapter) : Prop :=
  ∀ address, Outstanding adapter.host.heap address ↔ ∃! place, Holds adapter.host.slots adapter.waiting place address

theorem Adapter.Retains.accountable {adapter : Adapter} (retains : adapter.Retains) (sound : adapter.Sound 2) :
    adapter.Accountable := Covered.iff_existsUnique retains sound.custody

theorem Adapter.Retains.initial (device : CNvmeDevice) (admConfig : Option QueuePairConfig)
    (ioConfig : Nat → Option QueuePairConfig) (srbext : Nat → SrbExt) (slotCount : BitVec 3) :
    (Adapter.initial device admConfig ioConfig srbext slotCount).Retains := by
  intro address outstanding
  exact absurd outstanding.initOK (by simp [Adapter.initial])

/-- In every run of the adapter: each extension somebody waits for is in exactly one
place, and no other extension is in any, throughout the run if and only if the adapter
is never removed by surprise with a command in its queues. -/
theorem accountable_iff {device : CNvmeDevice} {admConfig : Option QueuePairConfig}
    {ioConfig : Nat → Option QueuePairConfig} {srbext : Nat → SrbExt} {slotCount : BitVec 3}
    {events : List AdapterEvent} {final : Adapter}
    (ran : Machine.run Adapter.step (.initial device admConfig ioConfig srbext slotCount) events = some final) :
    Machine.Always Adapter.step Adapter.Accountable (.initial device admConfig ioConfig srbext slotCount) events ↔
      Machine.Meets Adapter.step RemovedIdle (.initial device admConfig ioConfig srbext slotCount) events := by
  let invariant (adapter : Adapter) : Prop := adapter.Sound 2 ∧ adapter.Retains
  have initial : invariant (.initial device admConfig ioConfig srbext slotCount) :=
    ⟨.initial _ _ _ _ _ (by omega), Adapter.Retains.initial device admConfig ioConfig srbext slotCount⟩
  refine @Machine.always_iff_meets _ _ _ RemovedIdle invariant Adapter.Accountable ?_ ?_ ?_ _ _ _ initial ran
  · intro adapter kept
    exact kept.2.accountable kept.1
  · intro before event after kept idle taken
    exact ⟨kept.1.step (.inl (Nat.le_refl 2)) taken, kept.2.step kept.1 idle taken⟩
  · intro before event after kept taken busy accountable
    apply kept.1.loses taken busy
    intro address outstanding
    exact ((accountable address).mp outstanding).exists

def sampleSurpriseRemoval : List AdapterEvent :=
  [.buildIo 0 sampleIoctl, .startIo 0 0 0x2000 Host.sampleMemory] ++ [.surpriseRemoval]

theorem accountable_iff_removal : ¬ Machine.Always Adapter.step Adapter.Accountable sampleAdapter sampleSurpriseRemoval := by
  have observed : (Machine.run Adapter.step sampleAdapter sampleSurpriseRemoval).isSome = true ∧
      (Machine.run Adapter.step sampleAdapter [.buildIo 0 sampleIoctl, .startIo 0 0 0x2000 Host.sampleMemory]).map
        (fun adapter => (adapter.host.device.isWorking, (adapter.host.slots 0 0).isSome)) = some (true, true) := by
    decide +kernel
  obtain ⟨final, ran⟩ := Option.isSome_iff_exists.mp observed.1
  obtain ⟨middle, started, seen⟩ := Option.map_eq_some_iff.mp observed.2
  intro always
  obtain ⟨idle, _⟩ := ((accountable_iff ran).mp always).of_append started
  have empty := idle rfl (congrArg Prod.fst seen) 0 0
  have filled : (middle.host.slots 0 0).isSome = true := congrArg Prod.snd seen
  simp [empty] at filled

end SpcNvme
