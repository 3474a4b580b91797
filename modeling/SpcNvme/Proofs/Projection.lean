import SpcNvme.Lib.Simulation
import SpcNvme.Proofs.Ledger
import SpcNvme.Proofs.StartIo

/-! The adapter as seen from one of its queue pairs. The queue pairs share the
memory of the extensions, but no ring, counter or table depends on what that memory
holds. So every run of the adapter is, for each message, a run of the queue pair
alone, and what was shown of those runs holds for the adapter. -/

namespace SpcNvme

structure System.SameRings (first second : System) : Prop where
  queue : first.queue = second.queue
  loop : first.loop = second.loop
  device : first.device = second.device

private theorem CNvmeQueue.resetAllCmd_heap (queue : CNvmeQueue) (first second : Heap) :
    (queue.resetAllCmd first).1 = (queue.resetAllCmd second).1 := by
  simp only [CNvmeQueue.resetAllCmd, CCmdHistory.reset, resetUpTo_table]

namespace System.SameRings
variable {first second : System}

/-- A step that one of them takes the other takes as well, and they agree again. -/
theorem step (same : first.SameRings second) {event : Event} {after : System} (taken : first.step event = some after) :
    ∃ next, second.step event = some next ∧ after.SameRings next := by
  obtain ⟨queue, loop, device, heap⟩ := second
  obtain ⟨rfl, rfl, rfl⟩ := same
  cases event with
  | submit address record cmd =>
    obtain rfl : first.submit address record cmd = after := Option.some.inj taken
    refine ⟨_, rfl, ?_⟩
    rcases first.submit_eq address record cmd with ⟨accepts, accepted⟩ | ⟨refuses, refused⟩
    · rcases submit_eq ⟨first.queue, first.loop, first.device, heap⟩ address record cmd with ⟨_, also⟩ | ⟨refuses, _⟩
      · rw [accepted, also]
        exact ⟨rfl, rfl, rfl⟩
      · exact absurd accepts refuses
    · rcases submit_eq ⟨first.queue, first.loop, first.device, heap⟩ address record cmd with ⟨accepts, _⟩ | ⟨_, also⟩
      · exact absurd accepts refuses
      · rw [refused, also]
        exact ⟨rfl, rfl, rfl⟩
  | fetch =>
    simp only [System.step] at taken ⊢
    split at taken
    · cases taken
    · next behind =>
      cases taken
      exact ⟨_, if_neg behind, rfl, rfl, rfl⟩
  | post index reply =>
    simp only [System.step, Option.map_eq_some_iff] at taken ⊢
    obtain ⟨submission, pending, rfl⟩ := taken
    exact ⟨_, ⟨submission, pending, rfl⟩, rfl, rfl, rfl⟩
  | enter maxCount =>
    simp only [System.step] at taken ⊢
    cases idle : first.loop with
    | some loop => simp [idle] at taken
    | none =>
      simp only [idle, Option.some.injEq] at taken
      subst taken
      exact ⟨_, rfl, rfl, rfl, rfl⟩
  | iterate =>
    simp only [System.step] at taken ⊢
    cases running : first.loop with
    | none => simp [running] at taken
    | some loop =>
      simp only [running] at taken ⊢
      split at taken
      · next continues =>
        cases taken
        refine ⟨_, if_pos continues, ?_⟩
        rw [iterate_eq, iterate_eq]
        exact ⟨rfl, rfl, rfl⟩
      · cases taken
  | leave =>
    simp only [System.step] at taken ⊢
    cases running : first.loop with
    | none => simp [running] at taken
    | some loop =>
      simp only [running] at taken ⊢
      split at taken
      · cases taken
      · next ended =>
        cases taken
        exact ⟨_, if_neg ended, rfl, rfl, rfl⟩
  | reset =>
    simp only [System.step] at taken ⊢
    cases idle : first.loop with
    | some loop => simp [idle] at taken
    | none =>
      simp only [idle, Option.some.injEq] at taken
      subst taken
      refine ⟨_, rfl, ?_⟩
      exact ⟨first.queue.resetAllCmd_heap first.heap heap, idle, rfl⟩
  | scribble slot entry =>
    simp only [System.step, Option.some.injEq] at taken ⊢
    subst taken
    exact ⟨_, rfl, rfl, rfl, rfl⟩

end System.SameRings

/-! What the entry points do to the queue of a message. -/

section Queues
variable {host after : Host} {address processor logpage msgid : Nat} {memory : Memory}

theorem Host.queue_acceptedIo (host : Host) (address processor : Nat) (queue : CNvmeQueue) :
    (host.acceptedIo address processor queue).queue =
      Function.update host.queue (processor % host.device.registeredIoQ.toNat + 1)
        (some (queue.accept address (host.heap.srbext address).nvmeCmd)) :=
  host.queue_setQueue (processor % host.device.registeredIoQ.toNat + 1) _

theorem Host.queue_acceptedAdm (host : Host) (address : Nat) (queue : CNvmeQueue) :
    (host.acceptedAdm address queue).queue =
      Function.update host.queue 0 (some (queue.accept address (host.heap.srbext address).nvmeCmd)) :=
  host.queue_setQueue 0 _

theorem Host.AcceptsIo.queue {processor : Nat} {cmd : NvmeCommand} {queue : CNvmeQueue}
    (accepts : host.AcceptsIo processor cmd queue) :
    host.queue (processor % host.device.registeredIoQ.toNat + 1) = some queue := accepts.selected

theorem Host.AcceptsAdm.queue {cmd : NvmeCommand} {queue : CNvmeQueue} (accepts : host.AcceptsAdm cmd queue) :
    host.queue 0 = some queue := accepts.selected

theorem Host.withReadWrite_cid (host : Host) (memory : Memory) (address : Nat) (offset : BitVec 64) (len : BitVec 32) :
    ((host.withReadWrite memory address offset len).heap.srbext address).nvmeCmd.cid = (host.heap.srbext address).cid := by
  simp only [Host.withReadWrite, Host.putSrbExt, Heap.put_srbext, Function.update_self]
  exact (buiildCmdReadWrite_fields memory _ offset len _).2.2.1

theorem Host.withFirmwareInfo_cid (host : Host) (memory : Memory) (address logpage : Nat) :
    ((host.withFirmwareInfo memory address logpage).heap.srbext address).nvmeCmd.cid = (host.heap.srbext address).cid := by
  have built : ∀ (srbext : SrbExt) (cmd : NvmeCommand),
      (srbext.withBuffer memory cmd logpage sizeofFirmwareSlotInfoLog).nvmeCmd.cid = cmd.cid := by
    intro srbext cmd
    obtain ⟨prp1, prp2, freePrp2List, prp2VA, prp2List, prp2PA, same⟩ :=
      srbext.withBuffer_eq memory cmd logpage sizeofFirmwareSlotInfoLog
    rw [same]
  simp only [Host.withFirmwareInfo, Host.putSrbExt, Heap.put_srbext, Function.update_self, Host.firmwareGetInfoCmd]
  split
  · exact built ..
  · exact built ..

private theorem Host.AcceptsIo.pair_le {processor : Nat} {cmd : NvmeCommand} {queue : CNvmeQueue}
    (accepts : host.AcceptsIo processor cmd queue) :
    processor % host.device.registeredIoQ.toNat + 1 ≤ host.device.registeredIoQ.toNat := by
  have positive : 0 < host.device.registeredIoQ.toNat := by
    apply Nat.pos_of_ne_zero
    intro zero
    exact accepts.registered (BitVec.eq_of_toNat_eq zero)
  exact Nat.mod_lt processor positive

/-- At most one queue changes, and what happens to it is that it accepts a command
of the request's identifier for the extension. -/
theorem Host.Started.queues (started : host.Started memory address processor logpage after) :
    after.queue = host.queue ∨ ∃ pair queue cmd, host.queue pair = some queue ∧ queue.accepts cmd ∧
      cmd.cid = (host.heap.srbext address).cid ∧
      after.queue = Function.update host.queue pair (some (queue.accept address cmd)) ∧
      pair ≤ host.device.registeredIoQ.toNat := by
  cases started with
  | answered => exact .inl rfl
  | @readWrite offset len queue _ _ _ accepts =>
    refine .inr ⟨_, queue, _, accepts.queue, accepts.accepts, host.withReadWrite_cid memory address offset len, ?_,
      accepts.pair_le⟩
    rw [Host.queue_acceptedIo]
    rfl
  | @firmware queue _ accepts =>
    refine .inr ⟨0, queue, _, accepts.queue, accepts.accepts, host.withFirmwareInfo_cid memory address logpage, ?_,
      Nat.zero_le _⟩
    rw [Host.queue_acceptedAdm]
    rfl

private theorem buildIoSrbPnpHandler_fewer {action : StorPnpAction} {adapterRequest : Bool} {queue : CNvmeQueue}
    (present : (host.buildIoSrbPnpHandler address action adapterRequest).2.queue msgid = some queue) :
    host.queue msgid = some queue := by
  unfold Host.buildIoSrbPnpHandler at present
  split at present
  · exact present
  · cases action with
    | queryCapabilities => exact present
    | other => exact present
    | removeDevice =>
      have kept := teardown_fewer host.shutdownController msgid queue present
      rwa [shutdownController_queue] at kept
    | surpriseRemoval => exact teardown_fewer host msgid queue present

theorem Adapter.command_queues (before : Adapter) (address : Nat) (cmd : NvmeCommand) :
    (before.command address cmd).host.queue = before.host.queue ∨
      ∃ queue, before.host.queue 0 = some queue ∧ queue.accepts cmd ∧
        (before.command address cmd).host.queue =
          Function.update before.host.queue 0 (some (queue.accept address cmd)) := by
  let ready := before.host.putSrbExt address { SrbExt.init none with nvmeCmd := cmd }
  have sent : (ready.heap.srbext address).nvmeCmd = cmd := by simp [ready, Host.putSrbExt]
  rcases ready.submitAdmCmd_spec address with ⟨queue, accepts, called⟩ | ⟨_, status, fails, called⟩
  · have host : (before.command address cmd).host = ready.acceptedAdm address queue := by
      simp only [Adapter.command, ready] at called ⊢
      rw [called]
      rfl
    rw [sent] at accepts
    refine .inr ⟨queue, accepts.queue, accepts.accepts, ?_⟩
    rw [host, Host.queue_acceptedAdm, sent]
    rfl
  · apply Or.inl
    simp only [Adapter.command, ready] at called ⊢
    rw [called, fails]
    rfl

private theorem hwBuildIo_fewer {srb : Srb} {queue : CNvmeQueue} (present : (host.hwBuildIo address srb).2.queue msgid = some queue) :
    host.queue msgid = some queue := by
  simp only [Host.hwBuildIo] at present
  split at present
  · exact present
  · split at present
    · exact present
    · split at present
      · unfold Host.buildIoScsiHandler at present
        split at present <;> exact present
      · split at present
        · exact present
        · split at present
          · exact @buildIoSrbPnpHandler_fewer (host.putSrbExt address (.init (some srb))) _ _ _ _ _ present
          · exact present

theorem resetIoQueues_queue {count : Nat} {queue : CNvmeQueue} (returned : host.resetIoQueues count = some after)
    (present : after.queue msgid = some queue) :
    ∃ old, host.queue msgid = some old ∧
      (queue = old ∨ msgid - 1 < count ∧ msgid ≠ 0 ∧ ∃ heap, queue = (old.resetAllCmd heap).1) := by
  induction count generalizing after queue with
  | zero =>
    obtain rfl : host = after := Option.some.inj returned
    exact ⟨queue, present, .inl rfl⟩
  | succ count ih =>
    simp only [Host.resetIoQueues] at returned
    split at returned
    · cases returned
    · next earlier ran =>
      split at returned
      · cases returned
      · next last selected =>
        cases returned
        by_cases here : msgid = count + 1
        · subst here
          obtain ⟨old, was, same | ⟨below, _⟩⟩ := ih ran selected
          · subst same
            have result : (last.resetAllCmd earlier.heap).1 = queue := by simpa [Host.queue] using present
            exact ⟨last, was, .inr ⟨Nat.lt_succ_self count, Nat.succ_ne_zero count, earlier.heap, result.symm⟩⟩
          · exact absurd below (Nat.lt_irrefl count)
        · have kept : earlier.queue msgid = some queue := by
            by_cases admin : msgid = 0
            · simpa [Host.queue, admin] using present
            · have apart : msgid - 1 ≠ count := by omega
              simpa [Host.queue, admin, apart] using present
          obtain ⟨old, was, unchanged⟩ := ih ran kept
          refine ⟨old, was, unchanged.imp_right ?_⟩
          intro reset
          exact ⟨Nat.lt_succ_of_lt reset.1, reset.2⟩

private theorem hwResetBus_queue {queue : CNvmeQueue} (returned : host.hwResetBus = some after)
    (present : after.queue msgid = some queue) :
    ∃ old, host.queue msgid = some old ∧ (queue = old ∨ ∃ heap, queue = (old.resetAllCmd heap).1) := by
  simp only [Host.hwResetBus, Host.resetOutstandingCmds] at returned
  split at returned
  · cases returned
    exact ⟨queue, present, .inl rfl⟩
  · split at returned
    · cases returned
      exact ⟨queue, present, .inl rfl⟩
    · next admin selected =>
      obtain ⟨last, ran, rfl⟩ := Option.map_eq_some_iff.mp returned
      obtain ⟨old, was, unchanged⟩ := resetIoQueues_queue ran present
      by_cases zero : msgid = 0
      · subst zero
        obtain rfl : (admin.resetAllCmd host.heap).1 = old := Option.some.inj was
        rcases unchanged with rfl | ⟨_, nonzero, _⟩
        · exact ⟨admin, selected, .inr ⟨host.heap, rfl⟩⟩
        · exact absurd rfl nonzero
      · have before : host.queue msgid = some old := by simpa [Host.queue, zero, Host.setState] using was
        exact ⟨old, before, unchanged.imp_right fun reset => reset.2.2⟩

end Queues

/-- The step submits this command for this extension to the queue of this message. -/
def AdapterEvent.Sends (before : Adapter) (msgid address : Nat) (cmd : NvmeCommand) : AdapterEvent → Prop
  | .startIo target .. => target = address ∧ cmd.cid = (before.host.heap.srbext address).cid
  | .command target sent => msgid = 0 ∧ target = address ∧ sent = cmd
  | _ => False

/-- What a step of the adapter is for the queue pair of one message: nothing, or the
end of the queue; a submission; a reset; or a step of its own. -/
inductive PairStep (msgid : Nat) (before : Adapter) : AdapterEvent → Adapter → Prop where
  | kept {event : AdapterEvent} {after : Adapter}
      (fewer : ∀ queue, after.host.queue msgid = some queue → before.host.queue msgid = some queue)
      (loop : after.loops msgid = before.loops msgid) (device : after.controllers msgid = before.controllers msgid) :
      PairStep msgid before event after
  | submitted {event : AdapterEvent} {after : Adapter} {address : Nat} {queue : CNvmeQueue} {cmd : NvmeCommand}
      (sends : event.Sends before msgid address cmd) (present : before.host.queue msgid = some queue)
      (accepts : queue.accepts cmd) (found : after.host.queue msgid = some (queue.accept address cmd))
      (loop : after.loops msgid = before.loops msgid) (device : after.controllers msgid = before.controllers msgid)
      (registered : msgid ≤ before.host.device.registeredIoQ.toNat) :
      PairStep msgid before event after
  | reset {after : Adapter} {queue : CNvmeQueue} {heap : Heap} (present : before.host.queue msgid = some queue)
      (found : after.host.queue msgid = some (queue.resetAllCmd heap).1)
      (loop : after.loops msgid = before.loops msgid) (device : after.controllers msgid = before.controllers msgid) :
      PairStep msgid before .resetBus after
  | advanced {own : Event} {next : System} {queue : CNvmeQueue} (present : before.host.queue msgid = some queue)
      (ofPair : own.ofQueuePair = true) (stepped : (before.queuePair msgid queue).step own = some next) :
      PairStep msgid before (.advance msgid own) (before.withQueuePair msgid next)

private theorem PairStep.of_update {msgid pair address : Nat} {before after : Adapter} {event : AdapterEvent} {queue : CNvmeQueue}
    {cmd : NvmeCommand} (sends : event.Sends before pair address cmd) (present : before.host.queue pair = some queue)
    (accepts : queue.accepts cmd)
    (changed : after.host.queue = Function.update before.host.queue pair (some (queue.accept address cmd)))
    (loops : after.loops = before.loops) (controllers : after.controllers = before.controllers)
    (registered : pair ≤ before.host.device.registeredIoQ.toNat) : PairStep msgid before event after := by
  by_cases here : msgid = pair
  · subst here
    have found : after.host.queue msgid = some (queue.accept address cmd) := by rw [changed, Function.update_self]
    exact .submitted sends present accepts found (congrFun loops msgid) (congrFun controllers msgid) registered
  · refine .kept ?_ (congrFun loops msgid) (congrFun controllers msgid)
    intro other found
    rwa [changed, Function.update_of_ne here] at found

theorem Adapter.queue_withQueuePair (before : Adapter) (pair : Nat) (next : System) :
    (before.withQueuePair pair next).host.queue = Function.update before.host.queue pair (some next.queue) :=
  before.host.queue_setQueue pair next.queue

theorem Adapter.step_pair {before after : Adapter} {event : AdapterEvent} (taken : before.step event = some after)
    (msgid : Nat) : PairStep msgid before event after := by
  cases event with
  | buildIo address srb =>
    obtain ⟨_, rfl⟩ := Adapter.step_buildIo taken
    refine .kept ?_ rfl rfl
    intro queue present
    exact hwBuildIo_fewer present
  | startIo address processor logpage memory =>
    obtain ⟨_, host, returned, rfl⟩ := Adapter.step_startIo taken
    rcases (hwStartIo_started returned).queues with same | ⟨pair, queue, cmd, present, accepts, cid, changed, registered⟩
    · refine .kept ?_ rfl rfl
      intro queue present
      exact same ▸ present
    · have sends : AdapterEvent.Sends before pair address cmd (.startIo address processor logpage memory) := ⟨rfl, cid⟩
      exact .of_update sends present accepts changed rfl rfl registered
  | command address cmd =>
    obtain ⟨_, rfl⟩ := Adapter.step_command taken
    rcases Adapter.command_queues before address cmd with same | ⟨queue, present, accepts, changed⟩
    · refine .kept ?_ rfl rfl
      intro queue present
      exact same ▸ present
    · have sends : AdapterEvent.Sends before 0 address cmd (.command address cmd) := ⟨rfl, rfl, rfl⟩
      exact .of_update sends present accepts changed rfl rfl (Nat.zero_le _)
  | resetBus =>
    obtain ⟨host, returned, rfl⟩ := Adapter.step_resetBus taken
    cases found : host.queue msgid with
    | none =>
      refine .kept ?_ rfl rfl
      intro queue present
      exact absurd (found.symm.trans present) (by simp)
    | some queue =>
      obtain ⟨old, present, rfl | ⟨heap, rfl⟩⟩ := hwResetBus_queue returned found
      · refine .kept ?_ rfl rfl
        intro other also
        exact present.trans (found.symm.trans also)
      · exact .reset present found rfl rfl
  | surpriseRemoval =>
    cases taken
    refine .kept ?_ rfl rfl
    intro queue present
    exact teardown_fewer before.host msgid queue present
  | advance pair event =>
    obtain ⟨queue, present, own, next, stepped, rfl⟩ := Adapter.step_advance taken
    by_cases here : msgid = pair
    · subst here
      exact .advanced present own stepped
    · refine .kept ?_ (Function.update_of_ne here ..) (Function.update_of_ne here ..)
      intro other found
      rwa [Adapter.queue_withQueuePair, Function.update_of_ne here] at found

theorem Adapter.step_present {before after : Adapter} {event : AdapterEvent} (taken : before.step event = some after)
    {msgid : Nat} (present : (after.host.queue msgid).isSome = true) : (before.host.queue msgid).isSome = true := by
  cases Adapter.step_pair taken msgid with
  | kept fewer =>
    obtain ⟨queue, found⟩ := Option.isSome_iff_exists.mp present
    exact fewer queue found ▸ rfl
  | submitted _ was => exact was ▸ rfl
  | reset was => exact was ▸ rfl
  | advanced was => exact was ▸ rfl

def Projects (msgid : Nat) (adapter : Adapter) (system : System) : Prop :=
  ∀ queue, adapter.host.queue msgid = some queue → (adapter.queuePair msgid queue).SameRings system

/-- What a step of the adapter may be for this message's queue pair. -/
def AdapterEvent.StandsFor (msgid : Nat) : AdapterEvent → Event → Prop
  | .startIo address .., .submit target _ _ => target = address
  | .command address cmd, .submit target _ sent => msgid = 0 ∧ target = address ∧ sent = cmd
  | .resetBus, .reset => True
  | .advance pair event, own => pair = msgid ∧ own = event ∧ event.ofQueuePair = true
  | _, _ => False

private theorem AdapterEvent.Sends.standsFor {before : Adapter} {msgid address : Nat} {cmd : NvmeCommand} {event : AdapterEvent}
    (sends : event.Sends before msgid address cmd) (record : SrbExt) :
    event.StandsFor msgid (.submit address record cmd) := by
  cases event with
  | startIo => exact sends.1.symm
  | command => exact ⟨sends.1, sends.2.1.symm, sends.2.2.symm⟩
  | _ => exact sends.elim

/-- A bus reset does not come between two iterations of a completion loop. -/
def ResetBetweenCalls (adapter : Adapter) : AdapterEvent → Prop
  | .resetBus => ∀ msgid, adapter.loops msgid = none
  | _ => True

theorem Projects.step {msgid : Nat} {before after : Adapter} {state : System} {event : AdapterEvent}
    (projects : Projects msgid before state) (between : ResetBetweenCalls before event)
    (taken : before.step event = some after) :
    ∃ events next, Machine.run System.step state events = some next ∧ Projects msgid after next ∧
      ∀ other ∈ events, event.StandsFor msgid other := by
  cases Adapter.step_pair taken msgid with
  | kept fewer loop device =>
    refine ⟨[], state, rfl, ?_, fun _ member => absurd member List.not_mem_nil⟩
    intro queue present
    obtain ⟨rings, running, controller⟩ := projects queue (fewer queue present)
    exact ⟨rings, loop.trans running, device.trans controller⟩
  | @submitted _ _ address queue cmd sends present accepts found loop device =>
    obtain ⟨rings, running, controller⟩ := projects queue present
    have same : state.queue = queue := rings.symm
    refine ⟨[.submit address (.init none) cmd], state.submit address (.init none) cmd, rfl, ?_, ?_⟩
    · intro other also
      obtain rfl : queue.accept address cmd = other := Option.some.inj (found.symm.trans also)
      rcases state.submit_eq address (.init none) cmd with ⟨_, accepted⟩ | ⟨refuses, _⟩
      · rw [accepted]
        refine ⟨?_, loop.trans running, device.trans controller⟩
        exact (congrArg (fun ring => CNvmeQueue.accept ring address cmd) same).symm
      · exact absurd (same ▸ accepts) refuses
    · intro other member
      obtain rfl := List.mem_singleton.mp member
      exact sends.standsFor (.init none)
  | @reset _ queue heap present found loop device =>
    obtain ⟨rings, running, controller⟩ := projects queue present
    have idle : state.loop = none := running.symm.trans (between msgid)
    refine ⟨[.reset], state.reset, by simp [Machine.run, System.step, idle], ?_, by simp [AdapterEvent.StandsFor]⟩
    intro other also
    obtain rfl := Option.some.inj (found.symm.trans also)
    refine ⟨?_, loop.trans running, device.trans controller⟩
    have same : state.queue = queue := rings.symm
    rw [← same]
    exact state.queue.resetAllCmd_heap heap state.heap
  | @advanced own next queue present ofPair stepped =>
    obtain ⟨matched, ran, same⟩ := (projects queue present).step stepped
    refine ⟨[own], matched, by simp [Machine.run, ran], ?_, by simp [AdapterEvent.StandsFor, ofPair]⟩
    intro other found
    rw [Adapter.queue_withQueuePair, Function.update_self, Option.some.injEq] at found
    subst found
    refine ⟨same.queue, ?_, ?_⟩
    · simpa [Adapter.withQueuePair, Adapter.queuePair] using same.loop
    · simpa [Adapter.withQueuePair, Adapter.queuePair] using same.device

private theorem projects_initial (device : CNvmeDevice) {admConfig : Option QueuePairConfig}
    {ioConfig : Nat → Option QueuePairConfig} (srbext : Nat → SrbExt) (slotCount : BitVec 3) {msgid : Nat}
    {config : QueuePairConfig} (configured : (if msgid = 0 then admConfig else ioConfig (msgid - 1)) = some config) :
    Projects msgid (.initial device admConfig ioConfig srbext slotCount) (.initial config srbext slotCount) := by
  intro queue present
  refine ⟨?_, rfl, rfl⟩
  have set : (if msgid = 0 then admConfig else ioConfig (msgid - 1)).map CNvmeQueue.setup = some queue := by
    rw [apply_ite (Option.map CNvmeQueue.setup)]
    exact present
  rw [configured] at set
  exact (Option.some.inj set).symm

/-- Every step of the adapter is, for every message, a run of its queue pair. -/
theorem adapter_simulates (msgid : Nat) :
    Machine.Simulates Adapter.step System.step ResetBetweenCalls (Projects msgid) (AdapterEvent.StandsFor msgid) :=
  ⟨fun projects between taken => projects.step between taken⟩

/-- In every run of the adapter whose bus resets come between completion calls, the
queue pair of every message has gone through a run of its own, made of the
submissions, resets and steps of its controller and its completion calls that the
run of the adapter has, however the queue pairs are interleaved. -/
theorem adapter_projects {device : CNvmeDevice} {admConfig : Option QueuePairConfig}
    {ioConfig : Nat → Option QueuePairConfig} {srbext : Nat → SrbExt} {slotCount : BitVec 3}
    {events : List AdapterEvent} {final : Adapter} {msgid : Nat} {queue : CNvmeQueue}
    (between : Machine.Meets Adapter.step ResetBetweenCalls (.initial device admConfig ioConfig srbext slotCount) events)
    (ran : Machine.run Adapter.step (.initial device admConfig ioConfig srbext slotCount) events = some final)
    (present : final.host.queue msgid = some queue) :
    ∃ config own state, (if msgid = 0 then admConfig else ioConfig (msgid - 1)) = some config ∧
      Machine.run System.step (.initial config srbext slotCount) own = some state ∧
      (final.queuePair msgid queue).SameRings state ∧
      ∀ event ∈ own, ∃ source ∈ events, source.StandsFor msgid event := by
  have there : ((Adapter.initial device admConfig ioConfig srbext slotCount).host.queue msgid).isSome = true := by
    apply Classical.byContradiction
    intro missing
    let absent (adapter : Adapter) : Prop := ¬ (adapter.host.queue msgid).isSome = true
    have kept : ∀ before event after, absent before → Adapter.step before event = some after → absent after :=
      fun _ _ _ missing taken present => missing (Adapter.step_present taken present)
    have never : absent final := Machine.run_invariant_of_step kept missing ran
    exact never (present ▸ rfl)
  have configured : (if msgid = 0 then admConfig else ioConfig (msgid - 1)).isSome = true := by
    simpa [Adapter.initial, Host.queue, apply_ite Option.isSome] using there
  obtain ⟨config, chosen⟩ := Option.isSome_iff_exists.mp configured
  obtain ⟨own, state, moved, projects, standing⟩ :=
    (adapter_simulates msgid).run (projects_initial device srbext slotCount chosen) between ran
  exact ⟨config, own, state, chosen, moved, projects queue present, standing⟩

def sampleReadBlock : Srb :=
  { sampleSrb with cdb := [0x28, 0, 0, 0, 0, 1, 0, 0, 1, 0], dataBuffer := 0x20000, dataTransferLength := 512 }

/-- A firmware request and a read whose queue pairs take turns. -/
def sampleTraffic : List AdapterEvent :=
  [.buildIo 0 sampleIoctl, .buildIo 1 sampleReadBlock, .startIo 1 0 0 Host.sampleMemory,
    .startIo 0 0 0x2000 Host.sampleMemory, .advance 0 .fetch, .advance 1 .fetch, .advance 1 (.post 0 sampleReply),
    .advance 0 (.post 0 sampleReply), .advance 1 (.enter 0), .advance 0 (.enter 0), .advance 1 .iterate,
    .advance 0 .iterate, .advance 1 .leave]

theorem adapter_projects_traffic :
    ∃ final queue, Machine.run Adapter.step sampleIoAdapter (.resetBus :: sampleTraffic) = some final ∧
      final.host.queue 1 = some queue ∧
      ∃ config own state, some sampleQueue = some config ∧
        Machine.run System.step (.initial config (fun _ => .init none) 1) own = some state ∧
        (final.queuePair 1 queue).SameRings state ∧
        ∀ event ∈ own, ∃ source ∈ (.resetBus :: sampleTraffic : List AdapterEvent), source.StandsFor 1 event := by
  have reached : ((Machine.run Adapter.step sampleIoAdapter (.resetBus :: sampleTraffic)).bind
      fun adapter => adapter.host.queue 1).isSome = true := by decide +kernel
  obtain ⟨queue, found⟩ := Option.isSome_iff_exists.mp reached
  obtain ⟨final, ran, present⟩ := Option.bind_eq_some_iff.mp found
  refine ⟨final, queue, ran, present, ?_⟩
  have between : Machine.Meets Adapter.step ResetBetweenCalls sampleIoAdapter (.resetBus :: sampleTraffic) := by
    refine ⟨fun _ => rfl, ?_⟩
    intro next _
    apply Machine.Meets.of_forall
    simp [sampleTraffic, ResetBetweenCalls]
  exact adapter_projects between ran present

end SpcNvme
