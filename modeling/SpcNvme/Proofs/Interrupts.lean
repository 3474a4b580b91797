import SpcNvme.Interrupts
import SpcNvme.Proofs.Progress

/-! No posted entry is overlooked. While the adapter works, an entry the driver has not
read has a message on its way, a DPC that will look, or a completion call that goes on far
enough. So it is enough for every request to be answered that messages are served,
scheduled DPCs run, and calls go on. -/

namespace SpcNvme

namespace System

def unread (state : System) : Nat := state.device.posted.length - state.queue.trace.passed

/-- There is nothing to read, or the call in progress goes on until all of it is read. -/
def Reaches (state : System) : Prop :=
  state.unread = 0 ∨ ∃ loop, state.loop = some loop ∧ loop.updateCount + state.unread ≤ loop.maxCount

theorem SameProgress.reaches {first second : System} (same : first.SameProgress second) (reaches : first.Reaches) :
    second.Reaches := by
  obtain ⟨passed, loop, device⟩ := same
  rw [Reaches, unread, ← passed, ← loop, ← device]
  exact reaches

end System

namespace Traced
variable {before after : System}

private theorem unread_iff {state : System} (traced : Traced state) :
    newCplArrived (state.queue.cplQ state.queue.cplHead).entry state.queue.phaseTag = true ↔ state.unread ≠ 0 := by
  have steady := traced.orderly.steady
  have below := Nat.le_of_lt steady.unread
  have next := steady.flow.ring.arrived_iff state.queue.depth_pos below steady.flow.ahead
  rw [steady.layout.host.cplHead, newCplArrived, steady.layout.host.phaseTag, beq_iff_eq, next, System.unread]
  omega

/-- A call that may read the whole ring leaves nothing of what is there when it begins. -/
theorem enter_reaches (traced : Traced before) (taken : before.step (.enter 0) = some after) : after.Reaches := by
  have below := traced.orderly.steady.unread
  cases System.step_transition taken with
  | entered idle =>
    refine .inr ⟨before.queue.enterCompleteCmd 0, rfl, ?_⟩
    simp only [CNvmeQueue.enterCompleteCmd, System.unread]
    simp
    omega

private theorem step_reaches {own : Event} (traced : Traced before) (ofPair : own.ofQueuePair = true)
    (taken : before.step own = some after) (reaches : before.Reaches) (silent : ∀ index reply, own ≠ .post index reply)
    (inside : ∀ maxCount, own ≠ .enter maxCount) : after.Reaches := by
  cases System.step_transition taken with
  | accepted => cases ofPair
  | refused => cases ofPair
  | fetched => exact reaches
  | posted => exact absurd rfl (silent _ _)
  | entered => exact absurd rfl (inside _)
  | @iterated loop running arrived more =>
    have left : (before.iterated loop).queue.trace.passed = before.queue.trace.passed + 1 := rfl
    have fewer : (before.iterated loop).unread = before.unread - 1 := by
      rw [System.unread, left, System.unread]
      exact Nat.sub_add_eq ..
    rcases reaches with none | ⟨same, there, enough⟩
    · exact .inl (by omega)
    · obtain rfl := Option.some.inj (running.symm.trans there)
      by_cases last : before.unread = 0
      · exact .inl (by omega)
      · refine .inr ⟨_, rfl, ?_⟩
        rw [fewer]
        exact Nat.le_trans (by simp; omega) enough
  | @left loop running ended =>
    have all : before.unread = 0 := by
      rcases reaches with none | ⟨same, there, enough⟩
      · exact none
      · obtain rfl := Option.some.inj (running.symm.trans there)
        apply Classical.byContradiction
        intro more
        -- an entry is there, so the call has had its share, and its share was enough
        have arrived := traced.unread_iff.mpr more
        rw [← traced.orderly.steady.layout.cpl loop running] at arrived
        simp only [CNvmeQueue.loopContinues, arrived, Bool.true_and, decide_eq_false_iff_not] at ended
        omega
    obtain ⟨cplDbl, doorbell⟩ := before.queue.leaveCompleteCmd_eq loop
    rw [doorbell]
    exact .inl all
  | reset => cases ofPair
  | scribbled => cases ofPair

end Traced

/-! ### One step of the adapter -/

section Working
variable {host after : Host} {memory : Memory} {address processor logpage : Nat}

private theorem teardown_stops (host : Host) : host.teardown.device.isWorking = false := by
  unfold Host.teardown
  split
  · next stopped => exact Bool.eq_false_of_not_eq_true' stopped
  · rfl

private theorem hwBuildIo_working (srb : Srb) (working : (host.hwBuildIo address srb).2.device.isWorking = true) :
    host.device.isWorking = true := by
  revert working
  simp only [Host.hwBuildIo]
  split
  · exact id
  · split
    · exact id
    · split
      · unfold Host.buildIoScsiHandler
        split <;> exact id
      · split
        · exact id
        · split
          · unfold Host.buildIoSrbPnpHandler
            split
            · exact id
            · cases srb.pnpAction with
              | queryCapabilities => exact id
              | other => exact id
              | removeDevice => exact fun working => absurd ((teardown_stops _).symm.trans working) (by simp)
              | surpriseRemoval => exact fun working => absurd ((teardown_stops _).symm.trans working) (by simp)
          · exact id

theorem Host.Started.state (started : host.Started memory address processor logpage after) :
    after.device.state = host.device.state := by
  cases started <;> rfl

private theorem hwResetBus_working (returned : host.hwResetBus = some after) (working : after.device.isWorking = true) :
    host.device.isWorking = true := by
  simp only [Host.hwResetBus, Host.resetOutstandingCmds] at returned
  split at returned
  · cases returned
    exact working
  · next running => simpa using running

private theorem Host.setQueue_state (host : Host) (msgid : Nat) (queue : CNvmeQueue) :
    (host.setQueue msgid queue).device.state = host.device.state := by
  unfold Host.setQueue
  split <;> rfl

private theorem Adapter.command_state (before : Adapter) (address : Nat) (cmd : NvmeCommand) :
    (before.command address cmd).host.device.state = before.host.device.state := by
  rcases (before.host.putSrbExt address { SrbExt.init none with nvmeCmd := cmd }).submitAdmCmd_spec address with
    ⟨queue, accepts, called⟩ | ⟨_, status, fails, called⟩
  · simp only [Adapter.command, called]
    rfl
  · simp only [Adapter.command, called, fails]
    rfl

private theorem Adapter.step_working {before after : Adapter} {event : AdapterEvent} (taken : before.step event = some after)
    (working : after.host.device.isWorking = true) : before.host.device.isWorking = true := by
  cases event with
  | buildIo address srb =>
    obtain ⟨_, rfl⟩ := Adapter.step_buildIo taken
    exact hwBuildIo_working srb working
  | startIo address processor logpage memory =>
    obtain ⟨_, host, returned, rfl⟩ := Adapter.step_startIo taken
    rwa [CNvmeDevice.isWorking, (hwStartIo_started returned).state] at working
  | command address cmd =>
    obtain ⟨_, rfl⟩ := Adapter.step_command taken
    rwa [CNvmeDevice.isWorking, before.command_state address cmd] at working
  | resetBus =>
    obtain ⟨host, returned, rfl⟩ := Adapter.step_resetBus taken
    exact hwResetBus_working returned working
  | surpriseRemoval =>
    cases taken
    exact absurd ((teardown_stops before.host).symm.trans working) (by simp)
  | advance msgid event =>
    obtain ⟨_, _, _, next, _, rfl⟩ := Adapter.step_advance taken
    have same : (before.withQueuePair msgid next).host.device.state = before.host.device.state :=
      before.host.setQueue_state msgid next.queue
    rwa [CNvmeDevice.isWorking, same] at working

end Working

/-- A step leaves a queue pair as it reaches, unless an entry is posted or a call begins. -/
theorem Adapter.Orderly.reaches {before after : Adapter} {event : AdapterEvent} {msgid : Nat} {queue : CNvmeQueue}
    (orderly : before.Orderly) (met : OrderlyStep before event) (taken : before.step event = some after)
    (found : after.host.queue msgid = some queue) (silent : ∀ index reply, event ≠ .advance msgid (.post index reply))
    (inside : ∀ maxCount, event ≠ .advance msgid (.enter maxCount)) :
    ∃ old, before.host.queue msgid = some old ∧
      ((before.queuePair msgid old).Reaches → (after.queuePair msgid queue).Reaches) := by
  obtain ⟨old, present, ⟨same, _⟩ | ⟨own, next, rfl, ofPair, stepped, same⟩⟩ := Adapter.step_progress taken met.1 found
  · exact ⟨old, present, same.reaches⟩
  · refine ⟨old, present, fun reaches => same.reaches ?_⟩
    refine (orderly.traced msgid old trivial present).step_reaches ofPair stepped reaches ?_ ?_
    · rintro index reply rfl
      exact silent index reply rfl
    · rintro maxCount rfl
      exact inside maxCount rfl

theorem OrderlyStep.enter (adapter : Adapter) (msgid maxCount : Nat) :
    OrderlyStep adapter (.advance msgid (.enter maxCount)) :=
  ⟨trivial, fun removes => absurd removes (by simp [AdapterEvent.removesQueues])⟩

private theorem Adapter.Orderly.enter_reaches {before after : Adapter} {msgid other : Nat} {queue : CNvmeQueue}
    (orderly : before.Orderly) (taken : before.step (.advance msgid (.enter 0)) = some after)
    (found : after.host.queue other = some queue) :
    ∃ old, before.host.queue other = some old ∧
      ((other = msgid ∨ (before.queuePair other old).Reaches) → (after.queuePair other queue).Reaches) := by
  by_cases own : other = msgid
  · subst other
    obtain ⟨old, present, ⟨_, elsewhere⟩ | ⟨event, next, same, _, stepped, reached⟩⟩ :=
      Adapter.step_progress taken (OrderlyStep.enter before msgid 0).1 found
    · exact absurd (elsewhere (.enter 0) rfl).1 (by simp [Event.ofCompleteCmd])
    · obtain rfl := (AdapterEvent.advance.inj same).2
      exact ⟨old, present, fun _ => reached.reaches ((orderly.traced msgid old trivial present).enter_reaches stepped)⟩
  · have apart : ∀ maxCount, AdapterEvent.advance msgid (.enter 0) ≠ .advance other (.enter maxCount) :=
      fun _ same => own (AdapterEvent.advance.inj same).1.symm
    obtain ⟨old, present, kept⟩ := orderly.reaches (OrderlyStep.enter before msgid 0) taken found (by simp) apart
    exact ⟨old, present, fun either => kept (either.resolve_left own)⟩

/-! ### Messages and DPCs -/

def InterruptEvent.stands : InterruptEvent → Option AdapterEvent
  | .adapter event => some event
  | .spurious _ | .isr _ => none
  | .dpc msgid => some (.advance msgid (.enter 0))
  | .poll => some (.advance 0 (.enter 0))

namespace InterruptedAdapter
variable {before after : InterruptedAdapter} {event : InterruptEvent}

theorem step_stands (taken : before.step event = some after) :
    event.stands.elim (some before.adapter) before.adapter.step = some after.adapter := by
  cases event with
  | adapter event =>
    simp only [step] at taken
    split at taken
    · cases taken
    · obtain ⟨adapter, moved, rfl⟩ := Option.map_eq_some_iff.mp taken
      exact moved
  | spurious msgid =>
    cases taken
    rfl
  | isr msgid =>
    simp only [step] at taken
    split at taken
    · cases taken
      rfl
    · cases taken
  | dpc msgid =>
    simp only [step] at taken
    split at taken
    · obtain ⟨adapter, moved, rfl⟩ := Option.map_eq_some_iff.mp taken
      exact moved
    · cases taken
  | poll =>
    obtain ⟨adapter, moved, rfl⟩ := Option.map_eq_some_iff.mp taken
    exact moved

def OrderlyInterrupt (state : InterruptedAdapter) : InterruptEvent → Prop
  | .adapter event => OrderlyStep state.adapter event
  | _ => True

/-- While the adapter works, somebody will read what a controller posted. -/
structure Attentive (state : InterruptedAdapter) : Prop where
  orderly : state.adapter.Orderly
  attended : state.adapter.host.device.isWorking = true → ∀ msgid queue, state.adapter.host.queue msgid = some queue →
    state.messages msgid = true ∨ state.dpcs msgid = true ∨ (state.adapter.queuePair msgid queue).Reaches

private theorem messagesAfter_kept {state : InterruptedAdapter} {event : AdapterEvent} {msgid : Nat}
    (sent : state.messages msgid = true) : state.messagesAfter event msgid = true := by
  unfold messagesAfter
  split
  · next place _ _ =>
    by_cases here : msgid = place
    · rw [here, Function.update_self]
    · rwa [Function.update_of_ne here]
  · exact sent

private theorem Attentive.adapterStep {state : InterruptedAdapter} {adapter : Adapter} {event : AdapterEvent}
    (attentive : state.Attentive) (met : OrderlyStep state.adapter event) (outside : event.entersCompleteCmd = false)
    (taken : state.adapter.step event = some adapter) :
    Attentive { state with adapter := adapter, messages := state.messagesAfter event } := by
  refine ⟨attentive.orderly.step met taken, ?_⟩
  intro working msgid queue found
  have worked := Adapter.step_working taken working
  by_cases posts : ∃ index reply, event = .advance msgid (.post index reply)
  · obtain ⟨index, reply, rfl⟩ := posts
    exact .inl (Function.update_self ..)
  · have inside : ∀ maxCount, event ≠ .advance msgid (.enter maxCount) := by
      rintro maxCount rfl
      cases outside
    obtain ⟨old, present, reaches⟩ := attentive.orderly.reaches met taken found
      (fun index reply same => posts ⟨index, reply, same⟩) inside
    exact (attentive.attended worked msgid old present).imp messagesAfter_kept (Or.imp_right reaches)

theorem Attentive.enter {state : InterruptedAdapter} {adapter : Adapter} {msgid : Nat} {dpcs : Nat → Bool}
    (attentive : state.Attentive) (taken : state.adapter.step (.advance msgid (.enter 0)) = some adapter)
    (kept : ∀ other, other ≠ msgid → dpcs other = state.dpcs other) :
    Attentive { state with adapter := adapter, dpcs := dpcs } := by
  refine ⟨attentive.orderly.step (.enter state.adapter msgid 0) taken, ?_⟩
  intro working other queue found
  obtain ⟨old, present, reaches⟩ := attentive.orderly.enter_reaches taken found
  by_cases own : other = msgid
  · exact .inr (.inr (reaches (.inl own)))
  · have attended := attentive.attended (Adapter.step_working taken working) other old present
    rw [← kept other own] at attended
    exact attended.imp_right (Or.imp_right fun reached => reaches (.inr reached))

theorem Attentive.step (attentive : before.Attentive) (met : before.OrderlyInterrupt event)
    (taken : before.step event = some after) : after.Attentive := by
  cases event with
  | adapter event =>
    simp only [InterruptedAdapter.step] at taken
    split at taken
    · cases taken
    · next outside =>
      obtain ⟨adapter, moved, rfl⟩ := Option.map_eq_some_iff.mp taken
      exact attentive.adapterStep met (Bool.eq_false_of_not_eq_true outside) moved
  | spurious msgid =>
    cases taken
    refine ⟨attentive.orderly, ?_⟩
    intro working other queue found
    by_cases here : other = msgid
    · rw [here]
      exact .inl (Function.update_self ..)
    · refine (attentive.attended working other queue found).imp_left ?_
      exact fun sent => (Function.update_of_ne here ..).trans sent
  | isr msgid =>
    simp only [InterruptedAdapter.step] at taken
    split at taken
    · cases taken
      refine ⟨attentive.orderly, ?_⟩
      intro working other queue found
      by_cases here : other = msgid
      · subst other
        have scheduled : before.adapter.host.nvmeMsixISR msgid = true := by
          have found : before.adapter.host.queue msgid = some queue := found
          rw [Host.nvmeMsixISR, found]
          exact working
        simp only [scheduled, if_true, Function.update_self, true_or, or_true]
      · refine (attentive.attended working other queue found).imp ?_ (Or.imp_left ?_)
        · exact fun sent => (Function.update_of_ne here ..).trans sent
        · intro scheduled
          split
          · exact (Function.update_of_ne here ..).trans scheduled
          · exact scheduled
    · cases taken
  | dpc msgid =>
    simp only [InterruptedAdapter.step] at taken
    split at taken
    · obtain ⟨adapter, moved, rfl⟩ := Option.map_eq_some_iff.mp taken
      exact attentive.enter moved fun other apart => Function.update_of_ne apart ..
    · cases taken
  | poll =>
    obtain ⟨adapter, moved, rfl⟩ := Option.map_eq_some_iff.mp taken
    exact attentive.enter moved fun _ _ => rfl

end InterruptedAdapter

def DeepQueues (admConfig : Option QueuePairConfig) (ioConfig : Nat → Option QueuePairConfig) : Prop :=
  ∀ msgid config, (if msgid = 0 then admConfig else ioConfig (msgid - 1)) = some config → safeSubmitThreshold < config.depth

theorem Adapter.Orderly.initial {device : CNvmeDevice} {admConfig : Option QueuePairConfig}
    {ioConfig : Nat → Option QueuePairConfig} (deep : DeepQueues admConfig ioConfig) (srbext : Nat → SrbExt)
    (slotCount : BitVec 3) : (Adapter.initial device admConfig ioConfig srbext slotCount).Orderly :=
  ⟨.initial _ _ _ _ _ (by omega), Adapter.Retains.initial device admConfig ioConfig srbext slotCount,
    .initial fun msgid config _ => deep msgid config⟩

namespace InterruptedAdapter

theorem Attentive.initial {device : CNvmeDevice} {admConfig : Option QueuePairConfig}
    {ioConfig : Nat → Option QueuePairConfig} (deep : DeepQueues admConfig ioConfig) (srbext : Nat → SrbExt)
    (slotCount : BitVec 3) : (InterruptedAdapter.initial device admConfig ioConfig srbext slotCount).Attentive := by
  refine ⟨.initial deep srbext slotCount, ?_⟩
  intro _ msgid queue _
  exact .inr (.inr (.inl (Nat.zero_sub _)))

theorem Attentive.quiet {state : InterruptedAdapter} {msgid : Nat} {queue : CNvmeQueue} (attentive : state.Attentive)
    (working : state.adapter.host.device.isWorking = true) (present : state.adapter.host.queue msgid = some queue)
    (served : state.messages msgid = false) (ran : state.dpcs msgid = false) (returned : state.adapter.loops msgid = none) :
    (state.adapter.queuePair msgid queue).unread = 0 := by
  rcases attentive.attended working msgid queue present with sent | scheduled | none | ⟨loop, running, _⟩
  · exact absurd (sent.symm.trans served) (by simp)
  · exact absurd (scheduled.symm.trans ran) (by simp)
  · exact none
  · exact absurd (running.symm.trans returned) (by simp)

end InterruptedAdapter

/-- No wakeup is lost: while the adapter works, whenever a queue has no message on its way,
no DPC scheduled and no call in progress, the driver has read every entry the
controller posted, and no command that was answered is left in the history. -/
theorem no_wakeup_lost {device : CNvmeDevice} {admConfig : Option QueuePairConfig}
    {ioConfig : Nat → Option QueuePairConfig} {srbext : Nat → SrbExt} {slotCount : BitVec 3}
    (deep : DeepQueues admConfig ioConfig) {events : List InterruptEvent} {final : InterruptedAdapter}
    (met : Machine.Meets InterruptedAdapter.step InterruptedAdapter.OrderlyInterrupt
      (.initial device admConfig ioConfig srbext slotCount) events)
    (ran : Machine.run InterruptedAdapter.step (.initial device admConfig ioConfig srbext slotCount) events = some final)
    (working : final.adapter.host.device.isWorking = true) {msgid : Nat} {queue : CNvmeQueue}
    (present : final.adapter.host.queue msgid = some queue) (noMessage : final.messages msgid = false)
    (noDpc : final.dpcs msgid = false) (noCall : final.adapter.loops msgid = none) :
    queue.trace.consumed.map (·.slot) = (final.adapter.controllers msgid).posted ∧
      ∀ cid srbext position, queue.history.history cid = some srbext →
        ¬ (final.adapter.controllers msgid).Answered srbext.submission position := by
  have attentive : final.Attentive := Machine.run_invariant
    (fun _ _ _ attentive allowed taken => InterruptedAdapter.Attentive.step attentive allowed taken)
    (.initial deep srbext slotCount) met ran
  have traced := attentive.orderly.traced msgid queue trivial present
  have all := attentive.quiet working present noMessage noDpc noCall
  constructor
  · have consumed := traced.contiguous.consumed
    rw [List.take_of_length_le] at consumed
    · exact consumed
    · exact Nat.le_of_sub_eq_zero all
  · intro cid srbext position held answered
    have unread := traced.unread held answered
    obtain ⟨_, posted, _⟩ := answered
    have inside := (List.getElem?_eq_some_iff.mp posted).1
    simp only [System.unread, Adapter.queuePair] at all unread
    omega

def sampleInterrupted : List InterruptEvent :=
  [.adapter (.buildIo 0 sampleIoctl), .adapter (.startIo 0 0 0x2000 Host.sampleMemory), .adapter (.advance 0 .fetch),
    .adapter (.advance 0 (.post 0 sampleReply)), .isr 0, .dpc 0, .adapter (.advance 0 .iterate),
    .adapter (.advance 0 .leave)]

private theorem sampleInterrupted_stands {event : InterruptEvent} {own : AdapterEvent} (member : event ∈ sampleInterrupted)
    (stands : event.stands = some own) : own ∈ sampleServed := by
  simp only [sampleInterrupted, List.mem_cons, List.not_mem_nil, or_false] at member
  rcases member with rfl | rfl | rfl | rfl | rfl | rfl | rfl | rfl
  all_goals cases stands <;> simp [sampleServed, sampleFirmwareRequest]

namespace InterruptedAdapter

def sampleStart : InterruptedAdapter :=
  .initial (Host.sampleHost (.init none)).device (some sampleQueue) (fun _ => none) (fun _ => .init none) 1

def sampleInterruptFree (state : InterruptedAdapter) (event : InterruptEvent) : Bool :=
  event.stands.all (sampleStartFree state.adapter)

private theorem sample_alone {before after : InterruptedAdapter} {event : InterruptEvent} (alone : SampleAlone before.adapter)
    (member : event ∈ sampleInterrupted) (taken : before.step event = some after) : SampleAlone after.adapter := by
  have moved := step_stands taken
  cases stands : event.stands with
  | none =>
    rw [stands] at moved
    obtain same := Option.some.inj moved
    exact same ▸ alone
  | some own =>
    rw [stands] at moved
    exact alone.step (sampleInterrupted_stands member stands) moved

private theorem sample_orderly {state : InterruptedAdapter} {event : InterruptEvent} (alone : SampleAlone state.adapter)
    (free : state.sampleInterruptFree event = true) : state.OrderlyInterrupt event := by
  cases event with
  | adapter event => exact alone.orderlyStep free
  | _ => trivial

def SampleEnds (final : InterruptedAdapter) : Prop :=
  sampleQuietEnd final.adapter = true ∧ final.adapter.host.device.isWorking = true ∧ final.messages 0 = false ∧
    final.dpcs 0 = false

instance : DecidablePred SampleEnds := fun _ => inferInstanceAs (Decidable (_ ∧ _))

private theorem sampleInterrupted_ends :
    Machine.Meets step OrderlyInterrupt sampleStart sampleInterrupted ∧
      ∃ final, Machine.run step sampleStart sampleInterrupted = some final ∧ SampleAlone final.adapter ∧ final.SampleEnds := by
  have checked : Machine.Meets step (fun state event => state.sampleInterruptFree event = true) sampleStart
      sampleInterrupted ∧ (Machine.run step sampleStart sampleInterrupted).any (fun final => final.SampleEnds) = true := by
    decide +kernel
  have members : Machine.Meets step (fun _ event => event ∈ sampleInterrupted) sampleStart sampleInterrupted :=
    .of_forall (fun _ member _ => member) sampleStart
  have kept : ∀ before event after, SampleAlone (adapter before) →
      event ∈ sampleInterrupted ∧ before.sampleInterruptFree event = true → step before event = some after →
      SampleAlone after.adapter := fun _ _ _ alone allowed taken => sample_alone alone allowed.1 taken
  obtain ⟨final, ran, ends⟩ := (Option.any_eq_true ..).mp checked.2
  refine ⟨?_, final, ran, Machine.run_invariant kept SampleAlone.initial (members.and checked.1) ran, of_decide_eq_true ends⟩
  exact .of_invariant kept (fun _ _ alone allowed => sample_orderly alone allowed.2) SampleAlone.initial
    (members.and checked.1)

end InterruptedAdapter

private theorem sample_deepQueues : DeepQueues (some sampleQueue) fun _ => none := by
  intro msgid config configured
  split at configured
  · cases configured
    decide
  · cases configured

theorem no_wakeup_lost_interrupted :
    ∃ final queue, Machine.run InterruptedAdapter.step InterruptedAdapter.sampleStart sampleInterrupted = some final ∧
      final.adapter.host.queue 0 = some queue ∧
      queue.trace.consumed.map (·.slot) = (final.adapter.controllers 0).posted ∧
      ∀ cid srbext position, queue.history.history cid = some srbext →
        ¬ (final.adapter.controllers 0).Answered srbext.submission position := by
  obtain ⟨met, final, ran, alone, quiet, working, served, idle⟩ := InterruptedAdapter.sampleInterrupted_ends
  have rest := alone.atRest quiet
  simp only [sampleQuietEnd, Bool.and_eq_true, Option.any_eq_true] at quiet
  obtain ⟨_, queue, present, _⟩ := quiet
  exact ⟨final, queue, ran, present,
    no_wakeup_lost sample_deepQueues met ran working present served idle (rest.loops 0 queue present)⟩

/-! ### Progress -/

/-- What `Fair` says, with the way a call of `CompleteCmd` comes about: a message is
served at some time, and a scheduled DPC runs when no call is in progress. -/
structure FairInterrupts (schedule : Machine.Schedule InterruptedAdapter.step) : Prop where
  starts : ∀ address, schedule.Serves (fun state => state.adapter.waiting address = true)
    fun event => ∃ processor logpage memory, event = .adapter (.startIo address processor logpage memory)
  fetches : ∀ msgid, schedule.Serves
    (fun state => ∃ queue, state.adapter.host.queue msgid = some queue ∧
      (state.adapter.controllers msgid).sqHead ≠ queue.subDbl)
    fun event => event = .adapter (.advance msgid .fetch)
  answers : ∀ msgid number, schedule.LeadsTo (fun state => (state.adapter.controllers msgid).Owes number)
    fun state => ¬ (state.adapter.controllers msgid).Owes number
  messages : ∀ msgid, schedule.Serves (fun state => state.messages msgid = true) fun event => event = .isr msgid
  dpcs : ∀ msgid, schedule.Serves
    (fun state => state.dpcs msgid = true ∧ state.adapter.loops msgid = none ∧ (state.adapter.host.queue msgid).isSome = true)
    fun event => event = .dpc msgid
  calls : ∀ msgid, schedule.Serves
    (fun state => (state.adapter.loops msgid).isSome = true ∧ (state.adapter.host.queue msgid).isSome = true)
    fun event => event = .adapter (.advance msgid .iterate) ∨ event = .adapter (.advance msgid .leave)

namespace InterruptedAdapter
variable {before after : InterruptedAdapter} {event : InterruptEvent} {msgid : Nat}

private theorem step_messages (taken : before.step event = some after) (sent : before.messages msgid = true)
    (unserved : event ≠ .isr msgid) : after.messages msgid = true := by
  cases event with
  | adapter event =>
    simp only [step] at taken
    split at taken
    · cases taken
    · obtain ⟨adapter, _, rfl⟩ := Option.map_eq_some_iff.mp taken
      exact messagesAfter_kept sent
  | spurious place =>
    cases taken
    by_cases here : msgid = place
    · rw [here]
      exact Function.update_self ..
    · exact (Function.update_of_ne here ..).trans sent
  | isr place =>
    simp only [step] at taken
    split at taken
    · cases taken
      have apart : msgid ≠ place := fun same => unserved (same ▸ rfl)
      exact (Function.update_of_ne apart ..).trans sent
    · cases taken
  | dpc place =>
    simp only [step] at taken
    split at taken
    · obtain ⟨adapter, _, rfl⟩ := Option.map_eq_some_iff.mp taken
      exact sent
    · cases taken
  | poll =>
    obtain ⟨adapter, _, rfl⟩ := Option.map_eq_some_iff.mp taken
    exact sent

theorem step_dpcs (taken : before.step event = some after) (scheduled : before.dpcs msgid = true)
    (unserved : event ≠ .dpc msgid) : after.dpcs msgid = true := by
  cases event with
  | adapter event =>
    simp only [step] at taken
    split at taken
    · cases taken
    · obtain ⟨adapter, _, rfl⟩ := Option.map_eq_some_iff.mp taken
      exact scheduled
  | spurious place =>
    cases taken
    exact scheduled
  | isr place =>
    simp only [step] at taken
    split at taken
    · cases taken
      by_cases here : msgid = place
      · subst place
        dsimp only
        split
        · exact Function.update_self ..
        · exact scheduled
      · dsimp only
        split
        · exact (Function.update_of_ne here ..).trans scheduled
        · exact scheduled
    · cases taken
  | dpc place =>
    simp only [step] at taken
    split at taken
    · obtain ⟨adapter, _, rfl⟩ := Option.map_eq_some_iff.mp taken
      have apart : msgid ≠ place := fun same => unserved (same ▸ rfl)
      exact (Function.update_of_ne apart ..).trans scheduled
    · cases taken
  | poll =>
    obtain ⟨adapter, _, rfl⟩ := Option.map_eq_some_iff.mp taken
    exact scheduled

private theorem step_isr {queue : CNvmeQueue} (taken : before.step (.isr msgid) = some after)
    (present : before.adapter.host.queue msgid = some queue) (working : before.adapter.host.device.isWorking = true) :
    after.dpcs msgid = true := by
  simp only [step] at taken
  split at taken
  · cases taken
    have schedules : before.adapter.host.nvmeMsixISR msgid = true := by
      rw [Host.nvmeMsixISR, present]
      exact working
    simp [schedules]
  · cases taken

def adapters (schedule : Machine.Schedule InterruptedAdapter.step) : Machine.Schedule Adapter.step :=
  @Machine.Schedule.project _ _ InterruptedAdapter.step _ _ Adapter.step InterruptedAdapter.adapter InterruptEvent.stands
    step_stands schedule

private theorem working_before {schedule : Machine.Schedule InterruptedAdapter.step} {time later : Nat} (after : time ≤ later)
    (working : (schedule.states later).adapter.host.device.isWorking = true) :
    (schedule.states time).adapter.host.device.isWorking = true := by
  induction after with
  | refl => exact working
  | @step middle after ih =>
    apply ih
    cases here : (adapters schedule).events middle with
    | none =>
      have same : (schedule.states (middle + 1)).adapter = (schedule.states middle).adapter :=
        (adapters schedule).unchanged here
      rwa [same] at working
    | some event => exact Adapter.step_working ((adapters schedule).stepped here) working

end InterruptedAdapter

section Fairness
variable {schedule : Machine.Schedule InterruptedAdapter.step} (fair : FairInterrupts schedule) {msgid time : Nat}
include fair

/-- A scheduled DPC runs, unless a call is in progress at some time or the queue goes away. -/
theorem FairInterrupts.runs (scheduled : (schedule.states time).dpcs msgid = true)
    (always : ∀ later, time ≤ later → (schedule.states later).adapter.loops msgid = none ∧
      ((schedule.states later).adapter.host.queue msgid).isSome = true) :
    ∃ later, time ≤ later ∧ schedule.events later = some (.dpc msgid) := by
  obtain ⟨later, event, after, _, here, rfl⟩ := @Machine.Schedule.Serves.comes _ _ _ schedule _
    (fun state => state.dpcs msgid = true) _ (fair.dpcs msgid) _ scheduled
    (fun later after scheduled => ⟨scheduled, always later after⟩)
    fun later event _ scheduled here unserved =>
      InterruptedAdapter.step_dpcs (schedule.stepped here) scheduled unserved
  exact ⟨later, after, here⟩

private theorem FairInterrupts.schedules (sent : (schedule.states time).messages msgid = true)
    (always : ∀ later, time ≤ later → (schedule.states later).adapter.host.device.isWorking = true ∧
      ((schedule.states later).adapter.host.queue msgid).isSome = true) :
    ∃ later, time ≤ later ∧ (schedule.states later).dpcs msgid = true := by
  obtain ⟨later, event, after, _, here, rfl⟩ := @Machine.Schedule.Serves.comes _ _ _ schedule _
    (fun state => state.messages msgid = true) _ (fair.messages msgid) _ sent (fun _ _ sent => sent)
    fun later event _ sent here unserved =>
      InterruptedAdapter.step_messages (schedule.stepped here) sent unserved
  obtain ⟨working, present⟩ := always later after
  obtain ⟨queue, there⟩ := Option.isSome_iff_exists.mp present
  exact ⟨later + 1, Nat.le_succ_of_le after, InterruptedAdapter.step_isr (schedule.stepped here) there working⟩

private theorem FairInterrupts.adapters (attentive : ∀ time, (schedule.states time).Attentive)
    (working : ∀ time, (schedule.states time).adapter.host.device.isWorking = true) :
    Fair (InterruptedAdapter.adapters schedule) := by
  refine ⟨?_, ?_, fun msgid number => fair.answers msgid number, ?_, ?_⟩
  · intro address
    refine Machine.Schedule.Serves.project (fair.starts address) ?_
    rintro event ⟨processor, logpage, memory, rfl⟩
    exact ⟨_, rfl, processor, logpage, memory, rfl⟩
  · intro msgid
    refine Machine.Schedule.Serves.project (fair.fetches msgid) ?_
    rintro event rfl
    exact ⟨_, rfl, rfl⟩
  · intro msgid time always
    have there : ∀ later, time ≤ later → (schedule.states later).adapter.loops msgid = none ∧
        ((schedule.states later).adapter.host.queue msgid).isSome = true := by
      intro later after
      obtain ⟨idle, queue, present, _⟩ := always later after
      exact ⟨idle, Option.isSome_iff_exists.mpr ⟨queue, present⟩⟩
    have scheduled : ∃ middle, time ≤ middle ∧ (schedule.states middle).dpcs msgid = true := by
      obtain ⟨idle, queue, present, arrived⟩ := always time (Nat.le_refl time)
      have unread := ((attentive time).orderly.traced msgid queue trivial present).unread_iff.mp arrived
      cases sent : (schedule.states time).messages msgid with
      | true => exact fair.schedules sent fun later after => ⟨working later, (there later after).2⟩
      | false =>
        cases ran : (schedule.states time).dpcs msgid with
        | true => exact ⟨time, Nat.le_refl time, ran⟩
        | false => exact absurd ((attentive time).quiet (working time) present sent ran idle) unread
    obtain ⟨middle, after, waits⟩ := scheduled
    obtain ⟨later, beyond, here⟩ := fair.runs waits fun later further => there later (Nat.le_trans after further)
    refine ⟨later, .advance msgid (.enter 0), Nat.le_trans after beyond, ?_, 0, rfl⟩
    simp only [InterruptedAdapter.adapters, Machine.Schedule.project, here]
    rfl
  · intro msgid
    refine Machine.Schedule.Serves.project (fair.calls msgid) ?_
    rintro event (rfl | rfl)
    · exact ⟨_, rfl, .inl rfl⟩
    · exact ⟨_, rfl, .inr rfl⟩

end Fairness

/-- In every schedule in which the only calls of `CompleteCmd` are those of the DPCs that
interrupts schedule and of polling functions, every request is answered at some time,
unless the adapter is stopped. -/
theorem every_request_interrupted {device : CNvmeDevice} {admConfig : Option QueuePairConfig}
    {ioConfig : Nat → Option QueuePairConfig} {srbext : Nat → SrbExt} {slotCount : BitVec 3}
    (deep : DeepQueues admConfig ioConfig) {schedule : Machine.Schedule InterruptedAdapter.step}
    (initial : schedule.states 0 = .initial device admConfig ioConfig srbext slotCount)
    (met : schedule.Meets InterruptedAdapter.OrderlyInterrupt) (fair : FairInterrupts schedule) (address time : Nat)
    (waits : Outstanding (schedule.states time).adapter.host.heap address) :
    ∃ later, time ≤ later ∧ (¬ Outstanding (schedule.states later).adapter.host.heap address ∨
      (schedule.states later).adapter.host.device.isWorking = false) := by
  have start : (schedule.states 0).Attentive := by
    rw [initial]
    exact .initial deep srbext slotCount
  have attentive := schedule.invariant (fun _ _ _ kept allowed taken => kept.step allowed taken) met start
  by_cases stops : ∃ later, time ≤ later ∧ (schedule.states later).adapter.host.device.isWorking = false
  · obtain ⟨later, after, stopped⟩ := stops
    exact ⟨later, after, .inr stopped⟩
  have working : ∀ middle, (schedule.states middle).adapter.host.device.isWorking = true := by
    intro middle
    have last : (schedule.states (max time middle)).adapter.host.device.isWorking = true := by
      apply Bool.eq_true_of_not_eq_false
      exact fun stopped => stops ⟨_, Nat.le_max_left .., stopped⟩
    exact InterruptedAdapter.working_before (Nat.le_max_right ..) last
  have orderly : (InterruptedAdapter.adapters schedule).Meets OrderlyStep := by
    intro time event here
    obtain ⟨own, there, stands⟩ := Option.bind_eq_some_iff.mp here
    have allowed := met time own there
    cases own with
    | adapter event =>
      obtain rfl := Option.some.inj stands
      exact allowed
    | spurious msgid => cases stands
    | isr msgid => cases stands
    | dpc msgid =>
      obtain rfl := Option.some.inj stands
      exact .enter _ msgid 0
    | poll =>
      obtain rfl := Option.some.inj stands
      exact .enter _ 0 0
  have first : (InterruptedAdapter.adapters schedule).states 0 = .initial device admConfig ioConfig srbext slotCount :=
    congrArg InterruptedAdapter.adapter initial
  obtain ⟨later, after, answered⟩ :=
    every_request_answered deep first orderly (fair.adapters attentive working) address time waits
  exact ⟨later, after, .inl answered⟩

namespace InterruptedAdapter

def SampleSilent (state : InterruptedAdapter) : Prop :=
  ∀ msgid, msgid ≠ 0 → state.messages msgid = false ∧ state.dpcs msgid = false

private theorem sample_silent {before after : InterruptedAdapter} {event : InterruptEvent} (silent : before.SampleSilent)
    (member : event ∈ sampleInterrupted) (taken : before.step event = some after) : after.SampleSilent := by
  intro msgid other
  obtain ⟨unsent, unscheduled⟩ := silent msgid other
  simp only [sampleInterrupted, List.mem_cons, List.not_mem_nil, or_false] at member
  rcases member with rfl | rfl | rfl | rfl | rfl | rfl | rfl | rfl
  case inr.inr.inr.inr.inl =>
    simp only [step] at taken
    split at taken
    · cases taken
      refine ⟨(Function.update_of_ne other ..).trans unsent, ?_⟩
      dsimp only
      split
      · exact (Function.update_of_ne other ..).trans unscheduled
      · exact unscheduled
    · cases taken
  case inr.inr.inr.inr.inr.inl =>
    simp only [step] at taken
    split at taken
    · obtain ⟨adapter, _, rfl⟩ := Option.map_eq_some_iff.mp taken
      exact ⟨unsent, (Function.update_of_ne other ..).trans unscheduled⟩
    · cases taken
  case inr.inr.inr.inl =>
    obtain ⟨adapter, _, rfl⟩ := Option.map_eq_some_iff.mp taken
    exact ⟨(Function.update_of_ne other ..).trans unsent, unscheduled⟩
  all_goals
    obtain ⟨adapter, _, rfl⟩ := Option.map_eq_some_iff.mp taken
    exact ⟨unsent, unscheduled⟩

end InterruptedAdapter

private theorem Adapter.AtRest.fairInterrupts {start final : InterruptedAdapter} {events : List InterruptEvent}
    (rest : final.adapter.AtRest) (signals : ∀ msgid, final.messages msgid = false ∧ final.dpcs msgid = false)
    {ran : Machine.run InterruptedAdapter.step start events = some final} : FairInterrupts (.ending ran) := by
  refine ⟨?_, ?_, ?_, ?_, ?_, ?_⟩
  · intro address
    apply Machine.Schedule.ending_serves
    simp [rest.waiting address]
  · intro msgid
    apply Machine.Schedule.ending_serves
    rintro ⟨queue, present, behind⟩
    exact behind (rest.fetched msgid queue present)
  · intro msgid number
    apply Machine.Schedule.ending_leadsTo
    rintro ⟨submission, member, _⟩
    rw [rest.pending msgid] at member
    cases member
  · intro msgid
    apply Machine.Schedule.ending_serves
    simp [signals msgid]
  · intro msgid
    apply Machine.Schedule.ending_serves
    simp [signals msgid]
  · intro msgid
    apply Machine.Schedule.ending_serves
    rintro ⟨running, present⟩
    obtain ⟨queue, there⟩ := Option.isSome_iff_exists.mp present
    simp [rest.loops msgid queue there] at running

/-- The firmware request is in the admin queue at time 2. -/
theorem every_request_interrupted_served : ∃ schedule : Machine.Schedule InterruptedAdapter.step,
    Outstanding (schedule.states 2).adapter.host.heap 0 ∧
      ∃ later, 2 ≤ later ∧ (¬ Outstanding (schedule.states later).adapter.host.heap 0 ∨
        (schedule.states later).adapter.host.device.isWorking = false) := by
  obtain ⟨met, final, ran, alone, quiet, working, served, idle⟩ := InterruptedAdapter.sampleInterrupted_ends
  let schedule := Machine.Schedule.ending ran
  have members : Machine.Meets InterruptedAdapter.step (fun _ event => event ∈ sampleInterrupted)
      InterruptedAdapter.sampleStart sampleInterrupted := .of_forall (fun _ member _ => member) _
  have silent : final.SampleSilent := Machine.run_invariant
    (fun _ _ _ silent member taken => InterruptedAdapter.sample_silent silent member taken)
    (fun _ _ => ⟨rfl, rfl⟩) members ran
  have signals : ∀ msgid, final.messages msgid = false ∧ final.dpcs msgid = false := by
    intro msgid
    by_cases admin : msgid = 0
    · rw [admin]
      exact ⟨served, idle⟩
    · exact silent msgid admin
  have waits : Outstanding (schedule.states 2).adapter.host.heap 0 := by
    have observed : (Machine.run InterruptedAdapter.step InterruptedAdapter.sampleStart (sampleInterrupted.take 2)).map
        (fun state => ((state.adapter.host.heap.srbext 0).initOK, (state.adapter.host.heap.srbext 0).notified,
          (state.adapter.host.heap.srbext 0).srb.isSome)) = some (true, 0, true) := by decide +kernel
    obtain ⟨middle, before, seen⟩ := Option.map_eq_some_iff.mp observed
    have here : schedule.states 2 = middle := by simp [schedule, Machine.Schedule.ending, before]
    simp only [Prod.mk.injEq] at seen
    rw [here]
    refine ⟨seen.1, seen.2.1, ?_⟩
    intro missing
    simp [missing] at seen
  exact ⟨schedule, waits, every_request_interrupted sample_deepQueues Machine.Schedule.ending_initial
    (Machine.Schedule.ending_meets met) ((alone.atRest quiet).fairInterrupts signals) 0 2 waits⟩

end SpcNvme
