import SpcNvme.Proofs.Staged

/-! StorPort is notified once for a request, also if it delivers the request again
before `CompleteCmd` is done with it. The exception is the firmware callback, after
which `CompleteCmd` completes the request a second time. -/

namespace SpcNvme

private theorem Adapter.not_outstanding_of_idle {adapter : Adapter} {address : Nat} (idle : adapter.idle address = true) :
    ¬ Outstanding adapter.host.heap address := by
  intro outstanding
  have polled : (adapter.host.heap.srbext address).srb = none ∧
      (adapter.host.heap.srbext address).srbStatus ≠ .pending := by
    simpa [Adapter.idle, outstanding.initOK, outstanding.notified] using idle
  exact polled.2 (outstanding.polled polled.1)

private theorem Adapter.idle_of_delivered {before after : Adapter} {event : AdapterEvent} {address : Nat}
    (delivers : event.DeliversTo address) (taken : before.step event = some after) : before.idle address = true := by
  cases event with
  | buildIo target srb =>
    obtain rfl : target = address := delivers
    exact (Adapter.step_buildIo taken).1
  | command target cmd =>
    obtain rfl : target = address := delivers
    exact (Adapter.step_command taken).1
  | _ => exact delivers.elim

/-- No callback that completes its request is called, and the bus is reset while no
call of `CompleteCmd` is in progress. -/
def QuietStaged (state : StagedAdapter) : StagedEvent → Prop
  | .adapter event => QuietAdapter state.adapter event ∧ ResetBetweenCalls state.adapter event
  | .finish _ => True

namespace StagedAdapter

abbrev Notifying : FinishPc → Prop := (· = .complete)

variable {before after : StagedAdapter} {event : StagedEvent}

/-- Nothing is delivered in an extension StorPort was not notified of. -/
theorem Sound.apart (sound : before.Sound 1 Notifying) (taken : before.step event = some after) :
    before.Apart Notifying event := by
  cases step_transition taken with
  | @other event adapter _ stepped =>
    intro msgid address due delivers
    obtain ⟨srbext, pc, held, rfl, rfl⟩ := due
    have idle := Adapter.idle_of_delivered delivers stepped
    rcases sound.owed msgid srbext held with outstanding | ⟨two, _⟩
    · exact Adapter.not_outstanding_of_idle idle outstanding
    · exact absurd two (by decide)
  | passed => exact fun _ _ _ delivers => delivers.elim
  | popped => exact fun _ _ _ delivers => delivers.elim
  | completed => trivial
  | cleanedUp => trivial

private theorem Sound.quiet_step (sound : before.Sound 1 Notifying) (quiet : QuietStaged before event)
    (taken : before.step event = some after) : after.Sound 1 Notifying := by
  refine sound.step rfl ?_ (sound.apart taken) taken
  cases event with
  | adapter event => exact .inr quiet.1
  | finish msgid => trivial

/-- The callback has notified StorPort, and the call does it again. -/
theorem Sound.notified_twice {msgid : Nat} (sound : before.Sound 1 Notifying)
    (taken : before.step (.adapter (.advance msgid .iterate)) = some after)
    (loud : ¬ QuietAdapter before.adapter (.advance msgid .iterate)) :
    ∃ last, after.step (.finish msgid) = some last ∧ ¬ NotifiedOnce last.adapter := by
  simp only [QuietAdapter] at loud
  push Not at loud
  obtain ⟨queue, present, noisy⟩ := loud
  have slot : ∀ loop, before.adapter.loops msgid = some loop →
      ∃ srbext, queue.popped loop = some srbext ∧
        (before.adapter.host.heap.srbext srbext.address).completesItself = true ∧
        Outstanding before.adapter.host.heap srbext.address := by
    intro loop running
    simp only [QuietCallbacks, Adapter.queuePair, running, Option.mem_some_iff, forall_eq'] at noisy
    push Not at noisy
    obtain ⟨srbext, holds, callback⟩ := noisy
    have held : queue.history.history (queue.cplQ loop.cpl).entry.cid.toNat = some srbext := holds
    have here : Holds before.adapter.host.slots before.adapter.waiting
        (.slot msgid (queue.cplQ loop.cpl).entry.cid.toNat) srbext.address := by
      simp [Holds, Host.slots_of_queue present, held]
    refine ⟨srbext, ?_, by simpa using callback, sound.adapter.custody.live here⟩
    exact (popped_of_lt ((sound.adapter.inRange msgid queue present).cplQ loop.cpl)).trans held
  cases step_transition taken with
  | other apart => exact absurd rfl (apart msgid)
  | @passed _ other loop _ found running nothing =>
    obtain rfl := Option.some.inj (found.symm.trans present)
    obtain ⟨srbext, popped, _⟩ := slot loop running
    exact absurd (nothing.symm.trans popped) (by simp)
  | @popped _ other loop first _ found running popped =>
    obtain rfl := Option.some.inj (found.symm.trans present)
    obtain ⟨srbext, also, callback, outstanding⟩ := slot loop running
    obtain rfl := Option.some.inj (popped.symm.trans also)
    refine ⟨_, step_finish (Function.update_self ..), ?_⟩
    intro once
    obtain ⟨called, srb⟩ := @Heap.callBack_loud _ _ (other.cplQ loop.cpl).entry callback
    have bounded := once first.address
    simp only [finishOne, Adapter.withHeap, Adapter.withQueuePair, Heap.completeCalled, Heap.completeSrb_srbext,
      Function.update_self, SrbExt.completeSrb_notified, called, srb, outstanding.notified, if_true] at bounded
    exact absurd bounded (by decide)

end StagedAdapter

/-- In every run of the adapter, with any requests, bus resets and removals, with
controllers that complete commands in any order, and with StorPort and the waiting
functions coming between the callback, the `CompleteSrb` and the `CleanUp` of an
iteration: StorPort is notified at most once for every request between two
deliveries, if no completion is consumed for a request whose callback completes it
and no bus reset falls into a call of `CompleteCmd`. And where such a completion is
consumed next, the following step of that call notifies StorPort a second time. -/
theorem notified_once {device : CNvmeDevice} {admConfig : Option QueuePairConfig}
    {ioConfig : Nat → Option QueuePairConfig} {srbext : Nat → SrbExt} {slotCount : BitVec 3}
    {events : List StagedEvent} {final : StagedAdapter}
    (quiet : Machine.Meets StagedAdapter.step QuietStaged
      (.initial (.initial device admConfig ioConfig srbext slotCount)) events)
    (ran : Machine.run StagedAdapter.step (.initial (.initial device admConfig ioConfig srbext slotCount)) events =
      some final) :
    Machine.Always StagedAdapter.step (fun state => NotifiedOnce state.adapter)
        (.initial (.initial device admConfig ioConfig srbext slotCount)) events ∧
      ∀ msgid after, final.step (.adapter (.advance msgid .iterate)) = some after →
        ¬ QuietAdapter final.adapter (.advance msgid .iterate) →
        ∃ last, after.step (.finish msgid) = some last ∧ ¬ NotifiedOnce last.adapter := by
  have initial : (StagedAdapter.initial (.initial device admConfig ioConfig srbext slotCount)).Sound 1
      StagedAdapter.Notifying := .initial (.initial device admConfig ioConfig srbext slotCount (Nat.le_refl 1))
  have preserved : ∀ before event after, StagedAdapter.Sound 1 StagedAdapter.Notifying before →
      QuietStaged before event → before.step event = some after → after.Sound 1 StagedAdapter.Notifying :=
    fun _ _ _ sound quiet taken => sound.quiet_step quiet taken
  constructor
  · exact quiet.always (fun _ sound => sound.adapter.once) preserved initial
  · intro msgid after taken loud
    exact (Machine.run_invariant preserved initial quiet ran).notified_twice taken loud

instance (adapter : Adapter) : DecidablePred (QuietAdapter adapter)
  | .advance msgid event =>
      inferInstanceAs (Decidable (∀ queue ∈ adapter.host.queue msgid, QuietCallbacks (adapter.queuePair msgid queue) event))
  | .buildIo .. | .startIo .. | .command .. | .resetBus | .surpriseRemoval => isTrue trivial

instance (limit : Nat) (state : StagedAdapter) : DecidablePred (state.Quiet limit)
  | .adapter event => inferInstanceAs (Decidable (2 ≤ limit ∨ QuietAdapter state.adapter event))
  | .finish _ => isTrue trivial

/-- A firmware request and a read whose queue pairs take turns. StorPort delivers the
read again before `CompleteCmd` has cleaned up its extension. -/
def sampleRedelivered : List StagedEvent :=
  (sampleTraffic.take 11).map .adapter ++ [.finish 1, .adapter (.buildIo 1 sampleReadBlock), .finish 1]

theorem notified_once_redelivered :
    ∃ final, Machine.run StagedAdapter.step (.initial sampleIoAdapter) sampleRedelivered = some final ∧
      Machine.Always StagedAdapter.step (fun state => NotifiedOnce state.adapter) (.initial sampleIoAdapter)
        sampleRedelivered ∧
      ∀ msgid after, final.step (.adapter (.advance msgid .iterate)) = some after →
        ¬ QuietAdapter final.adapter (.advance msgid .iterate) →
        ∃ last, after.step (.finish msgid) = some last ∧ ¬ NotifiedOnce last.adapter := by
  have enabled : (Machine.run StagedAdapter.step (.initial sampleIoAdapter) sampleRedelivered).isSome = true := by
    decide +kernel
  obtain ⟨final, ran⟩ := Option.isSome_iff_exists.mp enabled
  have callbacks : Machine.Meets StagedAdapter.step (StagedAdapter.Quiet 1) (.initial sampleIoAdapter)
      sampleRedelivered := by decide +kernel
  have resets : Machine.Meets StagedAdapter.step (fun _ event => event ≠ .adapter .resetBus) (.initial sampleIoAdapter)
      sampleRedelivered := by
    refine .of_forall ?_ _
    simp [sampleRedelivered, sampleTraffic]
  have quiet : Machine.Meets StagedAdapter.step QuietStaged (.initial sampleIoAdapter) sampleRedelivered := by
    refine (callbacks.and resets).mono ?_
    rintro state event ⟨called, other⟩
    cases event with
    | finish msgid => trivial
    | adapter event =>
      refine ⟨called.resolve_left (by decide), ?_⟩
      cases event with
      | resetBus => exact absurd rfl other
      | _ => trivial
  exact ⟨final, ran, notified_once quiet ran⟩

/-- The firmware request goes through both entry points, and its command is answered. The
call of `CompleteCmd` calls the callback, and completes the request itself. -/
def sampleFirmwareCalled : List StagedEvent := sampleFirmwareRequest.map .adapter ++ [.finish 0]

theorem firmware_request_notified_twice :
    ¬ ∀ (device : CNvmeDevice) (admConfig : Option QueuePairConfig) (ioConfig : Nat → Option QueuePairConfig)
      (srbext : Nat → SrbExt) (slotCount : BitVec 3) (events : List StagedEvent) (final : StagedAdapter),
      Machine.run StagedAdapter.step (.initial (.initial device admConfig ioConfig srbext slotCount)) events = some final →
      NotifiedOnce final.adapter := by
  have observed : (Machine.run StagedAdapter.step (.initial sampleAdapter) sampleFirmwareCalled).map
      (fun state => (state.adapter.host.heap.srbext 0).notified) = some 2 := by decide +kernel
  intro always
  obtain ⟨final, ran, notified⟩ := Option.map_eq_some_iff.mp observed
  have once := always _ _ _ _ _ sampleFirmwareCalled final ran 0
  rw [notified] at once
  exact absurd once (by decide)

end SpcNvme
