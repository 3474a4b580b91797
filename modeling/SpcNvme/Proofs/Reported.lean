import SpcNvme.Proofs.DataPath

/-! What the driver hears about a transfer against what was transferred. When the
completion loop takes a command out of a queue with an entry that says success, its
request has been carried out, exactly once. -/

namespace SpcNvme

def CplSlot.successOf (slot : CplSlot) : Option Nat :=
  if slot.entry.status.sct = 0 ∧ slot.entry.status.sc = 0 then slot.answers else none

def Deed.numberOf (msgid : Nat) : Deed → Option Nat
  | request pair number _ => if pair = msgid then some number else none
  | store .. => none

def carriedOutOf (msgid : Nat) (deeds : List Deed) : List Nat := deeds.filterMap (Deed.numberOf msgid)

def DataPath.newlyOf (state : DataPath) (msgid : Nat) (event : AdapterEvent) : List Nat :=
  match state.carriesOut event with
  | none => []
  | some (pair, submission) => if pair = msgid then [submission.srbext.submission] else []

private theorem System.step_posted {before after : System} {event : Event} (own : event.ofQueuePair = true)
    (silent : ∀ index reply, event ≠ .post index reply) (taken : before.step event = some after) :
    after.device.posted = before.device.posted := by
  cases System.step_transition taken with
  | accepted => cases own
  | refused => cases own
  | fetched => rfl
  | @posted index reply => exact absurd rfl (silent index reply)
  | entered => rfl
  | iterated => rfl
  | left => rfl
  | reset => cases own
  | scribbled => cases own

private theorem Adapter.step_controllers {before after : Adapter} {event : AdapterEvent}
    (others : ∀ msgid own, event ≠ .advance msgid own) (taken : before.step event = some after) :
    after.controllers = before.controllers := by
  cases event with
  | buildIo =>
    obtain ⟨_, rfl⟩ := Adapter.step_buildIo taken
    rfl
  | startIo =>
    obtain ⟨_, _, _, rfl⟩ := Adapter.step_startIo taken
    rfl
  | command =>
    obtain ⟨_, rfl⟩ := Adapter.step_command taken
    rfl
  | resetBus =>
    obtain ⟨_, _, rfl⟩ := Adapter.step_resetBus taken
    rfl
  | surpriseRemoval =>
    cases taken
    rfl
  | advance msgid own => exact absurd rfl (others msgid own)

private theorem reply_successOf (device : Controller) (submission : Submission) (reply : Reply) :
    (device.answer submission reply).successOf = if reply.succeeds then some submission.srbext.submission else none := by
  by_cases good : reply.sct = 0 ∧ reply.sc = 0
  · simp [CplSlot.successOf, Controller.answer, Reply.succeeds, good]
  · have bad : reply.succeeds = false := by simpa [Reply.succeeds] using good
    simp only [CplSlot.successOf, Controller.answer, bad]
    exact if_neg good

private theorem posted_step {before : DataPath} {event : AdapterEvent} {next : Adapter} {msgid : Nat} (nonzero : msgid ≠ 0)
    (taken : before.adapter.step event = some next) :
    (next.controllers msgid).posted.filterMap CplSlot.successOf =
      (before.adapter.controllers msgid).posted.filterMap CplSlot.successOf ++ before.newlyOf msgid event := by
  cases event with
  | advance pair own =>
    obtain ⟨queue, present, ofPair, after, stepped, rfl⟩ := Adapter.step_advance taken
    by_cases here : msgid = pair
    · subst here
      have device : (before.adapter.withQueuePair msgid after).controllers msgid = after.device := by
        simp [Adapter.withQueuePair]
      rw [device]
      cases own with
      | post index reply =>
        cases System.step_transition stepped with
        | @posted _ _ submission pending =>
          have there : (before.adapter.controllers msgid).pending[index]? = some submission := pending
          simp only [System.post, Controller.advance, Adapter.queuePair, List.filterMap_append, List.filterMap_cons,
            reply_successOf, DataPath.newlyOf, DataPath.carriesOut, nonzero, there, ne_eq, not_false_eq_true, true_and,
            Option.map_some]
          cases reply.succeeds <;> simp
      | _ =>
        have posted := System.step_posted ofPair (by simp) stepped
        simp only [posted, Adapter.queuePair, DataPath.newlyOf, DataPath.carriesOut, List.append_nil]
    · have device : (before.adapter.withQueuePair pair after).controllers msgid = before.adapter.controllers msgid := by
        simp [Adapter.withQueuePair, here]
      rw [device]
      have none : before.newlyOf msgid (.advance pair own) = [] := by
        cases own with
        | post index reply =>
          simp only [DataPath.newlyOf, DataPath.carriesOut]
          split
          · rfl
          · next found =>
            split at found
            · obtain ⟨submission, _, same⟩ := Option.map_eq_some_iff.mp found
              cases same
              exact if_neg (Ne.symm here)
            · cases found
        | _ => rfl
      rw [none, List.append_nil]
  | _ =>
    rw [Adapter.step_controllers (by simp) taken]
    exact (List.append_nil _).symm

private theorem record_step {setting : DmaSetting} {device : CNvmeDevice} {start : BlockDevice.State (BitVec 8)} {before : DataPath}
    {event : AdapterEvent} {next : Adapter} (serves : ServesData setting device start before)
    (taken : before.adapter.step event = some next) (msgid : Nat) :
    carriedOutOf msgid (before.record event) = carriedOutOf msgid before.performed ++ before.newlyOf msgid event := by
  cases executes : before.carriesOut event with
  | none => simp only [DataPath.record, DataPath.newlyOf, executes, List.append_nil]
  | some found =>
    obtain ⟨pair, submission⟩ := found
    obtain ⟨srb, offset, len, memory, page, carried⟩ := serves.carriedOut executes taken
    simp only [DataPath.record, DataPath.newlyOf, executes, carried.request, Option.toList_some, List.map_cons, List.map_nil,
      carriedOutOf, List.filterMap_append, List.filterMap_cons, List.filterMap_nil, Deed.numberOf]
    by_cases here : pair = msgid
    · simp only [here, if_true]
    · simp only [here, if_false]

private theorem record_mono (state : DataPath) (event : AdapterEvent) {deed : Deed} (member : deed ∈ state.performed) :
    deed ∈ state.record event := by
  unfold DataPath.record
  split
  · exact member
  · exact List.mem_append_left _ member

private theorem ServesData.newly_performed {setting : DmaSetting} {device : CNvmeDevice} {start : BlockDevice.State (BitVec 8)}
    {before : DataPath} {event : AdapterEvent} {next : Adapter} {msgid : Nat} {queue : CNvmeQueue} {submission : Submission}
    (serves : ServesData setting device start before) (nonzero : msgid ≠ 0)
    (present : before.adapter.host.queue msgid = some queue) (taken : before.adapter.step event = some next)
    (member : submission ∈ queue.trace.submitted) (now : submission.srbext.submission ∈ before.newlyOf msgid event) :
    ∃ srb, (before.adapter.host.heap.srbext submission.srbext.address).srb = some srb ∧
      .request msgid submission.srbext.submission srb ∈ before.record event := by
  cases executes : before.carriesOut event with
  | none => simp [DataPath.newlyOf, executes] at now
  | some found =>
    obtain ⟨pair, other⟩ := found
    simp only [DataPath.newlyOf, executes] at now
    split at now
    · next same =>
      subst same
      obtain ⟨_, again, there, pending⟩ := ServesData.carriesOut_pending executes taken
      obtain rfl := Option.some.inj (present.symm.trans there)
      have traced := serves.traced pair queue nonzero present
      have also := traced.orderly.steady.conformed.pending other pending
      obtain rfl : submission = other := submission_eq_of_numbered traced.orderly.steady.layout.host.numbered member also
        (List.mem_singleton.mp now)
      obtain ⟨srb, offset, len, memory, page, carried⟩ := serves.carriedOut executes taken
      refine ⟨srb, carried.request, ?_⟩
      simp [DataPath.record, executes, carried.request]
    · cases now

/-- The record against what the controllers report: the same commands in the same
order, and for one that is still outstanding the request of its extension. -/
structure Reported (state : DataPath) : Prop where
  numbers : ∀ msgid, msgid ≠ 0 → carriedOutOf msgid state.performed =
    (state.adapter.controllers msgid).posted.filterMap CplSlot.successOf
  requests : ∀ msgid queue, msgid ≠ 0 → state.adapter.host.queue msgid = some queue →
    ∀ submission ∈ queue.trace.submitted, queue.history.history submission.cmd.cid.toNat = some submission.srbext →
      submission.srbext.submission ∈ carriedOutOf msgid state.performed →
      ∃ srb, (state.adapter.host.heap.srbext submission.srbext.address).srb = some srb ∧
        .request msgid submission.srbext.submission srb ∈ state.performed

namespace Reported
variable {setting : DmaSetting} {device : CNvmeDevice} {start : BlockDevice.State (BitVec 8)} {before after : DataPath}

theorem initial (device : CNvmeDevice) (admConfig : Option QueuePairConfig) (ioConfig : Nat → Option QueuePairConfig)
    (srbext : Nat → SrbExt) (slotCount : BitVec 3) (storage : Storage) :
    Reported ⟨.initial device admConfig ioConfig srbext slotCount, storage, []⟩ where
  numbers := fun _ _ => rfl
  requests := fun _ _ _ _ _ _ _ member => absurd member List.not_mem_nil

private theorem number_lt {msgid : Nat} {queue : CNvmeQueue} (reported : Reported before) (nonzero : msgid ≠ 0)
    (traced : Traced (before.adapter.queuePair msgid queue)) {number : Nat}
    (member : number ∈ carriedOutOf msgid before.performed) : number < queue.trace.submitted.length := by
  rw [reported.numbers msgid nonzero] at member
  obtain ⟨slot, posted, success⟩ := List.mem_filterMap.mp member
  have answers : slot.answers = some number := by
    simp only [CplSlot.successOf] at success
    split at success
    · exact success
    · cases success
  have delivered := traced.orderly.delivered
  have there : some number ∈ (List.range (before.adapter.controllers msgid).fetched).map some := by
    apply delivered.once.mem_iff.mp
    apply List.mem_append_right
    rw [← answers]
    exact List.mem_map_of_mem posted
  have fetched := traced.orderly.steady.layout.device.fetched
  obtain ⟨other, inside, same⟩ := List.mem_map.mp there
  cases same
  exact Nat.lt_of_lt_of_le (List.mem_range.mp inside) fetched

theorem step {event : DataEvent} (reported : Reported before) (serves : ServesData setting device start before)
    (obeys : before.Obeys setting device event) (taken : before.step event = some after) : Reported after := by
  cases event with
  | store memory address value =>
    cases taken
    have same : ∀ msgid, carriedOutOf msgid (before.performed ++ [.store address value]) =
        carriedOutOf msgid before.performed := by
      intro msgid
      simp [carriedOutOf, Deed.numberOf]
    refine ⟨?_, ?_⟩
    · intro msgid nonzero
      rw [same]
      exact reported.numbers msgid nonzero
    · intro msgid queue nonzero present submission member held done
      rw [same] at done
      obtain ⟨srb, request, performed⟩ := reported.requests msgid queue nonzero present submission member held done
      exact ⟨srb, request, List.mem_append_left _ performed⟩
  | adapter event =>
    obtain ⟨unused, _⟩ := obeys
    obtain ⟨next, moves, rfl⟩ := Option.map_eq_some_iff.mp taken
    refine ⟨?_, ?_⟩
    · intro msgid nonzero
      simp only
      rw [record_step serves moves, posted_step nonzero moves, reported.numbers msgid nonzero]
    · intro msgid queue nonzero found submission member held done
      rcases serves.traced.held_before unused nonzero moves found member held with
        ⟨old, present, earlier, was⟩ | ⟨old, sends, present, rfl⟩
      · have slot : before.adapter.host.slots msgid submission.cmd.cid.toNat = some submission.srbext := by
          rw [Host.slots_of_queue present]
          exact was
        have still : next.host.slots msgid submission.cmd.cid.toNat = some submission.srbext := by
          rw [Host.slots_of_queue found]
          exact held
        have untouched := @Adapter.held_untouched _ _ _ (· ≠ 0) _ _ _ serves.sound nonzero unused moves slot still
        simp only at done ⊢
        rw [Adapter.step_frame moves untouched]
        rw [record_step serves moves, List.mem_append] at done
        rcases done with before | now
        · obtain ⟨srb, request, performed⟩ := reported.requests msgid old nonzero present submission earlier was before
          exact ⟨srb, request, record_mono _ event performed⟩
        · exact serves.newly_performed nonzero present moves earlier now
      · -- a new number is higher than any answered one
        rw [CNvmeQueue.accept_history, Function.update_self, Option.some.injEq] at held
        have newest : old.trace.submitted.length = submission.srbext.submission := congrArg SrbExtPtr.submission held
        have none : before.newlyOf msgid event = [] := by
          cases event with
          | startIo => rfl
          | command => rfl
          | _ => exact sends.elim
        simp only at done
        rw [record_step serves moves, none, List.append_nil] at done
        have below := reported.number_lt nonzero (serves.traced msgid old nonzero present) done
        omega

end Reported

private theorem nodup_successOf {state : System} (delivered : Delivered state) :
    (state.device.posted.filterMap CplSlot.successOf).Nodup := by
  have all : ((List.range state.device.fetched).map some).Nodup := List.nodup_range.map (Option.some_injective Nat)
  have answered := (List.nodup_append.mp (delivered.once.nodup_iff.mpr all)).2.1
  have parts : state.device.posted.filterMap CplSlot.successOf =
      ((state.device.posted.filter fun slot => slot.entry.status.sct = 0 ∧ slot.entry.status.sc = 0).map
        CplSlot.answers).filterMap id := by
    rw [List.filterMap_map, List.filterMap_filter]
    apply List.filterMap_congr
    intro slot _
    simp only [CplSlot.successOf, decide_eq_true_eq]
    rfl
  rw [parts]
  refine List.Nodup.filterMap ?_ ((List.filter_sublist.map CplSlot.answers).nodup answered)
  intro first second number one two
  exact one.trans two.symm

/-- In every run of the data path: when the completion loop of an I/O queue takes a
command out with an entry that says success, the request that is in its extension at
that moment has been carried out, and exactly once. -/
theorem success_means_carried_out {setting : DmaSetting} {device : CNvmeDevice} {admConfig : Option QueuePairConfig}
    {ioConfig : Nat → Option QueuePairConfig} {srbext : Nat → SrbExt} {slotCount : BitVec 3} {storage : Storage}
    {start : BlockDevice.State (BitVec 8)} {events : List DataEvent} {final : DataPath} {after : Adapter} {msgid : Nat}
    {queue : CNvmeQueue} {loop : CompleteLoop} {pointer : SrbExtPtr}
    (deep : ∀ index config, ioConfig index = some config → safeSubmitThreshold < config.depth)
    (shows : Shows setting storage start)
    (obeys : Machine.Meets DataPath.step (DataPath.Obeys setting device)
      ⟨.initial device admConfig ioConfig srbext slotCount, storage, []⟩ events)
    (ran : Machine.run DataPath.step ⟨.initial device admConfig ioConfig srbext slotCount, storage, []⟩ events = some final)
    (nonzero : msgid ≠ 0) (taken : final.adapter.step (.advance msgid .iterate) = some after)
    (present : final.adapter.host.queue msgid = some queue) (running : final.adapter.loops msgid = some loop)
    (popped : queue.popped loop = some pointer)
    (success : (queue.cplQ loop.cpl).entry.status.sct = 0 ∧ (queue.cplQ loop.cpl).entry.status.sc = 0) :
    ∃ srb, (final.adapter.host.heap.srbext pointer.address).srb = some srb ∧
      .request msgid pointer.submission srb ∈ final.performed ∧
      (carriedOutOf msgid final.performed).count pointer.submission = 1 := by
  have kept : ∀ before event after, (ServesData setting device start before ∧ Reported before) →
      before.Obeys setting device event → before.step event = some after →
      ServesData setting device start after ∧ Reported after :=
    fun _ _ _ both obeys taken => ⟨both.1.step obeys taken, both.2.step both.1 obeys taken⟩
  obtain ⟨serves, reported⟩ := Machine.run_invariant kept
    ⟨.initial deep shows, .initial device admConfig ioConfig srbext slotCount storage⟩ obeys ran
  have traced := serves.traced msgid queue nonzero present
  obtain ⟨again, there, _, next, stepped, _⟩ := Adapter.step_advance taken
  obtain rfl := Option.some.inj (present.symm.trans there)
  have nothing : ReplacesNothing (final.adapter.queuePair msgid queue) .iterate := trivial
  have later : Traced next := traced.step ⟨rfl, rfl⟩ nothing stepped
  -- the entry answers the command that is popped, and the controller has posted it
  have consumed : ⟨queue.cplQ loop.cpl, some pointer⟩ ∈ next.queue.trace.consumed ∧
      next.device.posted = (final.adapter.controllers msgid).posted := by
    cases System.step_transition stepped with
    | @iterated turn moving arrived more =>
      obtain rfl := Option.some.inj (running.symm.trans moving)
      refine ⟨?_, rfl⟩
      simp only [System.iterated, CNvmeQueue.consume_consumed, List.mem_append, List.mem_singleton, Adapter.queuePair, popped]
      exact .inr trivial
  obtain ⟨member, same⟩ := consumed
  have answers := later.orderly.settled.own _ member pointer rfl
  obtain ⟨position, _, found⟩ := later.orderly.delivered.read _ member
  have posted : queue.cplQ loop.cpl ∈ (final.adapter.controllers msgid).posted := same ▸ List.mem_of_getElem? found
  have reports : (queue.cplQ loop.cpl).successOf = some pointer.submission := by
    rw [CplSlot.successOf, if_pos success]
    exact answers
  have done : pointer.submission ∈ carriedOutOf msgid final.performed := by
    rw [reported.numbers msgid nonzero]
    exact List.mem_filterMap.mpr ⟨queue.cplQ loop.cpl, posted, reports⟩
  -- the history still has the command, so its extension still has the request
  have inside := (serves.sound.inRange msgid queue present).cplQ loop.cpl
  rw [popped_of_lt inside] at popped
  obtain ⟨submission, accepted, rfl, cid⟩ := traced.orderly.held.mem popped
  rw [← cid] at popped
  obtain ⟨srb, request, performed⟩ := reported.requests msgid queue nonzero present submission accepted popped done
  refine ⟨srb, request, performed, List.count_eq_one_of_mem ?_ done⟩
  rw [reported.numbers msgid nonzero]
  exact nodup_successOf traced.orderly.delivered

/-- The write is reported after both requests were carried out. -/
theorem success_means_carried_out_overlap :
    ∃ final after queue loop pointer,
      Machine.run DataPath.step sampleDataPath (sampleBothStarted ++ sampleBothDone) = some final ∧
      final.adapter.step (.advance 1 .iterate) = some after ∧ final.adapter.host.queue 1 = some queue ∧
      final.adapter.loops 1 = some loop ∧ queue.popped loop = some pointer ∧
      ∃ srb, (final.adapter.host.heap.srbext pointer.address).srb = some srb ∧
        .request 1 pointer.submission srb ∈ final.performed ∧
        (carriedOutOf 1 final.performed).count pointer.submission = 1 := by
  have reached : ((Machine.run DataPath.step sampleDataPath (sampleBothStarted ++ sampleBothDone)).bind fun final =>
      (final.adapter.step (.advance 1 .iterate)).bind fun _ => (final.adapter.host.queue 1).bind fun queue =>
        (final.adapter.loops 1).bind fun loop =>
          if (queue.cplQ loop.cpl).entry.status.sct = 0 ∧ (queue.cplQ loop.cpl).entry.status.sc = 0 then
            queue.popped loop else none).isSome = true := by
    decide +kernel
  obtain ⟨pointer, found⟩ := Option.isSome_iff_exists.mp reached
  obtain ⟨final, ran, found⟩ := Option.bind_eq_some_iff.mp found
  obtain ⟨after, taken, found⟩ := Option.bind_eq_some_iff.mp found
  obtain ⟨queue, present, found⟩ := Option.bind_eq_some_iff.mp found
  obtain ⟨loop, running, found⟩ := Option.bind_eq_some_iff.mp found
  split at found
  · next success =>
    exact ⟨final, after, queue, loop, pointer, ran, taken, present, running, found,
      success_means_carried_out sampleQueue_deep sampleStart_shows sample_obeys ran (by simp) taken present running found
        success⟩
  · cases found

end SpcNvme
