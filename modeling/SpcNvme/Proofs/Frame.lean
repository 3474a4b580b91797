import SpcNvme.Proofs.QueuePairs

/-! Which extensions a step of the adapter leaves alone: all but the one it was
called for and those it takes out of a history slot. -/

namespace SpcNvme

section Calls
variable {host after : Host} {address other processor logpage : Nat} {memory : Memory}

private theorem Host.putSrbExt_other (host : Host) (srbext : SrbExt) (apart : other ≠ address) :
    (host.putSrbExt address srbext).heap.srbext other = host.heap.srbext other := by
  simp [Host.putSrbExt, apart]

private theorem Host.completeSrb_other (host : Host) (status : SrbStatus) (apart : other ≠ address) :
    (host.completeSrb address status).heap.srbext other = host.heap.srbext other := by
  simp [Host.completeSrb, apart]

theorem hwBuildIo_other {srb : Srb} (apart : other ≠ address) :
    (host.hwBuildIo address srb).2.heap.srbext other = host.heap.srbext other := by
  have delivered := host.putSrbExt_other (.init (some srb)) apart
  have completed : ∀ (host : Host) (status : SrbStatus),
      (host.completeSrb address status).heap.srbext other = host.heap.srbext other :=
    fun host status => host.completeSrb_other status apart
  simp only [Host.hwBuildIo]
  split
  · rw [completed, delivered]
  · split
    · rw [completed, delivered]
    · split
      · unfold Host.buildIoScsiHandler
        split
        · exact delivered
        · rw [completed, delivered]
      · split
        · exact delivered
        · split
          · unfold Host.buildIoSrbPnpHandler
            split
            · rw [completed, delivered]
            · split
              · rw [completed, delivered]
              · rw [completed, teardown_heap, shutdownController_heap, delivered]
              · rw [completed, teardown_heap, delivered]
              · rw [completed, delivered]
          · rw [completed, delivered]

private theorem acceptedHeap_other {queue : CNvmeQueue} {heap : Heap} (apart : other ≠ address)
    (unreplaced : ∀ old, queue.history.history (heap.srbext address).nvmeCmd.cid.toNat = some old → old.address ≠ other) :
    (Host.acceptedHeap queue heap address).srbext other = heap.srbext other := by
  simp only [Host.acceptedHeap, CNvmeQueue.setSubIndex, Heap.put_srbext, Function.update_of_ne apart,
    CNvmeQueue.releaseOld]
  split
  · rfl
  · next old held =>
    have elsewhere : other ≠ old.address := Ne.symm (unreplaced old held)
    simp [elsewhere]

private theorem resetUpTo_other {table : CCmdHistory} {heap : Heap} {count : Nat}
    (unheld : ∀ cid, cid < count → ∀ srbext, table.history cid = some srbext → srbext.address ≠ other) :
    (table.resetUpTo heap count).2.srbext other = heap.srbext other := by
  induction count with
  | zero => rfl
  | succ count ih =>
    have earlier := ih (fun cid inside => unheld cid (Nat.lt_succ_of_lt inside))
    have untouched : (table.resetUpTo heap count).1.history count = table.history count := by
      simp [resetUpTo_table]
    simp only [CCmdHistory.resetUpTo, untouched]
    cases held : table.history count with
    | none => exact earlier
    | some srbext =>
      have elsewhere : other ≠ srbext.address := Ne.symm (unheld count (Nat.lt_succ_self count) srbext held)
      simpa [elsewhere] using earlier

private theorem resetAllCmd_other {queue : CNvmeQueue} {heap : Heap}
    (unheld : ∀ cid, cid < queue.history.depth → ∀ srbext, queue.history.history cid = some srbext →
      srbext.address ≠ other) :
    (queue.resetAllCmd heap).2.srbext other = heap.srbext other :=
  resetUpTo_other unheld

private theorem resetIoQueues_other {count : Nat} (returned : host.resetIoQueues count = some after)
    (unheld : ∀ msgid cid srbext, host.slots msgid cid = some srbext → srbext.address ≠ other) :
    after.heap.srbext other = host.heap.srbext other := by
  induction count generalizing after with
  | zero =>
    cases returned
    rfl
  | succ count ih =>
    simp only [Host.resetIoQueues] at returned
    split at returned
    · cases returned
    · next earlier ran =>
      split at returned
      · cases returned
      · next queue selected =>
        cases returned
        rw [← ih ran]
        apply resetAllCmd_other
        -- the queue is still as it was before the loop
        have present : earlier.queue (count + 1) = some queue := selected
        obtain ⟨old, was, same | ⟨below, _⟩⟩ := resetIoQueues_queue ran present
        · subst same
          intro cid _ srbext held
          apply unheld (count + 1) cid
          rw [Host.slots_of_queue was]
          exact held
        · exact absurd below (Nat.lt_irrefl count)

private theorem hwResetBus_other (returned : host.hwResetBus = some after)
    (unheld : ∀ msgid cid srbext, host.slots msgid cid = some srbext → srbext.address ≠ other) :
    after.heap.srbext other = host.heap.srbext other := by
  simp only [Host.hwResetBus, Host.resetOutstandingCmds] at returned
  split at returned
  · cases returned
    rfl
  · split at returned
    · cases returned
      rfl
    · next admin selected =>
      obtain ⟨last, ran, rfl⟩ := Option.map_eq_some_iff.mp returned
      have present : host.queue 0 = some admin := selected
      have table := resetUpTo_table admin.history host.heap admin.history.depth
      have reset : ∀ cid srbext, (admin.resetAllCmd host.heap).1.history.history cid = some srbext →
          host.slots 0 cid = some srbext := by
        intro cid srbext held
        rw [Host.slots_of_queue present]
        simp only [CNvmeQueue.resetAllCmd, CCmdHistory.reset, (CNvmeQueue.fastForward_frame _ _).1, table] at held
        split at held
        · cases held
        · exact held
      have adminReset : (admin.resetAllCmd host.heap).2.srbext other = host.heap.srbext other := by
        apply resetAllCmd_other
        intro cid _ srbext held
        apply unheld 0 cid
        rw [Host.slots_of_queue present]
        exact held
      have looped := @resetIoQueues_other _ _ other _ ran ?_
      · exact Eq.trans looped adminReset
      · intro msgid cid srbext held
        by_cases zero : msgid = 0
        · subst zero
          exact unheld 0 cid srbext (reset cid srbext held)
        · apply unheld msgid cid
          simpa [Host.slots, Host.queue, zero, Host.setState] using held

end Calls

/-- The extensions a step may write to. -/
def AdapterEvent.Touches (before : Adapter) (address : Nat) : AdapterEvent → Prop
  | .buildIo target _ => target = address
  | .startIo target .. => target = address ∨ ∃ msgid srbext, srbext.address = address ∧
      before.host.slots msgid (before.host.heap.srbext target).cid.toNat = some srbext
  | .command target cmd => target = address ∨ ∃ srbext, srbext.address = address ∧
      before.host.slots 0 cmd.cid.toNat = some srbext
  | .resetBus => ∃ msgid cid srbext, srbext.address = address ∧ before.host.slots msgid cid = some srbext
  | .advance msgid .iterate => ∃ queue loop srbext, srbext.address = address ∧ before.host.queue msgid = some queue ∧
      before.loops msgid = some loop ∧ queue.popped loop = some srbext
  | _ => False

theorem Host.Started.other {host after : Host} {memory : Memory} {address processor logpage other : Nat}
    (started : host.Started memory address processor logpage after) (apart : other ≠ address)
    (unreplaced : ∀ msgid srbext, host.slots msgid (host.heap.srbext address).cid.toNat = some srbext →
      srbext.address ≠ other) : after.heap.srbext other = host.heap.srbext other := by
  cases started with
  | answered => rw [Host.completeSrb_other _ _ apart, Host.putSrbExt_other _ _ apart]
  | @readWrite offset len queue _ _ _ accepts =>
    have built : (host.withReadWrite memory address offset len).heap.srbext other = host.heap.srbext other :=
      Host.putSrbExt_other _ _ apart
    rw [← built]
    refine Eq.trans (acceptedHeap_other apart ?_) (by simp [Host.indexedHeap, apart])
    intro old held
    rw [Host.indexedHeap_nvmeCmd, host.withReadWrite_cid] at held
    apply unreplaced _ old
    rw [Host.slots_of_queue (show host.queue _ = some queue from accepts.queue)]
    exact held
  | @firmware queue _ accepts =>
    have built : (host.withFirmwareInfo memory address logpage).heap.srbext other = host.heap.srbext other :=
      Host.putSrbExt_other _ _ apart
    rw [← built]
    refine acceptedHeap_other apart ?_
    intro old held
    rw [host.withFirmwareInfo_cid] at held
    apply unreplaced 0 old
    rw [Host.slots_of_queue (show host.queue _ = some queue from accepts.queue)]
    exact held

private theorem Adapter.command_other {before : Adapter} {address other : Nat} {cmd : NvmeCommand} (apart : other ≠ address)
    (unreplaced : ∀ srbext, before.host.slots 0 cmd.cid.toNat = some srbext → srbext.address ≠ other) :
    (before.command address cmd).host.heap.srbext other = before.host.heap.srbext other := by
  let ready := before.host.putSrbExt address { SrbExt.init none with nvmeCmd := cmd }
  have sent : (ready.heap.srbext address).nvmeCmd = cmd := by simp [ready, Host.putSrbExt]
  have delivered : ready.heap.srbext other = before.host.heap.srbext other := Host.putSrbExt_other _ _ apart
  rw [← delivered]
  rcases ready.submitAdmCmd_spec address with ⟨queue, accepts, called⟩ | ⟨_, status, fails, called⟩
  · simp only [Adapter.command, ready] at called ⊢
    rw [called]
    refine acceptedHeap_other apart ?_
    intro old held
    apply unreplaced old
    rw [Host.slots_of_queue (show before.host.queue 0 = some queue from accepts.queue), ← sent]
    exact held
  · simp only [Adapter.command, ready] at called ⊢
    rw [called, fails]
    exact Host.putSrbExt_other _ _ apart

private theorem System.step_other {before after : System} {event : Event} {other : Nat} (own : event.ofQueuePair = true)
    (taken : before.step event = some after)
    (unpopped : event = .iterate → ∀ loop, before.loop = some loop → ∀ srbext, before.queue.popped loop = some srbext →
      srbext.address ≠ other) : after.heap.srbext other = before.heap.srbext other := by
  cases System.step_transition taken with
  | accepted => cases own
  | refused => cases own
  | fetched => rfl
  | posted => rfl
  | entered => rfl
  | @iterated loop running arrived more =>
    simp only [System.iterated, CNvmeQueue.poppedHeap]
    split
    · rfl
    · next srbext popped => exact finishSrbExt_other _ _ (Ne.symm (unpopped rfl loop running srbext popped))
  | left => rfl
  | reset => cases own
  | scribbled => cases own

/-- A step leaves every extension alone that it does not touch. -/
theorem Adapter.step_frame {before after : Adapter} {event : AdapterEvent} {address : Nat}
    (taken : before.step event = some after) (untouched : ¬ event.Touches before address) :
    after.host.heap.srbext address = before.host.heap.srbext address := by
  cases event with
  | buildIo target srb =>
    obtain ⟨_, rfl⟩ := Adapter.step_buildIo taken
    exact hwBuildIo_other (Ne.symm untouched)
  | startIo target processor logpage memory =>
    obtain ⟨_, host, returned, rfl⟩ := Adapter.step_startIo taken
    apply (hwStartIo_started returned).other
    · intro same
      exact untouched (.inl same.symm)
    · intro msgid srbext held same
      exact untouched (.inr ⟨msgid, srbext, same, held⟩)
  | command target cmd =>
    obtain ⟨_, rfl⟩ := Adapter.step_command taken
    apply Adapter.command_other
    · intro same
      exact untouched (.inl same.symm)
    · intro srbext held same
      exact untouched (.inr ⟨srbext, same, held⟩)
  | resetBus =>
    obtain ⟨host, returned, rfl⟩ := Adapter.step_resetBus taken
    apply hwResetBus_other returned
    intro msgid cid srbext held same
    exact untouched ⟨msgid, cid, srbext, same, held⟩
  | surpriseRemoval =>
    cases taken
    rw [teardown_heap]
  | advance msgid event =>
    obtain ⟨queue, present, own, next, stepped, rfl⟩ := Adapter.step_advance taken
    refine System.step_other own stepped ?_
    intro iterates loop running srbext popped same
    subst iterates
    exact untouched ⟨queue, loop, srbext, same, present, running, popped⟩

/-- An extension whose command is outstanding before and after a step is left alone,
unless the step resets the bus or puts another command into its slot. -/
theorem Adapter.held_untouched {before after : Adapter} {event : AdapterEvent} {pairs : Nat → Prop} {msgid cid : Nat}
    {srbext : SrbExtPtr} (sound : before.Sound 2) (selected : pairs msgid) (unused : TagUnused pairs before event)
    (taken : before.step event = some after) (held : before.host.slots msgid cid = some srbext)
    (still : after.host.slots msgid cid = some srbext) : ¬ event.Touches before srbext.address := by
  have here : Holds before.host.slots before.waiting (.slot msgid cid) srbext.address := by simp [Holds, held]
  have only : ∀ other tag found, before.host.slots other tag = some found → found.address = srbext.address →
      other = msgid ∧ tag = cid := by
    intro other tag found also same
    have there : Holds before.host.slots before.waiting (.slot other tag) srbext.address := by simp [Holds, also, same]
    simpa using sound.custody.exclusive there here
  have busy : ∀ target, before.idle target = true → target ≠ srbext.address :=
    fun target idle same => sound.free_of_idle idle (.slot msgid cid) (same ▸ here)
  intro touches
  cases event with
  | buildIo target srb => exact busy target (Adapter.step_buildIo taken).1 touches
  | startIo target processor logpage memory =>
    rcases touches with rfl | ⟨pair, found, same, also⟩
    · have there : Holds before.host.slots before.waiting .startIo srbext.address := (Adapter.step_startIo taken).1
      exact absurd (sound.custody.exclusive there here) (by simp)
    · obtain ⟨rfl, _⟩ := only _ _ found also same
      obtain ⟨queue, present, slot⟩ := Option.bind_eq_some_iff.mp also
      exact absurd (slot.symm.trans (unused pair queue selected present)) (by simp)
  | command target cmd =>
    rcases touches with rfl | ⟨found, same, also⟩
    · exact busy _ (Adapter.step_command taken).1 rfl
    · obtain ⟨rfl, _⟩ := only _ _ found also same
      obtain ⟨queue, present, slot⟩ := Option.bind_eq_some_iff.mp also
      exact absurd (slot.symm.trans (unused queue selected present)) (by simp)
  | resetBus => exact unused
  | surpriseRemoval => exact touches
  | advance pair own =>
    cases own with
    | iterate =>
      obtain ⟨queue, loop, found, same, present, running, popped⟩ := touches
      have inside := (sound.inRange pair queue present).cplQ loop.cpl
      have slot := popped
      rw [popped_of_lt inside] at slot
      obtain ⟨rfl, rfl⟩ := only pair _ found (by rw [Host.slots_of_queue present]; exact slot) same
      -- the step empties the slot
      obtain ⟨again, also, _, next, stepped, rfl⟩ := Adapter.step_advance taken
      obtain rfl := Option.some.inj (present.symm.trans also)
      rw [Host.slots, Adapter.queue_withQueuePair, Function.update_self, Option.bind_some] at still
      cases System.step_transition stepped with
      | @iterated turn moving arrived more =>
        obtain rfl := Option.some.inj (running.symm.trans moving)
        simp only [System.iterated, CNvmeQueue.consume_history, Adapter.queuePair, poppedHistory_of_lt inside,
          Function.update_self] at still
        cases still
    | _ => exact touches

def AdapterEvent.DeliversTo (address : Nat) : AdapterEvent → Prop
  | .buildIo target _ | .command target _ => target = address
  | _ => False

/-- An extension that is in no place is left alone until something is delivered in it. -/
theorem Adapter.free_untouched {limit : Nat} {before after : Adapter} {event : AdapterEvent} {address : Nat}
    (sound : before.Sound limit) (free : Custody.Free (Holds before.host.slots before.waiting) address)
    (apart : ¬ event.DeliversTo address) (taken : before.step event = some after) : ¬ event.Touches before address := by
  have unheld : ∀ msgid cid srbext, before.host.slots msgid cid = some srbext → srbext.address ≠ address := by
    intro msgid cid srbext held same
    exact free (.slot msgid cid) (by simp [Holds, held, same])
  intro touches
  cases event with
  | buildIo => exact apart touches
  | startIo target processor logpage memory =>
    rcases touches with rfl | ⟨msgid, srbext, same, held⟩
    · exact free .startIo (Adapter.step_startIo taken).1
    · exact unheld _ _ srbext held same
  | command =>
    rcases touches with same | ⟨srbext, same, held⟩
    · exact apart same
    · exact unheld _ _ srbext held same
  | resetBus =>
    obtain ⟨msgid, cid, srbext, same, held⟩ := touches
    exact unheld msgid cid srbext held same
  | surpriseRemoval => exact touches
  | advance msgid own =>
    cases own with
    | iterate =>
      obtain ⟨queue, loop, srbext, same, present, _, popped⟩ := touches
      rw [popped_of_lt ((sound.inRange msgid queue present).cplQ loop.cpl)] at popped
      exact unheld msgid _ srbext (by rw [Host.slots_of_queue present]; exact popped) same
    | _ => exact touches

theorem Adapter.unused_untouched {before after : Adapter} {event : AdapterEvent} {address : Nat} (sound : before.Sound 2)
    (unused : ¬ Outstanding before.host.heap address) (apart : ¬ event.DeliversTo address)
    (taken : before.step event = some after) : ¬ event.Touches before address := by
  refine Adapter.free_untouched sound ?_ apart taken
  intro place held
  exact unused (sound.custody.live held)

theorem Adapter.step_waiting {before after : Adapter} {event : AdapterEvent} {address : Nat}
    (taken : before.step event = some after) (waits : after.waiting address = true) :
    before.waiting address = true ∨ ∃ srb, event = .buildIo address srb := by
  cases event with
  | buildIo target srb =>
    obtain ⟨_, rfl⟩ := Adapter.step_buildIo taken
    by_cases same : address = target
    · exact .inr ⟨srb, same ▸ rfl⟩
    · exact .inl (by simpa [Adapter.buildIo, same] using waits)
  | startIo target processor logpage memory =>
    obtain ⟨_, host, _, rfl⟩ := Adapter.step_startIo taken
    by_cases same : address = target
    · simp [same] at waits
    · exact .inl (by simpa [same] using waits)
  | command target cmd =>
    obtain ⟨_, rfl⟩ := Adapter.step_command taken
    exact .inl waits
  | resetBus =>
    obtain ⟨_, _, rfl⟩ := Adapter.step_resetBus taken
    exact .inl waits
  | surpriseRemoval =>
    cases taken
    exact .inl waits
  | advance =>
    obtain ⟨_, _, _, _, _, rfl⟩ := Adapter.step_advance taken
    exact .inl waits

section Places
variable {before after : Adapter} {event : AdapterEvent} {address : Nat}

theorem AdapterEvent.Sends.source {msgid : Nat} {cmd : NvmeCommand} (sends : event.Sends before msgid address cmd)
    (taken : before.step event = some after) : before.waiting address = true ∨ event.DeliversTo address := by
  cases event with
  | startIo target processor logpage memory =>
    obtain ⟨rfl, _⟩ := sends
    exact .inl (Adapter.step_startIo taken).1
  | command target sent => exact .inr sends.2.1
  | _ => exact sends.elim

theorem Adapter.step_free (free : Custody.Free (Holds before.host.slots before.waiting) address)
    (apart : ¬ event.DeliversTo address) (taken : before.step event = some after) :
    Custody.Free (Holds after.host.slots after.waiting) address := by
  have unheld : ∀ msgid queue cid srbext, before.host.queue msgid = some queue →
      queue.history.history cid = some srbext → srbext.address ≠ address := by
    intro msgid queue cid srbext present held same
    exact free (.slot msgid cid) (by simp [Holds, Host.slots_of_queue present, held, same])
  intro place held
  cases place with
  | startIo =>
    rcases Adapter.step_waiting taken held with waits | ⟨srb, rfl⟩
    · exact free .startIo waits
    · exact apart rfl
  | slot msgid cid =>
    obtain ⟨srbext, slot, same⟩ := Option.map_eq_some_iff.mp held
    obtain ⟨queue, present, filled⟩ := Option.bind_eq_some_iff.mp slot
    cases Adapter.step_pair taken msgid with
    | kept fewer => exact unheld msgid queue cid srbext (fewer queue present) filled same
    | @submitted _ _ target old cmd sends was _ found =>
      obtain rfl := Option.some.inj (found.symm.trans present)
      rw [CNvmeQueue.accept_history] at filled
      by_cases here : cid = cmd.cid.toNat
      · rw [here, Function.update_self, Option.some.injEq] at filled
        obtain rfl : target = address := by rw [← same, ← filled]
        rcases sends.source taken with waits | delivers
        · exact free .startIo waits
        · exact apart delivers
      · rw [Function.update_of_ne here] at filled
        exact unheld msgid old cid srbext was filled same
    | @reset _ old heap was found =>
      obtain rfl := Option.some.inj (found.symm.trans present)
      rw [resetAllCmd_slot] at filled
      split at filled
      · cases filled
      · exact unheld msgid old cid srbext was filled same
    | @advanced own next old was ofPair stepped =>
      rw [Adapter.queue_withQueuePair, Function.update_self, Option.some.injEq] at present
      subst present
      exact unheld msgid old cid srbext was (System.step_history ofPair stepped cid srbext filled) same

end Places

end SpcNvme
