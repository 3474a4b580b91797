import SpcNvme.Registers

/-! When the admin queue registers and the enable bit are written, for every
sequence of calls and whatever the controller does in between. -/

namespace SpcNvme

namespace NvmeRegisters

def Disabled (regs : NvmeRegisters) : Prop := regs.cc.en = false

instance (regs : NvmeRegisters) : Decidable regs.Disabled := inferInstanceAs (Decidable (_ = _))

def Down (regs : NvmeRegisters) : Prop := regs.cc.en = false ∧ regs.csts.rdy = false

instance (regs : NvmeRegisters) : Decidable regs.Down := inferInstanceAs (Decidable (_ ∧ _))

/-- What a controller does by itself: it leaves the registers of the host alone,
and gets ready only while it is enabled. -/
structure Moves (before after : NvmeRegisters) : Prop where
  cc : after.cc = before.cc
  aqa : after.aqa = before.aqa
  asq : after.asq = before.asq
  acq : after.acq = before.acq
  rises : after.csts.rdy = true → before.csts.rdy = true ∨ before.cc.en = true

instance (before after : NvmeRegisters) : Decidable (before.Moves after) :=
  decidable_of_iff (after.cc = before.cc ∧ after.aqa = before.aqa ∧ after.asq = before.asq ∧ after.acq = before.acq ∧
      (after.csts.rdy = true → before.csts.rdy = true ∨ before.cc.en = true))
    ⟨fun ⟨cc, aqa, asq, acq, rises⟩ => ⟨cc, aqa, asq, acq, rises⟩,
      fun moves => ⟨moves.cc, moves.aqa, moves.asq, moves.acq, moves.rises⟩⟩

theorem Moves.refl (regs : NvmeRegisters) : regs.Moves regs := ⟨rfl, rfl, rfl, rfl, .inl⟩

theorem Moves.trans {first second third : NvmeRegisters} (early : first.Moves second) (late : second.Moves third) :
    first.Moves third where
  cc := late.cc.trans early.cc
  aqa := late.aqa.trans early.aqa
  asq := late.asq.trans early.asq
  acq := late.acq.trans early.acq
  rises := by
    intro ready
    rcases late.rises ready with before | enabled
    · exact early.rises before
    · exact .inr (early.cc ▸ enabled)

/-- The rule of the specification: queue attributes and addresses change only
while the controller is down, and so does the enable bit from 0 to 1. -/
def Allows (regs : NvmeRegisters) : RegisterAccess → Prop
  | .writeAqa _ | .writeAsq _ | .writeAcq _ => regs.Down
  | .writeCc cc => cc.en = true → regs.Down
  | .readCc | .readCsts _ => True

instance (regs : NvmeRegisters) : ∀ op, Decidable (regs.Allows op)
  | .writeAqa _ | .writeAsq _ | .writeAcq _ => inferInstanceAs (Decidable regs.Down)
  | .writeCc cc => inferInstanceAs (Decidable (cc.en = true → regs.Down))
  | .readCc | .readCsts _ => isTrue trivial

/-- Where a function takes "not ready" for down: no fatal status hides a ready
controller, and `DisableController` does not find the controller on its way up. -/
def NotMistaken (regs : NvmeRegisters) : RegisterAccess → Prop
  | .readCsts .disableGuard => regs.csts.ready = false → regs.Down
  | .readCsts .disableWait | .readCsts .registerGuard | .readCsts .enableWait =>
      regs.cc.en = false → regs.csts.ready = false → regs.csts.rdy = false
  | _ => True

instance (regs : NvmeRegisters) : ∀ op, Decidable (regs.NotMistaken op)
  | .readCsts .disableGuard => inferInstanceAs (Decidable (regs.csts.ready = false → regs.Down))
  | .readCsts .disableWait | .readCsts .registerGuard | .readCsts .enableWait =>
      inferInstanceAs (Decidable (regs.cc.en = false → regs.csts.ready = false → regs.csts.rdy = false))
  | .readCsts .enableGuard | .readCsts .waitReady | .readCsts .report | .readCc | .writeCc _ | .writeAqa _
  | .writeAsq _ | .writeAcq _ => isTrue trivial

end NvmeRegisters

open NvmeRegisters

def registerContract : Contract RegisterAccess.Answer NvmeRegisters where
  execute := NvmeRegisters.execute
  moves := Moves
  expected := NotMistaken
  good := Allows
  refl := Moves.refl
  trans := Moves.trans

namespace RegisterProgram
variable {held reached : NvmeRegisters → Prop} {regs : NvmeRegisters}

private theorem disabled_stable : registerContract.Stable Disabled := by
  intro before after moved disabled
  exact (congrArg NvmeControllerConfiguration.en moved.cc).trans disabled

private theorem down_stable : registerContract.Stable Down := by
  intro before after moved down
  refine ⟨disabled_stable before after moved down.1, ?_⟩
  by_contra up
  rcases moved.rises (by simpa using up) with ready | enabled
  · rw [down.2] at ready
    cases ready
  · rw [down.1] at enabled
    cases enabled

private theorem anything_stable : registerContract.Stable fun _ => True := fun _ _ _ _ => trivial

/-- Reading the status changes nothing; what follows knows the status it saw. -/
theorem isControllerReady_bind {α : Type} {post : α → NvmeRegisters → Prop} {site : ReadSite}
    {next : Bool → RegisterProgram α} (stable : registerContract.Stable held) (holds : held regs)
    (answer : ∀ later, held later → NotMistaken later (.readCsts site) →
      registerContract.Safe post (next later.csts.ready) later) :
    registerContract.Safe post ((isControllerReady site).bind next) regs := by
  apply Contract.Safe.access stable holds
  intro later kept expected
  exact ⟨trivial, answer later kept expected⟩

private theorem isControllerEnabled_bind {α : Type} {post : α → NvmeRegisters → Prop}
    {next : Bool → RegisterProgram α} (stable : registerContract.Stable held) (holds : held regs)
    (answer : ∀ later, held later → registerContract.Safe post (next later.cc.en) later) :
    registerContract.Safe post (isControllerEnabled.bind next) regs := by
  apply Contract.Safe.access stable holds
  intro later kept _
  exact ⟨trivial, answer later kept⟩

private theorem wait_done {ok : Bool} (stays : registerContract.Stable reached) (arrived : ok = true → reached regs) :
    registerContract.Safe (fun ok later => ok = true → reached later) (.done ok) regs := by
  have stable : registerContract.Stable fun later => ok = true → reached later := by
    intro before after moved held came
    exact stays before after moved (held came)
  exact Contract.Safe.done stable arrived

private theorem waitForCtrlerReady_safe {site : ReadSite} {cstsRdy : Bool} (stable : registerContract.Stable held)
    (stays : registerContract.Stable reached)
    (answer : ∀ later, held later → NotMistaken later (.readCsts site) → later.csts.ready = cstsRdy → reached later)
    (stalls : Nat) (holds : held regs) :
    registerContract.Safe (fun ok later => ok = true → reached later) (waitForCtrlerReady site cstsRdy stalls) regs := by
  induction stalls generalizing regs with
  | zero =>
    apply isControllerReady_bind stable holds
    intro later kept expected
    apply wait_done stays
    intro same
    exact answer later kept expected (by simpa using same)
  | succ stalls ih =>
    apply isControllerReady_bind stable holds
    intro later kept expected
    split
    · next same =>
      apply wait_done stays
      intro _
      exact answer later kept expected (by simpa using same)
    · exact ih kept

private theorem waitForCtrlerState_safe {site : ReadSite} {cstsRdy ccEn : Bool} (stable : registerContract.Stable held)
    (stays : registerContract.Stable reached)
    (answer : ∀ later, held later → NotMistaken later (.readCsts site) → later.csts.ready = cstsRdy →
      later.cc.en = ccEn → reached later)
    (stalls : Nat) (holds : held regs) :
    registerContract.Safe (fun ok later => ok = true → reached later) (waitForCtrlerState site cstsRdy ccEn stalls) regs := by
  -- the configuration read first is still the configuration when the status is read
  have together : ∀ enabled, registerContract.Stable fun later => held later ∧ later.cc.en = enabled := by
    intro enabled before after moved both
    exact ⟨stable before after moved both.1, (congrArg NvmeControllerConfiguration.en moved.cc).trans both.2⟩
  induction stalls generalizing regs with
  | zero =>
    apply isControllerEnabled_bind stable holds
    intro first kept
    apply isControllerReady_bind (together first.cc.en) ⟨kept, rfl⟩
    intro later both expected
    apply wait_done stays
    intro same
    obtain ⟨ready, enabled⟩ := Bool.and_eq_true_iff.mp same
    exact answer later both.1 expected (by simpa using ready) (both.2.trans (by simpa using enabled))
  | succ stalls ih =>
    apply isControllerEnabled_bind stable holds
    intro first kept
    apply isControllerReady_bind (together first.cc.en) ⟨kept, rfl⟩
    intro later both expected
    split
    · next same =>
      obtain ⟨ready, enabled⟩ := Bool.and_eq_true_iff.mp same
      apply wait_done stays
      intro _
      exact answer later both.1 expected (by simpa using ready) (both.2.trans (by simpa using enabled))
    · exact ih both.1

private theorem write_safe {α : Type} {post : α → NvmeRegisters → Prop} {op : RegisterAccess}
    {next : op.Answer → RegisterProgram α} (stable : registerContract.Stable held) (holds : held regs)
    (allowed : ∀ later, held later → later.Allows op)
    (rest : ∀ later, held later → registerContract.Safe post (next (later.execute op).1) (later.execute op).2) :
    registerContract.Safe post (.access op next) regs := by
  apply Contract.Safe.access stable holds
  intro later kept _
  exact ⟨allowed later kept, rest later kept⟩

end RegisterProgram

open RegisterProgram

def AnyStatus (_status : NtStatus) (_regs : NvmeRegisters) : Prop := True

private theorem done_safe (status : NtStatus) (regs : NvmeRegisters) : registerContract.Safe AnyStatus (.done status) regs :=
  fun _ _ => trivial

def DownOnSuccess (status : NtStatus) (regs : NvmeRegisters) : Prop := status = .success → regs.Down

private theorem downOnSuccess_stable (status : NtStatus) : registerContract.Stable (DownOnSuccess status) := by
  intro before after moved held succeeded
  exact down_stable before after moved (held succeeded)

namespace ControllerSetting
variable (setting : ControllerSetting)

private theorem disableController_safe (regs : NvmeRegisters) :
    registerContract.Safe DownOnSuccess setting.disableController regs := by
  unfold disableController
  apply isControllerReady_bind anything_stable trivial
  intro guard _ certain
  split
  · next unready =>
    apply Contract.Safe.done (downOnSuccess_stable _)
    intro _
    apply certain
    simpa using unready
  · apply Contract.Safe.bind
    apply Contract.Safe.weaken (waitForCtrlerState_safe anything_stable anything_stable
      (fun _ _ _ _ _ => trivial) setting.stalls trivial)
    intro ok waited _
    split
    · apply Contract.Safe.done (downOnSuccess_stable _)
      intro failed
      cases failed
    · apply Contract.Safe.access anything_stable trivial
      intro read _ _
      refine ⟨trivial, ?_⟩
      apply write_safe anything_stable trivial
      · intro later _ enabled
        cases enabled
      · intro later _
        apply Contract.Safe.bind
        have reached : ∀ last, last.Disabled → NotMistaken last (.readCsts .disableWait) →
            last.csts.ready = false → last.Down := by
          intro last disabled certain unready
          exact ⟨disabled, certain disabled unready⟩
        have off : (later.execute (.writeCc { read.cc with en := false })).2.Disabled := rfl
        apply Contract.Safe.weaken (waitForCtrlerReady_safe disabled_stable down_stable reached setting.stalls off)
        intro ok last came
        apply Contract.Safe.done (downOnSuccess_stable _)
        intro succeeded
        cases ok with
        | false => cases succeeded
        | true => exact came rfl

private theorem registerAdmQ_safe {regs : NvmeRegisters} (disabled : regs.Disabled) :
    registerContract.Safe AnyStatus setting.registerAdmQ regs := by
  unfold registerAdmQ
  apply isControllerReady_bind disabled_stable disabled
  intro guard kept certain
  split
  · next subq cplq unready present =>
    have down : guard.Down := ⟨kept, certain kept unready⟩
    split
    · apply done_safe
    · apply write_safe down_stable down
      · exact fun _ held => held
      · intro first held
        have afterAqa : (first.execute (.writeAqa (registerAdmQAttributes setting.params))).2.Down := held
        apply write_safe down_stable afterAqa
        · exact fun _ held => held
        · intro second held
          have afterAsq : (second.execute (.writeAsq subq)).2.Down := held
          apply write_safe down_stable afterAsq
          · exact fun _ held => held
          · intro third _
            apply done_safe
  · apply Contract.Safe.access anything_stable trivial
    intro _ _ _
    exact ⟨trivial, trivial⟩

private theorem enableController_safe (regs : NvmeRegisters) :
    registerContract.Safe AnyStatus setting.enableController regs := by
  unfold enableController
  apply isControllerReady_bind anything_stable trivial
  intro guard _ _
  split
  · apply done_safe
  · apply Contract.Safe.bind
    have reached : ∀ later, True → NotMistaken later (.readCsts .enableWait) → later.csts.ready = false →
        later.cc.en = false → later.Down := by
      intro later _ certain unready disabled
      exact ⟨disabled, certain disabled unready⟩
    apply Contract.Safe.weaken (waitForCtrlerState_safe anything_stable down_stable reached setting.stalls trivial)
    intro ok waited came
    split
    · apply done_safe
    · next arrived =>
      have down : waited.Down := came (by simpa using arrived)
      apply write_safe down_stable down
      · intro later held _
        exact held
      · intro later held
        -- the first write keeps the enable bit at 0
        have still : ({ later with cc := initialConfiguration } : NvmeRegisters).Down := ⟨rfl, held.2⟩
        apply write_safe down_stable still
        · intro last held _
          exact held
        · intro last _
          apply Contract.Safe.bind
          apply Contract.Safe.weaken (waitForCtrlerReady_safe anything_stable anything_stable
            (fun _ _ _ _ => trivial) setting.stalls trivial)
          intro ok final _
          apply done_safe

private theorem initController_safe (regs : NvmeRegisters) :
    registerContract.Safe AnyStatus setting.initController regs := by
  unfold initController
  split
  · apply done_safe
  · apply Contract.Safe.bind
    apply Contract.Safe.weaken (setting.disableController_safe regs)
    intro status disabled down
    split
    · apply done_safe
    · next succeeded =>
      have success : status = .success := by
        cases status <;> first | rfl | exact absurd rfl succeeded
      apply Contract.Safe.bind
      apply Contract.Safe.weaken (setting.registerAdmQ_safe (down success).1)
      intro registered later _
      split
      · apply done_safe
      · exact setting.enableController_safe later

end ControllerSetting

/-- What a call relies on: `RegisterAdmQ` by itself comes after the controller was
disabled; the others may find it in any state. -/
def ControllerCall.Entry (which : ControllerSetting × ControllerCall) (regs : NvmeRegisters) : Prop :=
  which.2 = .registerAdmQ → regs.Disabled

instance (which : ControllerSetting × ControllerCall) (regs : NvmeRegisters) :
    Decidable (ControllerCall.Entry which regs) := inferInstanceAs (Decidable (_ → _))

private theorem body_safe (which : ControllerSetting × ControllerCall) (regs : NvmeRegisters)
    (entry : ControllerCall.Entry which regs) :
    registerContract.Safe (fun _ _ => True) (which.1.body which.2) regs := by
  obtain ⟨setting, call⟩ := which
  cases call with
  | initController => exact setting.initController_safe regs
  | enableController => exact setting.enableController_safe regs
  | disableController => exact (setting.disableController_safe regs).weaken fun _ _ _ => trivial
  | registerAdmQ => exact setting.registerAdmQ_safe (entry rfl)

/-- Calls of the four functions, one after the other, and a controller that moves
at any time. The log tells each access and the registers at that moment. -/
abbrev ControllerSession := Session RegisterAccess.Answer NvmeRegisters NtStatus

abbrev ControllerEvent := SessionEvent (ControllerSetting × ControllerCall) NvmeRegisters

namespace ControllerSession

def idle (regs : NvmeRegisters) : ControllerSession := ⟨regs, .done .success, []⟩

def step : ControllerSession → ControllerEvent → Option ControllerSession :=
  Session.step registerContract fun which => which.1.body which.2

def Keeps : ControllerSession → ControllerEvent → Prop := Session.Keeps registerContract ControllerCall.Entry

instance (session : ControllerSession) (event : ControllerEvent) : Decidable (session.Keeps event) :=
  have : ∀ (regs : NvmeRegisters) op, Decidable (registerContract.expected regs op) :=
    fun regs op => inferInstanceAs (Decidable (regs.NotMistaken op))
  have : ∀ regs later : NvmeRegisters, Decidable (registerContract.moves regs later) :=
    fun regs later => inferInstanceAs (Decidable (regs.Moves later))
  inferInstanceAs (Decidable (Session.Keeps registerContract ControllerCall.Entry session event))

/-- In every session whose controller keeps to its part, and where "not ready" is
never mistaken, every write comes at a time the rule allows. -/
theorem log_allowed {regs : NvmeRegisters} {final : ControllerSession} {events : List ControllerEvent}
    (met : Machine.Meets step Keeps (idle regs) events) (ran : Machine.run step (idle regs) events = some final) :
    ∀ record ∈ final.log, record.1.Allows record.2 := by
  have idleSafe : registerContract.Safe (fun _ _ => True) (.done NtStatus.success) regs := fun _ _ => trivial
  exact Session.log_good body_safe idleSafe (fun _ member => absurd member List.not_mem_nil) met ran

def sampleSetting : ControllerSetting := ⟨500000, true, some (0x200000, 0x201000), .setup ⟨none, none, none⟩ 1023⟩

def sampleRegisters (en rdy cfs : Bool) : NvmeRegisters := ⟨⟨en, 0, 0, 0, 0, 6, 4⟩, ⟨rdy, cfs⟩, ⟨0, 0⟩, 0, 0⟩

def sampleInit : List ControllerEvent :=
  let stopped := sampleRegisters false false false
  let restarted := { sampleRegisters true true false with aqa := ⟨63, 63⟩, asq := 0x200000, acq := 0x201000 }
  [.call (sampleSetting, .initController)] ++ List.replicate 5 .access ++ [.move stopped] ++
    List.replicate 10 .access ++ [.move restarted, .access]

theorem log_allowed_sampleInit : ∃ final,
    Machine.run step (idle (sampleRegisters true true false)) sampleInit = some final ∧
      ∀ record ∈ final.log, record.1.Allows record.2 :=
  ⟨_, rfl, @log_allowed (sampleRegisters true true false) _ sampleInit (by decide) rfl⟩

/-- `DisableController` takes a controller that is starting, and one that is ready
but fatal, for one that is down; `RegisterAdmQ` then writes `AQA`. -/
theorem log_breaks_rule :
    (∃ final, Machine.run step (idle (sampleRegisters true false false))
      [.call (sampleSetting, .initController), .access, .access, .access] = some final ∧
        ¬ ∀ record ∈ final.log, record.1.Allows record.2) ∧
    (∃ final, Machine.run step (idle (sampleRegisters true true true))
      [.call (sampleSetting, .initController), .access, .access, .access] = some final ∧
        ¬ ∀ record ∈ final.log, record.1.Allows record.2) :=
  ⟨⟨_, rfl, by decide⟩, ⟨_, rfl, by decide⟩⟩

end ControllerSession

end SpcNvme
