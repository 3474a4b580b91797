import SpcNvme.Lib.Machine
import SpcNvme.Lib.SlotTable
import SpcNvme.Restart

/-! What a restart leaves when its last callback has returned, in every run of
restarts and state changes. -/

namespace SpcNvme

/-- The two stages succeeded, or the device was not running any more. -/
def Resume.Justified (resume : Resume) : Prop :=
  resume.first.ntSuccess = true ∧ resume.second.ntSuccess = true ∨ resume.state ≠ .running

namespace RestartDevice

/-- Every pause was followed by one resume, for a good reason, and no worker object is left. -/
structure Balanced (device : RestartDevice) : Prop where
  once : device.resumed.length = device.paused
  justified : ∀ resume ∈ device.resumed, resume.Justified
  cleared : device.restartWorker = none
  freed : ∀ worker, worker < device.workers → device.freed.count worker = 1

def Completed (device : RestartDevice) : Prop := device.phase = .idle → device.Balanced

/-- Where a step leads on to the end of the restart: the DPC is issued, it finds the device
running and queues the work item, which finds it running as well, and at the end the stages
have succeeded or the device is not running; and the worker object is freed. -/
def Completes (frees : Bool) (device : RestartDevice) : RestartEvent → Prop
  | .restartController ok => device.isWorking = true → ok = true
  | .restartAdapterDpc _ queued => device.isWorking = true ∧ queued = true
  | .restartAdapterWorker => device.isWorking = true
  | .resume => frees = true ∧ ∀ first second, device.phase = .resuming first second →
      Resume.Justified ⟨first, second, device.state⟩
  | .setState _ | .initNvmeStage1 _ | .initNvmeStage2 _ => True

def workerTable (device : RestartDevice) : Nat → Option Nat := Function.update (fun _ => none) 0 device.restartWorker

private theorem workerTable_zero (device : RestartDevice) : device.workerTable 0 = device.restartWorker := Function.update_self ..

private theorem workerTable_update (device : RestartDevice) (worker : Option Nat) :
    { device with restartWorker := worker }.workerTable = Function.update device.workerTable 0 worker :=
  (Function.update_idem ..).symm

end RestartDevice

def RestartPhase.hasWorker : RestartPhase → Bool
  | idle | dpcIssued => false
  | workQueued | inStage1 | inStage2 _ | resuming _ _ => true

namespace RestartDevice

structure Kept (device : RestartDevice) : Prop where
  settles : SlotTable.Settles id device.workerTable device.workers device.freed
  covers : SlotTable.Covers id device.workerTable device.workers device.freed
  justified : ∀ resume ∈ device.resumed, resume.Justified
  once : device.paused = device.resumed.length + if device.phase = .idle then 0 else 1
  worker : device.restartWorker.isSome = device.phase.hasWorker

theorem initial_kept (state : NvmeState) : (initial state).Kept where
  settles := by
    have empty : (initial state).workerTable = fun _ => none := Function.update_eq_self ..
    rw [empty]
    exact .empty id 0
  covers := fun _ issued => absurd issued (Nat.not_lt_zero _)
  justified := fun _ member => absurd member List.not_mem_nil
  once := rfl
  worker := rfl

namespace Kept
variable {device : RestartDevice}

theorem cleared (kept : device.Kept) (without : device.phase.hasWorker = false) : device.restartWorker = none := by
  rw [← Option.not_isSome_iff_eq_none, kept.worker, without]
  exact Bool.false_ne_true

theorem completed (kept : device.Kept) : device.Completed := by
  intro idle
  have cleared : device.restartWorker = none := kept.cleared (by rw [idle]; rfl)
  have empty : ∀ slot, device.workerTable slot = none := by
    intro slot
    rw [workerTable, cleared, Function.update_eq_self]
  refine ⟨?_, kept.justified, cleared, fun worker issued => kept.covers.count_eq_one kept.settles empty issued⟩
  have once := kept.once
  rw [if_pos idle] at once
  exact once.symm

theorem outstanding (kept : device.Kept) (busy : device.phase ≠ .idle) : device.paused = device.resumed.length + 1 := by
  have once := kept.once
  rwa [if_neg busy] at once

theorem phase (kept : device.Kept) {phase : RestartPhase} (busy : device.phase ≠ .idle) (going : phase ≠ .idle)
    (same : phase.hasWorker = device.phase.hasWorker) : { device with phase := phase }.Kept :=
  ⟨kept.settles, kept.covers, kept.justified, (kept.outstanding busy).trans (by rw [if_neg going]), kept.worker.trans same.symm⟩

theorem queue (kept : device.Kept) (issued : device.phase = .dpcIssued) :
    { device.storPortInitializeWorker true with phase := .workQueued }.Kept := by
  have free : device.workerTable 0 = none := (workerTable_zero device).trans (kept.cleared (by rw [issued]; rfl))
  have table := workerTable_update { device with workers := device.workers + 1, phase := .workQueued } (some device.workers)
  have outstanding := kept.outstanding (by rw [issued]; exact nofun)
  refine ⟨?_, ?_, kept.justified, outstanding, rfl⟩
  · exact table ▸ kept.settles.put 0 device.workers rfl
  · exact table ▸ kept.covers.put free device.workers rfl

theorem finish (kept : device.Kept) {first second : NtStatus} (resuming : device.phase = .resuming first second)
    (justified : Resume.Justified ⟨first, second, device.state⟩) :
    (device.restartAdapterWorkerEnd true first second).Kept := by
  have outstanding := kept.outstanding (by rw [resuming]; exact nofun)
  have owned : device.restartWorker.isSome = true := kept.worker.trans (by rw [resuming]; rfl)
  obtain ⟨worker, held⟩ := Option.isSome_iff_exists.mp owned
  have ended : device.restartAdapterWorkerEnd true first second =
      { device with
        restartWorker := none
        phase := .idle
        resumed := device.resumed ++ [⟨first, second, device.state⟩]
        freed := device.freed ++ [worker] } := by
    simp [restartAdapterWorkerEnd, storPortFreeWorker, storPortResume, held]
  have table := workerTable_update device none
  have place := (workerTable_zero device).trans held
  rw [ended]
  refine ⟨?_, ?_, ?_, ?_, rfl⟩
  · exact table ▸ kept.settles.take place
  · exact table ▸ kept.covers.take place
  · intro resume member
    obtain old | new := List.mem_append.mp member
    · exact kept.justified resume old
    · exact List.mem_singleton.mp new ▸ justified
  · simp [outstanding]

theorem setState (kept : device.Kept) (state : NvmeState) : { device with state := state }.Kept :=
  ⟨kept.settles, kept.covers, kept.justified, kept.once, kept.worker⟩

theorem issue (kept : device.Kept) (idle : device.phase = .idle) :
    { device.storPortPause with phase := .dpcIssued }.Kept := by
  have once := kept.once
  rw [if_pos idle] at once
  have cleared := kept.cleared (by rw [idle]; rfl)
  refine ⟨kept.settles, kept.covers, kept.justified, congrArg (· + 1) once, ?_⟩
  rw [storPortPause, cleared]
  rfl

end Kept

section Steps
variable {frees : Bool} {before after : RestartDevice}

private theorem step_restartController {ok : Bool} (taken : before.step frees (.restartController ok) = some after) :
    before.phase = .idle ∧ (before.restartController ok).2 = after := by
  simp only [step] at taken
  split at taken
  · next idle => exact ⟨idle, Option.some.inj taken⟩
  · cases taken

private theorem step_restartAdapterDpc {initialized queued : Bool}
    (taken : before.step frees (.restartAdapterDpc initialized queued) = some after) :
    before.phase = .dpcIssued ∧
      (queued = true → (before.storPortInitializeWorker initialized).restartWorker ≠ none) ∧
      before.restartAdapterDpc initialized queued = after := by
  simp only [step] at taken
  split at taken
  · next enabled => exact ⟨enabled.1, enabled.2, Option.some.inj taken⟩
  · cases taken

private theorem step_restartAdapterWorker (taken : before.step frees .restartAdapterWorker = some after) :
    before.phase = .workQueued ∧ before.restartAdapterWorker = after := by
  simp only [step] at taken
  split at taken
  · next waiting => exact ⟨waiting, Option.some.inj taken⟩
  · cases taken

private theorem step_resume (taken : before.step frees .resume = some after) :
    ∃ first second, before.phase = .resuming first second ∧
      before.restartAdapterWorkerEnd frees first second = after := by
  simp only [step] at taken
  split at taken
  · next first second resuming => exact ⟨first, second, resuming, Option.some.inj taken⟩
  · cases taken

end Steps

/-- A step that leads on keeps a restart where it should be. -/
theorem step_kept {frees : Bool} {before after : RestartDevice} {event : RestartEvent} (kept : before.Kept)
    (completes : before.Completes frees event) (taken : before.step frees event = some after) : after.Kept := by
  cases event with
  | setState state =>
    cases taken
    exact kept.setState state
  | restartController ok =>
    obtain ⟨idle, rfl⟩ := step_restartController taken
    unfold restartController
    split
    · exact kept
    · next working =>
      have issued : ok = true := completes (by simpa using working)
      subst issued
      exact kept.issue idle
  | restartAdapterDpc initialized queued =>
    obtain ⟨working, rfl⟩ := completes
    obtain ⟨issued, pointed, rfl⟩ := step_restartAdapterDpc taken
    cases initialized with
    | false =>
      have cleared := kept.cleared (by rw [issued]; rfl)
      exact absurd cleared (pointed rfl)
    | true =>
      simp only [restartAdapterDpc, working, Bool.not_true, Bool.false_eq_true, if_false, if_true]
      exact kept.queue issued
  | restartAdapterWorker =>
    obtain ⟨waiting, rfl⟩ := step_restartAdapterWorker taken
    have working : before.isWorking = true := completes
    simp only [restartAdapterWorker, working, Bool.not_true, Bool.false_eq_true, if_false]
    exact kept.phase (by rw [waiting]; exact nofun) nofun (by rw [waiting]; rfl)
  | initNvmeStage1 status =>
    simp only [step] at taken
    split at taken
    · next first =>
      cases taken
      exact kept.phase (by rw [first]; exact nofun) nofun (by rw [first]; rfl)
    · cases taken
  | initNvmeStage2 status =>
    simp only [step] at taken
    split at taken
    · next first second =>
      cases taken
      exact kept.phase (by rw [second]; exact nofun) nofun (by rw [second]; rfl)
    · cases taken
  | resume =>
    obtain ⟨rfl, justified⟩ := completes
    obtain ⟨first, second, resuming, rfl⟩ := step_resume taken
    exact kept.finish resuming (justified first second resuming)

private theorem not_completed {device : RestartDevice} (idle : device.phase = .idle)
    (paused : device.paused = device.resumed.length + 1) : ¬ device.Completed := by
  intro completed
  have once := (completed idle).once
  omega

/-- A step that does not lead on ends the restart, and something is missing. -/
theorem step_breaks {frees : Bool} {before after : RestartDevice} {event : RestartEvent} (kept : before.Kept)
    (taken : before.step frees event = some after) (broken : ¬ before.Completes frees event) : ¬ after.Completed := by
  cases event with
  | setState state => exact absurd trivial broken
  | restartController ok =>
    simp only [Completes, Classical.not_imp] at broken
    obtain ⟨working, refused⟩ := broken
    obtain ⟨idle, rfl⟩ := step_restartController taken
    have once := kept.once
    rw [if_pos idle] at once
    simp only [restartController, working, Bool.not_true, Bool.false_eq_true, if_false, if_neg refused]
    exact not_completed idle (congrArg (· + 1) once)
  | restartAdapterDpc initialized queued =>
    obtain ⟨issued, _, rfl⟩ := step_restartAdapterDpc taken
    have outstanding := kept.outstanding (by rw [issued]; exact nofun)
    unfold restartAdapterDpc
    split
    · exact not_completed rfl outstanding
    · next working =>
      have unqueued : ¬ queued = true := fun queued => broken ⟨by simpa using working, queued⟩
      simp only [if_neg unqueued]
      cases initialized <;> exact not_completed rfl outstanding
  | restartAdapterWorker =>
    obtain ⟨waiting, rfl⟩ := step_restartAdapterWorker taken
    have outstanding := kept.outstanding (by rw [waiting]; exact nofun)
    have idle : before.isWorking = false := Bool.eq_false_iff.mpr broken
    simp only [restartAdapterWorker, idle, Bool.not_false, if_true]
    exact not_completed rfl outstanding
  | initNvmeStage1 status => exact absurd trivial broken
  | initNvmeStage2 status => exact absurd trivial broken
  | resume =>
    obtain ⟨first, second, resuming, rfl⟩ := step_resume taken
    intro completed
    have balanced := completed rfl
    apply broken
    refine ⟨?_, ?_⟩
    · have owned : before.restartWorker.isSome = true := kept.worker.trans (by rw [resuming]; rfl)
      obtain ⟨worker, held⟩ := Option.isSome_iff_exists.mp owned
      obtain ⟨issued, unsettled⟩ := kept.settles.unsettled 0 worker ((workerTable_zero before).trans held)
      by_contra lost
      -- a worker object that is not freed stays among those that were initialised
      have left : before.restartAdapterWorkerEnd frees first second =
          { before with
            restartWorker := none
            phase := .idle
            resumed := before.resumed ++ [⟨first, second, before.state⟩] } := by
        simp [restartAdapterWorkerEnd, storPortFreeWorker, storPortResume, held, lost]
      rw [left] at balanced
      have once : before.freed.count worker = 1 := balanced.freed worker issued
      have positive : 0 < before.freed.count worker := once ▸ Nat.one_pos
      exact unsettled (List.count_pos_iff.mp positive)
    · intro one two same
      obtain ⟨rfl, rfl⟩ := RestartPhase.resuming.inj (resuming.symm.trans same)
      apply balanced.justified
      have resumed : (before.restartAdapterWorkerEnd frees first second).resumed =
          before.resumed ++ [⟨first, second, before.state⟩] := by
        unfold restartAdapterWorkerEnd storPortFreeWorker
        simp only
        split
        · rfl
        · split <;> rfl
      rw [resumed]
      exact List.mem_append_right _ (List.mem_singleton_self _)

/-- In every run of restarts and state changes, each restart that has returned left all
balanced exactly if every step led on. -/
theorem run_completed_iff {frees : Bool} {state : NvmeState} {final : RestartDevice} {events : List RestartEvent}
    (ran : Machine.run (step frees) (initial state) events = some final) :
    Machine.Always (step frees) Completed (initial state) events ↔
      Machine.Meets (step frees) (Completes frees) (initial state) events :=
  Machine.always_iff_meets (fun _ kept => kept.completed)
    (fun _ _ _ kept completes taken => step_kept kept completes taken)
    (fun _ _ _ kept taken broken => step_breaks kept taken broken) (initial_kept state) ran

def sampleEvents : List RestartEvent :=
  [.restartController true, .restartAdapterDpc true true, .restartAdapterWorker, .initNvmeStage1 .success,
    .initNvmeStage2 .success, .resume]

theorem run_completed_sample : ∃ final, Machine.run (step true) (initial .running) sampleEvents = some final ∧
    (Machine.Always (step true) Completed (initial .running) sampleEvents ↔
      Machine.Meets (step true) (Completes true) (initial .running) sampleEvents) :=
  ⟨_, rfl, run_completed_iff rfl⟩

/-- A bus reset begins before the DPC runs: the DPC returns, and the adapter stays paused. -/
theorem restartAdapterDpc_leaves_paused : ¬ Machine.Always (step true) Completed (initial .running)
    [.restartController true, .setState .resetbus, .restartAdapterDpc true true] := by
  intro always
  have last := ((always.2 _ rfl).2 _ rfl).2 _ rfl
  have once := (last rfl).once
  cases once

end RestartDevice

end SpcNvme
