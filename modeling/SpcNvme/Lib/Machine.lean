import Mathlib.Data.Option.Basic

/-! Finite runs of an executable transition function. An event that is not
enabled stops the run, so every statement below speaks about runs that really
happen. Prefixes of runs are runs, which makes a fact about the final state of
every run a fact about every state reached. -/

namespace Machine

universe u v
variable {σ : Type u} {ε : Type v} (step : σ → ε → Option σ)

/-- Execute the events in order; `none` as soon as one is not enabled. -/
def run : σ → List ε → Option σ
  | state, [] => some state
  | state, event :: rest => (step state event).bind fun next => run next rest

/-- Every event of the run satisfies a condition in the state it fires in. -/
def Meets (condition : σ → ε → Prop) : σ → List ε → Prop
  | _, [] => True
  | state, event :: rest =>
      condition state event ∧ ∀ next, step state event = some next → Meets condition next rest

instance decidableMeets {condition : σ → ε → Prop} [∀ state event, Decidable (condition state event)] :
    ∀ (state : σ) (events : List ε), Decidable (Meets step condition state events)
  | _, [] => isTrue trivial
  | state, event :: rest =>
      match taken : step state event with
      | none => decidable_of_iff (condition state event) ⟨fun met => ⟨met, by simp [taken]⟩, And.left⟩
      | some next =>
          have : Decidable (Meets step condition next rest) := decidableMeets next rest
          decidable_of_iff (condition state event ∧ Meets step condition next rest)
            ⟨fun met => ⟨met.1, by simpa [taken] using met.2⟩, fun met => ⟨met.1, met.2 next taken⟩⟩

/-- The property holds in every state the run visits, the first included. -/
def Always (property : σ → Prop) : σ → List ε → Prop
  | state, [] => property state
  | state, event :: rest =>
      property state ∧ ∀ next, step state event = some next → Always property next rest

instance decidableAlways {property : σ → Prop} [DecidablePred property] :
    ∀ (state : σ) (events : List ε), Decidable (Always step property state events)
  | state, [] => inferInstanceAs (Decidable (property state))
  | state, event :: rest =>
      match taken : step state event with
      | none => decidable_of_iff (property state) ⟨fun holds => ⟨holds, by simp [taken]⟩, And.left⟩
      | some next =>
          have : Decidable (Always step property next rest) := decidableAlways next rest
          decidable_of_iff (property state ∧ Always step property next rest)
            ⟨fun holds => ⟨holds.1, by simpa [taken] using holds.2⟩, fun holds => ⟨holds.1, holds.2 next taken⟩⟩

variable {step}

theorem run_cons {state next : σ} {event : ε} (taken : step state event = some next) (rest : List ε) :
    run step state (event :: rest) = run step next rest := by
  simp [run, taken]

theorem run_cons_some {state final : σ} {event : ε} {rest : List ε}
    (ran : run step state (event :: rest) = some final) :
    ∃ next, step state event = some next ∧ run step next rest = some final := by
  simpa [run, Option.bind_eq_some_iff] using ran

theorem Meets.mono {weak strong : σ → ε → Prop} (implies : ∀ state event, strong state event → weak state event)
    {state : σ} {events : List ε} (met : Meets step strong state events) : Meets step weak state events := by
  induction events generalizing state with
  | nil => trivial
  | cons event rest ih =>
    constructor
    · apply implies
      exact met.1
    · intro next taken
      exact ih (met.2 next taken)

theorem Meets.of_forall {condition : σ → ε → Prop} {events : List ε}
    (each : ∀ event ∈ events, ∀ state, condition state event) (state : σ) : Meets step condition state events := by
  induction events generalizing state with
  | nil => trivial
  | cons event rest ih =>
    constructor
    · apply each
      exact List.mem_cons_self
    · intro next _
      apply ih
      intro other member
      apply each
      exact List.mem_cons_of_mem event member

theorem Meets.and {first second : σ → ε → Prop} {state : σ} {events : List ε}
    (left : Meets step first state events) (right : Meets step second state events) :
    Meets step (fun state event => first state event ∧ second state event) state events := by
  induction events generalizing state with
  | nil => trivial
  | cons event rest ih =>
    refine ⟨⟨left.1, right.1⟩, ?_⟩
    intro next taken
    exact ih (left.2 next taken) (right.2 next taken)

theorem Meets.of_append {condition : σ → ε → Prop} {start middle : σ} {events rest : List ε}
    (ran : run step start events = some middle) (met : Meets step condition start (events ++ rest)) :
    Meets step condition middle rest := by
  induction events generalizing start with
  | nil =>
    obtain rfl : start = middle := Option.some.inj ran
    exact met
  | cons event before ih =>
    obtain ⟨next, taken, remaining⟩ := run_cons_some ran
    exact ih remaining (met.2 next taken)

theorem Always.here {property : σ → Prop} {state : σ} {events : List ε}
    (always : Always step property state events) : property state := by
  cases events with
  | nil => exact always
  | cons event rest => exact always.1

theorem Always.meets {property : σ → Prop} {state : σ} {events : List ε}
    (always : Always step property state events) :
    Meets step (fun before event => property before ∧ ∀ after, step before event = some after → property after)
      state events := by
  induction events generalizing state with
  | nil => trivial
  | cons event rest ih =>
    refine ⟨⟨always.1, ?_⟩, ?_⟩
    · intro next taken
      exact (always.2 next taken).here
    · intro next taken
      exact ih (always.2 next taken)

/-- The induction rule: an invariant kept by every step that meets the
condition holds at the end of every run whose steps all meet it. -/
theorem run_invariant {condition : σ → ε → Prop} {invariant : σ → Prop}
    (preserved : ∀ before event after, invariant before → condition before event →
      step before event = some after → invariant after)
    {start final : σ} {events : List ε} (initial : invariant start)
    (met : Meets step condition start events) (ran : run step start events = some final) :
    invariant final := by
  induction events generalizing start with
  | nil =>
    cases ran
    exact initial
  | cons event rest ih =>
    obtain ⟨next, taken, remaining⟩ := run_cons_some ran
    exact ih (preserved _ _ _ initial met.1 taken) (met.2 next taken) remaining

/-- What an invariant implies of every step may be assumed of every step. -/
theorem Meets.of_invariant {allowed condition : σ → ε → Prop} {invariant : σ → Prop}
    (preserved : ∀ before event after, invariant before → allowed before event →
      step before event = some after → invariant after)
    (implies : ∀ state event, invariant state → allowed state event → condition state event)
    {start : σ} {events : List ε} (initial : invariant start) (met : Meets step allowed start events) :
    Meets step condition start events := by
  induction events generalizing start with
  | nil => trivial
  | cons event rest ih =>
    refine ⟨implies start event initial met.1, ?_⟩
    intro next taken
    apply ih
    · exact preserved start event next initial met.1 taken
    · exact met.2 next taken

/-- The converse of the induction rule: if breaking the condition once spoils
every later state, then a run whose final state is not spoilt met it throughout. -/
theorem Meets.of_final {allowed condition : σ → ε → Prop} {invariant : σ → Prop} (spoilt : σ → Prop)
    (preserved : ∀ before event after, invariant before → allowed before event →
      step before event = some after → invariant after)
    (breaks : ∀ before event after, invariant before → allowed before event →
      step before event = some after → ¬ condition before event → spoilt after)
    (stays : ∀ before event after, invariant before → allowed before event →
      step before event = some after → spoilt before → spoilt after)
    {start final : σ} {events : List ε} (initial : invariant start) (met : Meets step allowed start events)
    (ran : run step start events = some final) (unspoilt : ¬ spoilt final) : Meets step condition start events := by
  induction events generalizing start with
  | nil => trivial
  | cons event rest ih =>
    obtain ⟨next, taken, remaining⟩ := run_cons_some ran
    have kept := preserved start event next initial met.1 taken
    have both : ∀ before event after, (invariant before ∧ spoilt before) → allowed before event →
        step before event = some after → invariant after ∧ spoilt after := by
      intro before event after bad permitted taken
      exact ⟨preserved before event after bad.1 permitted taken, stays before event after bad.1 permitted taken bad.2⟩
    have clean : ¬ spoilt next := by
      intro bad
      exact unspoilt (run_invariant both ⟨kept, bad⟩ (met.2 next taken) remaining).2
    constructor
    · apply Classical.byContradiction
      intro broken
      exact clean (breaks start event next initial met.1 taken broken)
    · intro other also
      obtain rfl : next = other := Option.some.inj (taken.symm.trans also)
      exact ih kept (met.2 next taken) remaining

/-- What an invariant implies holds in every state of a run whose steps all meet the condition. -/
theorem Meets.always {condition : σ → ε → Prop} {invariant property : σ → Prop}
    (implies : ∀ state, invariant state → property state)
    (preserved : ∀ before event after, invariant before → condition before event →
      step before event = some after → invariant after)
    {start : σ} {events : List ε} (initial : invariant start) (met : Meets step condition start events) :
    Always step property start events := by
  induction events generalizing start with
  | nil => exact implies start initial
  | cons event rest ih =>
    refine ⟨implies start initial, ?_⟩
    intro next taken
    apply ih
    · exact preserved start event next initial met.1 taken
    · exact met.2 next taken

theorem run_invariant_of_step {invariant : σ → Prop}
    (preserved : ∀ before event after, invariant before → step before event = some after → invariant after)
    {start final : σ} {events : List ε} (initial : invariant start)
    (ran : run step start events = some final) : invariant final := by
  have met : Meets step (fun _ _ => True) start events := .of_forall (fun _ _ _ => trivial) start
  apply run_invariant _ initial met ran
  intro before event after kept _ taken
  exact preserved before event after kept taken

/-- Conditions that agree under an invariant the second one keeps are met by the same sequences. -/
theorem meets_congr {first second : σ → ε → Prop} {invariant : σ → Prop}
    (agree : ∀ state event, invariant state → (first state event ↔ second state event))
    (preserved : ∀ before event after, invariant before → second before event →
      step before event = some after → invariant after)
    {start : σ} (initial : invariant start) (events : List ε) :
    Meets step first start events ↔ Meets step second start events := by
  induction events generalizing start with
  | nil => exact Iff.rfl
  | cons event rest ih =>
    have here := agree start event initial
    constructor
    · intro met
      refine ⟨here.mp met.1, ?_⟩
      intro next taken
      exact (ih (preserved start event next initial (here.mp met.1) taken)).mp (met.2 next taken)
    · intro met
      refine ⟨here.mpr met.1, ?_⟩
      intro next taken
      exact (ih (preserved start event next initial met.1 taken)).mpr (met.2 next taken)

/-- If an invariant implies a property, steps that meet a condition keep the
invariant and steps that break it lose the property, then the property holds
throughout a run exactly if every step met the condition. -/
theorem always_iff_meets {condition : σ → ε → Prop} {invariant property : σ → Prop}
    (implies : ∀ state, invariant state → property state)
    (preserved : ∀ before event after, invariant before → condition before event →
      step before event = some after → invariant after)
    (breaks : ∀ before event after, invariant before → step before event = some after →
      ¬ condition before event → ¬ property after)
    {start final : σ} {events : List ε} (initial : invariant start) (ran : run step start events = some final) :
    Always step property start events ↔ Meets step condition start events := by
  induction events generalizing start with
  | nil => exact ⟨fun _ => trivial, fun _ => implies start initial⟩
  | cons event rest ih =>
    obtain ⟨next, taken, remaining⟩ := run_cons_some ran
    constructor
    · intro always
      have met : condition start event := by
        apply Classical.byContradiction
        intro broken
        exact breaks start event next initial taken broken (always.2 next taken).here
      refine ⟨met, ?_⟩
      intro other also
      obtain rfl : next = other := Option.some.inj (taken.symm.trans also)
      apply (ih (preserved start event next initial met taken) remaining).mp
      exact always.2 next taken
    · intro meets
      refine ⟨implies start initial, ?_⟩
      intro other also
      obtain rfl : next = other := Option.some.inj (taken.symm.trans also)
      apply (ih (preserved start event next initial meets.1 taken) remaining).mpr
      exact meets.2 next taken

/-- If in every allowed step from a state with the property exactly a condition
keeps it, then in an allowed run the property holds throughout exactly if every
step met the condition. -/
theorem always_iff_meets_of_allowed {allowed condition : σ → ε → Prop} {invariant property : σ → Prop}
    (preserved : ∀ before event after, invariant before → allowed before event →
      step before event = some after → invariant after)
    (exact_ : ∀ before event after, invariant before → allowed before event → property before →
      step before event = some after → (property after ↔ condition before event))
    {start final : σ} {events : List ε} (initial : invariant start) (here : property start)
    (met : Meets step allowed start events) (ran : run step start events = some final) :
    Always step property start events ↔ Meets step condition start events := by
  induction events generalizing start with
  | nil => exact ⟨fun _ => trivial, fun _ => here⟩
  | cons event rest ih =>
    obtain ⟨next, taken, remaining⟩ := run_cons_some ran
    have kept := preserved start event next initial met.1 taken
    have agree := exact_ start event next initial met.1 here taken
    constructor
    · intro always
      have there := (always.2 next taken).here
      refine ⟨agree.mp there, ?_⟩
      intro other also
      obtain rfl : next = other := Option.some.inj (taken.symm.trans also)
      exact (ih kept there (met.2 next taken) remaining).mp (always.2 next taken)
    · intro meets
      have there := agree.mpr meets.1
      refine ⟨here, ?_⟩
      intro other also
      obtain rfl : next = other := Option.some.inj (taken.symm.trans also)
      exact (ih kept there (met.2 next taken) remaining).mpr (meets.2 next taken)

/-- Where some allowed step always makes a measure smaller until a goal is met, some
allowed run meets it. -/
theorem exists_run_of_measure {invariant goal : σ → Prop} {allowed : ε → Prop} (measure : σ → Nat)
    (progress : ∀ state, invariant state → ¬ goal state → ∃ event next, allowed event ∧ step state event = some next ∧
      invariant next ∧ measure next < measure state) {start : σ} (initial : invariant start) :
    ∃ events final, (∀ event ∈ events, allowed event) ∧ run step start events = some final ∧ goal final := by
  generalize bound : measure start = limit
  induction limit using Nat.strongRecOn generalizing start with
  | ind limit ih =>
    by_cases met : goal start
    · exact ⟨[], start, fun _ member => absurd member List.not_mem_nil, rfl, met⟩
    · obtain ⟨event, next, permitted, taken, kept, smaller⟩ := progress start initial met
      obtain ⟨events, final, each, ran, reached⟩ := ih (measure next) (bound ▸ smaller) kept rfl
      refine ⟨event :: events, final, ?_, ?_, reached⟩
      · intro other member
        rcases List.mem_cons.mp member with rfl | later
        · exact permitted
        · exact each other later
      · rw [run_cons taken, ran]

/-- Some number of steps, all on the same event, leads from one state to another. -/
def Repeats (step : σ → ε → Option σ) (event : ε) (start final : σ) : Prop :=
  ∃ count, run step start (List.replicate count event) = some final

namespace Repeats
variable {event : ε} {start next final : σ}

theorem refl (step : σ → ε → Option σ) (event : ε) (state : σ) : Repeats step event state state := ⟨0, rfl⟩

theorem head (taken : step start event = some next) (rest : Repeats step event next final) :
    Repeats step event start final := by
  obtain ⟨count, ran⟩ := rest
  refine ⟨count + 1, ?_⟩
  rw [List.replicate_succ, run_cons taken, ran]

theorem single (taken : step start event = some next) : Repeats step event start next := head taken (refl ..)

theorem trans (first : Repeats step event start next) (second : Repeats step event next final) :
    Repeats step event start final := by
  obtain ⟨count, ran⟩ := first
  induction count generalizing start with
  | zero =>
    obtain rfl : start = next := Option.some.inj ran
    exact second
  | succ count ih =>
    obtain ⟨middle, taken, remaining⟩ := run_cons_some ran
    exact head taken (ih remaining)

end Repeats

end Machine
