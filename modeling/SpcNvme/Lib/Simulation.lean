import SpcNvme.Lib.Machine

/-! Two transition functions, one more detailed than the other. Where every step of
the detailed one is matched by steps of the other, so is every run, and what holds
at the end of the other's runs may be used for the detailed one. -/

namespace Machine

universe u v w x
variable {σ : Type u} {ε : Type v} {τ : Type w} {δ : Type x} {step : σ → ε → Option σ} {spec : τ → δ → Option τ}

theorem run_append (state : τ) (first rest : List δ) :
    run spec state (first ++ rest) = (run spec state first).bind fun middle => run spec middle rest := by
  induction first generalizing state with
  | nil => rfl
  | cons event first ih =>
    simp only [List.cons_append, run]
    cases spec state event with
    | none => rfl
    | some next => exact ih next

theorem run_single {state next : τ} {event : δ} (taken : spec state event = some next) : run spec state [event] = some next := by
  simp [run, taken]

theorem Meets.left {condition : σ → ε → Prop} {start : σ} {events rest : List ε}
    (met : Meets step condition start (events ++ rest)) : Meets step condition start events := by
  induction events generalizing start with
  | nil => trivial
  | cons event events ih =>
    refine ⟨met.1, ?_⟩
    intro next taken
    exact ih (met.2 next taken)

/-- `related` pairs the states; `stands` tells for which events of the other machine
an event may stand. -/
structure Simulates (step : σ → ε → Option σ) (spec : τ → δ → Option τ) (allowed : σ → ε → Prop)
    (related : σ → τ → Prop) (stands : ε → δ → Prop) : Prop where
  matched : ∀ {before after state event}, related before state → allowed before event →
    step before event = some after →
    ∃ events next, run spec state events = some next ∧ related after next ∧ ∀ other ∈ events, stands event other

namespace Simulates
variable {allowed : σ → ε → Prop} {related : σ → τ → Prop} {stands : ε → δ → Prop}

/-- Every run whose steps are allowed is matched by a run, whose events stand for events of the first. -/
theorem run (simulates : Simulates step spec allowed related stands) {start final : σ} {state : τ} {events : List ε}
    (initial : related start state) (met : Meets step allowed start events)
    (ran : Machine.run step start events = some final) :
    ∃ others last, Machine.run spec state others = some last ∧ related final last ∧
      ∀ other ∈ others, ∃ event ∈ events, stands event other := by
  induction events generalizing start state with
  | nil =>
    obtain rfl : start = final := Option.some.inj ran
    exact ⟨[], state, rfl, initial, fun _ member => absurd member List.not_mem_nil⟩
  | cons event rest ih =>
    obtain ⟨next, taken, remaining⟩ := run_cons_some ran
    obtain ⟨first, middle, moved, kept, standing⟩ := simulates.matched initial met.1 taken
    obtain ⟨others, last, continued, reached, later⟩ := ih kept (met.2 next taken) remaining
    refine ⟨first ++ others, last, ?_, reached, ?_⟩
    · rw [run_append, moved, Option.bind_some, continued]
    · intro other member
      rcases List.mem_append.mp member with early | late
      · exact ⟨event, List.mem_cons_self, standing other early⟩
      · obtain ⟨source, inside, stood⟩ := later other late
        exact ⟨source, List.mem_cons_of_mem event inside, stood⟩

end Simulates

/-- The events of the other machine a run stands for, those of each step where it was taken. -/
def effects (step : σ → ε → Option σ) (effect : σ → ε → List δ) : σ → List ε → List δ
  | _, [] => []
  | state, event :: rest =>
      effect state event ++ match step state event with
        | none => []
        | some next => effects step effect next rest

/-- What a step stands for is what the other machine does. -/
structure Follows (step : σ → ε → Option σ) (spec : τ → δ → Option τ) (effect : σ → ε → List δ) (allowed : σ → ε → Prop)
    (related : σ → τ → Prop) : Prop where
  matched : ∀ {before after state event}, related before state → allowed before event →
    step before event = some after → ∃ next, run spec state (effect before event) = some next ∧ related after next

/-- Every run whose steps are allowed is one of the other machine, step by step. -/
theorem Follows.run {effect : σ → ε → List δ} {allowed : σ → ε → Prop} {related : σ → τ → Prop}
    (follows : Follows step spec effect allowed related) {start final : σ} {state : τ} {events : List ε}
    (initial : related start state) (met : Meets step allowed start events)
    (ran : Machine.run step start events = some final) :
    ∃ last, Machine.run spec state (effects step effect start events) = some last ∧ related final last := by
  induction events generalizing start state with
  | nil =>
    obtain rfl : start = final := Option.some.inj ran
    exact ⟨state, rfl, initial⟩
  | cons event rest ih =>
    obtain ⟨next, taken, remaining⟩ := run_cons_some ran
    obtain ⟨middle, moved, kept⟩ := follows.matched initial met.1 taken
    obtain ⟨last, continued, reached⟩ := ih kept (met.2 next taken) remaining
    refine ⟨last, ?_, reached⟩
    simp only [effects, taken]
    rw [run_append, moved, Option.bind_some, continued]

end Machine
