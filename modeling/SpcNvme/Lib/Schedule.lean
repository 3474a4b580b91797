import SpcNvme.Lib.Simulation

/-! Runs without an end. What leads to what in such a run follows from fairness: an
event that is waited for long enough comes at some time. -/

namespace Machine

universe u v

/-- At a time without an event nothing happens. -/
structure Schedule {σ : Type u} {ε : Type v} (step : σ → ε → Option σ) where
  states : Nat → σ
  events : Nat → Option ε
  taken : ∀ time, (events time).elim (some (states time)) (step (states time)) = some (states (time + 1))

namespace Schedule
variable {σ : Type u} {ε : Type v} {step : σ → ε → Option σ} (schedule : Schedule step)
variable {awaits cause between effect : σ → Prop} {serves : ε → Prop}

/-- Whenever the cause is there, the effect is there then or later. -/
def LeadsTo (cause effect : σ → Prop) : Prop :=
  ∀ time, cause (schedule.states time) → ∃ later, time ≤ later ∧ effect (schedule.states later)

/-- One of these events comes at some time if something waits for it until then. -/
def Serves (awaits : σ → Prop) (serves : ε → Prop) : Prop :=
  ∀ time, (∀ later, time ≤ later → awaits (schedule.states later)) →
    ∃ later event, time ≤ later ∧ schedule.events later = some event ∧ serves event

/-- Every event meets the condition in the state in which it comes. -/
def Meets (condition : σ → ε → Prop) : Prop :=
  ∀ time event, schedule.events time = some event → condition (schedule.states time) event

theorem stepped {time : Nat} {event : ε} (here : schedule.events time = some event) :
    step (schedule.states time) event = some (schedule.states (time + 1)) := by
  have taken := schedule.taken time
  rwa [here] at taken

theorem unchanged {time : Nat} (nothing : schedule.events time = none) :
    schedule.states (time + 1) = schedule.states time := by
  have taken := schedule.taken time
  rw [nothing] at taken
  exact (Option.some.inj taken).symm

/-- An invariant holds at all times of a schedule that meets its condition. -/
theorem invariant {condition : σ → ε → Prop} {invariant : σ → Prop}
    (preserved : ∀ before event after, invariant before → condition before event →
      step before event = some after → invariant after)
    (met : schedule.Meets condition) (initial : invariant (schedule.states 0)) (time : Nat) :
    invariant (schedule.states time) := by
  induction time with
  | zero => exact initial
  | succ time ih =>
    cases here : schedule.events time with
    | none => rwa [schedule.unchanged here]
    | some event => exact preserved _ _ _ ih (met time event here) (schedule.stepped here)

variable {schedule}

theorem LeadsTo.of_imp (implies : ∀ state, cause state → effect state) : schedule.LeadsTo cause effect :=
  fun time here => ⟨time, Nat.le_refl time, implies _ here⟩

theorem LeadsTo.trans (first : schedule.LeadsTo cause between) (second : schedule.LeadsTo between effect) :
    schedule.LeadsTo cause effect := by
  intro time here
  obtain ⟨middle, after, reached⟩ := first time here
  obtain ⟨later, beyond, ended⟩ := second middle reached
  exact ⟨later, Nat.le_trans after beyond, ended⟩

theorem LeadsTo.cases (first : schedule.LeadsTo cause effect) (second : schedule.LeadsTo between effect) :
    schedule.LeadsTo (fun state => cause state ∨ between state) effect := by
  intro time here
  rcases here with left | right
  · exact first time left
  · exact second time right

/-- What makes a measure smaller until the effect is there leads to the effect. -/
theorem LeadsTo.of_measure (measure : σ → Nat)
    (smaller : ∀ bound, schedule.LeadsTo (fun state => cause state ∧ measure state = bound)
      fun state => effect state ∨ cause state ∧ measure state < bound) : schedule.LeadsTo cause effect := by
  intro time here
  generalize same : measure (schedule.states time) = bound
  induction bound using Nat.strongRecOn generalizing time with
  | ind bound ih =>
    obtain ⟨middle, after, ended | ⟨still, below⟩⟩ := smaller bound time ⟨here, same⟩
    · exact ⟨middle, after, ended⟩
    · obtain ⟨later, beyond, ended⟩ := ih _ below middle still rfl
      exact ⟨later, Nat.le_trans after beyond, ended⟩

/-- A cause that waits for events, and lasts until one of them comes, sees one come. -/
theorem Serves.comes (fair : schedule.Serves awaits serves) {time : Nat} (here : cause (schedule.states time))
    (waits : ∀ later, time ≤ later → cause (schedule.states later) → awaits (schedule.states later))
    (lasts : ∀ later event, time ≤ later → cause (schedule.states later) → schedule.events later = some event →
      ¬ serves event → cause (schedule.states (later + 1))) :
    ∃ later event, time ≤ later ∧ cause (schedule.states later) ∧ schedule.events later = some event ∧ serves event := by
  by_cases comes : ∃ later event, time ≤ later ∧ cause (schedule.states later) ∧ schedule.events later = some event ∧
    serves event
  · exact comes
  · have always : ∀ later, time ≤ later → cause (schedule.states later) := by
      intro later after
      induction after with
      | refl => exact here
      | @step middle after ih =>
        cases there : schedule.events middle with
        | none => exact (schedule.unchanged there).symm ▸ ih
        | some event => exact lasts middle event after ih there fun served => comes ⟨middle, event, after, ih, there, served⟩
    obtain ⟨later, event, after, there, served⟩ := fair time fun later after => waits later after (always later after)
    exact ⟨later, event, after, always later after, there, served⟩

/-- A cause that waits for events which bring the effect, and lasts until it is there. -/
theorem Serves.leadsTo (fair : schedule.Serves awaits serves)
    (waits : ∀ time, cause (schedule.states time) → awaits (schedule.states time))
    (next : ∀ time event, cause (schedule.states time) → schedule.events time = some event →
      cause (schedule.states (time + 1)) ∧ ¬ serves event ∨ effect (schedule.states (time + 1))) :
    schedule.LeadsTo cause effect := by
  intro time here
  by_cases reached : ∃ later, time ≤ later ∧ effect (schedule.states later)
  · exact reached
  · have never : ∀ later, time ≤ later → ¬ effect (schedule.states (later + 1)) :=
      fun later after ended => reached ⟨later + 1, Nat.le_succ_of_le after, ended⟩
    obtain ⟨later, event, after, still, there, served⟩ := fair.comes here (fun later _ => waits later)
      fun later event after still there _ => ((next later event still there).resolve_right (never later after)).1
    exact absurd served ((next later event still there).resolve_right (never later after)).2

/-- Something that ends does so in one step. -/
theorem LeadsTo.last (leads : schedule.LeadsTo cause fun state => ¬ cause state) {time : Nat}
    (here : cause (schedule.states time)) :
    ∃ later event, time ≤ later ∧ schedule.events later = some event ∧ cause (schedule.states later) ∧
      ¬ cause (schedule.states (later + 1)) := by
  obtain ⟨ended, after, gone⟩ := leads time here
  obtain ⟨steps, rfl⟩ := Nat.exists_eq_add_of_le after
  clear after
  induction steps with
  | zero => exact absurd here gone
  | succ steps ih =>
    by_cases still : cause (schedule.states (time + steps))
    · cases comes : schedule.events (time + steps) with
      | none => exact absurd ((schedule.unchanged comes).symm ▸ still) gone
      | some event => exact ⟨time + steps, event, Nat.le_add_right .., comes, still, gone⟩
    · exact ih still

/-! Where each step stands for at most one step of another machine, a schedule is one of that machine. -/

section Projection
variable {τ : Type u} {δ : Type v} {spec : τ → δ → Option τ} {view : σ → τ} {stands : ε → Option δ}

theorem project_taken (simulates : ∀ {before event after}, step before event = some after →
      (stands event).elim (some (view before)) (spec (view before)) = some (view after)) (schedule : Schedule step)
    (time : Nat) :
    ((schedule.events time).bind stands).elim (some (view (schedule.states time))) (spec (view (schedule.states time))) =
      some (view (schedule.states (time + 1))) := by
  cases here : schedule.events time with
  | none => rw [schedule.unchanged here, Option.bind_none, Option.elim_none]
  | some event => exact simulates (schedule.stepped here)

def project (simulates : ∀ {before event after}, step before event = some after →
      (stands event).elim (some (view before)) (spec (view before)) = some (view after)) (schedule : Schedule step) :
    Schedule spec where
  states time := view (schedule.states time)
  events time := (schedule.events time).bind stands
  taken := project_taken simulates schedule

variable {simulates : ∀ {before event after}, step before event = some after →
  (stands event).elim (some (view before)) (spec (view before)) = some (view after)}

theorem Serves.project {awaits : τ → Prop} {serves : ε → Prop} {served : δ → Prop}
    (fair : schedule.Serves (fun state => awaits (view state)) serves)
    (each : ∀ event, serves event → ∃ other, stands event = some other ∧ served other) :
    (schedule.project simulates).Serves awaits served := by
  intro time always
  obtain ⟨later, event, after, here, serving⟩ := fair time always
  obtain ⟨other, stood, done⟩ := each event serving
  have there : (schedule.project simulates).events later = some other := by
    simp only [Schedule.project, here, Option.bind_some, stood]
  exact ⟨later, other, after, there, done⟩

end Projection

/-! A finite run is a schedule after which nothing happens. -/

section Ended
variable {start final : σ} {events : List ε}

theorem run_take (ran : run step start events = some final) (time : Nat) :
    ∃ middle, run step start (events.take time) = some middle ∧ run step middle (events.drop time) = some final := by
  rw [← List.take_append_drop time events, run_append] at ran
  exact Option.bind_eq_some_iff.mp ran

theorem ending_taken (ran : run step start events = some final) (time : Nat) :
    (events[time]?).elim (some ((run step start (events.take time)).getD final))
        (step ((run step start (events.take time)).getD final)) =
      some ((run step start (events.take (time + 1))).getD final) := by
  by_cases inside : time < events.length
  · obtain ⟨middle, before, rest⟩ := run_take ran time
    rw [List.drop_eq_getElem_cons inside] at rest
    obtain ⟨next, taken, _⟩ := run_cons_some rest
    rw [← List.take_append_getElem inside, run_append, before]
    simp [inside, run, taken]
  · have ended : ∀ later, events.length ≤ later → events.take later = events :=
      fun later => List.take_of_length_le
    rw [ended time (by omega), ended (time + 1) (by omega), ran]
    simp [inside]

def ending (ran : run step start events = some final) : Schedule step where
  states time := (run step start (events.take time)).getD final
  events time := events[time]?
  taken := ending_taken ran

variable {ran : run step start events = some final}

theorem ending_initial : (ending ran).states 0 = start := rfl

theorem ending_final {time : Nat} (ended : events.length ≤ time) : (ending ran).states time = final := by
  simp [ending, List.take_of_length_le ended, ran]

theorem ending_meets {condition : σ → ε → Prop} (met : Machine.Meets step condition start events) :
    (ending ran).Meets condition := by
  intro time event here
  obtain ⟨inside, rfl⟩ := List.getElem?_eq_some_iff.mp here
  obtain ⟨middle, before, _⟩ := run_take ran time
  rw [← List.take_append_drop time events] at met
  have there := met.of_append before
  rw [List.drop_eq_getElem_cons inside] at there
  simpa [ending, before] using there.1

theorem ending_serves {awaits : σ → Prop} {serves : ε → Prop} (quiet : ¬ awaits final) :
    (ending ran).Serves awaits serves := by
  intro time always
  have here := always (max time events.length) (Nat.le_max_left ..)
  rw [ending_final (Nat.le_max_right ..)] at here
  exact absurd here quiet

theorem ending_leadsTo {cause effect : σ → Prop} (reached : effect final) : (ending ran).LeadsTo cause effect := by
  intro time _
  refine ⟨max time events.length, Nat.le_max_left .., ?_⟩
  rw [ending_final (Nat.le_max_right ..)]
  exact reached

end Ended

end Schedule

end Machine
