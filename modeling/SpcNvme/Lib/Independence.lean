import SpcNvme.Lib.Simulation

/-! Components that do not get in each other's way. Where steps of different components
commute, up to what nobody looks at, the order in which the components take their
steps does not matter: what counts is what each component does. -/

namespace Machine

universe u v w
variable {σ : Type u} {ε : Type v} {κ : Type w}

/-- `key` tells whose step an event is; `alike` are states that no step can tell apart. -/
structure Independent (step : σ → ε → Option σ) (key : ε → κ) (alike : σ → σ → Prop) (invariant : σ → Prop) :
    Prop where
  refl : ∀ state, alike state state
  trans : ∀ {first second third}, alike first second → alike second third → alike first third
  transfer : ∀ {before other event after}, alike before other → step before event = some after →
    ∃ next, step other event = some next ∧ alike after next
  kept : ∀ {before event after}, invariant before → step before event = some after → invariant after
  commutes : ∀ {before first second middle after}, invariant before → key first ≠ key second →
    step before first = some middle → step middle second = some after →
    ∃ between last, step before second = some between ∧ step between first = some last ∧ alike after last

namespace Independent
variable {step : σ → ε → Option σ} {key : ε → κ} {alike : σ → σ → Prop} {invariant : σ → Prop}
  (independent : Independent step key alike invariant)
include independent

theorem transfer_run {start other final : σ} {events : List ε} (same : alike start other)
    (ran : run step start events = some final) : ∃ last, run step other events = some last ∧ alike final last := by
  induction events generalizing start other with
  | nil =>
    obtain rfl : start = final := Option.some.inj ran
    exact ⟨other, rfl, same⟩
  | cons event rest ih =>
    obtain ⟨next, taken, remaining⟩ := run_cons_some ran
    obtain ⟨following, stepped, kept⟩ := independent.transfer same taken
    obtain ⟨last, reached, ended⟩ := ih kept remaining
    exact ⟨last, (run_cons stepped rest).trans reached, ended⟩

/-- An event can be taken before those of other components. -/
theorem to_front {start final : σ} {events : List ε} {event : ε} (holds : invariant start)
    (others : ∀ other ∈ events, key other ≠ key event) (ran : run step start (events ++ [event]) = some final) :
    ∃ last, run step start (event :: events) = some last ∧ alike final last := by
  induction events generalizing start with
  | nil => exact ⟨final, ran, independent.refl final⟩
  | cons first rest ih =>
    obtain ⟨middle, taken, remaining⟩ := run_cons_some ran
    have later : ∀ other ∈ rest, key other ≠ key event := fun other member => others other (List.mem_cons_of_mem first member)
    obtain ⟨reached, moved, same⟩ := ih (independent.kept holds taken) later remaining
    obtain ⟨after, stepped, onward⟩ := run_cons_some moved
    obtain ⟨between, swapped, before, following, alike⟩ :=
      independent.commutes holds (others first List.mem_cons_self) taken stepped
    obtain ⟨last, ended, similar⟩ := independent.transfer_run alike onward
    refine ⟨last, ?_, independent.trans same similar⟩
    rw [run_cons before, run_cons following, ended]

variable [DecidableEq κ]

/-- Two orders in which each component does the same lead to the same, up to what nobody looks at. -/
theorem reorder {start final : σ} {first second : List ε} (holds : invariant start)
    (same : ∀ place, first.filter (key · = place) = second.filter (key · = place))
    (ran : run step start first = some final) : ∃ last, run step start second = some last ∧ alike final last := by
  induction second generalizing start first final with
  | nil =>
    have empty : first = [] := by
      apply List.eq_nil_iff_forall_not_mem.mpr
      intro event member
      have there : event ∈ first.filter (key · = key event) := List.mem_filter.mpr ⟨member, by simp⟩
      rw [same] at there
      cases there
    subst empty
    exact ⟨final, ran, independent.refl final⟩
  | cons event rest ih =>
    -- the event is the first of its component in the other order too
    have own := same (key event)
    rw [List.filter_cons_of_pos (by simp)] at own
    obtain ⟨before, after, rfl, others, _, remaining⟩ := List.filter_eq_cons_iff.mp own
    have apart : ∀ other ∈ before, key other ≠ key event := fun other member => by simpa using others other member
    rw [← List.singleton_append, ← List.append_assoc, run_append] at ran
    obtain ⟨middle, moved, onward⟩ := Option.bind_eq_some_iff.mp ran
    obtain ⟨reached, swapped, alike⟩ := independent.to_front holds apart moved
    obtain ⟨final', ended, similar⟩ := independent.transfer_run alike onward
    obtain ⟨next, stepped, continued⟩ := run_cons_some swapped
    have joined : run step next (before ++ after) = some final' := by
      rw [run_append, continued, Option.bind_some, ended]
    have fewer : ∀ place, (before ++ after).filter (key · = place) = rest.filter (key · = place) := by
      intro place
      rw [List.filter_append]
      by_cases here : key event = place
      · subst here
        have none : before.filter (key · = key event) = [] := by
          apply List.filter_eq_nil_iff.mpr
          exact fun other member => by simpa using apart other member
        rw [none, List.nil_append, remaining]
      · have own := same place
        rw [List.filter_append, List.filter_cons_of_neg (by simpa using here),
          List.filter_cons_of_neg (by simpa using here)] at own
        exact own
    obtain ⟨last, finished, ending⟩ := ih (independent.kept holds stepped) fewer joined
    exact ⟨last, (run_cons stepped rest).trans finished, independent.trans similar ending⟩

end Independent

end Machine
