import Mathlib.Logic.Function.Basic

/-! Operations that work on one cell of a state made of cells. Beside the cells a state
may have a rest, such as a log. Operations on different cells commute, as long as
one of them leaves the rest alone, and states that differ in some cells only go on
doing so. -/

universe u v w x

/-- The cells of a state and its rest, which together make it up. -/
structure Footprint (σ : Type u) (ι : Type v) (α : Type w) (γ : Type x) where
  cell : σ → ι → α
  rest : σ → γ
  ext : ∀ {state other}, cell state = cell other → rest state = rest other → state = other

namespace Footprint
variable {σ : Type u} {ι : Type v} {α : Type w} {γ : Type x} (footprint : Footprint σ ι α γ)

/-- The operation reads and writes this cell and the rest. -/
structure ActsAt (index : ι) (operation : σ → σ) : Prop where
  cell : ∀ {state other}, footprint.cell state index = footprint.cell other index →
    footprint.rest state = footprint.rest other →
    footprint.cell (operation state) index = footprint.cell (operation other) index
  rest : ∀ {state other}, footprint.cell state index = footprint.cell other index →
    footprint.rest state = footprint.rest other → footprint.rest (operation state) = footprint.rest (operation other)
  elsewhere : ∀ {state other}, other ≠ index → footprint.cell (operation state) other = footprint.cell state other

/-- The operation reads and writes this cell only. -/
structure Writes (index : ι) (operation : σ → σ) : Prop where
  cell : ∀ {state other}, footprint.cell state index = footprint.cell other index →
    footprint.cell (operation state) index = footprint.cell (operation other) index
  rest : ∀ state, footprint.rest (operation state) = footprint.rest state
  elsewhere : ∀ {state other}, other ≠ index → footprint.cell (operation state) other = footprint.cell state other

/-- The states differ at most in these cells. -/
structure Agree (except : ι → Prop) (state other : σ) : Prop where
  cell : ∀ index, ¬ except index → footprint.cell state index = footprint.cell other index
  rest : footprint.rest state = footprint.rest other

variable {footprint} {index second : ι} {operation following : σ → σ} {except more : ι → Prop} {state other : σ}

namespace Writes

theorem id (index : ι) : footprint.Writes index fun state => state := ⟨fun same => same, fun _ => rfl, fun _ => rfl⟩

theorem comp (first : footprint.Writes index operation) (next : footprint.Writes index following) :
    footprint.Writes index fun state => following (operation state) where
  cell := fun same => next.cell (first.cell same)
  rest := fun state => (next.rest _).trans (first.rest state)
  elsewhere := fun apart => (next.elsewhere apart).trans (first.elsewhere apart)

theorem actsAt (writes : footprint.Writes index operation) : footprint.ActsAt index operation where
  cell := fun same _ => writes.cell same
  rest := fun _ same => by rw [writes.rest, writes.rest, same]
  elsewhere := writes.elsewhere

end Writes

namespace ActsAt

theorem id (index : ι) : footprint.ActsAt index fun state => state :=
  ⟨fun same _ => same, fun _ same => same, fun _ => rfl⟩

theorem comp (first : footprint.ActsAt index operation) (next : footprint.ActsAt index following) :
    footprint.ActsAt index fun state => following (operation state) where
  cell := fun same rest => next.cell (first.cell same rest) (first.rest same rest)
  rest := fun same rest => next.rest (first.cell same rest) (first.rest same rest)
  elsewhere := fun apart => (next.elsewhere apart).trans (first.elsewhere apart)

theorem select {κ : Type*} (key : α → γ → κ) (family : κ → σ → σ)
    (each : ∀ key, footprint.ActsAt index (family key)) :
    footprint.ActsAt index fun state => family (key (footprint.cell state index) (footprint.rest state)) state where
  cell := by
    intro state other same rest
    simp only [same, rest]
    exact (each _).cell same rest
  rest := by
    intro state other same rest
    simp only [same, rest]
    exact (each _).rest same rest
  elsewhere := fun apart => (each _).elsewhere apart

/-- Operations on different cells may be done in any order, if one of them leaves the rest alone. -/
theorem commutes (acts : footprint.ActsAt index operation) (writes : footprint.Writes second following)
    (apart : index ≠ second) (state : σ) : operation (following state) = following (operation state) := by
  have here : footprint.cell (following state) index = footprint.cell state index := writes.elsewhere apart
  apply footprint.ext
  · funext place
    by_cases own : place = index
    · subst place
      rw [acts.cell here (writes.rest state), writes.elsewhere apart]
    · rw [acts.elsewhere own]
      by_cases last : place = second
      · subst place
        exact writes.cell (acts.elsewhere own).symm
      · rw [writes.elsewhere last, writes.elsewhere last, acts.elsewhere own]
  · rw [acts.rest here (writes.rest state), writes.rest]

theorem agree (acts : footprint.ActsAt index operation) (agree : footprint.Agree except state other)
    (inside : ¬ except index) : footprint.Agree except (operation state) (operation other) where
  cell := by
    intro place compared
    by_cases here : place = index
    · subst place
      exact acts.cell (agree.cell index compared) agree.rest
    · rw [acts.elsewhere here, acts.elsewhere here, agree.cell place compared]
  rest := acts.rest (agree.cell index inside) agree.rest

end ActsAt

namespace Agree

theorem refl (except : ι → Prop) (state : σ) : footprint.Agree except state state := ⟨fun _ _ => rfl, rfl⟩

theorem mono (agree : footprint.Agree except state other) (wider : ∀ index, except index → more index) :
    footprint.Agree more state other :=
  ⟨fun index compared => agree.cell index fun excepted => compared (wider index excepted), agree.rest⟩

/-- What is written to a cell does not matter where the cell is not compared. -/
theorem write (agree : footprint.Agree except state other) (writes : footprint.Writes index operation) :
    footprint.Agree (fun place => place = index ∨ except place) state (operation other) where
  cell := by
    intro place compared
    obtain ⟨elsewhere, inside⟩ := not_or.mp compared
    rw [writes.elsewhere elsewhere, agree.cell place inside]
  rest := by rw [writes.rest, agree.rest]

/-- Cells written with the same content agree, whatever they held before. -/
theorem overwrite {first last : σ → σ} (agree : footprint.Agree except state other)
    (writes : footprint.Writes index first) (also : footprint.Writes index last)
    (same : footprint.cell (first state) index = footprint.cell (last other) index) :
    footprint.Agree (fun place => place ≠ index ∧ except place) (first state) (last other) where
  cell := by
    intro place compared
    by_cases here : place = index
    · subst place
      exact same
    · have inside : ¬ except place := fun excepted => compared ⟨here, excepted⟩
      rw [writes.elsewhere here, also.elsewhere here, agree.cell place inside]
  rest := by rw [writes.rest, also.rest, agree.rest]

end Agree

end Footprint
