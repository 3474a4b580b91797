import Mathlib.Logic.Function.Basic
import Mathlib.Data.List.Basic
import Mathlib.Tactic.Common

/-! Rings of fixed depth, indexed by unbounded positions. A producer writes
position after position into `position % depth`; a consumer that owns no count
of the producer's progress can still recognise a new cell by a phase bit that
the producer flips on every lap. The results say when such a ring behaves as an
unbounded first-in first-out list. -/

namespace PhaseRing

universe u
variable {α : Type u}

/-- The phase bit of a position: set on the first lap, flipped on every wrap. -/
def phase (depth position : Nat) : Bool := position / depth % 2 == 0

theorem phase_of_lt {depth position : Nat} (inside : position < depth) : phase depth position = true := by
  simp [phase, Nat.div_eq_of_lt inside]

theorem phase_add_depth {depth : Nat} (positive : 0 < depth) (position : Nat) :
    phase depth (position + depth) = !phase depth position := by
  simp only [phase, Nat.add_div_right position positive]
  rcases Nat.mod_two_eq_zero_or_one (position / depth) with even | odd
  · have next : (position / depth + 1) % 2 = 1 := by omega
    simp [even, next]
  · have next : (position / depth + 1) % 2 = 0 := by omega
    simp [odd, next]

theorem slot_succ (depth position : Nat) : (position % depth + 1) % depth = (position + 1) % depth := by
  simp [Nat.add_mod]

/-- Moving one position on flips the phase exactly when the slot wraps. -/
theorem phase_succ (depth position : Nat) :
    phase depth (position + 1) =
      if (position + 1) % depth = 0 then !phase depth position else phase depth position := by
  simp only [phase, Nat.succ_div, Nat.dvd_iff_mod_eq_zero]
  split
  · rcases Nat.mod_two_eq_zero_or_one (position / depth) with even | odd
    · have next : (position / depth + 1) % 2 = 1 := by omega
      simp [even, next]
    · have next : (position / depth + 1) % 2 = 0 := by omega
      simp [odd, next]
  · simp

theorem slot_ne {depth first second : Nat} (before : first < second) (window : second < first + depth) :
    first % depth ≠ second % depth := by
  intro same
  have aligned : (second - first) % depth = 0 := Nat.sub_mod_eq_zero_of_mod_eq same.symm
  rw [Nat.mod_eq_of_lt (by omega)] at aligned
  omega

theorem slot_distance {depth slot : Nat} (inside : slot < depth) (position : Nat) :
    (position + (slot + depth - position % depth) % depth) % depth = slot := by
  have here := Nat.mod_lt position (Nat.zero_lt_of_lt inside)
  have around : position % depth + (slot + depth - position % depth) = slot + depth := by omega
  rw [Nat.add_mod_mod, ← Nat.mod_add_mod, around, Nat.add_mod_right, Nat.mod_eq_of_lt inside]

/-- The cells hold the last `depth` values of everything written so far. -/
def Stores (depth : Nat) (cells : Nat → α) (written : List α) : Prop :=
  ∀ position (inside : position < written.length), written.length ≤ position + depth →
    cells (position % depth) = written[position]

theorem Stores.empty (depth : Nat) (cells : Nat → α) : Stores depth cells [] :=
  fun _ inside => absurd inside (Nat.not_lt_zero _)

theorem Stores.write {depth : Nat} {cells : Nat → α} {written : List α} (stored : Stores depth cells written)
    (value : α) :
    Stores depth (Function.update cells (written.length % depth) value) (written ++ [value]) := by
  intro position inside recent
  simp only [List.length_append, List.length_singleton] at inside recent
  by_cases last : position = written.length
  · subst position
    simp
  · have earlier : position < written.length := by omega
    rw [Function.update_of_ne (slot_ne earlier (by omega)), List.getElem_append_left earlier]
    apply stored position earlier
    omega

theorem Stores.mem {depth : Nat} {cells : Nat → α} {written : List α} (stored : Stores depth cells written)
    (positive : 0 < depth) {position : Nat} (inside : position < written.length) :
    cells (position % depth) ∈ written := by
  -- the last lap that reached this slot
  let last := position + depth * ((written.length - 1 - position) / depth)
  have below := Nat.mul_div_le (written.length - 1 - position) depth
  have above := Nat.lt_mul_div_succ (written.length - 1 - position) positive
  have reached : last < written.length := by omega
  have recent : written.length ≤ last + depth := by
    rw [Nat.mul_add] at above
    omega
  have same : last % depth = position % depth := Nat.add_mul_mod_self_left ..
  rw [← same, stored last reached recent]
  exact List.getElem_mem reached

/-- A ring whose cells carry the phase of the position they were written at.
Cells no position has reached yet carry the phase of no first-lap value. -/
structure Tagged (depth : Nat) (tag : α → Bool) (cells : Nat → α) (written : List α) : Prop where
  stored : Stores depth cells written
  tagged : ∀ position (inside : position < written.length), tag written[position] = phase depth position
  blank : ∀ slot, written.length ≤ slot → slot < depth → tag (cells slot) = false

theorem Tagged.empty {depth : Nat} {tag : α → Bool} {cells : Nat → α}
    (blank : ∀ slot, slot < depth → tag (cells slot) = false) : Tagged depth tag cells [] :=
  ⟨.empty depth cells, fun _ inside => absurd inside (Nat.not_lt_zero _), fun slot _ inside => blank slot inside⟩

theorem Tagged.write {depth : Nat} {tag : α → Bool} {cells : Nat → α} {written : List α}
    (ring : Tagged depth tag cells written) {value : α}
    (fresh : tag value = phase depth written.length) :
    Tagged depth tag (Function.update cells (written.length % depth) value) (written ++ [value]) := by
  refine ⟨ring.stored.write value, ?_, ?_⟩
  · intro position inside
    simp only [List.length_append, List.length_singleton] at inside
    by_cases last : position = written.length
    · subst position
      simpa using fresh
    · have earlier : position < written.length := by omega
      rw [List.getElem_append_left earlier]
      exact ring.tagged position earlier
  · intro slot unreached inside
    simp only [List.length_append, List.length_singleton] at unreached
    have other : slot ≠ written.length % depth := by
      rw [Nat.mod_eq_of_lt (by omega)]
      omega
    rw [Function.update_of_ne other]
    exact ring.blank slot (by omega) inside

/-- The consumer's test. Looking at position `reader` for that position's
phase succeeds exactly when the producer has written it, provided neither is a
full lap ahead of the other. -/
theorem Tagged.arrived_iff {depth : Nat} {tag : α → Bool} {cells : Nat → α} {written : List α}
    (ring : Tagged depth tag cells written) (positive : 0 < depth) {reader : Nat}
    (notLapped : written.length ≤ reader + depth) (notAhead : reader < written.length + depth) :
    tag (cells (reader % depth)) = phase depth reader ↔ reader < written.length := by
  by_cases behind : reader < written.length
  · rw [ring.stored reader behind notLapped, ring.tagged reader behind]
    simp [behind]
  · simp only [behind, iff_false]
    by_cases first : reader < depth
    · rw [Nat.mod_eq_of_lt first, ring.blank reader (by omega) first, phase_of_lt first]
      simp
    · -- the slot still holds what was written one lap earlier, under the other phase
      obtain ⟨previous, rfl⟩ := Nat.exists_eq_add_of_le' (Nat.le_of_not_lt first)
      have earlier : previous < written.length := by omega
      rw [Nat.add_mod_right, ring.stored previous earlier (by omega), ring.tagged previous earlier,
        phase_add_depth positive]
      cases phase depth previous <;> simp

theorem Tagged.read {depth : Nat} {tag : α → Bool} {cells : Nat → α} {written : List α}
    (ring : Tagged depth tag cells written) {reader : Nat} (behind : reader < written.length)
    (notLapped : written.length ≤ reader + depth) : cells (reader % depth) = written[reader] :=
  ring.stored reader behind notLapped

end PhaseRing
