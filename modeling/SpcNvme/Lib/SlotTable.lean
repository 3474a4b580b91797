import Mathlib.Logic.Function.Basic
import Mathlib.Data.List.Nodup
import Mathlib.Tactic.Common

/-! Tables of slots that are empty or hold a value, and how the number of
occupied slots follows updates of single slots. -/

namespace SlotTable

universe u
variable {α : Type u}

/-- How many of the first `depth` slots are occupied. -/
def occupied (table : Nat → Option α) : Nat → Nat
  | 0 => 0
  | depth + 1 => occupied table depth + if (table depth).isSome then 1 else 0

theorem occupied_le (table : Nat → Option α) (depth : Nat) : occupied table depth ≤ depth := by
  induction depth with
  | zero => exact Nat.le_refl 0
  | succ depth ih =>
    simp only [occupied]
    split <;> omega

theorem occupied_empty (depth : Nat) : occupied (fun _ => (none : Option α)) depth = 0 := by
  induction depth with
  | zero => rfl
  | succ depth ih => simp [occupied, ih]

theorem occupied_congr {table other : Nat → Option α} {depth : Nat}
    (same : ∀ slot, slot < depth → table slot = other slot) : occupied table depth = occupied other depth := by
  induction depth with
  | zero => rfl
  | succ depth ih =>
    simp only [occupied, same depth (Nat.lt_succ_self depth)]
    rw [ih fun slot inside => same slot (by omega)]

theorem occupied_update (table : Nat → Option α) {depth slot : Nat} (inside : slot < depth) (value : Option α) :
    occupied (Function.update table slot value) depth + (if (table slot).isSome then 1 else 0) =
      occupied table depth + if value.isSome then 1 else 0 := by
  induction depth with
  | zero => omega
  | succ depth ih =>
    simp only [occupied]
    by_cases last : slot = depth
    · subst slot
      have same : ∀ other, other < depth → Function.update table depth value other = table other :=
        fun other earlier => Function.update_of_ne (Nat.ne_of_lt earlier) ..
      rw [Function.update_self, occupied_congr same]
      omega
    · rw [Function.update_of_ne (Ne.symm last)]
      have earlier := ih (by omega)
      omega

theorem occupied_put {table : Nat → Option α} {depth slot : Nat} (inside : slot < depth)
    (free : table slot = none) (value : α) :
    occupied (Function.update table slot (some value)) depth = occupied table depth + 1 := by
  have count := occupied_update table inside (some value)
  simpa [free] using count

theorem occupied_replace {table : Nat → Option α} {depth slot : Nat} (inside : slot < depth)
    {old : α} (held : table slot = some old) (value : α) :
    occupied (Function.update table slot (some value)) depth = occupied table depth := by
  have count := occupied_update table inside (some value)
  simpa [held] using count

theorem occupied_eq_zero_iff {table : Nat → Option α} {depth : Nat} :
    occupied table depth = 0 ↔ ∀ slot, slot < depth → table slot = none := by
  induction depth with
  | zero => simp [occupied]
  | succ depth ih =>
    simp only [occupied, Nat.add_eq_zero_iff, ih]
    constructor
    · intro empty slot inside
      obtain ⟨before, last⟩ := empty
      by_cases same : slot = depth
      · subst slot
        simpa using last
      · apply before
        omega
    · intro empty
      constructor
      · intro slot inside
        apply empty
        omega
      · simp [empty depth (Nat.lt_succ_self depth)]

/-! Tables whose values carry a serial number and are settled when they leave. -/

/-- No number is settled twice, and none is settled while its value is still in
the table. `next` is the first number not handed out yet. -/
structure Settles (number : α → Nat) (table : Nat → Option α) (next : Nat) (settled : List Nat) : Prop where
  nodup : settled.Nodup
  issued : ∀ serial ∈ settled, serial < next
  unsettled : ∀ slot value, table slot = some value → number value < next ∧ number value ∉ settled
  apart : ∀ first second value other, table first = some value → table second = some other →
    number value = number other → first = second

namespace Settles
variable {number : α → Nat} {table : Nat → Option α} {next : Nat} {settled : List Nat}

theorem empty (number : α → Nat) (next : Nat) : Settles number (fun _ => none) next [] where
  nodup := .nil
  issued := fun _ member => absurd member List.not_mem_nil
  unsettled := fun _ _ held => absurd held (by simp)
  apart := fun _ _ _ _ held => absurd held (by simp)

theorem drop (settles : Settles number table next settled) {smaller : Nat → Option α}
    (kept : ∀ slot value, smaller slot = some value → table slot = some value) : Settles number smaller next settled :=
  ⟨settles.nodup, settles.issued, fun slot value held => settles.unsettled slot value (kept slot value held),
    fun first second value other held also => settles.apart first second value other (kept _ _ held) (kept _ _ also)⟩

theorem take (settles : Settles number table next settled) {slot : Nat} {value : α} (held : table slot = some value) :
    Settles number (Function.update table slot none) next (settled ++ [number value]) := by
  obtain ⟨issued, unsettled⟩ := settles.unsettled slot value held
  have kept : ∀ other found, Function.update table slot none other = some found → other ≠ slot ∧ table other = some found := by
    intro other found present
    by_cases same : other = slot
    · subst other
      simp at present
    · exact ⟨same, by rwa [Function.update_of_ne same] at present⟩
  refine ⟨?_, ?_, ?_, ?_⟩
  · rw [List.nodup_append]
    refine ⟨settles.nodup, List.nodup_singleton _, ?_⟩
    intro serial member last singleton equal
    rw [List.mem_singleton] at singleton
    exact unsettled (singleton ▸ equal ▸ member)
  · intro serial member
    rcases List.mem_append.mp member with old | new
    · exact settles.issued serial old
    · rw [List.mem_singleton.mp new]
      exact issued
  · intro other found present
    obtain ⟨elsewhere, there⟩ := kept other found present
    obtain ⟨bounded, fresh⟩ := settles.unsettled other found there
    refine ⟨bounded, ?_⟩
    intro member
    rcases List.mem_append.mp member with old | new
    · exact fresh old
    · exact elsewhere (settles.apart other slot found value there held (List.mem_singleton.mp new))
  · intro first second left right present also
    exact settles.apart first second left right (kept first left present).2 (kept second right also).2

theorem put (settles : Settles number table next settled) (slot : Nat) (value : α) (fresh : number value = next) :
    Settles number (Function.update table slot (some value)) (next + 1) settled := by
  have found : ∀ other present, Function.update table slot (some value) other = some present →
      (other = slot ∧ present = value) ∨ (other ≠ slot ∧ table other = some present) := by
    intro other present held
    by_cases same : other = slot
    · subst other
      rw [Function.update_self, Option.some.injEq] at held
      exact .inl ⟨rfl, held.symm⟩
    · exact .inr ⟨same, by rwa [Function.update_of_ne same] at held⟩
  have older : ∀ other present, table other = some present → number present ≠ next := by
    intro other present held equal
    have issued := (settles.unsettled other present held).1
    omega
  refine ⟨settles.nodup, fun serial member => Nat.lt_succ_of_lt (settles.issued serial member), ?_, ?_⟩
  · intro other present held
    rcases found other present held with ⟨_, rfl⟩ | ⟨_, there⟩
    · refine ⟨by omega, ?_⟩
      intro member
      have issued := settles.issued _ member
      omega
    · obtain ⟨issued, unsettled⟩ := settles.unsettled other present there
      exact ⟨by omega, unsettled⟩
  · intro first second left right held also equal
    rcases found first left held with ⟨rfl, rfl⟩ | ⟨_, there⟩ <;>
      rcases found second right also with ⟨rfl, rfl⟩ | ⟨_, here⟩
    · rfl
    · exact absurd (equal.symm.trans fresh) (older second right here)
    · exact absurd (equal.trans fresh) (older first left there)
    · exact settles.apart first second left right there here equal

/-- A number that is handed out and settled at once never gets into the table. -/
theorem skip (settles : Settles number table next settled) : Settles number table (next + 1) (settled ++ [next]) := by
  refine ⟨?_, ?_, ?_, settles.apart⟩
  · rw [List.nodup_append]
    refine ⟨settles.nodup, List.nodup_singleton _, ?_⟩
    intro serial member last singleton equal
    rw [List.mem_singleton] at singleton
    have issued := settles.issued serial member
    omega
  · intro serial member
    rcases List.mem_append.mp member with old | new
    · exact Nat.lt_succ_of_lt (settles.issued serial old)
    · rw [List.mem_singleton.mp new]
      exact Nat.lt_succ_self next
  · intro slot value held
    obtain ⟨issued, unsettled⟩ := settles.unsettled slot value held
    refine ⟨Nat.lt_succ_of_lt issued, ?_⟩
    intro member
    rcases List.mem_append.mp member with old | new
    · exact unsettled old
    · rw [List.mem_singleton.mp new] at issued
      exact Nat.lt_irrefl next issued

end Settles

/-- No number handed out gets lost: it is settled, or its value is in the table. -/
def Covers (number : α → Nat) (table : Nat → Option α) (next : Nat) (settled : List Nat) : Prop :=
  ∀ serial, serial < next → serial ∈ settled ∨ ∃ slot value, table slot = some value ∧ number value = serial

namespace Covers
variable {number : α → Nat} {table : Nat → Option α} {next : Nat} {settled : List Nat}

theorem take (covers : Covers number table next settled) {slot : Nat} {value : α} (held : table slot = some value) :
    Covers number (Function.update table slot none) next (settled ++ [number value]) := by
  intro serial issued
  rcases covers serial issued with old | ⟨other, found, present, equal⟩
  · exact .inl (List.mem_append_left _ old)
  · by_cases same : other = slot
    · subst other
      obtain rfl : value = found := Option.some.inj (held.symm.trans present)
      exact .inl (List.mem_append_right _ (List.mem_singleton.mpr equal.symm))
    · exact .inr ⟨other, found, by rwa [Function.update_of_ne same], equal⟩

theorem put (covers : Covers number table next settled) {slot : Nat} (free : table slot = none) (value : α)
    (fresh : number value = next) : Covers number (Function.update table slot (some value)) (next + 1) settled := by
  intro serial issued
  by_cases last : serial = next
  · exact .inr ⟨slot, value, Function.update_self .., fresh.trans last.symm⟩
  · rcases covers serial (by omega) with old | ⟨other, found, present, equal⟩
    · exact .inl old
    · have elsewhere : other ≠ slot := by
        intro same
        rw [same, free] at present
        cases present
      exact .inr ⟨other, found, by rwa [Function.update_of_ne elsewhere], equal⟩

theorem skip (covers : Covers number table next settled) : Covers number table (next + 1) (settled ++ [next]) := by
  intro serial issued
  by_cases last : serial = next
  · exact .inl (List.mem_append_right _ (List.mem_singleton.mpr last))
  · rcases covers serial (by omega) with old | held
    · exact .inl (List.mem_append_left _ old)
    · exact .inr held

/-- With the table empty, every number handed out was settled exactly once. -/
theorem count_eq_one (covers : Covers number table next settled) (settles : Settles number table next settled)
    (empty : ∀ slot, table slot = none) {serial : Nat} (issued : serial < next) : settled.count serial = 1 := by
  rcases covers serial issued with member | ⟨slot, value, held, _⟩
  · exact List.count_eq_one_of_mem settles.nodup member
  · rw [empty slot] at held
    cases held

end Covers

end SlotTable
