import Mathlib.Logic.Function.Basic
import Mathlib.Data.List.Nodup

/-! Cells read and written at a list of places, in order. What was written at
different places is read back, places that were not written keep their content, and
cells seen through a translation of addresses are written through it. -/

namespace ScatterGather

universe u v w
variable {ι : Type u} {κ : Type v} {β : Type w}

def gather (cells : ι → β) (places : List ι) : List β := places.map cells

@[simp] theorem length_gather (cells : ι → β) (places : List ι) : (gather cells places).length = places.length :=
  List.length_map cells

theorem gather_congr {first second : ι → β} {places : List ι} (same : ∀ place ∈ places, first place = second place) :
    gather first places = gather second places :=
  List.map_congr_left same

theorem gather_map (cells : ι → β) (translate : κ → ι) (places : List κ) :
    gather cells (places.map translate) = gather (cells ∘ translate) places :=
  List.map_map

section Scatter
variable [DecidableEq ι]

/-- Each value goes to its place; what is left over of either list is ignored. -/
def scatter (cells : ι → β) : List ι → List β → ι → β
  | place :: places, value :: values => scatter (Function.update cells place value) places values
  | _, _ => cells

@[simp] theorem scatter_nil (cells : ι → β) (values : List β) : scatter cells [] values = cells := rfl

theorem scatter_of_not_mem {cells : ι → β} {places : List ι} {values : List β} {place : ι} (outside : place ∉ places) :
    scatter cells places values place = cells place := by
  induction places generalizing cells values with
  | nil => rfl
  | cons first places ih =>
    obtain ⟨apart, later⟩ := not_or.mp (List.mem_cons.not.mp outside)
    cases values with
    | nil => rfl
    | cons value values => rw [scatter, ih later, Function.update_of_ne apart]

theorem scatter_append (cells : ι → β) {first : List ι} {front : List β} (complete : front.length = first.length)
    (rest : List ι) (back : List β) :
    scatter cells (first ++ rest) (front ++ back) = scatter (scatter cells first front) rest back := by
  induction first generalizing cells front with
  | nil =>
    obtain rfl : front = [] := List.length_eq_zero_iff.mp complete
    rfl
  | cons place first ih =>
    cases front with
    | nil => cases complete
    | cons value front => exact ih (Function.update cells place value) (Nat.succ.inj complete)

/-- What is read elsewhere is as before. -/
theorem gather_scatter_apart {cells : ι → β} {places others : List ι} {values : List β}
    (apart : ∀ place ∈ others, place ∉ places) : gather (scatter cells places values) others = gather cells others :=
  gather_congr fun place member => scatter_of_not_mem (apart place member)

/-- What was written at different places is read back. -/
theorem gather_scatter {cells : ι → β} {places : List ι} {values : List β} (distinct : places.Nodup)
    (complete : values.length = places.length) : gather (scatter cells places values) places = values := by
  induction places generalizing cells values with
  | nil =>
    rw [List.length_nil, List.length_eq_zero_iff] at complete
    subst complete
    rfl
  | cons first places ih =>
    cases values with
    | nil => cases complete
    | cons value values =>
      obtain ⟨outside, rest⟩ := List.nodup_cons.mp distinct
      have here : scatter (Function.update cells first value) places values first = value := by
        rw [scatter_of_not_mem outside, Function.update_self]
      have later : gather (scatter (Function.update cells first value) places values) places = values :=
        ih rest (Nat.succ.inj complete)
      simp only [gather, scatter, List.map_cons, here, List.cons.injEq, true_and]
      exact later

/-- What is at a place afterwards depends only on what was there. -/
theorem scatter_congr {first second : ι → β} {place : ι} (same : first place = second place) (places : List ι)
    (values : List β) : scatter first places values place = scatter second places values place := by
  induction places generalizing first second values with
  | nil => exact same
  | cons head places ih =>
    cases values with
    | nil => exact same
    | cons value values =>
      apply ih
      by_cases here : place = head
      · subst here
        rw [Function.update_self, Function.update_self]
      · rw [Function.update_of_ne here, Function.update_of_ne here, same]

/-- Writing through a translation that takes no other of the places to this one. -/
theorem scatter_map [DecidableEq κ] {cells : ι → β} {translate : κ → ι} {places : List κ} {values : List β} {place : κ}
    (injective : ∀ other ∈ places, translate other = translate place → other = place) :
    scatter cells (places.map translate) values (translate place) = scatter (cells ∘ translate) places values place := by
  induction places generalizing cells values with
  | nil => rfl
  | cons first places ih =>
    cases values with
    | nil => rfl
    | cons value values =>
      have rest : ∀ other ∈ places, translate other = translate place → other = place :=
        fun other member => injective other (List.mem_cons_of_mem first member)
      rw [List.map_cons, scatter, ih rest]
      apply scatter_congr
      by_cases here : place = first
      · subst here
        simp
      · have apart : translate place ≠ translate first :=
          fun same => here (injective first List.mem_cons_self same.symm).symm
        rw [Function.comp_apply, Function.update_of_ne apart, Function.update_of_ne here]
        rfl

end Scatter

end ScatterGather
