import SpcNvme.Lib.Machine
import Mathlib.Logic.Function.Basic
import Mathlib.Data.List.Nodup
import Mathlib.Tactic.Common

/-! A pool that hands blocks out to owners and takes them back. The pool never
hands out a block that is still out, but it can be given one back that is not.
The books are right if every block attached to an owner is out to that owner, and
complete if no block is out that is not attached. -/

namespace BlockPool

universe u v

inductive Op (β : Type u) (α : Type v) where
  | alloc (block : β) (owner : α)
  | free (block : β)

/-- `twice` records the blocks given back that were not out. -/
structure State (β : Type u) (α : Type v) where
  owner : β → Option α
  twice : List β

def State.initial (β : Type u) (α : Type v) : State β α := ⟨fun _ => none, []⟩

/-- Blocks attached to an owner are out to it, and none was given back twice. -/
structure Books {β : Type u} {α : Type v} (state : State β α) (attached : β → α → Prop) : Prop where
  owns : ∀ block owner, attached block owner → state.owner block = some owner
  once : state.twice = []

def Complete {β : Type u} {α : Type v} (state : State β α) (attached : β → α → Prop) : Prop :=
  ∀ block owner, state.owner block = some owner → attached block owner

namespace Books
variable {β : Type u} {α : Type v} {state : State β α} {attached fewer : β → α → Prop}

theorem initial (none : ∀ block owner, ¬ attached block owner) : Books (State.initial β α) attached :=
  ⟨fun block owner there => absurd there (none block owner), rfl⟩

theorem drop (books : Books state attached) (still : ∀ block owner, fewer block owner → attached block owner) :
    Books state fewer :=
  ⟨fun block owner there => books.owns block owner (still block owner there), books.once⟩

/-- Complete books stay complete exactly if every block stays attached. -/
theorem complete_iff (books : Books state attached) (complete : Complete state attached) :
    Complete state fewer ↔ ∀ block owner, attached block owner → fewer block owner := by
  constructor
  · intro kept block owner there
    exact kept block owner (books.owns block owner there)
  · intro same block owner out
    exact same block owner (complete block owner out)

end Books

open Classical in
/-- The pool as those see it who do not know of some blocks that are out. -/
noncomputable def State.without {β : Type u} {α : Type v} (state : State β α) (hidden : β → Prop) : State β α :=
  { state with owner := fun block => if hidden block then none else state.owner block }

theorem State.without_nothing {β : Type u} {α : Type v} {state : State β α} {hidden : β → Prop}
    (nothing : ∀ block, ¬ hidden block) : state.without hidden = state := by
  simp [State.without, nothing]

theorem State.without_owner {β : Type u} {α : Type v} {state : State β α} {hidden : β → Prop} {block : β}
    (visible : ¬ hidden block) : (state.without hidden).owner block = state.owner block :=
  if_neg visible

section
variable {β : Type u} {α : Type v} [DecidableEq β]

def apply (state : State β α) : Op β α → Option (State β α)
  | .alloc block owner =>
      match state.owner block with
      | none => some { state with owner := Function.update state.owner block (some owner) }
      | some _ => none
  | .free block =>
      some {
        owner := Function.update state.owner block none
        twice := match state.owner block with
          | none => state.twice ++ [block]
          | some _ => state.twice }

theorem apply_alloc {state after : State β α} {block : β} {owner : α}
    (taken : apply state (.alloc block owner) = some after) :
    state.owner block = none ∧ after = { state with owner := Function.update state.owner block (some owner) } := by
  simp only [apply] at taken
  split at taken
  · next fresh => exact ⟨fresh, (Option.some.inj taken).symm⟩
  · cases taken

theorem apply_free {state after : State β α} {block : β} {owner : α} (out : state.owner block = some owner)
    (taken : apply state (.free block) = some after) :
    after = { state with owner := Function.update state.owner block none } := by
  simp only [apply, out, Option.some.injEq] at taken
  exact taken.symm

theorem run_alloc_free {state after : State β α} {block : β} {owner : α}
    (ran : Machine.run apply state [.alloc block owner, .free block] = some after) : after = state := by
  obtain ⟨next, taken, remaining⟩ := Machine.run_cons_some ran
  obtain ⟨fresh, rfl⟩ := apply_alloc taken
  obtain ⟨last, freed, ended⟩ := Machine.run_cons_some remaining
  cases ended
  rw [apply_free (Function.update_self ..) freed]
  simp only [Function.update_idem]
  rw [Function.update_eq_self_iff.mpr fresh.symm]

theorem fresh_of_run {blocks : List β} {state after : State β α} {owner : α} {block : β}
    (ran : Machine.run apply state (blocks.map (.alloc · owner)) = some after) (member : block ∈ blocks) :
    state.owner block = none := by
  induction blocks generalizing state with
  | nil => cases member
  | cons first rest ih =>
    obtain ⟨next, taken, remaining⟩ := Machine.run_cons_some ran
    obtain ⟨fresh, rfl⟩ := apply_alloc taken
    rcases List.mem_cons.mp member with rfl | later
    · exact fresh
    · have free := ih remaining later
      by_cases same : block = first
      · rw [same]
        exact fresh
      · simpa [same] using free

/-- Giving back different blocks that are all out. -/
theorem run_frees {blocks : List β} {state after : State β α} (nodup : blocks.Nodup)
    (out : ∀ block ∈ blocks, (state.owner block).isSome)
    (ran : Machine.run apply state (blocks.map .free) = some after) :
    after = { state with owner := fun block => if block ∈ blocks then none else state.owner block } := by
  induction blocks generalizing state with
  | nil =>
    cases ran
    simp
  | cons block rest ih =>
    rw [List.nodup_cons] at nodup
    obtain ⟨next, taken, remaining⟩ := Machine.run_cons_some ran
    obtain ⟨owner, held⟩ := Option.isSome_iff_exists.mp (out block List.mem_cons_self)
    obtain rfl := apply_free held taken
    have others : ∀ other ∈ rest, (Function.update state.owner block none other).isSome := by
      intro other member
      have apart : other ≠ block := by
        rintro rfl
        exact nodup.1 member
      rw [Function.update_of_ne apart]
      exact out other (List.mem_cons_of_mem block member)
    rw [ih nodup.2 others remaining]
    simp only [State.mk.injEq, and_true]
    funext other
    by_cases last : other ∈ rest
    · simp [last]
    · by_cases same : other = block
      · simp [same]
      · simp [last, same]

theorem frees_run (state : State β α) (blocks : List β) :
    ∃ after, Machine.run apply state (blocks.map .free) = some after := by
  induction blocks generalizing state with
  | nil => exact ⟨state, rfl⟩
  | cons block rest ih => exact ih _

section Without
variable {hidden : β → Prop} {state after : State β α}

theorem State.without_update {block : β} (visible : ¬ hidden block) (owner : Option α) (twice : List β) :
    State.without ⟨Function.update state.owner block owner, twice⟩ hidden =
      ⟨Function.update (state.without hidden).owner block owner, twice⟩ := by
  simp only [State.without, State.mk.injEq, and_true]
  funext other
  by_cases same : other = block
  · subst other
    simp [visible]
  · simp [same]

/-- Operations on other blocks go on in the same way, and leave the hidden blocks alone. -/
theorem run_without {ops : List (Op β α)} (out : ∀ block, hidden block → (state.owner block).isSome)
    (apart : ∀ block, .free block ∈ ops → ¬ hidden block) (ran : Machine.run apply state ops = some after) :
    Machine.run apply (state.without hidden) ops = some (after.without hidden) ∧
      ∀ block, hidden block → after.owner block = state.owner block := by
  induction ops generalizing state with
  | nil =>
    cases ran
    exact ⟨rfl, fun _ _ => rfl⟩
  | cons op rest ih =>
    obtain ⟨next, taken, remaining⟩ := Machine.run_cons_some ran
    have step : apply (state.without hidden) op = some (next.without hidden) ∧
        ∀ block, hidden block → next.owner block = state.owner block := by
      cases op with
      | alloc block owner =>
        obtain ⟨fresh, rfl⟩ := apply_alloc taken
        have visible : ¬ hidden block := by
          intro inside
          have held := out block inside
          rw [fresh] at held
          cases held
        refine ⟨?_, ?_⟩
        · simp only [apply, State.without_owner visible, fresh, State.without_update visible]
          rfl
        · intro other inside
          have apart : other ≠ block := by
            rintro rfl
            exact visible inside
          exact Function.update_of_ne apart ..
      | free block =>
        have visible := apart block List.mem_cons_self
        cases taken
        refine ⟨?_, ?_⟩
        · simp only [apply, State.without_owner visible, State.without_update visible]
          rfl
        · intro other inside
          have apart : other ≠ block := by
            rintro rfl
            exact visible inside
          exact Function.update_of_ne apart ..
    obtain ⟨moved, kept⟩ := step
    obtain ⟨continued, still⟩ := ih (fun block inside => kept block inside ▸ out block inside)
      (fun block member => apart block (List.mem_cons_of_mem op member)) remaining
    refine ⟨?_, fun block inside => (still block inside).trans (kept block inside)⟩
    rw [Machine.run_cons moved, continued]

/-- To give blocks back is to hide them, for those who do not look at `twice`. -/
theorem run_hide {blocks : List β} (nodup : blocks.Nodup)
    (out : ∀ block ∈ blocks, ((state.without hidden).owner block).isSome) :
    Machine.run apply (state.without hidden) (blocks.map .free) =
      some (state.without fun block => hidden block ∨ block ∈ blocks) := by
  obtain ⟨freed, ran⟩ := frees_run (state.without hidden) blocks
  rw [ran, run_frees nodup out ran]
  simp only [State.without, Option.some.injEq, State.mk.injEq, and_true]
  funext block
  by_cases mine : block ∈ blocks
  · rw [if_pos mine, if_pos (.inr mine)]
  · by_cases inside : hidden block
    · rw [if_neg mine, if_pos inside, if_pos (.inl inside)]
    · rw [if_neg mine, if_neg inside, if_neg (not_or.mpr ⟨inside, mine⟩)]

/-- Blocks that are given back may have been hidden before. -/
theorem without_freed {blocks : List β} (nodup : blocks.Nodup)
    (out : ∀ block ∈ blocks, (state.owner block).isSome) (apart : ∀ block ∈ blocks, ¬ hidden block)
    (others : ∀ block, hidden block → (state.owner block).isSome)
    (ran : Machine.run apply state (blocks.map .free) = some after) :
    after.without hidden = state.without fun block => hidden block ∨ block ∈ blocks := by
  have seen : ∀ block ∈ blocks, ((state.without hidden).owner block).isSome := by
    intro block member
    rw [State.without_owner (apart block member)]
    exact out block member
  have frees : ∀ block, Op.free (α := α) block ∈ blocks.map .free → ¬ hidden block := by
    intro block member
    exact apart block (by simpa using member)
  exact Option.some.inj ((run_without others frees ran).1.symm.trans (run_hide nodup seen))

end Without

namespace Books
variable {state after : State β α} {attached : β → α → Prop}

theorem alloc (books : Books state attached) {block : β} {owner : α}
    (taken : apply state (.alloc block owner) = some after) :
    Books after (fun other holder => attached other holder ∨ other = block ∧ holder = owner) ∧
      (Complete state attached → Complete after fun other holder => attached other holder ∨ other = block ∧ holder = owner) := by
  obtain ⟨fresh, rfl⟩ := apply_alloc taken
  refine ⟨⟨?_, books.once⟩, ?_⟩
  · rintro other holder (there | ⟨rfl, rfl⟩)
    · have out := books.owns other holder there
      have apart : other ≠ block := by
        rintro rfl
        rw [fresh] at out
        cases out
      simpa [apart] using out
    · simp
  · intro complete other holder out
    by_cases same : other = block
    · subst other
      simp only [Function.update_self, Option.some.injEq] at out
      exact .inr ⟨rfl, out.symm⟩
    · simp only [Function.update_of_ne same] at out
      exact .inl (complete other holder out)

/-- An owner gets several blocks, which are then different ones. -/
theorem allocs (books : Books state attached) {blocks : List β} {owner : α}
    (ran : Machine.run apply state (blocks.map (.alloc · owner)) = some after) :
    blocks.Nodup ∧ Books after (fun block holder => attached block holder ∨ block ∈ blocks ∧ holder = owner) ∧
      (Complete state attached →
        Complete after fun block holder => attached block holder ∨ block ∈ blocks ∧ holder = owner) := by
  induction blocks generalizing state attached with
  | nil =>
    cases ran
    simpa using books
  | cons first rest ih =>
    obtain ⟨next, taken, remaining⟩ := Machine.run_cons_some ran
    obtain ⟨kept, completes⟩ := books.alloc taken
    obtain ⟨nodup, all, complete⟩ := ih kept remaining
    have same : (fun block holder => (attached block holder ∨ block = first ∧ holder = owner) ∨
        block ∈ rest ∧ holder = owner) =
        fun block holder => attached block holder ∨ block ∈ first :: rest ∧ holder = owner := by
      funext block holder
      rw [List.mem_cons, or_assoc, ← or_and_right]
    rw [same] at all complete
    refine ⟨List.nodup_cons.mpr ⟨?_, nodup⟩, all, fun held => complete (completes held)⟩
    -- the first block is out, so the pool does not hand it out again
    intro member
    have out := kept.owns first owner (.inr ⟨rfl, rfl⟩)
    rw [fresh_of_run remaining member] at out
    cases out

/-- An owner gives back all its blocks. -/
theorem frees (books : Books state attached) {blocks : List β} {owner : α} (nodup : blocks.Nodup)
    (own : ∀ block ∈ blocks, attached block owner) (all : ∀ block, attached block owner → block ∈ blocks)
    (ran : Machine.run apply state (blocks.map .free) = some after) :
    Books after (fun block holder => attached block holder ∧ holder ≠ owner) ∧
      (Complete state attached → Complete after fun block holder => attached block holder ∧ holder ≠ owner) := by
  have out : ∀ block ∈ blocks, (state.owner block).isSome := by
    intro block member
    simp [books.owns block owner (own block member)]
  obtain rfl := run_frees nodup out ran
  refine ⟨⟨?_, books.once⟩, ?_⟩
  · rintro block holder ⟨there, other⟩
    have apart : block ∉ blocks := by
      intro member
      have equal := (books.owns block holder there).symm.trans (books.owns block owner (own block member))
      exact other (Option.some.inj equal)
    simpa [apart] using books.owns block holder there
  · intro complete block holder still
    simp only at still
    split at still
    · cases still
    · next apart =>
      have there := complete block holder still
      refine ⟨there, ?_⟩
      rintro rfl
      exact apart (all block there)

end Books

end

end BlockPool
