import Mathlib.Data.List.Nodup

/-! Things kept in places. A thing is in at most one place, and as long as it is
in one it is alive. Taking a thing out and putting one in keep this, whatever
happens to a thing that is in no place. Things with serial numbers may be
settled, and each of them is settled at most once. -/

universe u v

/-- Which place holds which thing, and which things are alive. -/
structure Custody {κ : Type u} {α : Type v} (holds : κ → α → Prop) (alive : α → Prop) : Prop where
  exclusive : ∀ {place other thing}, holds place thing → holds other thing → place = other
  live : ∀ {place thing}, holds place thing → alive thing

namespace Custody
variable {κ : Type u} {α : Type v} {holds after : κ → α → Prop} {alive still : α → Prop} {place : κ} {thing : α}

def Free (holds : κ → α → Prop) (thing : α) : Prop := ∀ place, ¬ holds place thing

theorem mono (custody : Custody holds alive) (fewer : ∀ place thing, after place thing → holds place thing)
    (kept : ∀ thing, (∃ place, after place thing) → alive thing → still thing) : Custody after still where
  exclusive first second := custody.exclusive (fewer _ _ first) (fewer _ _ second)
  live held := kept _ ⟨_, held⟩ (custody.live (fewer _ _ held))

/-- Whatever becomes of a free thing does not matter. -/
theorem spend (custody : Custody holds alive) (free : Free holds thing)
    (others : ∀ other, other ≠ thing → alive other → still other) : Custody holds still := by
  apply custody.mono (fun _ _ held => held)
  intro other kept live
  obtain ⟨place, held⟩ := kept
  refine others other ?_ live
  intro same
  exact free place (same ▸ held)

theorem free_of_taken (custody : Custody holds alive) (held : holds place thing)
    (fewer : ∀ other thing, after other thing → holds other thing) (gone : ¬ after place thing) : Free after thing := by
  intro other present
  obtain rfl := custody.exclusive held (fewer other thing present)
  exact gone present

/-- A free thing that is alive may be put into a place. -/
theorem give (custody : Custody holds alive) (place : κ) (free : Free holds thing) (live : alive thing)
    (added : ∀ other item, after other item → holds other item ∨ other = place ∧ item = thing) :
    Custody after alive := by
  constructor
  · intro first second item held also
    rcases added first item held with old | ⟨rfl, rfl⟩
    · rcases added second item also with earlier | ⟨rfl, rfl⟩
      · exact custody.exclusive old earlier
      · exact absurd old (free first)
    · rcases added second _ also with earlier | ⟨rfl, _⟩
      · exact absurd earlier (free second)
      · rfl
  · intro other item held
    rcases added other item held with old | ⟨rfl, rfl⟩
    · exact custody.live old
    · exact live

/-- A thing may change its place. -/
theorem move (custody : Custody holds alive) (target : κ) (held : holds place thing) (gone : ¬ after place thing)
    (moved : ∀ other item, after other item → holds other item ∨ other = target ∧ item = thing) :
    Custody after alive := by
  let between (other : κ) (item : α) : Prop := after other item ∧ holds other item
  have fewer : ∀ other item, between other item → holds other item := fun _ _ both => both.2
  have kept : Custody between alive := custody.mono fewer fun _ _ live => live
  have free : Free between thing := by
    apply custody.free_of_taken held fewer
    intro both
    exact gone both.1
  apply kept.give target free (custody.live held)
  intro other item present
  exact (moved other item present).imp_left fun old => ⟨present, old⟩

end Custody

/-- Whatever is alive is in some place. -/
def Covered {κ : Type u} {α : Type v} (holds : κ → α → Prop) (alive : α → Prop) : Prop :=
  ∀ thing, alive thing → ∃ place, holds place thing

namespace Covered
variable {κ : Type u} {α : Type v} {holds after : κ → α → Prop} {alive still : α → Prop}

/-- Nothing gets lost if what was in a place is in one afterwards or not alive any
more, and what comes to life is put into a place. -/
theorem change (covered : Covered holds alive)
    (kept : ∀ place thing, holds place thing → still thing → ∃ place, after place thing)
    (born : ∀ thing, still thing → ¬ alive thing → ∃ place, after place thing) : Covered after still := by
  intro thing live
  by_cases before : alive thing
  · obtain ⟨place, held⟩ := covered thing before
    exact kept place thing held live
  · exact born thing live before

theorem iff_existsUnique (covered : Covered holds alive) (custody : Custody holds alive) (thing : α) :
    alive thing ↔ ∃! place, holds place thing := by
  constructor
  · intro live
    obtain ⟨place, held⟩ := covered thing live
    exact ⟨place, held, fun other also => custody.exclusive also held⟩
  · intro unique
    obtain ⟨place, held, _⟩ := unique
    exact custody.live held

end Covered

/-- The numbers below `issued` have been handed out. A number in `settled` is in
no place any more, and it is there only once. -/
structure Settlement {κ : Type u} (holds : κ → Nat → Prop) (issued : Nat) (settled : List Nat) : Prop where
  custody : Custody holds fun serial => serial < issued ∧ serial ∉ settled
  nodup : settled.Nodup
  bounded : ∀ serial ∈ settled, serial < issued

namespace Settlement
variable {κ : Type u} {holds after : κ → Nat → Prop} {place : κ} {issued serial : Nat} {settled : List Nat}

theorem fewer (settlement : Settlement holds issued settled)
    (fewer : ∀ place serial, after place serial → holds place serial) : Settlement after issued settled :=
  ⟨settlement.custody.mono fewer fun _ _ live => live, settlement.nodup, settlement.bounded⟩

theorem move (settlement : Settlement holds issued settled) (target : κ) (held : holds place serial)
    (gone : ¬ after place serial)
    (moved : ∀ other item, after other item → holds other item ∨ other = target ∧ item = serial) :
    Settlement after issued settled :=
  ⟨settlement.custody.move target held gone moved, settlement.nodup, settlement.bounded⟩

/-- The next number is handed out, into a place or into none. -/
theorem issue (settlement : Settlement holds issued settled) (place : κ)
    (added : ∀ other item, after other item → holds other item ∨ other = place ∧ item = issued) :
    Settlement after (issued + 1) settled := by
  have fresh : issued ∉ settled := fun member => Nat.lt_irrefl issued (settlement.bounded issued member)
  have free : Custody.Free holds issued := fun other held => Nat.lt_irrefl issued (settlement.custody.live held).1
  have wider : Custody holds fun serial => serial < issued + 1 ∧ serial ∉ settled :=
    settlement.custody.mono (fun _ _ held => held) fun _ _ live => ⟨Nat.lt_succ_of_lt live.1, live.2⟩
  refine ⟨wider.give place free ⟨Nat.lt_succ_self issued, fresh⟩ added, settlement.nodup, ?_⟩
  intro serial member
  exact Nat.lt_succ_of_lt (settlement.bounded serial member)

/-- A number that left its place is settled. -/
theorem settle (settlement : Settlement holds issued settled) (held : holds place serial)
    (fewer : ∀ other item, after other item → holds other item) (gone : ¬ after place serial) :
    Settlement after issued (settled ++ [serial]) := by
  obtain ⟨bounded, unsettled⟩ := settlement.custody.live held
  have kept := settlement.custody.mono fewer fun _ _ live => live
  refine ⟨?_, ?_, ?_⟩
  · apply kept.spend (settlement.custody.free_of_taken held fewer gone)
    intro other different live
    refine ⟨live.1, ?_⟩
    intro member
    rcases List.mem_append.mp member with old | new
    · exact live.2 old
    · exact different (List.mem_singleton.mp new)
  · rw [List.nodup_append]
    refine ⟨settlement.nodup, List.nodup_singleton _, ?_⟩
    intro other member last singleton equal
    rw [List.mem_singleton] at singleton
    exact unsettled (singleton ▸ equal ▸ member)
  · intro other member
    rcases List.mem_append.mp member with old | new
    · exact settlement.bounded other old
    · rw [List.mem_singleton.mp new]
      exact bounded

end Settlement
