/-! How a call ends that asks for memory, when some of it may not be there. -/

universe u v

inductive Ending (α : Type u) where
  | nullDereference
  | stuck
  | returned (value : α)

namespace Ending
variable {α : Type u} {β : Type v}

/-- A call without a result does not come back. -/
def ofOption : Option α → Ending α
  | none => stuck
  | some value => returned value

def map (change : α → β) : Ending α → Ending β
  | nullDereference => nullDereference
  | stuck => stuck
  | returned value => returned (change value)

/-- A call for what the pool gave it; only where the memory is `needed` does it
follow the pointer. -/
def allocating (needed : Bool) (pool : Option Nat) (call : Nat → Option α) : Ending α :=
  match pool with
  | none => if needed then nullDereference else ofOption (call 0)
  | some address => ofOption (call address)

@[simp] theorem ofOption_ne_nullDereference (result : Option α) : ofOption result ≠ nullDereference := by
  cases result <;> simp [ofOption]

theorem ofOption_eq_returned {result : Option α} {value : α} :
    ofOption result = returned value ↔ result = some value := by
  cases result <;> simp [ofOption]

@[simp] theorem map_eq_nullDereference {ending : Ending α} {change : α → β} :
    ending.map change = nullDereference ↔ ending = nullDereference := by
  cases ending <;> simp [map]

theorem allocating_eq_nullDereference {needed : Bool} {pool : Option Nat} {call : Nat → Option α} :
    allocating needed pool call = nullDereference ↔ needed = true ∧ pool = none := by
  cases pool with
  | none => cases needed <;> simp [allocating]
  | some address => simp [allocating]

theorem allocating_of_not {needed : Bool} {pool : Option Nat} (call : Nat → Option α)
    (lacks : ¬ (needed = true ∧ pool = none)) : allocating needed pool call = ofOption (call (pool.getD 0)) := by
  cases pool with
  | none => cases needed <;> simp_all [allocating]
  | some address => rfl

theorem map_allocating (needed : Bool) (pool : Option Nat) (call : Nat → Option α) (change : α → β) :
    (allocating needed pool call).map change = allocating needed pool fun address => (call address).map change := by
  have answered : ∀ result : Option α, (ofOption result).map change = ofOption (result.map change) := by
    intro result
    cases result <;> rfl
  cases pool with
  | none =>
    cases needed with
    | false => exact answered (call 0)
    | true => rfl
  | some address => exact answered (call address)

/-- What is asked of a call. It follows no NULL pointer and sends off no command
that was only half built, and where memory was short it comes back and says so. -/
structure Withstands (ending : Ending α) (failure : α → Prop) (short halfBuilt : Prop) : Prop where
  follows : ending ≠ nullDereference
  sends : ¬ halfBuilt
  fails : short → ∃ value, ending = returned value ∧ failure value

variable {failure : α → Prop} {short halfBuilt : Prop}

theorem not_withstands_nullDereference : ¬ (nullDereference : Ending α).Withstands failure short halfBuilt :=
  fun withstands => withstands.follows rfl

theorem withstands_of_enough {ending : Ending α} (enough : ¬ short) (sends : ¬ halfBuilt) :
    ending.Withstands failure short halfBuilt ↔ ending ≠ nullDereference :=
  ⟨Withstands.follows, fun follows => ⟨follows, sends, fun lacks => absurd lacks enough⟩⟩

theorem withstands_of_short {value : α} (lacks : short) (sends : ¬ halfBuilt) :
    (returned value).Withstands failure short halfBuilt ↔ failure value := by
  constructor
  · intro withstands
    obtain ⟨other, same, failed⟩ := withstands.fails lacks
    cases same
    exact failed
  · intro failed
    exact ⟨by simp, sends, fun _ => ⟨value, rfl, failed⟩⟩

end Ending
