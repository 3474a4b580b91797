import Mathlib.Data.List.Basic

/-! Stretches of bytes that code touches in a buffer, counted from its start, and
what it means that they stay inside it. -/

namespace Access

/-- So many bytes from an offset on. -/
structure Span where
  start : Nat
  size : Nat
deriving DecidableEq, Repr

namespace Span

/-- The first offset behind the span. -/
def stop (span : Span) : Nat := span.start + span.size

/-- Every byte of the span is below the limit; an empty span touches nothing. -/
def Inside (span : Span) (limit : Nat) : Prop := span.size = 0 ∨ span.stop ≤ limit

instance (span : Span) (limit : Nat) : Decidable (span.Inside limit) :=
  inferInstanceAs (Decidable (span.size = 0 ∨ span.stop ≤ limit))

theorem Inside.mono {span : Span} {limit larger : Nat} (inside : span.Inside limit) (le : limit ≤ larger) :
    span.Inside larger :=
  inside.imp_right (Nat.le_trans · le)

theorem inside_mk (start size limit : Nat) : Span.Inside ⟨start, size⟩ limit ↔ size = 0 ∨ start + size ≤ limit := Iff.rfl

@[simp] theorem inside_single (offset limit : Nat) : Span.Inside ⟨offset, 1⟩ limit ↔ offset < limit := by
  rw [inside_mk]
  omega

@[simp] theorem inside_empty (offset limit : Nat) : Span.Inside ⟨offset, 0⟩ limit := .inl rfl

end Span

/-- All of the spans are inside. -/
def AllInside (spans : List Span) (limit : Nat) : Prop := ∀ span ∈ spans, span.Inside limit

instance (spans : List Span) (limit : Nat) : Decidable (AllInside spans limit) :=
  inferInstanceAs (Decidable (∀ span ∈ spans, span.Inside limit))

@[simp] theorem allInside_nil (limit : Nat) : AllInside [] limit := by simp [AllInside]

@[simp] theorem allInside_cons (span : Span) (spans : List Span) (limit : Nat) :
    AllInside (span :: spans) limit ↔ span.Inside limit ∧ AllInside spans limit := by
  simp [AllInside]

@[simp] theorem allInside_append (first second : List Span) (limit : Nat) :
    AllInside (first ++ second) limit ↔ AllInside first limit ∧ AllInside second limit := by
  simp [AllInside, or_imp, forall_and]

theorem AllInside.mono {spans : List Span} {limit larger : Nat} (inside : AllInside spans limit)
    (le : limit ≤ larger) : AllInside spans larger :=
  fun span member => (inside span member).mono le

@[simp] theorem allInside_flatMap {α : Type} (items : List α) (spans : α → List Span) (limit : Nat) :
    AllInside (items.flatMap spans) limit ↔ ∀ item ∈ items, AllInside (spans item) limit := by
  simp only [AllInside, List.mem_flatMap]
  constructor
  · intro each item member span inside
    exact each span ⟨item, member, inside⟩
  · rintro each span ⟨item, member, inside⟩
    exact each item member span inside

/-! Records: spans counted from the start of the record. -/

/-- The spans of a record that starts at an offset. -/
def recordAt (base : Nat) (fields : List Span) : List Span := fields.map fun field => ⟨base + field.start, field.size⟩

@[simp] theorem recordAt_nil (base : Nat) : recordAt base [] = [] := rfl

@[simp] theorem recordAt_cons (base : Nat) (field : Span) (fields : List Span) :
    recordAt base (field :: fields) = ⟨base + field.start, field.size⟩ :: recordAt base fields := rfl

@[simp] theorem recordAt_append (base : Nat) (first second : List Span) :
    recordAt base (first ++ second) = recordAt base first ++ recordAt base second := List.map_append

theorem recordAt_recordAt (outer inner : Nat) (fields : List Span) :
    recordAt outer (recordAt inner fields) = recordAt (outer + inner) fields := by
  simp [recordAt, Nat.add_assoc]

theorem recordAt_flatMap {α : Type} (base : Nat) (items : List α) (fields : α → List Span) :
    recordAt base (items.flatMap fields) = items.flatMap fun item => recordAt base (fields item) :=
  List.map_flatMap ..

/-- An array of records that fill their size is inside if it is empty or its end is. -/
theorem array_inside_iff {fields : List Span} {size limit : Nat}
    (whole : ∀ base, AllInside (recordAt base fields) limit ↔ base + size ≤ limit) (first count : Nat) :
    AllInside ((List.range count).flatMap fun index => recordAt (first + size * index) fields) limit ↔
      count = 0 ∨ first + size * count ≤ limit := by
  simp only [allInside_flatMap, List.mem_range, whole]
  constructor
  · intro each
    cases count with
    | zero => exact .inl rfl
    | succ count =>
      have last := each count (Nat.lt_succ_self count)
      right
      rw [Nat.mul_succ]
      omega
  · rintro (rfl | fits) index inside
    · exact absurd inside (Nat.not_lt_zero index)
    · have step := Nat.mul_le_mul_left size (Nat.succ_le_of_lt inside)
      rw [Nat.mul_succ] at step
      omega

/-! Memory as a function from addresses to contents. -/

variable {β : Type}

/-- The list stands in memory from an address on. -/
def Holds (memory : Nat → β) (start : Nat) (content : List β) : Prop :=
  ∀ index (inside : index < content.length), memory (start + index) = content[index]

theorem holds_nil (memory : Nat → β) (start : Nat) : Holds memory start [] := by
  intro index inside
  exact absurd inside (Nat.not_lt_zero index)

theorem holds_cons_iff {memory : Nat → β} {start : Nat} {head : β} {tail : List β} :
    Holds memory start (head :: tail) ↔ memory start = head ∧ Holds memory (start + 1) tail := by
  constructor
  · intro holds
    refine ⟨holds 0 (Nat.zero_lt_succ _), ?_⟩
    intro index inside
    rw [Nat.add_right_comm, Nat.add_assoc]
    exact holds (index + 1) (Nat.succ_lt_succ inside)
  · rintro ⟨first, rest⟩ index inside
    cases index with
    | zero => exact first
    | succ index =>
      have place : start + (index + 1) = start + 1 + index := by omega
      rw [place]
      exact rest index (Nat.lt_of_succ_lt_succ inside)

theorem holds_append_iff {memory : Nat → β} {front back : List β} :
    ∀ {start : Nat}, Holds memory start (front ++ back) ↔
      Holds memory start front ∧ Holds memory (start + front.length) back := by
  induction front with
  | nil => simp [holds_nil]
  | cons head tail ih =>
    intro start
    rw [List.cons_append, holds_cons_iff, holds_cons_iff, ih, List.length_cons, and_assoc]
    have shift : start + 1 + tail.length = start + (tail.length + 1) := by omega
    rw [shift]

theorem holds_getD (content : List β) (outside : β) : Holds (fun address => content.getD address outside) 0 content := by
  intro index inside
  simp only [Nat.zero_add, List.getD_eq_getElem?_getD, List.getElem?_eq_getElem inside, Option.getD_some]

/-- Memory after the list was copied to an address. -/
def store (memory : Nat → β) (start : Nat) (content : List β) (address : Nat) : β :=
  if start ≤ address then content.getD (address - start) (memory address) else memory address

theorem store_outside {memory : Nat → β} {start address : Nat} {content : List β}
    (outside : address < start ∨ start + content.length ≤ address) :
    store memory start content address = memory address := by
  unfold store
  split
  · have behind : content.length ≤ address - start := by omega
    rw [List.getD_eq_getElem?_getD, List.getElem?_eq_none behind, Option.getD_none]
  · rfl

theorem holds_store (memory : Nat → β) (start : Nat) (content : List β) :
    Holds (store memory start content) start content := by
  intro index inside
  rw [store, if_pos (Nat.le_add_right start index), Nat.add_sub_cancel_left, List.getD_eq_getElem?_getD,
    List.getElem?_eq_getElem inside, Option.getD_some]

/-- What stands elsewhere is still there after a store. -/
theorem Holds.store {memory : Nat → β} {start place : Nat} {content other : List β} (holds : Holds memory start content)
    (apart : start + content.length ≤ place ∨ place + other.length ≤ start) :
    Holds (Access.store memory place other) start content := by
  intro index inside
  rw [store_outside (by omega)]
  exact holds index inside

@[simp] theorem store_nil (memory : Nat → β) (start : Nat) : store memory start [] = memory := by
  funext address
  exact store_outside (Nat.lt_or_ge address start)

/-- Stores one behind the other are one store. -/
theorem store_append (memory : Nat → β) (start : Nat) (front back : List β) :
    store (store memory start front) (start + front.length) back = store memory start (front ++ back) := by
  funext address
  by_cases inside : start ≤ address
  · by_cases behind : start + front.length ≤ address
    · have place : address - (start + front.length) = address - start - front.length := by omega
      have beyond : front.length ≤ address - start := by omega
      simp only [store, if_pos inside, if_pos behind, List.getD_eq_getElem?_getD, List.getElem?_append_right beyond,
        List.getElem?_eq_none beyond, Option.getD_none, place]
    · have within : address - start < front.length := by omega
      simp only [store, if_pos inside, if_neg behind, List.getD_eq_getElem?_getD, List.getElem?_append_left within]
  · have before : ¬ start + front.length ≤ address := by omega
    simp only [store, if_neg inside, if_neg before]

/-- The first element written again. -/
theorem store_head (memory : Nat → β) (start : Nat) (first again : β) (rest : List β) :
    store (store memory start (first :: rest)) start [again] = store memory start (again :: rest) := by
  funext address
  by_cases inside : start ≤ address
  · simp only [store, if_pos inside]
    cases address - start with
    | zero => rfl
    | succ index => rfl
  · simp only [store, if_neg inside]

/-- So many bytes from an address on. -/
def load (memory : Nat → β) (start size : Nat) : List β := (List.range size).map fun index => memory (start + index)

@[simp] theorem length_load (memory : Nat → β) (start size : Nat) : (load memory start size).length = size := by
  simp [load]

theorem load_of_holds {memory : Nat → β} {start size : Nat} {content : List β} (holds : Holds memory start content)
    (length : content.length = size) : load memory start size = content := by
  apply List.ext_getElem
  · rw [length_load, length]
  · intro index _ inside
    simp only [load, List.getElem_map, List.getElem_range]
    exact holds index inside

theorem load_eq_iff {memory other : Nat → β} {start size : Nat} :
    load memory start size = load other start size ↔ ∀ index < size, memory (start + index) = other (start + index) := by
  simp only [load, List.map_inj_left, List.mem_range]

theorem getD_load {memory : Nat → β} {start size index : Nat} (outside : β) (inside : index < size) :
    (load memory start size).getD index outside = memory (start + index) := by
  simp [load, inside]

theorem take_load (memory : Nat → β) (start size count : Nat) :
    (load memory start size).take count = load memory start (min count size) := by
  rw [load, ← List.map_take, List.take_range, load]

theorem drop_load (memory : Nat → β) (start count rest : Nat) :
    (load memory start (count + rest)).drop count = load memory (start + count) rest := by
  apply List.ext_getElem
  · simp
  · intro index _ _
    simp [load, Nat.add_assoc]

end Access
