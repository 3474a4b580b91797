import SpcNvme.Lib.Machine
import SpcNvme.Proofs.NamespaceMap

/-! The entries of `NsData` over repeated identification: which of those below
`NamespaceCount` hold data that a command returned. -/

namespace SpcNvme

/-- The calls that change the namespaces, with the results of their commands. -/
inductive NamespaceCall where
  | initVars
  | identifyAllNamespaces (reply : IdentifyReply) (listed : NtStatus) (statuses : Nat → NtStatus)
  | identifyFirstNamespace (reply : IdentifyReply) (status : NtStatus)

instance : DecidableEq NvmeIdentifyNamespaceData := fun first second =>
  decidable_of_iff (first.nsze = second.nsze ∧ first.lbaFormatIndex = second.lbaFormatIndex ∧
      ∀ format : Fin 16, first.lbads (.ofFin format) = second.lbads (.ofFin format)) <| by
    cases first
    cases second
    simp only [NvmeIdentifyNamespaceData.mk.injEq, and_congr_right_iff]
    intro _ _
    constructor
    · intro each
      funext format
      exact each format.toFin
    · intro same format
      rw [same]

/-- The device, and for each entry the data that the last successful Identify
Namespace into it returned. -/
structure NamespaceTable where
  device : CNvmeDevice
  returned : Nat → Option NvmeIdentifyNamespaceData

namespace NamespaceTable

def put (table : NamespaceTable) (reply : IdentifyReply) (index : Nat) (nsid : BitVec 32) : NamespaceTable where
  device := table.device.putNamespace reply index nsid
  returned :=
    if reply.transferred index then Function.update table.returned index (some (reply.identified nsid))
    else table.returned

def spoil (table : NamespaceTable) (reply : IdentifyReply) (index : Nat) : NamespaceTable :=
  { table with device := table.device.spoilNamespace reply index }

def setNamespaceCount (table : NamespaceTable) (count : Nat) : NamespaceTable :=
  { table with device := table.device.setNamespaceCount count }

def identifyFrom (table : NamespaceTable) (reply : IdentifyReply) (statuses : Nat → NtStatus) (index : Nat) :
    Nat → NamespaceTable
  | 0 => table
  | left + 1 =>
      let nsid := reply.nsidList.getD index 0
      if nsid = 0 then table
      else if statuses index = .success then
        (table.put reply index nsid).identifyFrom reply statuses (index + 1) left
      else table.spoil reply index

def after (table : NamespaceTable) : NamespaceCall → NamespaceTable
  | .initVars => ⟨table.device.initVars, fun _ => none⟩
  | .identifyAllNamespaces reply listed statuses =>
      if !listed.ntSuccess then table
      else (table.setNamespaceCount reply.visited).identifyFrom reply statuses 0 reply.visited
  | .identifyFirstNamespace reply status =>
      if status.ntSuccess then (table.put reply 0 1).setNamespaceCount 1 else table.spoil reply 0

def step (table : NamespaceTable) (call : NamespaceCall) : Option NamespaceTable := some (table.after call)

def initial (device : CNvmeDevice) : NamespaceTable := ⟨device.initVars, fun _ => none⟩

def Holds (table : NamespaceTable) (index : Nat) : Prop :=
  table.returned index = some (table.device.nsData (BitVec.ofNat 32 index))

instance (table : NamespaceTable) (index : Nat) : Decidable (table.Holds index) :=
  inferInstanceAs (Decidable (table.returned index = some (table.device.nsData (BitVec.ofNat 32 index))))

def validEntries (table : NamespaceTable) : Nat :=
  ((List.range supportNamespaces).takeWhile fun index => decide (table.Holds index)).length

/-- Every entry below the count holds what a command returned for it. -/
structure Sound (table : NamespaceTable) : Prop where
  entries : ∀ index, index < table.device.namespaceCount.toNat → table.Holds index
  counted : table.device.namespaceCount.toNat ≤ table.validEntries

/-- A command that does not succeed leaves in its entry what a successful one returned:
it transfers nothing into an entry that holds that, or just that. -/
def Leaves (table : NamespaceTable) (reply : IdentifyReply) (index : Nat) : Prop :=
  match reply.leftover index with
  | none => table.Holds index
  | some data => table.returned index = some data

/-- Each entry that is counted after a call holds what a command returned: the call
fills it, its command for the entry fails but leaves that, or it does not get so far
and the entry holds that already. -/
def Covers (table : NamespaceTable) : NamespaceCall → Prop
  | .initVars => True
  | .identifyAllNamespaces reply listed statuses =>
      listed.ntSuccess = true → ∀ index, index < reply.visited →
        (∀ upTo, upTo ≤ index → statuses upTo = .success) ∧ reply.transferred index = true ∨
        (∀ upTo, upTo < index → statuses upTo = .success) ∧ table.Leaves reply index ∨
        (∃ upTo, upTo < index ∧ statuses upTo ≠ .success) ∧ table.Holds index
  | .identifyFirstNamespace reply status =>
      if status.ntSuccess then reply.transferred 0 = true ∨ table.Leaves reply 0
      else 0 < table.device.namespaceCount.toNat → table.Leaves reply 0

private theorem identifyFrom_device {reply : IdentifyReply} {statuses : Nat → NtStatus} {left : Nat} :
    ∀ {table : NamespaceTable} {index : Nat},
      (table.identifyFrom reply statuses index left).device =
        (table.device.identifyFrom reply statuses index left).2 := by
  induction left with
  | zero =>
    intro table index
    rfl
  | succ left ih =>
    intro table index
    simp only [identifyFrom, CNvmeDevice.identifyFrom]
    split
    · rfl
    · cases status : statuses index with
      | success =>
        simp only [if_true]
        exact ih
      | _ => rfl

theorem after_identifyAllNamespaces_device (table : NamespaceTable) (reply : IdentifyReply) (listed : NtStatus)
    (statuses : Nat → NtStatus) :
    (table.after (.identifyAllNamespaces reply listed statuses)).device =
      (table.device.identifyAllNamespaces reply listed statuses).2 := by
  simp only [after, CNvmeDevice.identifyAllNamespaces]
  split
  · rfl
  · exact identifyFrom_device

theorem after_identifyFirstNamespace_device (table : NamespaceTable) (reply : IdentifyReply) (status : NtStatus) :
    (table.after (.identifyFirstNamespace reply status)).device =
      (table.device.identifyFirstNamespace reply status).2 := by
  simp only [after, CNvmeDevice.identifyFirstNamespace]
  split <;> rfl

private theorem ofNat_injective {first second : Nat} (one : first < supportNamespaces) (two : second < supportNamespaces)
    (same : BitVec.ofNat 32 first = BitVec.ofNat 32 second) : first = second := by
  have values := congrArg BitVec.toNat same
  simp only [supportNamespaces] at one two
  rw [BitVec.toNat_ofNat, BitVec.toNat_ofNat] at values
  omega

/-! What one command does to the entries. -/

section Entries
variable {table : NamespaceTable} {reply : IdentifyReply} {index entry : Nat} {nsid : BitVec 32}

private theorem spoil_holds : (table.spoil reply index).Holds index ↔ table.Leaves reply index := by
  simp only [Holds, Leaves, spoil, CNvmeDevice.spoilNamespace_nsData, if_true]
  cases reply.leftover index with
  | none => exact Iff.rfl
  | some data => exact Iff.rfl

private theorem spoil_other (apart : BitVec.ofNat 32 entry ≠ BitVec.ofNat 32 index) :
    (table.spoil reply index).Holds entry ↔ table.Holds entry := by
  simp only [Holds, spoil, CNvmeDevice.spoilNamespace_nsData, if_neg apart]

private theorem put_holds : (table.put reply index nsid).Holds index ↔ reply.transferred index = true ∨ table.Leaves reply index := by
  by_cases moved : reply.transferred index = true
  · simp only [Holds, put, CNvmeDevice.putNamespace_nsData, moved, if_true, Function.update_self, true_or]
  · have same : table.put reply index nsid = table.spoil reply index := by
      simp only [put, spoil, CNvmeDevice.putNamespace, moved, Bool.false_eq_true, if_false]
    simp only [same, spoil_holds, moved, Bool.false_eq_true, false_or]

private theorem put_other (other : entry ≠ index) (apart : BitVec.ofNat 32 entry ≠ BitVec.ofNat 32 index) :
    ((table.put reply index nsid).Holds entry ↔ table.Holds entry) ∧
      ((table.put reply index nsid).Leaves reply entry ↔ table.Leaves reply entry) := by
  have returned : (table.put reply index nsid).returned entry = table.returned entry := by
    simp only [put]
    split
    · exact Function.update_of_ne other ..
    · rfl
  have holds : (table.put reply index nsid).Holds entry ↔ table.Holds entry := by
    simp only [Holds, returned]
    simp only [put, CNvmeDevice.putNamespace_nsData, if_neg apart]
  refine ⟨holds, ?_⟩
  simp only [Leaves, returned]
  cases reply.leftover entry with
  | none => exact holds
  | some data => exact Iff.rfl

end Entries

private theorem identifyFrom_namespaceCount {reply : IdentifyReply} {statuses : Nat → NtStatus} {left : Nat} :
    ∀ {table : NamespaceTable} {index : Nat},
      (table.identifyFrom reply statuses index left).device.namespaceCount = table.device.namespaceCount := by
  induction left with
  | zero =>
    intro table index
    rfl
  | succ left ih =>
    intro table index
    simp only [identifyFrom]
    split
    · rfl
    · split
      · rw [ih]
        exact CNvmeDevice.putNamespace_namespaceCount ..
      · exact CNvmeDevice.spoilNamespace_namespaceCount ..

private theorem identifyFrom_other {reply : IdentifyReply} {statuses : Nat → NtStatus} {left : Nat} :
    ∀ {table : NamespaceTable} {index entry : Nat}, index + left ≤ supportNamespaces → entry < supportNamespaces →
      entry < index ∨ index + left ≤ entry →
      ((table.identifyFrom reply statuses index left).Holds entry ↔ table.Holds entry) := by
  induction left with
  | zero =>
    intro table index entry _ _ _
    exact Iff.rfl
  | succ left ih =>
    intro table index entry bounded inside outside
    have other : entry ≠ index := by omega
    have apart : BitVec.ofNat 32 entry ≠ BitVec.ofNat 32 index :=
      fun same => other (ofNat_injective inside (by omega) same)
    simp only [identifyFrom]
    split
    · exact Iff.rfl
    · split
      · exact (ih (by omega) inside (by omega)).trans (put_other other apart).1
      · exact spoil_other apart

/-- What decides an entry from `index` on: whether its data `came`, whether a command
that fails at it would leave it as it should be, and whether it `held` before. -/
def Decides (statuses : Nat → NtStatus) (index entry : Nat) (came left held : Prop) : Prop :=
  (∀ upTo, index ≤ upTo → upTo ≤ entry → statuses upTo = .success) ∧ came ∨
    (∀ upTo, index ≤ upTo → upTo < entry → statuses upTo = .success) ∧ left ∨
    (∃ upTo, index ≤ upTo ∧ upTo < entry ∧ statuses upTo ≠ .success) ∧ held

section Decides
variable {statuses : Nat → NtStatus} {index entry : Nat} {came left held : Prop}

private theorem decides_of_succeeded (succeeded : statuses entry = .success) :
    Decides statuses entry entry came left held ↔ came ∨ left := by
  constructor
  · intro either
    rcases either with ⟨_, came⟩ | ⟨_, left⟩ | ⟨⟨upTo, above, below, _⟩, _⟩
    · exact .inl came
    · exact .inr left
    · omega
  · intro either
    rcases either with came | left
    · refine .inl ⟨?_, came⟩
      intro upTo above below
      exact (Nat.le_antisymm below above) ▸ succeeded
    · exact .inr (.inl ⟨fun upTo above below => by omega, left⟩)

private theorem decides_of_failed (failed : statuses entry ≠ .success) :
    Decides statuses entry entry came left held ↔ left := by
  constructor
  · intro either
    rcases either with ⟨successes, _⟩ | ⟨_, left⟩ | ⟨⟨upTo, above, below, _⟩, _⟩
    · exact absurd (successes entry (Nat.le_refl _) (Nat.le_refl _)) failed
    · exact left
    · omega
  · intro left
    exact .inr (.inl ⟨fun upTo above below => by omega, left⟩)

private theorem decides_of_earlier_failed (failed : statuses index ≠ .success) (earlier : index < entry) :
    Decides statuses index entry came left held ↔ held := by
  constructor
  · intro either
    rcases either with ⟨successes, _⟩ | ⟨successes, _⟩ | ⟨_, held⟩
    · exact absurd (successes index (Nat.le_refl _) (by omega)) failed
    · exact absurd (successes index (Nat.le_refl _) earlier) failed
    · exact held
  · intro held
    exact .inr (.inr ⟨⟨index, Nat.le_refl _, earlier, failed⟩, held⟩)

private theorem decides_succ (succeeded : statuses index = .success) :
    Decides statuses index entry came left held ↔ Decides statuses (index + 1) entry came left held := by
  have through : ∀ upTo, index ≤ upTo → (index + 1 ≤ upTo → statuses upTo = .success) → statuses upTo = .success := by
    intro upTo above rest
    by_cases first : upTo = index
    · exact first ▸ succeeded
    · exact rest (by omega)
  have failing : ∀ upTo, index ≤ upTo → statuses upTo ≠ .success → index + 1 ≤ upTo := by
    intro upTo above failed
    have other : upTo ≠ index := fun first => failed (first ▸ succeeded)
    omega
  constructor
  · intro either
    rcases either with ⟨successes, came⟩ | ⟨successes, left⟩ | ⟨⟨upTo, above, below, failed⟩, held⟩
    · exact .inl ⟨fun upTo above below => successes upTo (by omega) below, came⟩
    · exact .inr (.inl ⟨fun upTo above below => successes upTo (by omega) below, left⟩)
    · exact .inr (.inr ⟨⟨upTo, failing upTo above failed, below, failed⟩, held⟩)
  · intro either
    rcases either with ⟨successes, came⟩ | ⟨successes, left⟩ | ⟨⟨upTo, above, below, failed⟩, held⟩
    · exact .inl ⟨fun upTo above below => through upTo above fun rest => successes upTo rest below, came⟩
    · exact .inr (.inl ⟨fun upTo above below => through upTo above fun rest => successes upTo rest below, left⟩)
    · exact .inr (.inr ⟨⟨upTo, by omega, below, failed⟩, held⟩)

end Decides

/-- What the loop leaves in an entry it is meant for, where the list has no zero. -/
theorem identifyFrom_holds {reply : IdentifyReply} {statuses : Nat → NtStatus} {left : Nat} :
    ∀ {table : NamespaceTable} {index entry : Nat}, index + left ≤ supportNamespaces →
      (∀ listed, index ≤ listed → listed < index + left → reply.nsidList.getD listed 0 ≠ 0) →
      index ≤ entry → entry < index + left →
      ((table.identifyFrom reply statuses index left).Holds entry ↔
        Decides statuses index entry (reply.transferred entry = true) (table.Leaves reply entry) (table.Holds entry)) := by
  induction left with
  | zero =>
    intro table index entry _ _ from_ before
    omega
  | succ left ih =>
    intro table index entry bounded nonzero from_ before
    have here := nonzero index (Nat.le_refl index) (by omega)
    have later : ∀ listed, index + 1 ≤ listed → listed < index + 1 + left → reply.nsidList.getD listed 0 ≠ 0 :=
      fun listed above below => nonzero listed (by omega) (by omega)
    have apart : entry ≠ index → BitVec.ofNat 32 entry ≠ BitVec.ofNat 32 index :=
      fun other equal => other (ofNat_injective (by omega) (by omega) equal)
    simp only [identifyFrom, if_neg here]
    by_cases succeeded : statuses index = .success
    · rw [if_pos succeeded]
      by_cases same : entry = index
      · -- the loop has filled the entry and does not come back to it
        subst same
        rw [identifyFrom_other (by omega) (by omega) (.inl (Nat.lt_succ_self entry)), put_holds, decides_of_succeeded succeeded]
      · obtain ⟨holds, leaves⟩ := @put_other table reply index entry (reply.nsidList.getD index 0) same (apart same)
        rw [ih (by omega) later (by omega) (by omega), holds, leaves, decides_succ succeeded]
    · rw [if_neg succeeded]
      by_cases same : entry = index
      · subst same
        rw [spoil_holds, decides_of_failed succeeded]
      · rw [spoil_other (apart same), decides_of_earlier_failed succeeded (by omega)]

def Filled (table : NamespaceTable) : Prop :=
  ∀ index, index < table.device.namespaceCount.toNat → table.Holds index

structure Kept (table : NamespaceTable) : Prop where
  few : table.device.namespaceCount.toNat ≤ supportNamespaces
  filled : table.Filled

private theorem le_validEntries {table : NamespaceTable} {count : Nat} (few : count ≤ supportNamespaces)
    (filled : ∀ index, index < count → table.Holds index) : count ≤ table.validEntries := by
  have split : List.range supportNamespaces = List.range count ++ (List.range supportNamespaces).drop count := by
    rw [← List.take_append_drop count (List.range supportNamespaces), List.take_range, Nat.min_eq_left few]
    simp
  have whole : ∀ index ∈ List.range count, decide (table.Holds index) = true := by
    intro index inside
    exact decide_eq_true (filled index (List.mem_range.mp inside))
  rw [validEntries, split, List.takeWhile_append_of_pos whole, List.length_append, List.length_range]
  exact Nat.le_add_right ..

theorem Kept.sound {table : NamespaceTable} (kept : table.Kept) : table.Sound where
  entries := kept.filled
  counted := le_validEntries kept.few kept.filled

private theorem initVars_kept (device : CNvmeDevice) : NamespaceTable.Kept ⟨device.initVars, fun _ => none⟩ where
  few := Nat.zero_le _
  filled := by
    intro index inside
    exact absurd inside (Nat.not_lt_zero index)

private theorem ofNat_visited (reply : IdentifyReply) : (BitVec.ofNat 32 reply.visited).toNat = reply.visited := by
  have few := reply.visited_le
  rw [BitVec.toNat_ofNat]
  omega

private theorem after_few {table : NamespaceTable} (few : table.device.namespaceCount.toNat ≤ supportNamespaces)
    (call : NamespaceCall) : (table.after call).device.namespaceCount.toNat ≤ supportNamespaces := by
  cases call with
  | initVars => exact Nat.zero_le _
  | identifyAllNamespaces reply listed statuses =>
    simp only [after]
    split
    · exact few
    · rw [identifyFrom_namespaceCount]
      exact (ofNat_visited reply).le.trans reply.visited_le
  | identifyFirstNamespace reply status =>
    simp only [after]
    split
    · show 1 ≤ 4
      omega
    · simpa [spoil] using few

private theorem identifyAllNamespaces_filled_iff (table : NamespaceTable) {reply : IdentifyReply} {listed : NtStatus}
    {statuses : Nat → NtStatus} (arrived : listed.ntSuccess = true) :
    (table.after (.identifyAllNamespaces reply listed statuses)).Filled ↔
      table.Covers (.identifyAllNamespaces reply listed statuses) := by
  have nonzero : ∀ index, 0 ≤ index → index < 0 + reply.visited → reply.nsidList.getD index 0 ≠ 0 := by
    intro index _ inside
    exact IdentifyReply.getD_ne_zero (by omega)
  have few : 0 + reply.visited ≤ supportNamespaces := (Nat.zero_add _).le.trans reply.visited_le
  have leaves : table.after (.identifyAllNamespaces reply listed statuses) =
      (table.setNamespaceCount reply.visited).identifyFrom reply statuses 0 reply.visited := by
    simp [after, arrived]
  have count : (table.after (.identifyAllNamespaces reply listed statuses)).device.namespaceCount.toNat =
      reply.visited := by
    rw [leaves, identifyFrom_namespaceCount]
    exact ofNat_visited reply
  simp only [Filled, count, Covers, arrived, forall_const]
  apply forall₂_congr
  intro index inside
  rw [leaves, identifyFrom_holds few nonzero (Nat.zero_le index) (by omega)]
  simp only [Decides, Nat.zero_le, true_and, forall_const]
  exact Iff.rfl

private theorem identifyFirstNamespace_filled_iff {table : NamespaceTable} (kept : table.Kept) (reply : IdentifyReply)
    (status : NtStatus) :
    (table.after (.identifyFirstNamespace reply status)).Filled ↔ table.Covers (.identifyFirstNamespace reply status) := by
  by_cases succeeded : status.ntSuccess = true
  · have count : ((table.put reply 0 1).setNamespaceCount 1).device.namespaceCount.toNat = 1 := rfl
    have same : ((table.put reply 0 1).setNamespaceCount 1).Holds 0 ↔ (table.put reply 0 1).Holds 0 := Iff.rfl
    simp only [after, succeeded, if_true, Filled, count, Nat.lt_one_iff, forall_eq, Covers, same, put_holds]
  · have count : (table.spoil reply 0).device.namespaceCount = table.device.namespaceCount :=
      CNvmeDevice.spoilNamespace_namespaceCount ..
    simp only [after, Covers, succeeded, if_false, Filled, count, Bool.false_eq_true]
    constructor
    · intro filled some_
      exact spoil_holds.mp (filled 0 some_)
    · intro covers index inside
      by_cases first : index = 0
      · subst first
        exact spoil_holds.mpr (covers inside)
      · have apart : BitVec.ofNat 32 index ≠ BitVec.ofNat 32 0 := fun same =>
          first (ofNat_injective (Nat.lt_of_lt_of_le inside kept.few) (by decide) same)
        exact (spoil_other apart).mpr (kept.filled index inside)

/-- A call leaves every counted entry filled exactly if it covers them. -/
theorem after_filled_iff {table : NamespaceTable} (kept : table.Kept) (call : NamespaceCall) :
    (table.after call).Filled ↔ table.Covers call := by
  cases call with
  | initVars => exact ⟨fun _ => trivial, fun _ => (initVars_kept table.device).filled⟩
  | identifyAllNamespaces reply listed statuses =>
    by_cases arrived : listed.ntSuccess = true
    · exact identifyAllNamespaces_filled_iff table arrived
    · simp [Covers, after, arrived, kept.filled]
  | identifyFirstNamespace reply status => exact identifyFirstNamespace_filled_iff kept reply status

private theorem run_total (table : NamespaceTable) (calls : List NamespaceCall) :
    ∃ final, Machine.run step table calls = some final := by
  induction calls generalizing table with
  | nil => exact ⟨table, rfl⟩
  | cons call calls ih =>
    obtain ⟨final, ran⟩ := ih (table.after call)
    exact ⟨final, ran⟩

/-- Through every sequence of calls the counted entries hold data of successful
commands exactly if each call fills what it counts or leaves it filled. -/
theorem always_sound_iff (device : CNvmeDevice) (calls : List NamespaceCall) :
    Machine.Always step Sound (initial device) calls ↔ Machine.Meets step Covers (initial device) calls := by
  obtain ⟨final, ran⟩ := run_total (initial device) calls
  have implies : ∀ table : NamespaceTable, table.Kept → table.Sound := fun _ kept => kept.sound
  apply Machine.always_iff_meets implies _ _ (initVars_kept device) ran
  · intro before call next kept covers taken
    obtain rfl : before.after call = next := Option.some.inj taken
    exact ⟨after_few kept.few call, (after_filled_iff kept call).mpr covers⟩
  · intro before call next kept taken broken sound
    obtain rfl : before.after call = next := Option.some.inj taken
    exact broken ((after_filled_iff kept call).mp sound.entries)

def secondUnanswered : NamespaceCall :=
  .identifyAllNamespaces ⟨[1, 2], fun _ => ⟨1000, 0, fun _ => 9⟩, fun _ => true, fun _ => none⟩ .success
    fun index => if index = 0 then .success else .unsuccessful

/-- The count is two then, and the second entry holds what `InitVars` left. -/
theorem secondUnanswered_unsound :
    ¬ Machine.Always step Sound (initial (Host.sampleHost (.init none)).device) [secondUnanswered] := by
  intro always
  have sound := (always.2 _ rfl).here
  have second := sound.entries 1 (by decide)
  cases second

end NamespaceTable

end SpcNvme
