import SpcNvme.Lib.Machine

/-! Programs that access a device one operation at a time, while the device moves
on its own between any two of them. A rule for each construct shows that every
access a program makes is a good one, and a session of calls inherits it. -/

universe u v w x

/-- `stop` ends the whole system; nothing after it happens. -/
inductive Program {ι : Type u} (Answer : ι → Type v) (α : Type w) where
  | done (value : α)
  | stop
  | access (op : ι) (next : Answer op → Program Answer α)

namespace Program
variable {ι : Type u} {Answer : ι → Type v} {α : Type w} {β : Type x}

def bind (program : Program Answer α) (next : α → Program Answer β) : Program Answer β :=
  match program with
  | done value => next value
  | stop => stop
  | access op rest => access op fun answer => (rest answer).bind next

/-- One operation and its answer. -/
def perform (op : ι) : Program Answer (Answer op) := access op done

end Program

/-- What an operation answers and changes, how the device may move by itself,
which accesses are expected of it and which are good. -/
structure Contract {ι : Type u} (Answer : ι → Type v) (σ : Type w) where
  execute : σ → (op : ι) → Answer op × σ
  moves : σ → σ → Prop
  expected : σ → ι → Prop
  good : σ → ι → Prop
  refl : ∀ state, moves state state
  trans : ∀ {first second third}, moves first second → moves second third → moves first third

namespace Contract
variable {ι : Type u} {Answer : ι → Type v} {σ : Type w} {α : Type x} {β : Type x} (contract : Contract Answer σ)

/-- Whatever the device does within its bounds, every expected access is good,
and the result satisfies the postcondition for as long as it may be looked at. -/
def Safe (post : α → σ → Prop) : Program Answer α → σ → Prop
  | .done value, state => ∀ later, contract.moves state later → post value later
  | .stop, _ => True
  | .access op next, state => ∀ later, contract.moves state later → contract.expected later op →
      contract.good later op ∧ Safe post (next (contract.execute later op).1) (contract.execute later op).2

variable {contract} {post other : α → σ → Prop} {program : Program Answer α} {state : σ}

theorem Safe.move {later : σ} (safe : contract.Safe post program state) (moved : contract.moves state later) :
    contract.Safe post program later := by
  cases program with
  | done value => exact fun last again => safe last (contract.trans moved again)
  | stop => trivial
  | access op next => exact fun last again expected => safe last (contract.trans moved again) expected

theorem Safe.weaken (safe : contract.Safe post program state)
    (implies : ∀ value later, post value later → other value later) : contract.Safe other program state := by
  induction program generalizing state with
  | done value => exact fun later moved => implies value later (safe later moved)
  | stop => trivial
  | access op next ih =>
    intro later moved expected
    obtain ⟨good, rest⟩ := safe later moved expected
    exact ⟨good, ih _ rest⟩

/-- A program and what follows it. -/
theorem Safe.bind {next : α → Program Answer β} {post : β → σ → Prop}
    (safe : contract.Safe (fun value later => contract.Safe post (next value) later) program state) :
    contract.Safe post (program.bind next) state := by
  induction program generalizing state with
  | done value => exact safe state (contract.refl state)
  | stop => trivial
  | access op rest ih =>
    intro later moved expected
    obtain ⟨good, left⟩ := safe later moved expected
    exact ⟨good, ih _ left⟩

/-- An assertion that the device cannot spoil on its own. -/
def Stable (contract : Contract Answer σ) (assertion : σ → Prop) : Prop :=
  ∀ state later, contract.moves state later → assertion state → assertion later

theorem Safe.done {value : α} (stable : contract.Stable (post value)) (holds : post value state) :
    contract.Safe post (.done value) state :=
  fun later moved => stable state later moved holds

/-- One access from a stable assertion. -/
theorem Safe.access {op : ι} {next : Answer op → Program Answer α} {assertion : σ → Prop}
    (stable : contract.Stable assertion) (holds : assertion state)
    (step : ∀ later, assertion later → contract.expected later op →
      contract.good later op ∧ contract.Safe post (next (contract.execute later op).1) (contract.execute later op).2) :
    contract.Safe post (.access op next) state :=
  fun later moved expected => step later (stable state later moved holds) expected

end Contract

/-- A device, the call in progress and the accesses so far, each with the state
the device was in. -/
structure Session {ι : Type u} (Answer : ι → Type v) (σ : Type w) (α : Type x) where
  state : σ
  program : Program Answer α
  log : List (σ × ι)

/-- A call begins, it makes its next access, or the device moves. -/
inductive SessionEvent (κ : Type u) (σ : Type v) where
  | call (which : κ)
  | access
  | move (state : σ)

namespace Session
variable {ι : Type u} {Answer : ι → Type v} {σ : Type w} {α : Type x} {κ : Type u}

/-- A new call begins only when the last one is over. -/
def step (contract : Contract Answer σ) (body : κ → Program Answer α) (session : Session Answer σ α) :
    SessionEvent κ σ → Option (Session Answer σ α)
  | .call which => match session.program with
    | .done _ => some { session with program := body which }
    | _ => none
  | .access => match session.program with
    | .access op next =>
        let (answer, state) := contract.execute session.state op
        some ⟨state, next answer, session.log ++ [(session.state, op)]⟩
    | _ => none
  | .move state => some { session with state := state }

/-- The steps that keep to the contract; a call may ask for something in advance. -/
def Keeps (contract : Contract Answer σ) (entry : κ → σ → Prop) (session : Session Answer σ α) :
    SessionEvent κ σ → Prop
  | .call which => entry which session.state
  | .access => match session.program with
    | .access op _ => contract.expected session.state op
    | _ => True
  | .move state => contract.moves session.state state

instance decidableKeeps {contract : Contract Answer σ} {entry : κ → σ → Prop}
    [∀ which state, Decidable (entry which state)] [∀ state op, Decidable (contract.expected state op)]
    [∀ state later, Decidable (contract.moves state later)] (session : Session Answer σ α) :
    ∀ event, Decidable (Keeps contract entry session event)
  | .call which => inferInstanceAs (Decidable (entry which session.state))
  | .access => match current : session.program with
    | .access op _ => decidable_of_iff (contract.expected session.state op) (by simp [Keeps, current])
    | .done _ => isTrue (by simp [Keeps, current])
    | .stop => isTrue (by simp [Keeps, current])
  | .move state => inferInstanceAs (Decidable (contract.moves session.state state))

/-- If each call is safe where it is made, every access of every session is good. -/
theorem log_good {contract : Contract Answer σ} {body : κ → Program Answer α} {entry : κ → σ → Prop}
    (safe : ∀ which state, entry which state → contract.Safe (fun _ _ => True) (body which) state)
    {start final : Session Answer σ α} {events : List (SessionEvent κ σ)}
    (idle : contract.Safe (fun _ _ => True) start.program start.state)
    (clean : ∀ record ∈ start.log, contract.good record.1 record.2)
    (met : Machine.Meets (step contract body) (Keeps contract entry) start events)
    (ran : Machine.run (step contract body) start events = some final) :
    ∀ record ∈ final.log, contract.good record.1 record.2 := by
  let invariant := fun session : Session Answer σ α =>
    contract.Safe (fun _ _ => True) session.program session.state ∧
      ∀ record ∈ session.log, contract.good record.1 record.2
  have preserved : ∀ before event after, invariant before → Keeps contract entry before event →
      step contract body before event = some after → invariant after := by
    intro before event after held keeps taken
    obtain ⟨running, good⟩ := held
    cases event with
    | call which =>
      simp only [step] at taken
      split at taken
      · cases taken
        exact ⟨safe which before.state keeps, good⟩
      · cases taken
    | access =>
      simp only [step] at taken
      split at taken
      · next op next current =>
        cases taken
        simp only [Keeps, current] at keeps
        rw [current] at running
        obtain ⟨here, rest⟩ := running before.state (contract.refl _) keeps
        refine ⟨rest, ?_⟩
        intro record member
        rcases List.mem_append.mp member with old | new
        · exact good record old
        · rw [List.mem_singleton.mp new]
          exact here
      · cases taken
    | move state =>
      cases taken
      exact ⟨running.move keeps, good⟩
  exact (Machine.run_invariant preserved ⟨idle, clean⟩ met ran).2

end Session
