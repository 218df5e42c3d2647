import Mathlib.Logic.Basic

/-!
# Traced computations

A traced computation logs the events it causes and ends with a value or with a
fault.  `Traced.Ensures` is the weakest-precondition reading of such a run: it
bounds the logged events, the value and the fault separately, and it commutes
with sequencing, so that a postcondition can be pushed through a program by
rewriting.
-/

/-- The events logged by a run, oldest first, and how the run ended. -/
structure Traced (Event Fault α : Type) where
  /-- Everything logged, oldest first. -/
  events : List Event
  /-- The value returned, or the fault that ended the run. -/
  result : Except Fault α

namespace Traced

variable {Event Fault α β : Type}

/-- End at once with a fault. -/
def fail (fault : Fault) : Traced Event Fault α := ⟨[], .error fault⟩

/-- Log one event. -/
def emit (event : Event) : Traced Event Fault Unit := ⟨[event], .ok ()⟩

/-- End the way some result says. -/
def ofResult (result : Except Fault α) : Traced Event Fault α := ⟨[], result⟩

/-- Run a computation and look at how it ended. -/
def attempt (run : Traced Event Fault α) : Traced Event Fault (Except Fault α) :=
  ⟨run.events, .ok run.result⟩

/-- Run a computation and, if it returned, continue with its value. -/
protected def bind
    (run : Traced Event Fault α)
    (next : α → Traced Event Fault β) : Traced Event Fault β :=
  match run.result with
  | .ok value =>
      ⟨run.events ++ (next value).events, (next value).result⟩
  | .error fault => ⟨run.events, .error fault⟩

instance : Monad (Traced Event Fault) where
  pure value := ⟨[], .ok value⟩
  bind := Traced.bind

/-! ## Results -/

@[simp] theorem result_pure (value : α) :
    (pure value : Traced Event Fault α).result = .ok value := rfl

@[simp] theorem result_fail (fault : Fault) :
    (fail fault : Traced Event Fault α).result = .error fault := rfl

@[simp] theorem result_emit (event : Event) :
    (emit event : Traced Event Fault Unit).result = .ok () := rfl

@[simp] theorem result_ofResult (result : Except Fault α) :
    (ofResult result : Traced Event Fault α).result = result := rfl

@[simp] theorem result_attempt (run : Traced Event Fault α) :
    (attempt run).result = .ok run.result := rfl

/-- The result of a sequence is the sequence of the results. -/
theorem result_bind
    (run : Traced Event Fault α)
    (next : α → Traced Event Fault β) :
    (run >>= next).result = run.result.bind fun value => (next value).result := by
  change (Traced.bind run next).result = _
  unfold Traced.bind
  cases run.result <;> rfl

/-- A sequence of results is a value if each of its steps is. -/
theorem except_bind_eq_ok_iff
    {first : Except Fault α}
    {next : α → Except Fault β}
    {value : β} :
    (first >>= next) = .ok value ↔
      ∃ middle, first = .ok middle ∧ next middle = .ok value := by
  cases first with
  | error fault => simp [bind, Except.bind]
  | ok middle => simp [bind, Except.bind]

/-! ## How much is logged -/

@[simp] theorem events_pure (value : α) :
    (pure value : Traced Event Fault α).events = [] := rfl

@[simp] theorem events_fail (fault : Fault) :
    (fail fault : Traced Event Fault α).events = [] := rfl

@[simp] theorem events_emit (event : Event) :
    (emit event : Traced Event Fault Unit).events = [event] := rfl

/-- A sequence logs what its steps log. -/
theorem events_bind_of_ok
    {run : Traced Event Fault α}
    (next : α → Traced Event Fault β)
    (returned : run.result = .ok value) :
    (run >>= next).events = run.events ++ (next value).events := by
  change (Traced.bind run next).events = _
  unfold Traced.bind
  rw [returned]

/-- A sequence stays below a bound if what follows its first step stays below the rest. -/
theorem length_events_bind_le
    {run : Traced Event Fault α}
    {next : α → Traced Event Fault β}
    (first : run.events.length ≤ cost)
    (fits : cost ≤ bound)
    (rest : ∀ value, run.result = .ok value → (next value).events.length ≤ bound - cost) :
    (run >>= next).events.length ≤ bound := by
  change (Traced.bind run next).events.length ≤ _
  unfold Traced.bind
  cases ended : run.result with
  | ok value =>
      have second := rest value ended
      rw [List.length_append]
      omega
  | error fault => exact Nat.le_trans first fits

/-! ## Postconditions -/

/-- Every event is permitted, a returned value satisfies `returns`, and a fault
satisfies `faults`. -/
structure Ensures
    (permitted : Event → Prop)
    (faults : Fault → Prop)
    (returns : α → Prop)
    (run : Traced Event Fault α) : Prop where
  /-- Every logged event is permitted. -/
  event : ∀ event ∈ run.events, permitted event
  /-- Only allowed faults end the run. -/
  fault : ∀ fault, run.result = .error fault → faults fault
  /-- A returned value satisfies the postcondition. -/
  value : ∀ value, run.result = .ok value → returns value

variable {permitted : Event → Prop} {faults : Fault → Prop} {returns : α → Prop}

theorem Ensures.imp
    {weaker : α → Prop}
    {run : Traced Event Fault α}
    (ensured : Ensures permitted faults returns run)
    (weakens : ∀ value, returns value → weaker value) :
    Ensures permitted faults weaker run :=
  ⟨ensured.event, ensured.fault, fun value returned =>
    weakens value (ensured.value value returned)⟩

@[simp] theorem ensures_pure (value : α) :
    Ensures permitted faults returns
        (pure value : Traced Event Fault α) ↔
      returns value := by
  constructor
  · intro ensured
    exact ensured.value value rfl
  · intro holds
    refine ⟨by simp [pure], by simp, ?_⟩
    intro other returned
    cases returned
    exact holds

@[simp] theorem ensures_fail (fault : Fault) :
    Ensures permitted faults returns
        (fail fault : Traced Event Fault α) ↔
      faults fault := by
  constructor
  · intro ensured
    exact ensured.fault fault rfl
  · intro allowed
    refine ⟨by simp [fail], ?_, by simp⟩
    intro other raised
    cases raised
    exact allowed

@[simp] theorem ensures_emit
    {returns : Unit → Prop}
    (event : Event) :
    Ensures permitted faults returns
        (emit event : Traced Event Fault Unit) ↔
      permitted event ∧ returns () := by
  constructor
  · intro ensured
    exact ⟨ensured.event event (by simp [emit]), ensured.value () rfl⟩
  · rintro ⟨allowed, holds⟩
    refine ⟨by simpa [emit] using allowed, by simp, ?_⟩
    intro value _returned
    exact holds

@[simp] theorem ensures_ofResult (result : Except Fault α) :
    Ensures permitted faults returns (ofResult result : Traced Event Fault α) ↔
      match result with
      | .ok value => returns value
      | .error fault => faults fault := by
  cases result with
  | ok value => exact ensures_pure value
  | error fault => exact ensures_fail fault

/-- Looking at how a computation ended, every way of ending has a postcondition. -/
@[simp] theorem ensures_attempt
    {returns : Except Fault α → Prop}
    (run : Traced Event Fault α) :
    Ensures permitted faults returns (attempt run) ↔
      Ensures permitted (fun fault => returns (.error fault))
        (fun value => returns (.ok value)) run := by
  constructor
  · intro ensured
    have ended := ensured.value run.result rfl
    refine ⟨ensured.event, ?_, ?_⟩
    · intro fault raised
      rw [← raised]
      exact ended
    · intro value returned
      rw [← returned]
      exact ended
  · intro ensured
    refine ⟨ensured.event, nofun, ?_⟩
    rintro _ ⟨⟩
    cases ended : run.result with
    | ok value => exact ensured.value value ended
    | error fault => exact ensured.fault fault ended

/-- A postcondition of a sequence is a postcondition of its first step. -/
@[simp] theorem ensures_bind
    {returns : β → Prop}
    (run : Traced Event Fault α)
    (next : α → Traced Event Fault β) :
    Ensures permitted faults returns (run >>= next) ↔
      Ensures permitted faults
        (fun value => Ensures permitted faults returns (next value)) run := by
  change Ensures permitted faults returns (Traced.bind run next) ↔ _
  unfold Traced.bind
  cases ended : run.result with
  | ok value =>
      constructor
      · intro ensured
        refine ⟨fun event logged => ensured.event event (by simp [logged]),
          by simp [ended], ?_⟩
        intro other returned
        cases ended.symm.trans returned
        exact ⟨fun event logged => ensured.event event (by simp [logged]),
          ensured.fault, ensured.value⟩
      · intro ensured
        have rest := ensured.value value ended
        refine ⟨?_, rest.fault, rest.value⟩
        intro event logged
        rcases List.mem_append.mp logged with first | second
        · exact ensured.event event first
        · exact rest.event event second
  | error fault =>
      constructor
      · intro ensured
        refine ⟨ensured.event, ?_, by simp [ended]⟩
        intro other raised
        cases ended.symm.trans raised
        exact ensured.fault fault rfl
      · intro ensured
        refine ⟨ensured.event, ?_, by simp⟩
        intro other raised
        cases raised
        exact ensured.fault fault ended

@[simp] theorem ensures_ite
    (condition : Prop) [Decidable condition]
    (first second : Traced Event Fault α) :
    Ensures permitted faults returns (if condition then first else second) ↔
      if condition then Ensures permitted faults returns first
      else Ensures permitted faults returns second := by
  split <;> rfl

/-- A run without faults and with one possible value returns that value. -/
theorem Ensures.result_eq
    (permitted : Event → Prop)
    {value : α}
    {run : Traced Event Fault α}
    (ensured : Ensures permitted (fun _ => False) (· = value) run) :
    run.result = .ok value := by
  cases ended : run.result with
  | ok other => rw [ensured.value other ended]
  | error fault => exact absurd (ensured.fault fault ended) not_false

/-- Without a bound on the events, a postcondition is about the result. -/
theorem ensures_result_iff (run : Traced Event Fault α) :
    Ensures (fun _ => True) faults returns run ↔
      (∃ value, run.result = .ok value ∧ returns value) ∨
        ∃ fault, run.result = .error fault ∧ faults fault := by
  constructor
  · intro ensured
    cases ended : run.result with
    | ok value => exact Or.inl ⟨value, rfl, ensured.value value ended⟩
    | error fault => exact Or.inr ⟨fault, rfl, ensured.fault fault ended⟩
  · rintro (⟨value, ended, holds⟩ | ⟨fault, ended, allowed⟩)
    · refine ⟨fun _ _ => trivial, by simp [ended], ?_⟩
      intro other returned
      cases ended.symm.trans returned
      exact holds
    · refine ⟨fun _ _ => trivial, ?_, by simp [ended]⟩
      intro other raised
      cases ended.symm.trans raised
      exact allowed

end Traced
