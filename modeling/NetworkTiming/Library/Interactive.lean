import Mathlib.Logic.Basic

/-!
# Interactive programs

An interactive program changes a state and ends with a value or stops for some
reason.  The state is kept when it stops, so that a program that stops as soon as
its environment gives no further answer shows every point that it reaches.
`Interactive.Ensures` is the weakest-precondition reading of such programs, and
`Interactive.Triple` their Hoare logic.
-/

/-- Programs on a state that may stop. -/
abbrev Interactive (State Stop : Type) := ExceptT Stop (StateM State)

namespace Interactive

variable {State Stop α β : Type}

/-- The outcome of a program and the state it leaves behind. -/
def outcome
    (program : Interactive State Stop α)
    (state : State) : Except Stop α × State :=
  StateT.run (ExceptT.run program) state

/-- A returned value and the state then satisfy `returns`, and the reason for
stopping and the state then satisfy `stops`. -/
def Ensures
    (returns : α → State → Prop)
    (stops : Stop → State → Prop)
    (program : Interactive State Stop α)
    (state : State) : Prop :=
  match outcome program state with
  | (.ok value, final) => returns value final
  | (.error reason, final) => stops reason final

variable {returns : α → State → Prop} {stops : Stop → State → Prop} {state : State}

@[simp] theorem ensures_get {returns : State → State → Prop} :
    Ensures returns stops get state ↔ returns state state := Iff.rfl

@[simp] theorem ensures_modify {returns : PUnit → State → Prop} (change : State → State) :
    Ensures returns stops (modify change) state ↔ returns ⟨⟩ (change state) := Iff.rfl

theorem outcome_bind
    (program : Interactive State Stop α)
    (next : α → Interactive State Stop β)
    (state : State) :
    outcome (program >>= next) state =
      match outcome program state with
      | (.ok value, middle) => outcome (next value) middle
      | (.error reason, middle) => (.error reason, middle) := by
  change (match outcome program state with
    | (result, middle) => StateT.run (match result with
      | Except.ok value => ExceptT.run (next value)
      | Except.error reason => pure (Except.error reason)) middle) = _
  rcases outcome program state with ⟨result, middle⟩
  cases result with
  | ok value => rfl
  | error reason => rfl

/-- A postcondition of a sequence is a postcondition of its first program. -/
@[simp] theorem ensures_bind
    {returns : β → State → Prop}
    (program : Interactive State Stop α)
    (next : α → Interactive State Stop β) :
    Ensures returns stops (program >>= next) state ↔
      Ensures (fun value middle => Ensures returns stops (next value) middle) stops
        program state := by
  rw [Ensures, Ensures, outcome_bind]
  rcases outcome program state with ⟨result, middle⟩
  cases result with
  | ok value => rfl
  | error reason => rfl

/-- A handler continues with the state in which the program stopped. -/
theorem outcome_tryCatch
    (program : Interactive State Stop α)
    (handler : Stop → Interactive State Stop α)
    (state : State) :
    outcome (tryCatch program handler) state =
      match outcome program state with
      | (.ok value, middle) => (.ok value, middle)
      | (.error reason, middle) => outcome (handler reason) middle := by
  change (match outcome program state with
    | (result, middle) => StateT.run (match result with
      | Except.ok value => pure (Except.ok value)
      | Except.error reason => ExceptT.run (handler reason)) middle) = _
  rcases outcome program state with ⟨result, middle⟩
  cases result with
  | ok value => rfl
  | error reason => rfl

/-- A postcondition of a handled program is one of its body, or of the handler behind
it. -/
@[simp] theorem ensures_tryCatch
    (program : Interactive State Stop α)
    (handler : Stop → Interactive State Stop α) :
    Ensures returns stops (tryCatch program handler) state ↔
      Ensures returns (fun reason middle => Ensures returns stops (handler reason) middle)
        program state := by
  rw [Ensures, Ensures, outcome_tryCatch]
  rcases outcome program state with ⟨result, middle⟩
  cases result with
  | ok value => rfl
  | error reason => rfl

/-- Postconditions may be weakened. -/
theorem Ensures.mono
    {weaker : α → State → Prop} {weakerStops : Stop → State → Prop}
    {program : Interactive State Stop α}
    (ensured : Ensures returns stops program state)
    (weaken : ∀ value final, returns value final → weaker value final)
    (weakenStops : ∀ reason final, stops reason final → weakerStops reason final) :
    Ensures weaker weakerStops program state := by
  revert ensured
  unfold Ensures
  rcases outcome program state with ⟨result, final⟩
  cases result with
  | ok value => exact weaken value final
  | error reason => exact weakenStops reason final

/-- A postcondition that does not depend on how a program ends is one of the state
it leaves behind. -/
theorem Ensures.outcome_snd
    {post : State → Prop}
    {program : Interactive State Stop α}
    (ensured : Ensures (fun _ final => post final) (fun _ final => post final)
      program state) :
    post (outcome program state).2 := by
  revert ensured
  unfold Ensures
  rcases outcome program state with ⟨result, final⟩
  cases result with
  | ok value => exact id
  | error reason => exact id

/-- A program that cannot stop and can return one value only returns that value. -/
theorem Ensures.exists_outcome_eq
    {value : α} {program : Interactive State Stop α}
    (ensured : Ensures (fun returned _ => returned = value) (fun _ _ => False)
      program state) :
    ∃ final, outcome program state = (.ok value, final) := by
  revert ensured
  unfold Ensures
  rcases outcome program state with ⟨result, final⟩
  cases result with
  | ok returned =>
      rintro rfl
      exact ⟨final, rfl⟩
  | error reason => exact False.elim

/-! ## Triples -/

/-- From states that satisfy `before`, the program returns where `after` holds and
stops where `stopped` holds. -/
def Triple
    (stopped : State → Prop)
    (before : State → Prop)
    (program : Interactive State Stop α)
    (after : α → State → Prop) : Prop :=
  ∀ state, before state →
    Ensures after (fun _reason final => stopped final) program state

namespace Triple

variable {stopped before : State → Prop} {after : α → State → Prop}

theorem pure
    {value : α}
    (there : ∀ state, before state → after value state) :
    Triple stopped before (Pure.pure value : Interactive State Stop α) after := there

theorem throw
    {reason : Stop}
    (there : ∀ state, before state → stopped state) :
    Triple stopped before (MonadExcept.throw reason : Interactive State Stop α) after :=
  there

theorem get :
    Triple stopped before (MonadState.get : Interactive State Stop State)
      fun _ => before :=
  fun _state holds => holds

theorem modify
    {after : State → Prop} {change : State → State}
    (there : ∀ state, before state → after (change state)) :
    Triple stopped before (modify change : Interactive State Stop PUnit)
      fun _ => after := there

/-- The rule of sequences. -/
theorem bind
    {program : Interactive State Stop α}
    {following : α → Interactive State Stop β}
    {middle : α → State → Prop} {after : β → State → Prop}
    (first : Triple stopped before program middle)
    (second : ∀ value, Triple stopped (middle value) (following value) after) :
    Triple stopped before (program >>= following) after := by
  intro state holds
  rw [ensures_bind]
  exact (first state holds).mono
    (fun value final reached => second value final reached)
    (fun _reason _final reached => reached)

/-- The rule of handlers. -/
theorem tryCatch
    {program : Interactive State Stop α}
    {handler : Stop → Interactive State Stop α}
    {failed : State → Prop}
    (body : Triple failed before program after)
    (handled : ∀ reason, Triple stopped failed (handler reason) after) :
    Triple stopped before (tryCatch program handler) after := by
  intro state holds
  rw [ensures_tryCatch]
  exact (body state holds).mono
    (fun _value _final reached => reached)
    (fun reason final reached => handled reason final reached)

/-- What holds wherever a program returns or stops holds in the state it leaves. -/
theorem outcome_snd
    {program : Interactive State Stop α} {state : State}
    (triple : Triple stopped before program fun _ => stopped)
    (holds : before state) :
    stopped (outcome program state).2 :=
  (triple state holds).outcome_snd

end Triple

end Interactive
