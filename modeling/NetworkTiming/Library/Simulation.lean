import NetworkTiming.Library.Machine

/-!
# Simulations

Two machines are compared by what an observer sees of their runs.  Where every step of
one machine is matched by a run of another that looks the same, every run is.
-/

namespace Machine

variable {State Event Visible : Type} {step : State → Event → Option State}
  {view : State → Event → List Visible}

/-- What an observer sees of a run. -/
def trace (step : State → Event → Option State) (view : State → Event → List Visible)
    (state : State) : List Event → List Visible
  | [] => []
  | event :: events =>
      view state event ++ (step state event).elim [] fun next => trace step view next events

@[simp] theorem trace_nil (state : State) : trace step view state [] = [] := rfl

/-- An observer sees the first step, and then the rest of the run. -/
theorem trace_cons_of_eq_some
    {state next : State} {event : Event} (stepped : step state event = some next)
    (events : List Event) :
    trace step view state (event :: events) =
      view state event ++ trace step view next events := by
  rw [trace, stepped, Option.elim_some]

/-- What is seen of a single step. -/
theorem trace_singleton (state : State) (event : Event) :
    trace step view state [event] = view state event := by
  rw [trace]
  cases step state event with
  | none => exact List.append_nil _
  | some next => exact List.append_nil _

/-- A run of one event is its step. -/
theorem run_singleton (state : State) (event : Event) :
    run step state [event] = step state event := by
  rw [run_cons]
  exact Option.bind_fun_some _

/-- What is seen of two runs, one behind the other. -/
theorem trace_append
    {state middle : State} {first : List Event} (reached : run step state first = some middle)
    (second : List Event) :
    trace step view state (first ++ second) =
      trace step view state first ++ trace step view middle second := by
  induction first generalizing state with
  | nil =>
      cases reached
      rfl
  | cons event events inductionHypothesis =>
      rw [run_cons, Option.bind_eq_some_iff] at reached
      obtain ⟨next, stepped, reached⟩ := reached
      rw [List.cons_append, trace_cons_of_eq_some stepped, trace_cons_of_eq_some stepped,
        inductionHypothesis reached, List.append_assoc]

/-- If nothing shows more than one thing, a run shows no more things than it has steps. -/
theorem length_trace_le
    (single : ∀ state event, (view state event).length ≤ 1)
    (events : List Event) (state : State) :
    (trace step view state events).length ≤ events.length := by
  induction events generalizing state with
  | nil => exact Nat.le_refl 0
  | cons event events inductionHypothesis =>
      have first := single state event
      rw [trace, List.length_append, List.length_cons]
      cases step state event with
      | none =>
          rw [Option.elim_none, List.length_nil]
          omega
      | some next =>
          have rest := inductionHypothesis next
          rw [Option.elim_some]
          omega

/-- A run leads from one state to another, and an observer sees this of it. -/
def Shows (step : State → Event → Option State) (view : State → Event → List Visible)
    (start : State) (seen : List Visible) (final : State) : Prop :=
  ∃ events, run step start events = some final ∧ trace step view start events = seen

namespace Shows

variable {start middle final : State} {seen later : List Visible}

/-- Nothing happens. -/
theorem refl (start : State) : Shows step view start [] start := ⟨[], rfl, rfl⟩

/-- A single step. -/
theorem single {event : Event} (stepped : step start event = some final) :
    Shows step view start (view start event) final :=
  ⟨[event], (run_singleton start event).trans stepped, trace_singleton start event⟩

/-- One run behind the other. -/
theorem trans
    (first : Shows step view start seen middle)
    (second : Shows step view middle later final) :
    Shows step view start (seen ++ later) final := by
  obtain ⟨events, reached, same⟩ := first
  obtain ⟨others, reachedOn, sameLater⟩ := second
  refine ⟨events ++ others, ?_, ?_⟩
  · rw [run_append, reached, Option.bind_some, reachedOn]
  · rw [trace_append reached, same, sameLater]

/-- What nobody sees does not count. -/
theorem andThen
    (first : Shows step view start seen middle)
    (second : Shows step view middle [] final) :
    Shows step view start seen final := by
  simpa only [List.append_nil] using first.trans second

end Shows

/-- A machine whose events are what is seen shows its runs. -/
theorem shows_event_iff {start final : State} {events : List Event} :
    Shows step (fun _state event => [event]) start events final ↔
      run step start events = some final := by
  have traced : ∀ events start, run step start events = some final →
      trace step (fun _state event => [event]) start events = events := by
    intro events
    induction events with
    | nil => exact fun _start _reached => rfl
    | cons event events inductionHypothesis =>
        intro start reached
        rw [run_cons, Option.bind_eq_some_iff] at reached
        obtain ⟨next, stepped, reached⟩ := reached
        rw [trace_cons_of_eq_some stepped, inductionHypothesis next reached,
          List.singleton_append]
  constructor
  · rintro ⟨others, reached, seen⟩
    rw [traced others start reached] at seen
    rw [← seen]
    exact reached
  · exact fun reached => ⟨events, reached, traced events start reached⟩

/-- A second machine matches every step of a first one, as long as a condition on the
steps is met, by a run that looks the same. -/
def Simulates
    {Abstract Move : Type}
    (step : State → Event → Option State) (view : State → Event → List Visible)
    (condition : State → Event → Prop)
    (abstractStep : Abstract → Move → Option Abstract)
    (abstractView : Abstract → Move → List Visible)
    (Related : State → Abstract → Prop) : Prop :=
  ∀ state event next abstract, Related state abstract → condition state event →
    step state event = some next →
    ∃ after, Shows abstractStep abstractView abstract (view state event) after ∧
      Related next after

/-- A simulation matches whole runs. -/
theorem Simulates.run
    {Abstract Move : Type}
    {condition : State → Event → Prop}
    {abstractStep : Abstract → Move → Option Abstract}
    {abstractView : Abstract → Move → List Visible}
    {Related : State → Abstract → Prop}
    (simulates : Simulates step view condition abstractStep abstractView Related)
    {start final : State} {events : List Event} {abstract : Abstract}
    (related : Related start abstract)
    (along : Along step condition start events)
    (reached : run step start events = some final) :
    ∃ after, Shows abstractStep abstractView abstract (trace step view start events) after ∧
      Related final after := by
  induction events generalizing start abstract with
  | nil =>
      cases reached
      exact ⟨abstract, .refl abstract, related⟩
  | cons event events inductionHypothesis =>
      rw [run_cons, Option.bind_eq_some_iff] at reached
      obtain ⟨next, stepped, reached⟩ := reached
      rw [along_cons] at along
      obtain ⟨here, later⟩ := along
      obtain ⟨middle, shows, related⟩ :=
        simulates start event next abstract related here stepped
      obtain ⟨after, showsLater, related⟩ :=
        inductionHypothesis related (later next stepped) reached
      refine ⟨after, ?_, related⟩
      rw [trace_cons_of_eq_some stepped]
      exact shows.trans showsLater

/-- A component whose user makes its calls as it goes accepts the calls of whole runs: at
every step of the user, it accepts those that the step makes. -/
theorem run_calls
    {Component Call : Type}
    {calls : State → Event → List Call}
    {accept : Component → Call → Option Component}
    {Related : State → Component → Prop}
    (accepts : ∀ state event next component, Related state component →
      step state event = some next →
      ∃ after, run accept component (calls state event) = some after ∧ Related next after)
    {start final : State} {events : List Event} {component : Component}
    (related : Related start component)
    (reached : run step start events = some final) :
    ∃ after, run accept component (trace step calls start events) = some after ∧
      Related final after := by
  have simulates : Simulates step calls (fun _state _event => True) accept
      (fun _component call => [call]) Related := by
    intro state event next component related _always stepped
    obtain ⟨after, accepted, related⟩ := accepts state event next component related stepped
    exact ⟨after, shows_event_iff.mpr accepted, related⟩
  have always : Along step (fun _state _event => True) start events :=
    fun _history _event _state _isPrefix _reached => trivial
  obtain ⟨after, shows, related⟩ := simulates.run related always reached
  exact ⟨after, shows_event_iff.mp shows, related⟩

end Machine
