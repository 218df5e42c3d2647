import Mathlib.Data.List.Induction

/-!
# Machines driven by events

A machine is a partial transition function: an event that is not enabled in a
state has no successor.  Interleavings of several parties are runs whose events
name the party that moves, so a property of every interleaving is a property of
every list of events.
-/

namespace Machine

variable {State Event : Type} {step : State → Event → Option State}

/-- Let the events happen one after another; `none` if one of them is not
enabled. -/
def run (step : State → Event → Option State) (state : State) :
    List Event → Option State
  | [] => some state
  | event :: events => (step state event).bind fun next => run step next events

@[simp] theorem run_nil (state : State) :
    run step state [] = some state := rfl

@[simp] theorem run_cons (state : State) (event : Event) (events : List Event) :
    run step state (event :: events) =
      (step state event).bind fun next => run step next events := rfl

/-- The same with a case distinction, so that the first step of a fixed run is
evaluated before the rest. -/
theorem run_cons_match (state : State) (event : Event) (events : List Event) :
    run step state (event :: events) =
      match step state event with
      | some next => run step next events
      | none => none := by
  rw [run_cons]
  cases step state event <;> rfl

/-- A run of a concatenation is a run of its second part from where the first
part ended. -/
theorem run_append (state : State) (first second : List Event) :
    run step state (first ++ second) =
      (run step state first).bind fun middle => run step middle second := by
  induction first generalizing state with
  | nil => simp
  | cons event events inductionHypothesis =>
      rw [List.cons_append, run_cons, run_cons]
      cases step state event with
      | none => rfl
      | some next => exact inductionHypothesis next

/-- A run that ends with one more event passes the state before it. -/
theorem run_concat_eq_some
    {state final : State} {events : List Event} {event : Event} :
    run step state (events ++ [event]) = some final ↔
      ∃ middle, run step state events = some middle ∧
        step middle event = some final := by
  rw [run_append, Option.bind_eq_some_iff]
  simp

/-- The invariant rule: what holds before the first event and is preserved by
every step that is taken after some history holds after every run.  The
invariant may speak of the events that have happened. -/
theorem run_invariant
    {start final : State} {events : List Event}
    {invariant : List Event → State → Prop}
    (initially : invariant [] start)
    (preserved : ∀ history state event next,
      run step start history = some state →
      invariant history state →
      step state event = some next →
      invariant (history ++ [event]) next)
    (reached : run step start events = some final) :
    invariant events final := by
  induction events using List.reverseRecOn generalizing final with
  | nil =>
      cases reached
      exact initially
  | append_singleton history event inductionHypothesis =>
      obtain ⟨middle, before, last⟩ := run_concat_eq_some.mp reached
      exact preserved history middle event final before
        (inductionHypothesis before) last

/-- The states in which the events happen, up to an event that is not enabled. -/
def passed (step : State → Event → Option State) (state : State) :
    List Event → List State
  | [] => []
  | event :: events =>
      match step state event with
      | some next => state :: passed step next events
      | none => []

@[simp] theorem passed_nil (state : State) : passed step state [] = [] := rfl

theorem passed_cons_of_eq_some
    {state next : State} {event : Event} (stepped : step state event = some next)
    (events : List Event) :
    passed step state (event :: events) = state :: passed step next events := by
  rw [passed, stepped]

theorem passed_of_stuck
    {state : State} (stuck : ∀ event, step state event = none) (events : List Event) :
    passed step state events = [] := by
  cases events with
  | nil => rfl
  | cons event events => rw [passed, stuck event]

/-- Every step of a run meets a condition on the state before it. -/
def Along
    (step : State → Event → Option State)
    (condition : State → Event → Prop)
    (start : State) (events : List Event) : Prop :=
  ∀ history event state, history ++ [event] <+: events →
    run step start history = some state → condition state event

theorem along_nil
    {condition : State → Event → Prop} (start : State) :
    Along step condition start [] := by
  intro history event state isPrefix
  simp at isPrefix

/-- A run meets a condition if its first step and the rest of it do. -/
theorem along_cons
    {condition : State → Event → Prop}
    {start : State} {event : Event} {events : List Event} :
    Along step condition start (event :: events) ↔
      condition start event ∧
        ∀ next, step start event = some next → Along step condition next events := by
  constructor
  · intro along
    refine ⟨along [] event start (by simp) rfl, ?_⟩
    intro next stepped history later state isPrefix reached
    refine along (event :: history) later state (by simpa using isPrefix) ?_
    rw [run_cons, stepped]
    exact reached
  · rintro ⟨first, rest⟩ history later state isPrefix reached
    cases history with
    | nil =>
        cases reached
        rw [List.nil_append, List.cons_prefix_cons] at isPrefix
        rw [isPrefix.1]
        exact first
    | cons other history =>
        rw [List.cons_append, List.cons_prefix_cons] at isPrefix
        obtain ⟨rfl, isPrefix⟩ := isPrefix
        rw [run_cons, Option.bind_eq_some_iff] at reached
        obtain ⟨next, stepped, reached⟩ := reached
        exact rest next stepped history later state isPrefix reached

/-- Whether every step of a run meets a condition can be computed. -/
instance decidableAlong
    {condition : State → Event → Prop}
    [∀ state event, Decidable (condition state event)] :
    ∀ start events, Decidable (Along step condition start events)
  | start, [] => isTrue (along_nil start)
  | start, event :: events =>
      match stepped : step start event with
      | none =>
          decidable_of_iff (condition start event) (by simp [along_cons, stepped])
      | some next =>
          have : Decidable (Along step condition next events) :=
            decidableAlong next events
          decidable_of_iff (condition start event ∧ Along step condition next events)
            (by simp [along_cons, stepped])

/-- The invariant rule for runs whose steps all meet a condition. -/
theorem run_invariant_along
    {start final : State} {events : List Event}
    {condition : State → Event → Prop}
    {invariant : State → Prop}
    (initially : invariant start)
    (preserved : ∀ state event next, invariant state → condition state event →
      step state event = some next → invariant next)
    (along : Along step condition start events)
    (reached : run step start events = some final) :
    invariant final := by
  have holds : events <+: events → invariant final :=
    @run_invariant State Event step start final events
      (fun history state => history <+: events → invariant state)
      (fun _ => initially)
      (fun history state event next before invariant stepped isPrefix =>
        preserved state event next
          (invariant ((List.prefix_append history [event]).trans isPrefix))
          (along history event state isPrefix before) stepped)
      reached
  exact holds (List.prefix_refl events)

/-- Where two conditions agree on the steps that are taken, a run meets both or none.
They need to agree only while the second one has been met. -/
theorem along_congr
    {condition other : State → Event → Prop} {invariant : State → Prop}
    {start final : State} {events : List Event}
    (initially : invariant start)
    (preserved : ∀ state event next, invariant state → other state event →
      step state event = some next → invariant next)
    (same : ∀ state event next, invariant state → step state event = some next →
      (condition state event ↔ other state event))
    (reached : run step start events = some final) :
    Along step condition start events ↔ Along step other start events := by
  induction events generalizing start with
  | nil => exact iff_of_true (along_nil _) (along_nil _)
  | cons event events inductionHypothesis =>
      rw [run_cons, Option.bind_eq_some_iff] at reached
      obtain ⟨next, stepped, reached⟩ := reached
      rw [along_cons, along_cons, same start event next initially stepped]
      apply and_congr_right
      intro here
      have rest := inductionHypothesis (preserved start event next initially here stepped)
        reached
      rw [stepped]
      simpa using rest

/-- Where two conditions agree on all events, enabled or not, every list of events meets
both or none. -/
theorem along_congr_of_forall
    {condition other : State → Event → Prop} {invariant : State → Prop}
    {start : State} {events : List Event}
    (initially : invariant start)
    (preserved : ∀ state event next, invariant state → other state event →
      step state event = some next → invariant next)
    (same : ∀ state event, invariant state → (condition state event ↔ other state event)) :
    Along step condition start events ↔ Along step other start events := by
  induction events generalizing start with
  | nil => exact iff_of_true (along_nil _) (along_nil _)
  | cons event events inductionHypothesis =>
      rw [along_cons, along_cons, same start event initially]
      apply and_congr_right
      intro here
      apply forall_congr'
      intro next
      apply forall_congr'
      intro stepped
      exact inductionHypothesis (preserved start event next initially here stepped)

/-- Every prefix of a run is a run. -/
theorem run_prefix
    {start final : State} {events history : List Event}
    (before : history <+: events)
    (reached : run step start events = some final) :
    ∃ middle, run step start history = some middle := by
  obtain ⟨rest, rfl⟩ := before
  rw [run_append, Option.bind_eq_some_iff] at reached
  obtain ⟨middle, passed, _rest⟩ := reached
  exact ⟨middle, passed⟩

/-- Of every list of events, a first part is a run that the next event cannot extend. -/
theorem exists_longest_run (start : State) (events : List Event) :
    ∃ used rest final, events = used ++ rest ∧
      run step start used = some final ∧
      ∀ event others, rest = event :: others → step final event = none := by
  induction events generalizing start with
  | nil => exact ⟨[], [], start, rfl, rfl, by simp⟩
  | cons event events inductionHypothesis =>
      cases stepped : step start event with
      | none =>
          refine ⟨[], event :: events, start, rfl, rfl, ?_⟩
          rintro other others ⟨⟩
          exact stepped
      | some next =>
          obtain ⟨used, rest, final, rfl, reached, stuck⟩ := inductionHypothesis next
          refine ⟨event :: used, rest, final, rfl, ?_, stuck⟩
          rw [run_cons, stepped]
          exact reached

/-- What the events of a run cost in total. -/
def cost (step : State → Event → Option State) (price : State → Event → Nat) (state : State) :
    List Event → Nat
  | [] => 0
  | event :: events =>
      price state event + (step state event).elim 0 fun next => cost step price next events

/-- One more event adds its price in the state that the run has reached. -/
theorem cost_concat
    {price : State → Event → Nat} {start middle : State} {history : List Event}
    (reached : run step start history = some middle) (event : Event) :
    cost step price start (history ++ [event]) =
      cost step price start history + price middle event := by
  induction history generalizing start with
  | nil =>
      cases reached
      rw [List.nil_append, cost, cost, Nat.zero_add]
      cases step middle event with
      | none => rfl
      | some next => rfl
  | cons first history inductionHypothesis =>
      rw [run_cons, Option.bind_eq_some_iff] at reached
      obtain ⟨next, stepped, reached⟩ := reached
      rw [List.cons_append, cost, cost, stepped, Option.elim_some, Option.elim_some,
        inductionHypothesis reached, Nat.add_assoc]

/-! ## Histories -/

/-- Every event of a log meets a condition on what has happened before it. -/
def AtEach (condition : List Event → Event → Prop) (log : List Event) : Prop :=
  ∀ history event, history ++ [event] <+: log → condition history event

theorem atEach_nil (condition : List Event → Event → Prop) :
    AtEach condition [] := by
  intro history event isPrefix
  simp at isPrefix

/-- A longer log adds the condition of its last event. -/
theorem atEach_concat
    {condition : List Event → Event → Prop} {log : List Event} {event : Event} :
    AtEach condition (log ++ [event]) ↔ AtEach condition log ∧ condition log event := by
  constructor
  · intro each
    refine ⟨?_, each log event (List.prefix_refl _)⟩
    exact fun history other isPrefix =>
      each history other (isPrefix.trans (List.prefix_append log [event]))
  · rintro ⟨each, last⟩ history other isPrefix
    rcases List.prefix_concat_iff.mp isPrefix with whole | part
    · obtain ⟨rfl, same⟩ := List.append_inj' whole rfl
      cases same
      exact last
    · exact each history other part

theorem atEach_iff_getElem
    {condition : List Event → Event → Prop} {log : List Event} :
    AtEach condition log ↔
      ∀ position, (inside : position < log.length) →
        condition (log.take position) log[position] := by
  constructor
  · intro each position inside
    apply each
    rw [List.take_append_getElem]
    exact List.take_prefix _ _
  · rintro each history event ⟨rest, rfl⟩
    have here := each history.length (by simp)
    simpa using here

/-- Whether every event of a log meets a condition can be computed. -/
instance decidableAtEach
    {condition : List Event → Event → Prop}
    [∀ history event, Decidable (condition history event)]
    (log : List Event) : Decidable (AtEach condition log) :=
  decidable_of_iff _ atEach_iff_getElem.symm

end Machine
