import NetworkTiming.Library.Machine

/-!
# The potential method

What a run costs is bounded where every step is paid for: by a loss of potential, or by
an income that comes with the step.
-/

namespace Machine

variable {State Event : Type} {step : State → Event → Option State}
  {price income : State → Event → Nat} {potential : State → Nat}

/-- The first event of a run is paid in the state where the run starts. -/
theorem cost_cons_of_eq_some
    {state next : State} {event : Event} (stepped : step state event = some next)
    (events : List Event) :
    cost step price state (event :: events) =
      price state event + cost step price next events := by
  rw [cost, stepped, Option.elim_some]

/-- Prices that are a multiple of others. -/
theorem cost_mul (factor : Nat) (state : State) (events : List Event) :
    cost step (fun state event => factor * price state event) state events =
      factor * cost step price state events := by
  induction events generalizing state with
  | nil => rfl
  | cons event events inductionHypothesis =>
      rw [cost, cost, Nat.mul_add]
      cases step state event with
      | none => rfl
      | some next => exact congrArg (_ + ·) (inductionHypothesis next)

/-- Where every step is paid by the loss of potential and the income that it brings, a
whole run is. -/
theorem cost_add_potential_le
    {condition : State → Event → Prop} {invariant : State → Prop}
    {start final : State} {events : List Event}
    (initially : invariant start)
    (preserved : ∀ state event next, invariant state → condition state event →
      step state event = some next → invariant next)
    (paid : ∀ state event next, invariant state → condition state event →
      step state event = some next →
      price state event + potential next ≤ potential state + income state event)
    (along : Along step condition start events)
    (reached : run step start events = some final) :
    cost step price start events + potential final ≤
      potential start + cost step income start events := by
  induction events generalizing start with
  | nil =>
      cases reached
      exact Nat.le_of_eq (Nat.add_comm _ _)
  | cons event events inductionHypothesis =>
      rw [run_cons, Option.bind_eq_some_iff] at reached
      obtain ⟨next, stepped, reached⟩ := reached
      rw [along_cons] at along
      obtain ⟨here, later⟩ := along
      have first := paid start event next initially here stepped
      have rest := inductionHypothesis (preserved start event next initially here stepped)
        (later next stepped) reached
      rw [cost_cons_of_eq_some stepped, cost_cons_of_eq_some stepped]
      omega

/-- A run without income costs no more than the potential that it starts with. -/
theorem cost_le_potential
    {condition : State → Event → Prop} {invariant : State → Prop}
    {start final : State} {events : List Event}
    (initially : invariant start)
    (preserved : ∀ state event next, invariant state → condition state event →
      step state event = some next → invariant next)
    (paid : ∀ state event next, invariant state → condition state event →
      step state event = some next → price state event + potential next ≤ potential state)
    (along : Along step condition start events)
    (reached : run step start events = some final) :
    cost step price start events ≤ potential start := by
  have bound := @cost_add_potential_le State Event step price
    (fun state event => 0 * price state event) potential condition invariant start final
    events initially preserved
    (fun state event next holds here stepped => by
      rw [Nat.zero_mul]
      exact paid state event next holds here stepped)
    along reached
  rw [cost_mul] at bound
  omega

end Machine
