import Mathlib.Algebra.BigOperators.Intervals
import NetworkTiming.PcapWrapper.Timing

/-!
# The overhead of a time source

`Benchmark::overhead` reads a clock twice in each round.  The counter of its loop is an
`int`, and the number of rounds has 64 bits: beyond the largest `int` the counter
overflows, which the language leaves undefined.
-/

namespace NetworkTiming

/-- The largest value of type `int`. -/
def INT_MAX : Int := 2 ^ 31 - 1

/-- A `Benchmark` that has been constructed. -/
structure Benchmark where
  iterations : UInt64
  admitted : iterations ≠ 0

namespace Benchmark

/-- `Benchmark::Benchmark`. -/
def create (iterations : UInt64) : Except Fault Benchmark :=
  if admitted : iterations ≠ 0 then .ok ⟨iterations, admitted⟩
  else .error .terminate

/-- How many rounds have been made, and the sum of what they took. -/
structure Totals where
  rounds : Nat
  result : UInt64
  deriving DecidableEq, Repr

/-- The loop of `overhead`, on what the clock shows time after time; `none` if the counter
overflows. -/
def loop (source : Nat → UInt64) (iterations : UInt64) (i : Int) (totals : Totals) :
    Option Totals :=
  -- the counter is converted to the type of `iterations`
  if UInt64.ofInt i < iterations then
    let time := source (2 * totals.rounds)
    let time := source (2 * totals.rounds + 1) - time
    if i < INT_MAX then
      loop source iterations (i + 1) ⟨totals.rounds + 1, totals.result + time⟩
    else none
  else some totals
termination_by (INT_MAX - i).toNat

/-- `Benchmark::overhead`, with the number of its rounds. -/
def overhead (benchmark : Benchmark) (source : Nat → UInt64) : Option Totals :=
  (loop source benchmark.iterations 0 ⟨0, 0⟩).map fun totals =>
    { totals with result := totals.result / benchmark.iterations }

/-- The sum of what some rounds take, by the clock. -/
def elapsed (source : Nat → UInt64) (rounds : Nat) : Int :=
  ∑ round ∈ Finset.range rounds,
    ((source (2 * round + 1)).toNat - (source (2 * round)).toNat : Int)

/-- The loop ends after as many rounds as have been asked for, and the result is what they
have taken modulo `2 ^ 64`, divided by their number. -/
def Measures (benchmark : Benchmark) (source : Nat → UInt64) : Prop :=
  ∃ totals, benchmark.overhead source = some totals ∧
    totals.rounds = benchmark.iterations.toNat ∧
    totals.result.toNat =
      (elapsed source benchmark.iterations.toNat % 2 ^ 64).toNat /
        benchmark.iterations.toNat

variable {source : Nat → UInt64} {iterations : UInt64}

/-- What the loop has reached after some rounds. -/
def after (source : Nat → UInt64) (rounds : Nat) : Totals :=
  ⟨rounds, UInt64.ofInt (elapsed source rounds)⟩

theorem ofInt_toNat (value : UInt64) : UInt64.ofInt value.toNat = value := by
  apply UInt64.toNat_inj.mp
  rw [UInt64.ofInt, UInt64.toNat_ofNat']
  have bound := value.toNat_lt
  omega

theorem after_succ (source : Nat → UInt64) (rounds : Nat) :
    after source (rounds + 1) =
      ⟨rounds + 1, (after source rounds).result +
        (source (2 * rounds + 1) - source (2 * rounds))⟩ := by
  rw [after, elapsed, Finset.sum_range_succ, UInt64.ofInt_add, ofInt_sub, ofInt_toNat,
    ofInt_toNat]
  rfl

/-- The comparison of the counter, in a round that the counter has reached. -/
theorem ofInt_lt_iff {rounds : Nat} (counts : (rounds : Int) ≤ INT_MAX) :
    UInt64.ofInt rounds < iterations ↔ rounds < iterations.toNat := by
  rw [INT_MAX] at counts
  rw [UInt64.lt_iff_toNat_lt, UInt64.ofInt, UInt64.toNat_ofNat']
  omega

/-- A round, if the counter can count it. -/
theorem loop_of_lt
    {rounds : Nat} (more : rounds < iterations.toNat) (counts : (rounds : Int) < INT_MAX) :
    loop source iterations rounds (after source rounds) =
      loop source iterations (rounds + 1 : Nat) (after source (rounds + 1)) := by
  rw [loop, if_pos ((ofInt_lt_iff counts.le).mpr more), after_succ]
  exact if_pos counts

/-- The loop ends with the last round, if the counter can count all of them. -/
theorem loop_eq_some
    (counts : (iterations.toNat : Int) ≤ INT_MAX)
    {rounds : Nat} (reached : rounds ≤ iterations.toNat) :
    loop source iterations rounds (after source rounds) =
      some (after source iterations.toNat) := by
  induction reached using Nat.decreasingInduction with
  | self =>
      rw [loop, if_neg]
      rw [ofInt_lt_iff counts]
      exact lt_irrefl _
  | of_succ rounds more inductionHypothesis =>
      rw [loop_of_lt more (by omega)]
      exact inductionHypothesis

/-- The counter overflows, if there are more rounds than it can count. -/
theorem loop_eq_none
    (many : INT_MAX < iterations.toNat)
    {rounds : Nat} (reached : rounds ≤ INT_MAX.toNat) :
    loop source iterations rounds (after source rounds) = none := by
  have last : (INT_MAX.toNat : Int) = INT_MAX := rfl
  induction reached using Nat.decreasingInduction with
  | self =>
      rw [loop, if_pos ((ofInt_lt_iff last.le).mpr (by omega))]
      exact if_neg last.not_lt
  | of_succ rounds more inductionHypothesis =>
      rw [loop_of_lt (by omega) (by omega)]
      exact inductionHypothesis

theorem overhead_eq_none
    {benchmark : Benchmark} (many : INT_MAX < benchmark.iterations.toNat) :
    benchmark.overhead source = none := by
  rw [overhead]
  exact congrArg _ (loop_eq_none many (Nat.zero_le _))

/-- The overhead is measured exactly if the counter of the loop can count its rounds. -/
theorem measures_iff (benchmark : Benchmark) (source : Nat → UInt64) :
    benchmark.Measures source ↔ benchmark.iterations.toNat ≤ INT_MAX := by
  constructor
  · rintro ⟨totals, returned, _⟩
    by_contra many
    rw [overhead_eq_none (not_le.mp many)] at returned
    cases returned
  · intro counts
    have looped : loop source benchmark.iterations 0 ⟨0, 0⟩ =
        some (after source benchmark.iterations.toNat) :=
      loop_eq_some counts (Nat.zero_le _)
    refine ⟨_, congrArg _ looped, rfl, ?_⟩
    change (UInt64.ofInt _ / benchmark.iterations).toNat = _
    rw [UInt64.toNat_div, UInt64.ofInt, UInt64.toNat_ofNat']
    congr 1
    omega

/-- One round more than an `int` can count. -/
theorem not_measures_of_overflow :
    ¬∀ (benchmark : Benchmark) (source : Nat → UInt64), benchmark.Measures source := by
  intro measures
  obtain ⟨totals, returned, _⟩ := measures ⟨2147483648, by decide⟩ fun _ => 0
  rw [overhead_eq_none (by decide)] at returned
  cases returned

end Benchmark

end NetworkTiming
