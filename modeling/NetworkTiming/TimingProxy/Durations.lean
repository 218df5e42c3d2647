import NetworkTiming.TimingProxy.Sessions

/-!
# Durations

Each technique has its own clock and its own way of subtracting two of its times.
On instants with a proper fraction of a second, all of them compute the exact
duration, as far as a `uint64_t` can hold it.
-/

namespace NetworkTiming

/-- `unix_time`, for what the clock reports. -/
def unixTime (ts : Timespec) : UInt64 :=
  ts.tvSec.toUInt64 * 1000000000 + ts.tvNsec.toUInt64

/-- A time since the epoch: whole seconds, and a fraction that is below a second. -/
structure Instant (unitsPerSecond : Nat) where
  seconds : Int64
  fraction : Int64
  seconds_nonneg : 0 ≤ seconds
  fraction_nonneg : 0 ≤ fraction
  fraction_lt : fraction.toInt < unitsPerSecond

namespace Instant

variable {unitsPerSecond : Nat}

/-- Units of the fraction since the epoch. -/
def units (instant : Instant unitsPerSecond) : Int :=
  instant.seconds.toInt * unitsPerSecond + instant.fraction.toInt

/-- The instant as the kernel reports it. -/
def timespec (instant : Instant unitsPerSecond) : Timespec :=
  ⟨instant.seconds, instant.fraction⟩

/-- The instant as the capture device reports it. -/
def timeval (instant : Instant unitsPerSecond) : Timeval :=
  ⟨instant.seconds, instant.fraction⟩

/-- A later second outweighs every fraction. -/
theorem units_lt_of_seconds_lt
    {early late : Instant unitsPerSecond}
    (later : early.seconds.toInt < late.seconds.toInt) :
    early.units < late.units := by
  have below := early.fraction_lt
  have nonneg : 0 ≤ late.fraction.toInt := Int64.le_iff_toInt_le.mp late.fraction_nonneg
  have second : (early.seconds.toInt + 1) * unitsPerSecond ≤
      late.seconds.toInt * unitsPerSecond :=
    Int.mul_le_mul_of_nonneg_right later (Int.natCast_nonneg _)
  rw [Int.add_mul, Int.one_mul] at second
  unfold units
  omega

/-- Comparing seconds and then fractions is comparing instants. -/
theorem le_iff (early late : Instant unitsPerSecond) :
    (early.seconds < late.seconds ∨
      early.seconds = late.seconds ∧ early.fraction ≤ late.fraction) ↔
      early.units ≤ late.units := by
  rw [Int64.lt_iff_toInt_lt, Int64.le_iff_toInt_le, ← Int64.toInt_inj]
  rcases Int.lt_trichotomy early.seconds.toInt late.seconds.toInt with
    before | together | behind
  · have := units_lt_of_seconds_lt before
    omega
  · unfold units
    rw [together]
    omega
  · have := units_lt_of_seconds_lt behind
    omega

theorem notAfter_timespec (early late : Instant unitsPerSecond) :
    early.timespec.NotAfter late.timespec ↔ ¬late.units < early.units :=
  (le_iff early late).trans Int.not_lt.symm

theorem notAfter_timeval (early late : Instant unitsPerSecond) :
    early.timeval.NotAfter late.timeval ↔ ¬late.units < early.units :=
  (le_iff early late).trans Int.not_lt.symm

@[simp] theorem toNs_timespec (instant : Instant 1000000000) :
    instant.timespec.toNs = instant.units := rfl

@[simp] theorem toNs_timeval_nano (instant : Instant 1000000000) :
    instant.timeval.toNs PCAP_TSTAMP_PRECISION_NANO = instant.units :=
  congrArg (instant.seconds.toInt * 1000000000 + ·) (Int.mul_one _)

@[simp] theorem toNs_timeval_micro (instant : Instant 1000000) :
    instant.timeval.toNs PCAP_TSTAMP_PRECISION_MICRO = 1000 * instant.units := by
  change instant.seconds.toInt * 1000000000 + instant.fraction.toInt * 1000 =
    1000 * (instant.seconds.toInt * 1000000 + instant.fraction.toInt)
  omega

/-- The clock reading of an instant, as a residue. -/
theorem unixTime_timespec (instant : Instant 1000000000) :
    unixTime instant.timespec = UInt64.ofInt instant.units := by
  have second : UInt64.ofInt ((1000000000 : Nat) : Int) = 1000000000 := rfl
  rw [units, UInt64.ofInt_add, UInt64.ofInt_mul, second, ofInt_toInt, ofInt_toInt]
  rfl

end Instant

/-- All techniques compute the exact duration in nanoseconds, modulo `2 ^ 64`, and
those that can tell a disordered pair of times refuse exactly these. -/
theorem durations_eq :
    (∀ early late : Instant 1000000000,
      timevalDeltaToNs PCAP_TSTAMP_PRECISION_NANO early.timeval late.timeval =
        (if late.units < early.units then .error .terminate
          else .ok (UInt64.ofInt (late.units - early.units))) ∧
      timespecDiff late.timespec early.timespec =
        (if late.units < early.units then .error .terminate
          else .ok (UInt64.ofInt (late.units - early.units))) ∧
      ∀ tstampPrecision,
        KindOfSocket.difference tstampPrecision .cpu
            (unixTime early.timespec) (unixTime late.timespec) =
          .ok (UInt64.ofInt (late.units - early.units))) ∧
    ∀ early late : Instant 1000000,
      timevalDeltaToNs PCAP_TSTAMP_PRECISION_MICRO early.timeval late.timeval =
        if late.units < early.units then .error .terminate
        else .ok (UInt64.ofInt (1000 * (late.units - early.units))) := by
  refine ⟨fun early late => ⟨?_, ?_, fun tstampPrecision => ?_⟩, fun early late => ?_⟩
  · rw [timevalDeltaToNs_eq (Or.inr rfl), Instant.toNs_timeval_nano,
      Instant.toNs_timeval_nano]
    simp only [Instant.notAfter_timeval, ite_not]
  · rw [timespecDiff_eq, Instant.toNs_timespec, Instant.toNs_timespec]
    simp only [Instant.notAfter_timespec, ite_not]
  · rw [KindOfSocket.difference, Instant.unixTime_timespec, Instant.unixTime_timespec,
      ← ofInt_sub]
  · rw [timevalDeltaToNs_eq (Or.inl rfl), Instant.toNs_timeval_micro,
      Instant.toNs_timeval_micro, ← Int.mul_sub]
    simp only [Instant.notAfter_timeval, ite_not]

end NetworkTiming
