import NetworkTiming.PcapWrapper.PcapLoopCallback

/-!
# Differences of capture times

The borrow arithmetic of `timevalDeltaToNs` computes the difference in nanoseconds
modulo `2 ^ 64`, and refuses times that are in the wrong order.
-/

namespace NetworkTiming

namespace Timeval

/-- Nanoseconds since the epoch.  With nanosecond precision, the device stores
nanoseconds in `tv_usec`. -/
def toNs (tstampPrecision : Int) (time : Timeval) : Int :=
  time.tvSec.toInt * 1000000000 +
    time.tvUsec.toInt *
      if tstampPrecision = PCAP_TSTAMP_PRECISION_NANO then 1 else 1000

/-- The time is the same or earlier. -/
def NotAfter (early late : Timeval) : Prop :=
  early.tvSec < late.tvSec ∨
    early.tvSec = late.tvSec ∧ early.tvUsec ≤ late.tvUsec

instance (early late : Timeval) : Decidable (early.NotAfter late) :=
  inferInstanceAs (Decidable (_ ∨ _))

end Timeval

/-- Reading a signed number as a residue. -/
theorem ofInt_toInt (value : Int64) : UInt64.ofInt value.toInt = value.toUInt64 := by
  have same : value.toInt = value.toBitVec.toInt := rfl
  have residue : value.toUInt64.toNat = value.toBitVec.toNat := rfl
  apply UInt64.toNat_inj.mp
  rw [UInt64.ofInt, UInt64.toNat_ofNat', residue, same, BitVec.toInt_eq_toNat_bmod,
    show (2 : Int) ^ 64 = ((2 ^ 64 : Nat) : Int) from rfl, Int.bmod_emod]
  have bound := value.toBitVec.isLt
  omega

theorem ofInt_sub (minuend subtrahend : Int) :
    UInt64.ofInt (minuend - subtrahend) =
      UInt64.ofInt minuend - UInt64.ofInt subtrahend := by
  rw [Int.sub_eq_add_neg, UInt64.ofInt_add, UInt64.ofInt_neg, UInt64.sub_eq_add_neg]

/-- Factor from the unit of the fraction to nanoseconds. -/
def scale (tstampPrecision : Int) : UInt64 :=
  if tstampPrecision = PCAP_TSTAMP_PRECISION_NANO then 1 else 1000

/-- Units of the fraction in a second. -/
def unitsPerSecond (tstampPrecision : Int) : UInt64 :=
  if tstampPrecision = PCAP_TSTAMP_PRECISION_NANO then 1000000000 else 1000000

theorem unitsPerSecond_mul_scale (tstampPrecision : Int) :
    unitsPerSecond tstampPrecision * scale tstampPrecision = 1000000000 := by
  unfold unitsPerSecond scale
  split <;> rfl

/-- The difference in nanoseconds, as a residue. -/
theorem ofInt_toNs_sub (tstampPrecision : Int) (early late : Timeval) :
    UInt64.ofInt (late.toNs tstampPrecision - early.toNs tstampPrecision) =
      (late.tvSec - early.tvSec).toUInt64 * 1000000000 +
        (late.tvUsec.toUInt64 - early.tvUsec.toUInt64) * scale tstampPrecision := by
  have factor : UInt64.ofInt
      (if tstampPrecision = PCAP_TSTAMP_PRECISION_NANO then 1 else 1000) =
        scale tstampPrecision := by
    unfold scale
    split <;> rfl
  have second : UInt64.ofInt 1000000000 = 1000000000 := rfl
  rw [ofInt_sub, Timeval.toNs, Timeval.toNs, UInt64.ofInt_add, UInt64.ofInt_add,
    UInt64.ofInt_mul, UInt64.ofInt_mul, UInt64.ofInt_mul, UInt64.ofInt_mul, factor,
    second, ofInt_toInt, ofInt_toInt, ofInt_toInt, ofInt_toInt, Int64.toUInt64_sub]
  grind

/-- A borrowed second does not change the sum. -/
theorem borrow_second
    {unit factor : UInt64}
    (second : unit * factor = 1000000000)
    (seconds late early : UInt64) :
    (seconds - 1) * 1000000000 + (late + unit - early) * factor =
      seconds * 1000000000 + (late - early) * factor := by
  grind

/-- The tests that `timevalDeltaToNs` makes on the order of the times. -/
theorem Timeval.notAfter_iff (early late : Timeval) :
    early.NotAfter late ↔
      ¬late.tvSec < early.tvSec ∧
        (late.tvUsec < early.tvUsec → (late.tvSec - early.tvSec).toUInt64 ≠ 0) := by
  have sameSecond : (late.tvSec - early.tvSec).toUInt64 = 0 ↔
      late.tvSec = early.tvSec := by
    rw [← Int64.toBitVec_inj, ← UInt64.toBitVec_inj]
    exact BitVec.sub_eq_iff_eq_add.trans (by simp)
  rw [NotAfter, Ne, sameSecond]
  simp only [Int64.lt_iff_toInt_lt, Int64.le_iff_toInt_le, ← Int64.toInt_inj]
  omega

/-- The branches of `timevalDeltaToNs` for a known precision. -/
theorem timevalDeltaToNs_branches
    (known : tstampPrecision = PCAP_TSTAMP_PRECISION_MICRO ∨
      tstampPrecision = PCAP_TSTAMP_PRECISION_NANO)
    (early late : Timeval) :
    timevalDeltaToNs tstampPrecision early late =
      if late.tvSec < early.tvSec then .error .terminate
      else if late.tvUsec < early.tvUsec then
        if (late.tvSec - early.tvSec).toUInt64 = 0 then .error .terminate
        else .ok (((late.tvSec - early.tvSec).toUInt64 - 1) * 1000000000 +
          (late.tvUsec.toUInt64 + unitsPerSecond tstampPrecision -
            early.tvUsec.toUInt64) * scale tstampPrecision)
      else .ok ((late.tvSec - early.tvSec).toUInt64 * 1000000000 +
        (late.tvUsec.toUInt64 - early.tvUsec.toUInt64) * scale tstampPrecision) := by
  by_cases disordered : late.tvSec < early.tvSec
  · rw [if_pos disordered, timevalDeltaToNs]
    rcases known with rfl | rfl <;> simp only [disordered] <;> rfl
  rw [if_neg disordered]
  by_cases borrow : late.tvUsec < early.tvUsec
  · rw [if_pos borrow]
    by_cases together : (late.tvSec - early.tvSec).toUInt64 = 0
    · rw [if_pos together, timevalDeltaToNs]
      rcases known with rfl | rfl <;>
        simp only [disordered, borrow, together] <;> rfl
    · rw [if_neg together, timevalDeltaToNs]
      rcases known with rfl | rfl
      · simp only [disordered, borrow, together]
        rfl
      · rw [show scale PCAP_TSTAMP_PRECISION_NANO = 1 from rfl, UInt64.mul_one]
        simp only [disordered, borrow, together]
        rfl
  · rw [if_neg borrow, ← UInt64.add_zero late.tvUsec.toUInt64, timevalDeltaToNs]
    rcases known with rfl | rfl
    · simp only [disordered, borrow]
      rfl
    · rw [show scale PCAP_TSTAMP_PRECISION_NANO = 1 from rfl, UInt64.mul_one]
      simp only [disordered, borrow]
      rfl

/-- The result of `timevalDeltaToNs` for a known precision. -/
theorem timevalDeltaToNs_eq
    (known : tstampPrecision = PCAP_TSTAMP_PRECISION_MICRO ∨
      tstampPrecision = PCAP_TSTAMP_PRECISION_NANO)
    (early late : Timeval) :
    timevalDeltaToNs tstampPrecision early late =
      if early.NotAfter late then
        .ok (UInt64.ofInt
          (late.toNs tstampPrecision - early.toNs tstampPrecision))
      else .error .terminate := by
  rw [ofInt_toNs_sub, timevalDeltaToNs_branches known,
    borrow_second (unitsPerSecond_mul_scale tstampPrecision)]
  by_cases ordered : early.NotAfter late
  · obtain ⟨seconds, fraction⟩ := (Timeval.notAfter_iff early late).mp ordered
    rw [if_pos ordered, if_neg seconds]
    split
    next borrow => rw [if_neg (fraction borrow)]
    next => rfl
  · rw [if_neg ordered]
    split
    next => rfl
    next seconds =>
      split
      next borrow =>
        split
        next => rfl
        next apart =>
          exact absurd ((Timeval.notAfter_iff early late).mpr ⟨seconds, fun _ => apart⟩)
            ordered
      next inOrder =>
        exact absurd ((Timeval.notAfter_iff early late).mpr
          ⟨seconds, fun borrow => absurd borrow inOrder⟩) ordered

end NetworkTiming
