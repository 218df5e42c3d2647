import Mathlib.Tactic.Ring
import NetworkTiming.Library.Traced

/-!
# Buffers, faults and host integers

A packet is read through a pointer into a buffer.  Pointers are offsets into the
buffer, every byte read is logged, and reading past the buffer is a fault of its
own.  Sizes have the width of `size_t` on a 64-bit host; a difference of two
sizes is logged together with its operands, since it wraps when the second
operand is the larger one.
-/

namespace NetworkTiming

/-- Ways in which a call of the program does not return. -/
inductive Fault
  /-- `std::invalid_argument`. -/
  | invalidArgument (what : String)
  /-- `std::runtime_error`. -/
  | runtimeError (what : String)
  /-- `std::out_of_range`, raised by `std::map::at`. -/
  | outOfRange
  /-- A `throw` without an active exception, which calls `std::terminate`. -/
  | terminate
  /-- An access outside of the buffer that a pointer points into. -/
  | outOfBounds (offset : Nat)
  deriving DecidableEq, Repr

/-- What a decoding step does that its result does not show. -/
inductive Access
  /-- One byte of the buffer is read. -/
  | read (offset : Nat)
  /-- A `size_t` difference is computed. -/
  | difference (minuend subtrahend : Nat)
  deriving DecidableEq, Repr

/-- Computations that read a packet buffer. -/
abbrev Decode (α : Type) := Traced Access Fault α

open Traced

/-! ## Host integers -/

/-- Difference of two values of type `size_t`. -/
def sizeDifference (minuend subtrahend : Nat) : Nat :=
  if subtrahend ≤ minuend then minuend - subtrahend
  else 2 ^ 64 - (subtrahend - minuend)

theorem sizeDifference_of_le
    (ordered : subtrahend ≤ minuend) :
    sizeDifference minuend subtrahend = minuend - subtrahend :=
  if_pos ordered

/-- A wrapped difference of two small sizes is close to the largest size. -/
theorem le_sizeDifference_of_lt
    (unordered : minuend < subtrahend)
    (small : subtrahend ≤ bound) :
    2 ^ 64 - bound ≤ sizeDifference minuend subtrahend := by
  rw [sizeDifference, if_neg (by omega)]
  omega

/-- Value of two adjacent bytes loaded by a little-endian host. -/
def hostU16 (first second : UInt8) : UInt16 :=
  UInt16.ofNat (first.toNat + 256 * second.toNat)

/-- Value of four adjacent bytes loaded by a little-endian host. -/
def hostU32 (first second third fourth : UInt8) : UInt32 :=
  UInt32.ofNat (first.toNat + 256 * second.toNat +
    65536 * third.toNat + 16777216 * fourth.toNat)

/-- `ntohs` on a little-endian host swaps the two bytes. -/
def ntohs (value : UInt16) : UInt16 :=
  UInt16.ofNat (256 * (value.toNat % 256) + value.toNat / 256)

/-- `ntohl` on a little-endian host reverses the four bytes. -/
def ntohl (value : UInt32) : UInt32 :=
  UInt32.ofNat (16777216 * (value.toNat % 256) +
    65536 * (value.toNat / 256 % 256) +
    256 * (value.toNat / 65536 % 256) + value.toNat / 16777216)

/-- `ntohs` reads two adjacent bytes as a big-endian number. -/
@[simp] theorem toNat_ntohs_hostU16 (first second : UInt8) :
    (ntohs (hostU16 first second)).toNat =
      256 * first.toNat + second.toNat := by
  have firstBound := first.toNat_lt
  have secondBound := second.toNat_lt
  have loaded : (first.toNat + 256 * second.toNat) % 2 ^ 16 =
      first.toNat + 256 * second.toNat := by omega
  have low : (first.toNat + 256 * second.toNat) % 256 = first.toNat := by omega
  have high : (first.toNat + 256 * second.toNat) / 256 = second.toNat := by omega
  rw [ntohs, hostU16, UInt16.toNat_ofNat', UInt16.toNat_ofNat', loaded, low, high]
  omega

/-- The high half of a byte. -/
@[simp] theorem toNat_shiftRight_four (byte : UInt8) :
    (byte >>> 4).toNat = byte.toNat / 16 := by
  simp [UInt8.toNat_shiftRight, Nat.shiftRight_eq_div_pow]

/-- The low half of a byte. -/
@[simp] theorem toNat_and_low_half (byte : UInt8) :
    (byte &&& 0x0f).toNat = byte.toNat % 16 := by
  rw [UInt8.toNat_and]
  exact Nat.and_two_pow_sub_one_eq_mod byte.toNat 4

/-- Masking the low half away does not change the high half. -/
@[simp] theorem toNat_and_high_half_shiftRight (byte : UInt8) :
    ((byte &&& 0xf0) >>> 4).toNat = byte.toNat / 16 := by
  have byteBound := byte.toNat_lt
  have low := Nat.and_two_pow_sub_one_eq_mod (byte.toNat / 16) 4
  rw [UInt8.toNat_shiftRight, UInt8.toNat_and]
  change (byte.toNat &&& 240) >>> 4 = byte.toNat / 16
  rw [Nat.shiftRight_and_distrib, Nat.shiftRight_eq_div_pow]
  change byte.toNat / 16 &&& 2 ^ 4 - 1 = byte.toNat / 16
  rw [low]
  omega

/-- The low byte of a loaded word is its first byte in memory. -/
@[simp] theorem toNat_hostU32_and_low_byte
    (first second third fourth : UInt8) :
    ((hostU32 first second third fourth &&& 0xff) >>> 4).toNat =
      first.toNat / 16 := by
  have firstBound := first.toNat_lt
  have low : (hostU32 first second third fourth &&& 0xff).toNat =
      first.toNat := by
    rw [UInt32.toNat_and]
    have mask := Nat.and_two_pow_sub_one_eq_mod
      (hostU32 first second third fourth).toNat 8
    simp only [Nat.reducePow, Nat.add_one_sub_one] at mask
    rw [show (0xff : UInt32).toNat = 255 from rfl, mask]
    simp only [hostU32, UInt32.toNat_ofNat']
    omega
  simp [UInt32.toNat_shiftRight, Nat.shiftRight_eq_div_pow, low]

/-! ## Reading a buffer -/

/-- Read the byte that a pointer points to. -/
def readU8 (memory : List UInt8) (offset : Nat) : Decode UInt8 := do
  emit (.read offset)
  match memory[offset]? with
  | some byte => pure byte
  | none => fail (.outOfBounds offset)

/-- Load a `uint16_t`. -/
def readU16 (memory : List UInt8) (offset : Nat) : Decode UInt16 := do
  let first ← readU8 memory offset
  let second ← readU8 memory (offset + 1)
  pure (hostU16 first second)

/-- Load a `uint32_t`. -/
def readU32 (memory : List UInt8) (offset : Nat) : Decode UInt32 := do
  let first ← readU8 memory offset
  let second ← readU8 memory (offset + 1)
  let third ← readU8 memory (offset + 2)
  let fourth ← readU8 memory (offset + 3)
  pure (hostU32 first second third fourth)

/-- Read adjacent bytes in increasing order, as `memcpy` does. -/
def readBytes (memory : List UInt8) : (offset count : Nat) → Decode (List UInt8)
  | _, 0 => pure []
  | offset, count + 1 => do
      let byte ← readU8 memory offset
      let rest ← readBytes memory (offset + 1) count
      pure (byte :: rest)

/-- Log a difference of sizes and compute it. -/
def subtractSize (minuend subtrahend : Nat) : Decode Nat := do
  emit (.difference minuend subtrahend)
  pure (sizeDifference minuend subtrahend)

/-! ## Fields of a buffer -/

/-- A byte of the buffer; zero past its end. -/
def byteAt (memory : List UInt8) (offset : Nat) : UInt8 :=
  memory.getD offset 0

/-- Two bytes of the buffer as a big-endian number. -/
def wordAt (memory : List UInt8) (offset : Nat) : Nat :=
  256 * (byteAt memory offset).toNat + (byteAt memory (offset + 1)).toNat

/-- Some bytes of the buffer. -/
def bytesAt (memory : List UInt8) (offset count : Nat) : List UInt8 :=
  (memory.drop offset).take count

theorem wordAt_lt (memory : List UInt8) (offset : Nat) : wordAt memory offset < 65536 := by
  have first := (byteAt memory offset).toNat_lt
  have second := (byteAt memory (offset + 1)).toNat_lt
  unfold wordAt
  omega

theorem getElem?_eq_byteAt
    (inside : offset < memory.length) :
    memory[offset]? = some (byteAt memory offset) := by
  simp [byteAt, inside]

theorem bytesAt_succ
    (inside : offset < memory.length) :
    bytesAt memory offset (count + 1) =
      byteAt memory offset :: bytesAt memory (offset + 1) count := by
  rw [bytesAt, List.drop_eq_getElem_cons inside, List.take_succ_cons]
  simp [bytesAt, byteAt, inside]

/-! ## What reading ensures -/

/-- A pair of postconditions under which a read has to stay inside the buffer:
inside, the read is permitted; outside, it or the fault that follows is not. -/
structure Strict
    (memory : List UInt8)
    (permitted : Access → Prop)
    (faults : Fault → Prop) : Prop where
  /-- Reads inside the buffer are permitted. -/
  inside : ∀ offset, offset < memory.length → permitted (.read offset)
  /-- Reads outside of the buffer do not pass. -/
  outside : ∀ offset, memory.length ≤ offset → permitted (.read offset) →
    ¬faults (.outOfBounds offset)
  /-- Differences that do not wrap are permitted. -/
  ordered : ∀ minuend subtrahend, subtrahend ≤ minuend →
    permitted (.difference minuend subtrahend)

namespace Strict

variable {memory : List UInt8} {permitted : Access → Prop} {faults : Fault → Prop}

theorem readU8_iff
    (strict : Strict memory permitted faults)
    {returns : UInt8 → Prop} :
    Ensures permitted faults returns (readU8 memory offset) ↔
      offset < memory.length ∧ returns (byteAt memory offset) := by
  unfold readU8
  rw [ensures_bind, ensures_emit]
  by_cases inside : offset < memory.length
  · rw [getElem?_eq_byteAt inside]
    simp [inside, strict.inside offset inside]
  · have past : memory.length ≤ offset := by omega
    simp only [List.getElem?_eq_none past, ensures_fail, inside, false_and,
      iff_false, not_and]
    exact strict.outside offset past

theorem readU16_iff
    (strict : Strict memory permitted faults)
    {returns : UInt16 → Prop} :
    Ensures permitted faults returns (readU16 memory offset) ↔
      offset + 1 < memory.length ∧
        returns (hostU16 (byteAt memory offset) (byteAt memory (offset + 1))) := by
  simp only [readU16, ensures_bind, ensures_pure, strict.readU8_iff]
  constructor
  · rintro ⟨_, inside, holds⟩
    exact ⟨inside, holds⟩
  · rintro ⟨inside, holds⟩
    exact ⟨by omega, inside, holds⟩

theorem readU32_iff
    (strict : Strict memory permitted faults)
    {returns : UInt32 → Prop} :
    Ensures permitted faults returns (readU32 memory offset) ↔
      offset + 3 < memory.length ∧
        returns (hostU32 (byteAt memory offset) (byteAt memory (offset + 1))
          (byteAt memory (offset + 2)) (byteAt memory (offset + 3))) := by
  simp only [readU32, ensures_bind, ensures_pure, strict.readU8_iff]
  constructor
  · rintro ⟨_, _, _, inside, holds⟩
    exact ⟨inside, holds⟩
  · rintro ⟨inside, holds⟩
    exact ⟨by omega, by omega, by omega, inside, holds⟩

theorem readBytes_iff
    (strict : Strict memory permitted faults)
    {returns : List UInt8 → Prop} :
    Ensures permitted faults returns (readBytes memory offset count) ↔
      (count = 0 ∨ offset + count ≤ memory.length) ∧
        returns (bytesAt memory offset count) := by
  induction count generalizing offset returns with
  | zero => simp [readBytes, bytesAt]
  | succ count inductionHypothesis =>
      simp only [readBytes, ensures_bind, ensures_pure, strict.readU8_iff,
        inductionHypothesis]
      constructor
      · rintro ⟨inside, range, holds⟩
        refine ⟨by omega, ?_⟩
        rw [bytesAt_succ inside]
        exact holds
      · rintro ⟨range, holds⟩
        have inside : offset < memory.length := by omega
        refine ⟨inside, by omega, ?_⟩
        rw [bytesAt_succ inside] at holds
        exact holds

theorem subtractSize_iff
    {returns : Nat → Prop} :
    Ensures permitted faults returns (subtractSize minuend subtrahend) ↔
      permitted (.difference minuend subtrahend) ∧
        returns (sizeDifference minuend subtrahend) := by
  simp [subtractSize]

end Strict

/-- Bytes that have been read stand in the buffer. -/
theorem bytesAt_of_readBytes
    (bytesRead : (readBytes memory offset count).result = .ok bytes) :
    (count = 0 ∨ offset + count ≤ memory.length) ∧
      bytes = bytesAt memory offset count := by
  have strict : Strict memory (fun _ => True) fun fault => ∀ past, fault ≠ .outOfBounds past :=
    ⟨fun _ _ => trivial, fun offset _ _ inside => inside offset rfl, fun _ _ _ => trivial⟩
  exact strict.readBytes_iff.mp ((ensures_result_iff _).mpr (Or.inl ⟨bytes, bytesRead, rfl⟩))

end NetworkTiming
