import Mathlib.Data.Nat.Basic

/-!
# Decimal numbers

Numbers are written with the characters of their decimal digits, the most
significant one first.
-/

namespace Decimal

/-- The character of a digit. -/
def digit (value : Nat) : UInt8 := UInt8.ofNat (48 + value)

/-- The character is a digit. -/
def IsDigit (character : UInt8) : Prop := 48 ≤ character ∧ character ≤ 57

instance (character : UInt8) : Decidable (IsDigit character) :=
  inferInstanceAs (Decidable (_ ∧ _))

/-- The digits of a number. -/
def encode (value : Nat) : List UInt8 :=
  if value < 10 then [digit value]
  else encode (value / 10) ++ [digit (value % 10)]

/-- The number that some digits spell. -/
def decode (digits : List UInt8) : Nat :=
  digits.foldl (fun value character => 10 * value + (character.toNat - 48)) 0

theorem toNat_digit (small : value < 10) : (digit value).toNat = 48 + value := by
  rw [digit, UInt8.toNat_ofNat']
  omega

theorem isDigit_digit (small : value < 10) : IsDigit (digit value) := by
  rw [IsDigit, UInt8.le_iff_toNat_le, UInt8.le_iff_toNat_le, toNat_digit small]
  constructor
  · exact Nat.le_add_right 48 value
  · exact Nat.add_le_add_left (Nat.le_of_lt_succ small) 48

theorem decode_concat (digits : List UInt8) (character : UInt8) :
    decode (digits ++ [character]) = 10 * decode digits + (character.toNat - 48) := by
  rw [decode, List.foldl_append]
  rfl

theorem encode_ne_nil (value : Nat) : encode value ≠ [] := by
  rw [encode]
  split <;> simp

/-- A number is written with digits only. -/
theorem isDigit_of_mem_encode
    (value : Nat) :
    ∀ character ∈ encode value, IsDigit character := by
  induction value using Nat.strong_induction_on with
  | _ value inductionHypothesis =>
      rw [encode]
      by_cases small : value < 10
      · rw [if_pos small]
        simpa using isDigit_digit small
      · rw [if_neg small]
        intro character member
        obtain higher | lowest := List.mem_append.mp member
        · exact inductionHypothesis (value / 10) (by omega) character higher
        · rw [List.mem_singleton.mp lowest]
          exact isDigit_digit (Nat.mod_lt value (by decide))

/-- Decoding recovers the number. -/
theorem decode_encode (value : Nat) : decode (encode value) = value := by
  induction value using Nat.strong_induction_on with
  | _ value inductionHypothesis =>
      rw [encode]
      by_cases small : value < 10
      · rw [if_pos small]
        change 10 * 0 + ((digit value).toNat - 48) = value
        rw [toNat_digit small]
        omega
      · rw [if_neg small, decode_concat, inductionHypothesis (value / 10) (by omega),
          toNat_digit (Nat.mod_lt value (by decide))]
        omega

end Decimal
