import Mathlib.Data.Nat.Basic
import Mathlib.Tactic.Ring

/-!
# Big-endian numbers

Numbers are written to the wire with their most significant byte first.
-/

namespace BigEndian

/-- The lowest `width` bytes of a number, most significant byte first. -/
def encode : (width value : Nat) → List UInt8
  | 0, _ => []
  | width + 1, value => UInt8.ofNat (value / 256 ^ width) :: encode width value

/-- The number that some bytes spell. -/
def decode : List UInt8 → Nat
  | [] => 0
  | byte :: bytes => byte.toNat * 256 ^ bytes.length + decode bytes

@[simp] theorem length_encode (width value : Nat) :
    (encode width value).length = width := by
  induction width with
  | zero => rfl
  | succ width inductionHypothesis => simp [encode, inductionHypothesis]

/-- Decoding recovers the encoded bytes of the number. -/
theorem decode_encode (width value : Nat) :
    decode (encode width value) = value % 256 ^ width := by
  induction width with
  | zero => simp [encode, decode, Nat.mod_one]
  | succ width inductionHypothesis =>
      have split : value % 256 ^ (width + 1) =
          value % 256 ^ width + 256 ^ width * (value / 256 ^ width % 256) := by
        rw [pow_succ, Nat.mod_mul]
      rw [encode, decode, length_encode, inductionHypothesis,
        UInt8.toNat_ofNat', split]
      ring

/-- A number that fits is recovered. -/
theorem decode_encode_of_lt
    (fits : value < 256 ^ width) :
    decode (encode width value) = value := by
  rw [decode_encode, Nat.mod_eq_of_lt fits]

/-! ## Sequences of words -/

/-- Numbers one after another. -/
def encodeAll (width : Nat) (values : List Nat) : List UInt8 :=
  values.flatMap (encode width)

@[simp] theorem encodeAll_nil (width : Nat) : encodeAll width [] = [] := rfl

@[simp] theorem encodeAll_cons (width value : Nat) (values : List Nat) :
    encodeAll width (value :: values) = encode width value ++ encodeAll width values :=
  List.flatMap_cons

@[simp] theorem encodeAll_append (width : Nat) (first second : List Nat) :
    encodeAll width (first ++ second) = encodeAll width first ++ encodeAll width second :=
  List.flatMap_append

@[simp] theorem length_encodeAll (width : Nat) (values : List Nat) :
    (encodeAll width values).length = width * values.length := by
  induction values with
  | nil => rfl
  | cons value values inductionHypothesis =>
      rw [encodeAll_cons, List.length_append, length_encode, inductionHypothesis,
        List.length_cons]
      ring

/-- A word of a sequence is the encoding of its number. -/
theorem word_encodeAll
    (width : Nat) (values : List Nat) (position : Nat)
    (inside : position < values.length) :
    ((encodeAll width values).drop (width * position)).take width =
      encode width values[position] := by
  induction values generalizing position with
  | nil => cases inside
  | cons value values inductionHypothesis =>
      rw [encodeAll_cons]
      cases position with
      | zero => simp
      | succ position =>
          have skip : width * (position + 1) =
              (encode width value).length + width * position := by
            rw [length_encode]
            ring
          rw [skip, List.drop_length_add_append]
          simpa using inductionHypothesis position (by simpa using inside)

/-- As far as a stream has been received, its complete words decode to the numbers
that were sent. -/
theorem decode_word_of_stream
    {width : Nat} {values : List Nat} {received pending : List UInt8} {position : Nat}
    (fits : ∀ value ∈ values, value < 256 ^ width)
    (stream : encodeAll width values = received ++ pending)
    (inside : position < values.length)
    (complete : width * (position + 1) ≤ received.length) :
    decode ((received.drop (width * position)).take width) = values[position] := by
  have word : (received.drop (width * position)).take width =
      encode width values[position] := by
    have enough : width ≤ (received.drop (width * position)).length := by
      rw [List.length_drop]
      rw [Nat.mul_succ] at complete
      omega
    rw [← word_encodeAll width values position inside, stream,
      List.drop_append_of_le_length (by rw [Nat.mul_succ] at complete; omega),
      List.take_append_of_le_length enough]
  rw [word, decode_encode_of_lt (fits _ (List.getElem_mem inside))]

end BigEndian
