import NetworkTiming.PacketParser.Ipv6

/-!
# The walk along the extension headers ends

Every byte array may be given to the IPv6 parser.  The walk takes at least eight bytes
of the announced payload with each header that it passes, and keeps the sum of its
position and of what is left: it ends, inside what the header announces, which lies
inside the packet.
-/

namespace NetworkTiming

open Traced

/-- The faults that leave the buffer alone. -/
def InBounds (fault : Fault) : Prop :=
  ∀ offset, fault ≠ .outOfBounds offset

/-- Bytes are read in front of an end, and no difference wraps. -/
def Within (finish : Nat) : Access → Prop
  | .read offset => offset < finish
  | .difference minuend subtrahend => subtrahend ≤ minuend

theorem length_emit_le (access : Access) : (emit access : Decode Unit).events.length ≤ 1 := by
  simp

theorem length_subtractSize_le (minuend subtrahend : Nat) :
    (subtractSize minuend subtrahend).events.length ≤ 1 := by
  apply length_events_bind_le (length_emit_le _) le_rfl
  simp

theorem length_readU8_le (memory : List UInt8) (offset : Nat) :
    (readU8 memory offset).events.length ≤ 1 := by
  apply length_events_bind_le (length_emit_le _) le_rfl
  intro _ _
  split <;> simp

theorem length_readU16_le (memory : List UInt8) (offset : Nat) :
    (readU16 memory offset).events.length ≤ 2 := by
  apply length_events_bind_le (length_readU8_le memory offset) (by omega)
  intro first _
  apply length_events_bind_le (length_readU8_le memory (offset + 1)) le_rfl
  simp

theorem length_readU32_le (memory : List UInt8) (offset : Nat) :
    (readU32 memory offset).events.length ≤ 4 := by
  apply length_events_bind_le (length_readU8_le memory offset) (by omega)
  intro first _
  apply length_events_bind_le (length_readU8_le memory (offset + 1)) (by omega)
  intro second _
  apply length_events_bind_le (length_readU8_le memory (offset + 2)) (by omega)
  intro third _
  apply length_events_bind_le (length_readU8_le memory (offset + 3)) le_rfl
  simp

theorem length_readBytes_le (memory : List UInt8) (offset count : Nat) :
    (readBytes memory offset count).events.length ≤ count := by
  induction count generalizing offset with
  | zero => exact le_rfl
  | succ count inductionHypothesis =>
      apply length_events_bind_le (length_readU8_le memory offset) (by omega)
      intro byte _
      apply length_events_bind_le (inductionHypothesis (offset + 1)) le_rfl
      simp

section Reads

variable {finish : Nat} {faults : Fault → Prop} {memory : List UInt8}

theorem readU8_within
    {returns : UInt8 → Prop}
    (inside : finish ≤ memory.length)
    (fits : offset < finish)
    (holds : returns (byteAt memory offset)) :
    Ensures (Within finish) faults returns (readU8 memory offset) := by
  rw [readU8, ensures_bind, ensures_emit, getElem?_eq_byteAt (by omega)]
  exact ⟨fits, (ensures_pure _).mpr holds⟩

theorem readU16_within
    {returns : UInt16 → Prop}
    (inside : finish ≤ memory.length)
    (fits : offset + 1 < finish)
    (holds : returns (hostU16 (byteAt memory offset) (byteAt memory (offset + 1)))) :
    Ensures (Within finish) faults returns (readU16 memory offset) := by
  rw [readU16, ensures_bind]
  apply readU8_within inside (by omega)
  rw [ensures_bind]
  apply readU8_within inside fits
  exact (ensures_pure _).mpr holds

theorem readU32_within
    {returns : UInt32 → Prop}
    (inside : finish ≤ memory.length)
    (fits : offset + 3 < finish)
    (holds : ∀ value, returns value) :
    Ensures (Within finish) faults returns (readU32 memory offset) := by
  rw [readU32, ensures_bind]
  apply readU8_within inside (by omega)
  rw [ensures_bind]
  apply readU8_within inside (by omega)
  rw [ensures_bind]
  apply readU8_within inside (by omega)
  rw [ensures_bind]
  apply readU8_within inside fits
  exact (ensures_pure _).mpr (holds _)

theorem readBytes_within
    {returns : List UInt8 → Prop}
    (inside : finish ≤ memory.length)
    (fits : offset + count ≤ finish)
    (holds : ∀ bytes, returns bytes) :
    Ensures (Within finish) faults returns (readBytes memory offset count) := by
  induction count generalizing offset returns with
  | zero => exact (ensures_pure _).mpr (holds _)
  | succ count inductionHypothesis =>
      rw [readBytes, ensures_bind]
      apply readU8_within inside (by omega)
      rw [ensures_bind]
      apply inductionHypothesis (by omega)
      intro bytes
      exact (ensures_pure _).mpr (holds _)

end Reads

namespace Ipv6Parser

/-- The walk reads in front of the end of the payload, and follows the chain. -/
theorem skipExtensions_within
    (inside : finish ≤ memory.length)
    (ends : offset + remaining = finish) :
    Ensures (Within finish) InBounds
      (fun walked =>
        ExtensionChain memory header offset remaining walked.1 walked.2.1 walked.2.2)
      (skipExtensions memory header offset remaining) := by
  induction remaining using Nat.strong_induction_on generalizing header offset with
  | _ remaining inductionHypothesis =>
      rw [skipExtensions, ensures_bind, isExtensionHeader]
      cases listed : headerKind header with
      | none => simp [InBounds]
      | some kind =>
          rw [ensures_pure, ensures_ite]
          split
          case isFalse other => exact (ensures_pure _).mpr (.stop listed (by simpa using other))
          case isTrue extending =>
              have extension : kind = .extensionHeader := by simpa using extending
              subst extension
              rw [ensures_ite]
              split
              case isTrue => simp [InBounds]
              case isFalse enough =>
                  rw [ensures_bind]
                  apply readU8_within inside (by omega)
                  rw [ensures_bind]
                  apply readU8_within inside (by omega)
                  rw [ensures_ite]
                  split
                  case isTrue => simp [InBounds]
                  case isFalse fits =>
                      rw [Nat.not_lt] at enough fits
                      rw [ensures_bind, ensures_emit, sizeDifference_of_le fits]
                      refine ⟨fits, ?_⟩
                      have shrinks : remaining - extensionLength memory offset < remaining := by
                        rw [extensionLength]
                        omega
                      have stays : offset + extensionLength memory offset +
                          (remaining - extensionLength memory offset) = finish := by
                        rw [extensionLength]
                        omega
                      exact (inductionHypothesis _ shrinks stays).imp
                        fun walked chain => .extension listed enough fits chain

/-- Each header that the walk passes takes eight bytes of the payload and three
accesses. -/
theorem length_skipExtensions_le (memory : List UInt8) (header : UInt8) (offset remaining : Nat) :
    (skipExtensions memory header offset remaining).events.length ≤ 3 * (remaining / 8) := by
  induction remaining using Nat.strong_induction_on generalizing header offset with
  | _ remaining inductionHypothesis =>
      have looked : (isExtensionHeader header).events.length ≤ 0 := by
        unfold isExtensionHeader
        split <;> simp
      rw [skipExtensions]
      apply length_events_bind_le looked (Nat.zero_le _)
      intro extension _
      split
      case isFalse => simp
      case isTrue =>
          split
          case isTrue => simp
          case isFalse enough =>
              apply length_events_bind_le (length_readU8_le memory offset) (by omega)
              intro next _
              apply length_events_bind_le (length_readU8_le memory (offset + 1)) (by omega)
              intro hdrLen _
              split
              case isTrue => simp
              case isFalse fits =>
                  apply length_events_bind_le (length_emit_le _) (by omega)
                  intro _ _
                  rw [sizeDifference_of_le (by omega)]
                  apply le_trans (inductionHypothesis _ (by omega) _ _)
                  omega

/-- The chain that the header begins announces no further header, and there is no payload,
or the payload is what the chain leaves of the announced size. -/
def PayloadInside (memory : List UInt8) (parser : Ipv6Parser) : Prop :=
  ∃ last start size,
    ExtensionChain memory (byteAt memory 6) mainHeaderSize (payloadLength memory 0)
      last start size ∧
    parser.nextHdr = last ∧
    ((last = NextHeaderType.ipv6Nonxt ∧ parser.payload = none ∧ parser.payloadSize = 0) ∨
      (last ≠ NextHeaderType.ipv6Nonxt ∧
        parser.payload = some start ∧ parser.payloadSize = size ∧
        mainHeaderSize ≤ start ∧
        start + size = mainHeaderSize + payloadLength memory 0 ∧
        mainHeaderSize + payloadLength memory 0 ≤ memory.length))

/-- Parsing a packet ends, within what its header announces and within the packet. -/
structure ParsesInside (memory : List UInt8) (parse : Decode Ipv6Parser) : Prop where
  /-- Bytes that are read are announced by the header and stand in the packet. -/
  reads : ∀ offset, .read offset ∈ parse.events →
    offset < mainHeaderSize + payloadLength memory 0 ∧ offset < memory.length
  /-- No size becomes negative. -/
  ordered : ∀ minuend subtrahend, .difference minuend subtrahend ∈ parse.events →
    subtrahend ≤ minuend
  /-- The header costs 41 accesses, and every eight bytes behind it three. -/
  ends : parse.events.length ≤ 41 + 3 * (payloadLength memory 0 / 8)
  /-- No pointer leaves the packet. -/
  inBounds : ∀ fault, parse.result = .error fault → InBounds fault
  /-- What is returned delimits the payload. -/
  payload : ∀ parser, parse.result = .ok parser → PayloadInside memory parser

/-- The fixed header is read in front of the walk. -/
theorem parseHeader_within (inetNtop : InetNtop) (memory : List UInt8) :
    Ensures (Within (min (mainHeaderSize + payloadLength memory 0) memory.length)) InBounds
      (PayloadInside memory) (parseHeader inetNtop memory 0 memory.length) := by
  have inside := Nat.min_le_right (mainHeaderSize + payloadLength memory 0) memory.length
  rw [parseHeader, ensures_ite]
  split
  case isTrue => simp [InBounds]
  case isFalse long =>
      have main : mainHeaderSize = 40 := rfl
      have announced : wordAt memory (0 + 4) = payloadLength memory 0 := rfl
      rw [ensures_bind]
      apply readU32_within inside (by omega)
      intro verTrafclFlow
      rw [ensures_ite]
      split
      case isTrue => simp [InBounds]
      case isFalse =>
          rw [ensures_bind]
          apply readU16_within inside (by omega)
          rw [ensures_bind, Strict.subtractSize_iff, ensures_ite, toNat_ntohs_loaded,
            sizeDifference_of_le (by omega), announced]
          apply And.intro (main ▸ Nat.le_of_not_lt long)
          split
          case isTrue => simp [InBounds]
          case isFalse fits =>
              have finish : min (mainHeaderSize + payloadLength memory 0) memory.length =
                  mainHeaderSize + payloadLength memory 0 := by omega
              rw [finish] at inside ⊢
              rw [ensures_bind]
              apply readU8_within inside (by omega)
              rw [ensures_bind]
              apply readBytes_within inside (by omega)
              intro src
              split
              case h_1 => simp [InBounds]
              case h_2 addrSrc _ =>
                  rw [ensures_bind]
                  apply readBytes_within inside (by omega)
                  intro dst
                  split
                  case h_1 => simp [InBounds]
                  case h_2 addrDst _ =>
                      rw [ensures_bind]
                      apply readU8_within inside (by omega)
                      rw [ensures_bind]
                      apply (skipExtensions_within inside (by omega)).imp
                      intro walked chain
                      rw [Nat.zero_add] at chain
                      rw [ensures_pure]
                      refine ⟨walked.1, walked.2.1, walked.2.2, chain, rfl, ?_⟩
                      by_cases empty : walked.1 = NextHeaderType.ipv6Nonxt
                      · exact Or.inl ⟨empty, if_pos empty, if_pos empty⟩
                      · exact Or.inr ⟨empty, if_neg empty, if_neg empty, chain.offset_le,
                          chain.end_eq, inside⟩

/-- The announced size of the payload bounds what parsing costs. -/
theorem length_parseHeader_le (inetNtop : InetNtop) (memory : List UInt8) :
    (parseHeader inetNtop memory 0 memory.length).events.length ≤
      41 + 3 * (payloadLength memory 0 / 8) := by
  rw [parseHeader]
  split
  case isTrue => simp
  case isFalse long =>
      have main : mainHeaderSize = 40 := rfl
      apply length_events_bind_le (length_readU32_le memory 0) (by omega)
      intro verTrafclFlow _
      dsimp only
      split
      case isTrue => simp
      case isFalse =>
          apply length_events_bind_le (length_readU16_le memory (0 + 4)) (by omega)
          intro payloadLen loaded
          have announced : (ntohs payloadLen).toNat = payloadLength memory 0 := by
            have fits : 0 + 4 + 1 < memory.length := by omega
            have read : Ensures (Within memory.length) InBounds
                (fun word => (ntohs word).toNat = wordAt memory (0 + 4))
                (readU16 memory (0 + 4)) :=
              readU16_within le_rfl fits (toNat_ntohs_loaded memory (0 + 4))
            exact read.value payloadLen loaded
          rw [announced]
          apply length_events_bind_le (length_subtractSize_le memory.length 40) (by omega)
          intro available _
          split
          case isTrue => simp
          case isFalse fits =>
              apply length_events_bind_le (length_readU8_le memory (0 + 7)) (by omega)
              intro hopLimit _
              apply length_events_bind_le (length_readBytes_le memory (0 + 8) 16) (by omega)
              intro src _
              split
              case h_1 => simp
              case h_2 =>
                  apply length_events_bind_le (length_readBytes_le memory (0 + 24) 16) (by omega)
                  intro dst _
                  split
                  case h_1 => simp
                  case h_2 =>
                      apply length_events_bind_le (length_readU8_le memory (0 + 6)) (by omega)
                      intro first _
                      have walk := length_skipExtensions_le memory first (0 + mainHeaderSize)
                        (payloadLength memory 0)
                      apply length_events_bind_le walk (by omega)
                      simp

/-- For every byte array the parser ends, without leaving the packet or what the header
announces. -/
theorem parseHeader_parsesInside (inetNtop : InetNtop) (memory : List UInt8) :
    ParsesInside memory (parseHeader inetNtop memory 0 memory.length) := by
  have within := parseHeader_within inetNtop memory
  refine ⟨?_, ?_, length_parseHeader_le inetNtop memory, within.fault, within.value⟩
  · intro offset logged
    exact lt_min_iff.mp (within.event _ logged)
  · intro minuend subtrahend logged
    exact within.event _ logged

end Ipv6Parser

end NetworkTiming
