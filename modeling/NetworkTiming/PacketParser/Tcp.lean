import NetworkTiming.PacketParser.Basic

/-!
# The TCP parser

The data offset of the header is taken from the packet and is not compared with
the size that the layer below has handed up.
-/

namespace NetworkTiming

open Traced

/-- The fields of a `TcpParser` object after `parseHeader`. -/
structure TcpParser where
  packet : Nat
  packetSize : Nat
  payload : Nat
  payloadSize : Nat
  sport : UInt16
  dport : UInt16
  seq : UInt32
  ack : UInt32
  headerLength : Nat

namespace TcpParser

/-- `MIN_HEADER_LENGTH`. -/
def minHeaderLength : Nat := 20

/-- `TcpParser::parseHeader`. -/
def parseHeader
    (memory : List UInt8)
    (packet size : Nat) : Decode TcpParser :=
  if size < minHeaderLength then
    fail (.invalidArgument "TCP header must be at least 20 bytes")
  else do
    let sport ← readU16 memory packet
    let dport ← readU16 memory (packet + 2)
    let seq ← readU32 memory (packet + 4)
    let ack ← readU32 memory (packet + 8)
    let offx2 ← readU8 memory (packet + 12)
    let headerLength := ((offx2 &&& 0xf0) >>> 4).toNat * 4
    let payloadSize ← subtractSize size headerLength
    pure {
      packet := packet
      packetSize := size
      payload := packet + headerLength
      payloadSize := payloadSize
      sport := ntohs sport
      dport := ntohs dport
      seq := ntohl seq
      ack := ntohl ack
      headerLength := headerLength }

/-- `TcpParser::decodeUntil`. -/
def decodeUntil
    (layer : Layer)
    (memory : List UInt8)
    (packet size : Nat)
    (artefacts : Artefacts) : Decode Decoded :=
  if layer ≠ .tcp then
    fail .terminate
  else do
    let parser ← parseHeader memory packet size
    pure {
      payload := some parser.payload
      payloadSize := parser.payloadSize
      artefacts := { artefacts with
        payloadType := .tcp
        srcPort := parser.sport
        dstPort := parser.dport } }

/-- Header length announced by the data offset field. -/
def dataOffset (memory : List UInt8) (packet : Nat) : Nat :=
  (byteAt memory (packet + 12)).toNat / 16 * 4

theorem dataOffset_le (memory : List UInt8) (packet : Nat) :
    dataOffset memory packet ≤ 60 := by
  have bound := (byteAt memory (packet + 12)).toNat_lt
  unfold dataOffset
  omega

/-- What `decodeUntil` reports when it returns. -/
def decoded
    (memory : List UInt8)
    (packet size : Nat)
    (artefacts : Artefacts) : Decoded where
  payload := some (packet + dataOffset memory packet)
  payloadSize := sizeDifference size (dataOffset memory packet)
  artefacts := { artefacts with
    payloadType := .tcp
    srcPort := portAt memory packet
    dstPort := portAt memory (packet + 2) }

/-- Postconditions of the TCP layer. -/
theorem decodeUntil_iff
    {permitted : Access → Prop} {faults : Fault → Prop}
    {undecodable abrupt : Prop}
    (policy : Policy memory permitted faults undecodable abrupt)
    (packet size : Nat)
    {returns : Decoded → Prop} :
    Ensures permitted faults returns
        (decodeUntil layer memory packet size artefacts) ↔
      if layer ≠ .tcp then abrupt
      else if size < 20 then undecodable
      else packet + 12 < memory.length ∧
        permitted (.difference size (dataOffset memory packet)) ∧
        returns (decoded memory packet size artefacts) := by
  by_cases other : layer ≠ .tcp
  · simp [decodeUntil, other, policy.terminate]
  rw [decodeUntil, if_neg other, if_neg other]
  unfold parseHeader minHeaderLength
  by_cases short : size < 20
  · simp [short, policy.invalidArgument]
  · simp only [short, if_false, ensures_bind, ensures_pure,
      policy.readU8_iff, policy.readU16_iff, policy.readU32_iff,
      Strict.subtractSize_iff, toNat_and_high_half_shiftRight]
    constructor
    · rintro ⟨_, _, _, _, inside, ordered, holds⟩
      exact ⟨inside, ordered, holds⟩
    · rintro ⟨inside, ordered, holds⟩
      exact ⟨by omega, by omega, by omega, by omega, inside, ordered, holds⟩

end TcpParser
end NetworkTiming
