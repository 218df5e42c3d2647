import NetworkTiming.PacketParser.Basic

/-!
# The UDP parser

The length field of the header is compared with the size that the layer below
has handed up, but the payload is measured by that size alone.
-/

namespace NetworkTiming

open Traced

/-- The fields of a `UdpParser` object after `parseHeader`. -/
structure UdpParser where
  packet : Nat
  packetSize : Nat
  payload : Nat
  payloadSize : Nat
  sport : UInt16
  dport : UInt16
  checksum : UInt16

namespace UdpParser

/-- `HEADER_LEN`. -/
def headerLen : Nat := 8

/-- `UdpParser::parseHeader`. -/
def parseHeader
    (memory : List UInt8)
    (packet size : Nat) : Decode UdpParser :=
  if size < headerLen then
    fail (.invalidArgument "UDP header must be at least 8 bytes")
  else do
    let sport ← readU16 memory packet
    let dport ← readU16 memory (packet + 2)
    let checksum ← readU16 memory (packet + 6)
    let length ← readU16 memory (packet + 4)
    if size < (ntohs length).toNat then
      fail (.invalidArgument
        "UDP size field cannot contain bigger size than packet itself")
    else do
      let payloadSize ← subtractSize size headerLen
      pure {
        packet := packet
        packetSize := size
        payload := packet + headerLen
        payloadSize := payloadSize
        sport := ntohs sport
        dport := ntohs dport
        checksum := ntohs checksum }

/-- `UdpParser::decodeUntil`. -/
def decodeUntil
    (layer : Layer)
    (memory : List UInt8)
    (packet size : Nat)
    (artefacts : Artefacts) : Decode Decoded :=
  if layer ≠ .udp then
    fail .terminate
  else do
    let parser ← parseHeader memory packet size
    pure {
      payload := some parser.payload
      payloadSize := parser.payloadSize
      artefacts := { artefacts with
        payloadType := .udp
        srcPort := parser.sport
        dstPort := parser.dport } }

/-- What `decodeUntil` reports when it returns. -/
def decoded
    (memory : List UInt8)
    (packet size : Nat)
    (artefacts : Artefacts) : Decoded where
  payload := some (packet + 8)
  payloadSize := size - 8
  artefacts := { artefacts with
    payloadType := .udp
    srcPort := portAt memory packet
    dstPort := portAt memory (packet + 2) }

/-- Postconditions of the UDP layer. -/
theorem decodeUntil_iff
    {permitted : Access → Prop} {faults : Fault → Prop}
    {undecodable abrupt : Prop}
    (policy : Policy memory permitted faults undecodable abrupt)
    (packet size : Nat)
    {returns : Decoded → Prop} :
    Ensures permitted faults returns
        (decodeUntil layer memory packet size artefacts) ↔
      if layer ≠ .udp then abrupt
      else if size < 8 then undecodable
      else packet + 7 < memory.length ∧
        if size < wordAt memory (packet + 4) then undecodable
        else returns (decoded memory packet size artefacts) := by
  by_cases other : layer ≠ .udp
  · simp [decodeUntil, other, policy.terminate]
  rw [decodeUntil, if_neg other, if_neg other]
  unfold parseHeader headerLen
  by_cases short : size < 8
  · simp [short, policy.invalidArgument]
  · have ordered : permitted (.difference size 8) :=
      policy.ordered size 8 (by omega)
    have exact_size := sizeDifference_of_le (show 8 ≤ size by omega)
    simp only [short, if_false, ensures_bind, ensures_pure,
      ensures_ite, ensures_fail, policy.readU16_iff, policy.invalidArgument,
      Strict.subtractSize_iff, toNat_ntohs_loaded, ordered, true_and, exact_size]
    constructor
    · rintro ⟨_, _, inside, _, holds⟩
      exact ⟨inside, holds⟩
    · rintro ⟨inside, holds⟩
      exact ⟨by omega, by omega, inside, by omega, holds⟩

end UdpParser
end NetworkTiming
