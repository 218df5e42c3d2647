import NetworkTiming.PacketParser.Tcp
import NetworkTiming.PacketParser.Udp

/-!
# The IPv4 parser

The header length and the total length are taken from the packet.  Neither is
compared with the size that the layer below has handed up, nor with the other.
-/

namespace NetworkTiming

open Traced

/-- The fields of an `Ipv4Parser` object after `parseHeader`. -/
structure Ipv4Parser where
  packet : Nat
  packetSize : Nat
  payload : Nat
  payloadSize : Nat
  headerLength : Nat
  proto : UInt8
  addrSrc : String
  addrDst : String

namespace Ipv4Parser

/-- `MIN_HEADER_LEN`. -/
def minHeaderLen : Nat := 20

/-- Protocols that the parser hands on. -/
inductive IpProto
  | tcp
  | udp
  | other
  deriving DecidableEq, Repr

/-- Meaning of the protocol field. -/
def IpProto.ofByte (byte : UInt8) : IpProto :=
  if byte = 0x06 then .tcp
  else if byte = 0x11 then .udp
  else .other

/-- `Ipv4Parser::parseHeader`. -/
def parseHeader
    (inetNtop : InetNtop)
    (memory : List UInt8)
    (packet size : Nat) : Decode Ipv4Parser :=
  if size < minHeaderLen then
    fail (.invalidArgument "Ipv4 packet must be at least 20 bytes")
  else do
    let vhl ← readU8 memory packet
    let version := vhl >>> 4
    if version ≠ 0x4 then
      fail .terminate
    else do
      let headerLength := (vhl &&& 0x0f).toNat * 4
      let len ← readU16 memory (packet + 2)
      let payloadSize ← subtractSize (ntohs len).toNat headerLength
      let proto ← readU8 memory (packet + 9)
      let src ← readBytes memory (packet + 12) 4
      match inetNtop .inet src with
      | none =>
          fail (.invalidArgument "Packet has invalid ipv4 source address")
      | some addrSrc => do
          let dst ← readBytes memory (packet + 16) 4
          match inetNtop .inet dst with
          | none =>
              fail (.invalidArgument "Packet has invalid ipv4 destination address")
          | some addrDst =>
              pure {
                packet := packet
                packetSize := size
                payload := packet + headerLength
                payloadSize := payloadSize
                headerLength := headerLength
                proto := proto
                addrSrc := addrSrc
                addrDst := addrDst }

/-- `Ipv4Parser::decodeUntil`. -/
def decodeUntil
    (inetNtop : InetNtop)
    (layer : Layer)
    (memory : List UInt8)
    (packet size : Nat)
    (artefacts : Artefacts) : Decode Decoded := do
  let parser ← parseHeader inetNtop memory packet size
  let artefacts := { artefacts with
    ipType := .ipv4
    srcIp := parser.addrSrc
    dstIp := parser.addrDst }
  if layer = .ipv4 then
    pure {
      payload := some parser.payload
      payloadSize := parser.payloadSize
      artefacts := artefacts }
  else
    match IpProto.ofByte parser.proto with
    | .tcp =>
        TcpParser.decodeUntil layer memory parser.payload parser.payloadSize artefacts
    | .udp =>
        UdpParser.decodeUntil layer memory parser.payload parser.payloadSize artefacts
    | .other => fail .terminate

/-! ## Fields of the header -/

/-- Version announced by the first byte. -/
def version (memory : List UInt8) (packet : Nat) : Nat :=
  (byteAt memory packet).toNat / 16

/-- Header length announced by the first byte. -/
def internetHeaderLength (memory : List UInt8) (packet : Nat) : Nat :=
  (byteAt memory packet).toNat % 16 * 4

/-- Total length announced by the header. -/
def totalLength (memory : List UInt8) (packet : Nat) : Nat :=
  wordAt memory (packet + 2)

/-- Protocol announced by the header. -/
def protocol (memory : List UInt8) (packet : Nat) : IpProto :=
  IpProto.ofByte (byteAt memory (packet + 9))

/-- Start of the segment behind the announced header. -/
def segment (memory : List UInt8) (packet : Nat) : Nat :=
  packet + internetHeaderLength memory packet

/-- Size of the segment, as the parser computes it. -/
def segmentSize (memory : List UInt8) (packet : Nat) : Nat :=
  sizeDifference (totalLength memory packet)
    (internetHeaderLength memory packet)

theorem internetHeaderLength_le (memory : List UInt8) (packet : Nat) :
    internetHeaderLength memory packet ≤ 60 := by
  unfold internetHeaderLength
  omega

/-- The artefacts of an IPv4 header. -/
def artefactsOf
    (text : AddressFamily → List UInt8 → String)
    (memory : List UInt8)
    (packet : Nat)
    (artefacts : Artefacts) : Artefacts :=
  { artefacts with
    ipType := .ipv4
    srcIp := text .inet (bytesAt memory (packet + 12) 4)
    dstIp := text .inet (bytesAt memory (packet + 16) 4) }

/-- The comparison of the version nibble, in terms of the first byte. -/
theorem shiftRight_eq_iff_version (memory : List UInt8) (packet : Nat) :
    byteAt memory packet >>> 4 = 0x4 ↔ version memory packet = 4 := by
  rw [← UInt8.toNat_inj, toNat_shiftRight_four]
  rfl

/-- Postconditions of the IPv4 layer for a packet whose fixed header lies in the
buffer. -/
theorem decodeUntil_iff
    {permitted : Access → Prop} {faults : Fault → Prop}
    {undecodable abrupt : Prop}
    (policy : Policy memory permitted faults undecodable abrupt)
    (packet size : Nat)
    (inside : 20 ≤ size → packet + 20 ≤ memory.length)
    {returns : Decoded → Prop} :
    Ensures permitted faults returns
        (decodeUntil (succeeding text) layer memory packet size artefacts) ↔
      if size < 20 then undecodable
      else if version memory packet ≠ 4 then abrupt
      else
        permitted (.difference (totalLength memory packet)
          (internetHeaderLength memory packet)) ∧
        if layer = .ipv4 then
          returns {
            payload := some (segment memory packet)
            payloadSize := segmentSize memory packet
            artefacts := artefactsOf text memory packet artefacts }
        else
          match protocol memory packet with
          | .tcp =>
              Ensures permitted faults returns
                (TcpParser.decodeUntil layer memory (segment memory packet)
                  (segmentSize memory packet)
                  (artefactsOf text memory packet artefacts))
          | .udp =>
              Ensures permitted faults returns
                (UdpParser.decodeUntil layer memory (segment memory packet)
                  (segmentSize memory packet)
                  (artefactsOf text memory packet artefacts))
          | .other => abrupt := by
  unfold decodeUntil parseHeader minHeaderLen
  by_cases short : size < 20
  · simp [short, policy.invalidArgument]
  · have first : packet < memory.length := by omega
    by_cases unversioned : version memory packet ≠ 4
    · have mismatch : byteAt memory packet >>> 4 ≠ 0x4 :=
        fun equal => unversioned ((shiftRight_eq_iff_version _ _).mp equal)
      simp [short, unversioned, mismatch, policy.readU8_iff, policy.terminate,
        first]
    · have matching : byteAt memory packet >>> 4 = 0x4 :=
        (shiftRight_eq_iff_version _ _).mpr (not_not.mp unversioned)
      have length : packet + 2 + 1 < memory.length := by omega
      have proto : packet + 9 < memory.length := by omega
      have source : packet + 12 + 4 ≤ memory.length := by omega
      have destination : packet + 16 + 4 ≤ memory.length := by omega
      simp only [short, if_false, unversioned, matching, ensures_bind,
        policy.readU8_iff, policy.readU16_iff, policy.readBytes_iff,
        Strict.subtractSize_iff, succeeding, ensures_pure, ne_eq,
        not_true_eq_false, toNat_and_low_half, toNat_ntohs_loaded,
        first, length, proto, source, destination, true_and, or_true]
      -- Every header byte lies in the buffer; what is left is the hand-over.
      refine and_congr Iff.rfl ?_
      rw [ensures_ite, ensures_pure]
      by_cases requested : layer = .ipv4
      · simp only [requested, if_true]
        exact Iff.rfl
      · simp only [requested, if_false]
        unfold protocol
        cases IpProto.ofByte (byteAt memory (packet + 9)) with
        | tcp => exact Iff.rfl
        | udp => exact Iff.rfl
        | other =>
            rw [ensures_fail]
            exact policy.terminate

end Ipv4Parser
end NetworkTiming
