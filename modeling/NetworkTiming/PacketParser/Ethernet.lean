import NetworkTiming.PacketParser.Ipv4
import NetworkTiming.PacketParser.Ipv6

/-!
# The Ethernet parser and the entry point

Decoding starts at the Ethernet header and follows the protocols announced in
the packet until the requested layer is reached.
-/

namespace NetworkTiming

open Traced

/-- The fields of an `EthernetParser` object after `parseHeader`. -/
structure EthernetParser where
  packet : Nat
  packetSize : Nat
  payload : Nat
  payloadSize : Nat
  dhostAddr : Nat
  shostAddr : Nat
  type : UInt16

namespace EthernetParser

/-- `HEADER_SIZE`. -/
def headerSize : Nat := 14

/-- `ADDR_LEN`. -/
def addrLen : Nat := 6

/-- Protocols that the parser hands on. -/
inductive EtherType
  | ipv4
  | ipv6
  | other
  deriving DecidableEq, Repr

/-- Meaning of the type field. -/
def EtherType.ofWord (word : UInt16) : EtherType :=
  if word = 0x0800 then .ipv4
  else if word = 0x86dd then .ipv6
  else .other

/-- `EthernetParser::parseHeader`.  The addresses are not read. -/
def parseHeader
    (memory : List UInt8)
    (packet size : Nat) : Decode EthernetParser :=
  if size < headerSize then
    fail (.invalidArgument "Packet size too small for header")
  else do
    let payloadSize ← subtractSize size headerSize
    let etherType ← readU16 memory (packet + 2 * addrLen)
    pure {
      packet := packet
      packetSize := size
      payload := packet + headerSize
      payloadSize := payloadSize
      dhostAddr := packet
      shostAddr := packet + addrLen
      type := ntohs etherType }

/-- `EthernetParser::decodeUntil`. -/
def decodeUntil
    (inetNtop : InetNtop)
    (layer : Layer)
    (memory : List UInt8)
    (packet size : Nat)
    (artefacts : Artefacts) : Decode Decoded := do
  let parser ← parseHeader memory packet size
  if layer = .ethernet then
    pure {
      payload := some parser.payload
      payloadSize := parser.payloadSize
      artefacts := artefacts }
  else
    match EtherType.ofWord parser.type with
    | .ipv4 =>
        Ipv4Parser.decodeUntil inetNtop layer memory parser.payload
          parser.payloadSize artefacts
    | .ipv6 =>
        Ipv6Parser.decodeUntil inetNtop layer memory parser.payload
          parser.payloadSize artefacts
    | .other => fail .terminate

/-- Protocol announced by the type field. -/
def etherType (memory : List UInt8) (packet : Nat) : EtherType :=
  EtherType.ofWord (ntohs
    (hostU16 (byteAt memory (packet + 12)) (byteAt memory (packet + 13))))

/-- Postconditions of the Ethernet layer for a packet whose header lies in the
buffer. -/
theorem decodeUntil_iff
    {permitted : Access → Prop} {faults : Fault → Prop}
    {undecodable abrupt : Prop}
    (policy : Policy memory permitted faults undecodable abrupt)
    (packet size : Nat)
    (inside : 14 ≤ size → packet + 14 ≤ memory.length)
    {returns : Decoded → Prop} :
    Ensures permitted faults returns
        (decodeUntil (succeeding text) layer memory packet size artefacts) ↔
      if size < 14 then undecodable
      else if layer = .ethernet then
        returns {
          payload := some (packet + 14)
          payloadSize := size - 14
          artefacts := artefacts }
      else
        match etherType memory packet with
        | .ipv4 =>
            Ensures permitted faults returns
              (Ipv4Parser.decodeUntil (succeeding text) layer memory
                (packet + 14) (size - 14) artefacts)
        | .ipv6 =>
            Ensures permitted faults returns
              (Ipv6Parser.decodeUntil (succeeding text) layer memory
                (packet + 14) (size - 14) artefacts)
        | .other => abrupt := by
  unfold decodeUntil parseHeader headerSize addrLen
  by_cases short : size < 14
  · simp [short, policy.invalidArgument]
  · have type : packet + 12 + 1 < memory.length := by omega
    have ordered := policy.ordered size 14 (by omega)
    have remaining := sizeDifference_of_le (show 14 ≤ size by omega)
    simp only [short, if_false, ensures_bind, policy.readU16_iff,
      Strict.subtractSize_iff, ensures_pure, ordered, remaining, type, true_and]
    rw [ensures_ite, ensures_pure]
    by_cases requested : layer = .ethernet
    · simp [requested]
    · simp only [requested, if_false]
      change Ensures permitted faults returns
        (match etherType memory packet with
          | .ipv4 => _
          | .ipv6 => _
          | .other => _) ↔ _
      cases etherType memory packet with
      | ipv4 => exact Iff.rfl
      | ipv6 => exact Iff.rfl
      | other =>
          rw [ensures_fail]
          exact policy.terminate

end EthernetParser

/-- `PacketParser::decodeUntil`. -/
def PacketParser.decodeUntil
    (inetNtop : InetNtop)
    (layer : Layer)
    (memory : List UInt8)
    (packet size : Nat)
    (artefacts : Artefacts) : Decode Decoded :=
  EthernetParser.decodeUntil inetNtop layer memory packet size artefacts

end NetworkTiming
