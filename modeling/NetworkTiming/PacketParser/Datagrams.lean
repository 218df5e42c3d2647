import NetworkTiming.PacketParser.Ethernet
import NetworkTiming.PacketParser.HeaderFields

/-!
# The two sizes of a datagram

A datagram states its own size, and the layer below states how many bytes it
carries.  The UDP parser refuses a datagram that claims more than it is handed, but
measures the payload by what it is handed.
-/

namespace NetworkTiming

open Traced

/-- A frame leads through IPv4 or IPv6 to a UDP header at `offset`, for which the IP
layer has `carried` bytes.  An IPv4 header that announces less than its own length
carries a negative number of bytes. -/
inductive CarriesUdp
    (memory : List UInt8)
    (packet size : Nat) : (offset : Nat) → (carried : Int) → Prop
  | ipv4 :
      14 + 20 ≤ size →
      EthernetParser.etherType memory packet = .ipv4 →
      Ipv4Parser.version memory (packet + 14) = 4 →
      Ipv4Parser.protocol memory (packet + 14) = .udp →
      CarriesUdp memory packet size
        (Ipv4Parser.segment memory (packet + 14))
        (Ipv4Parser.totalLength memory (packet + 14) -
          Ipv4Parser.internetHeaderLength memory (packet + 14))
  | ipv6 {offset remaining} :
      14 + (40 + Ipv6Parser.payloadLength memory (packet + 14)) ≤ size →
      EthernetParser.etherType memory packet = .ipv6 →
      Ipv6Parser.version memory (packet + 14) = 6 →
      Ipv6Parser.ExtensionChain memory (byteAt memory (packet + 14 + 6))
        (packet + 14 + 40) (Ipv6Parser.payloadLength memory (packet + 14))
        Ipv6Parser.NextHeaderType.udp offset remaining →
      CarriesUdp memory packet size offset remaining

namespace CarriesUdp

variable {memory : List UInt8} {packet size offset : Nat} {carried : Int}

/-- A frame leads to one UDP header at most. -/
theorem unique
    (first : CarriesUdp memory packet size offset carried)
    (second : CarriesUdp memory packet size otherOffset otherCarried) :
    otherOffset = offset ∧ otherCarried = carried := by
  cases first with
  | ipv4 _ announced _ _ =>
      cases second with
      | ipv4 _ _ _ _ => exact ⟨rfl, rfl⟩
      | ipv6 _ other _ _ => simp [announced] at other
  | ipv6 _ announced _ chain =>
      cases second with
      | ipv4 _ other _ _ => simp [announced] at other
      | ipv6 _ _ _ otherChain =>
          obtain ⟨_, same, left⟩ := chain.unique otherChain
          exact ⟨same, congrArg _ left⟩

theorem header_le
    (carries : CarriesUdp memory packet size offset carried) :
    14 ≤ size := by
  cases carries with
  | ipv4 long _ _ _ => omega
  | ipv6 fits _ _ _ => omega

/-- An IP header cannot announce more than its length field can express, nor lack
more than its own length. -/
theorem bounds
    (carries : CarriesUdp memory packet size offset carried) :
    -60 ≤ carried ∧ carried < 65536 := by
  cases carries with
  | ipv4 _ _ _ _ =>
      have total := wordAt_lt memory (packet + 14 + 2)
      have header := Ipv4Parser.internetHeaderLength_le memory (packet + 14)
      unfold Ipv4Parser.totalLength
      omega
  | ipv6 _ _ _ chain =>
      have total := wordAt_lt memory (packet + 14 + 4)
      have left := chain.end_eq
      have behind := chain.offset_le
      unfold Ipv6Parser.payloadLength at left
      omega

end CarriesUdp

namespace UdpParser

/-- A number of bytes as a `size_t`. -/
def handedUp (carried : Int) : Nat := (carried % 2 ^ 64).toNat

theorem sizeDifference_eq_handedUp
    (small : total < 65536)
    (bounded : header ≤ 60) :
    sizeDifference total header = handedUp (total - header) := by
  unfold sizeDifference handedUp
  split
  · omega
  · omega

/-- The parser accepts a header at `offset` that it is handed `size` bytes for. -/
def Accepts (memory : List UInt8) (offset size : Nat) : Prop :=
  offset + 7 < memory.length ∧ 8 ≤ size ∧ wordAt memory (offset + 4) ≤ size

/-- The UDP parser returns exactly with the payload of a header that it accepts. -/
theorem decodeUntil_returns_iff
    (memory : List UInt8)
    (offset size : Nat)
    (artefacts : Artefacts)
    {returns : Option Nat → Nat → Prop} :
    Ensures (fun _ => True) (fun _ => False)
        (fun decoded => returns decoded.payload decoded.payloadSize)
        (decodeUntil .udp memory offset size artefacts) ↔
      Accepts memory offset size ∧ returns (some (offset + 8)) (size - 8) := by
  rw [decodeUntil_iff (returningPolicy memory), if_neg (by decide), Accepts, decoded]
  by_cases short : size < 8
  · simp only [short, if_true, false_iff]
    omega
  · by_cases oversized : size < wordAt memory (offset + 4)
    · simp only [short, oversized, if_true, if_false, and_false, false_iff]
      omega
    · simp only [short, oversized, if_false, and_assoc, Nat.not_lt.mp short,
        Nat.not_lt.mp oversized, true_and]

end UdpParser

open UdpParser

section Frames

variable {memory : List UInt8} {packet size : Nat} {artefacts : Artefacts}
  {returns : Option Nat → Nat → Prop}

/-- What is left of an IPv6 payload is handed up as it is. -/
theorem CarriesUdp.handedUp_eq
    {offset remaining : Nat}
    (carries : CarriesUdp memory packet size offset remaining) :
    handedUp remaining = remaining := by
  have bounds := carries.bounds
  unfold handedUp
  omega

/-- The IPv4 parser returns with the payload of the header that its packet leads to. -/
theorem Ipv4Parser.decodeUntil_returns_iff
    (text : AddressFamily → List UInt8 → String)
    (inside : packet + size ≤ memory.length) :
    Ensures (fun _ => True) (fun _ => False)
        (fun decoded => returns decoded.payload decoded.payloadSize)
        (decodeUntil (succeeding text) .udp memory packet size artefacts) ↔
      20 ≤ size ∧ version memory packet = 4 ∧ protocol memory packet = .udp ∧
        Accepts memory (segment memory packet)
          (handedUp (totalLength memory packet - internetHeaderLength memory packet)) ∧
        returns (some (segment memory packet + 8))
          (handedUp (totalLength memory packet - internetHeaderLength memory packet) - 8) := by
  have handed : segmentSize memory packet =
      handedUp (totalLength memory packet - internetHeaderLength memory packet) :=
    sizeDifference_eq_handedUp (wordAt_lt _ _) (internetHeaderLength_le _ _)
  rw [decodeUntil_iff (returningPolicy memory) _ _ (by omega)]
  by_cases short : size < 20
  · rw [if_pos short, false_iff]
    omega
  by_cases unversioned : version memory packet ≠ 4
  · rw [if_neg short, if_pos unversioned, false_iff]
    exact fun routed => unversioned routed.2.1
  rw [if_neg short, if_neg unversioned, if_neg (by decide), true_and,
    and_iff_right (Nat.not_lt.mp short), and_iff_right (not_not.mp unversioned), handed]
  cases protocol memory packet with
  | tcp => simp [TcpParser.decodeUntil_iff (returningPolicy memory)]
  | udp => rw [UdpParser.decodeUntil_returns_iff, and_iff_right rfl]
  | other => simp

/-- The IPv6 parser returns with the payload of the header that its packet leads to. -/
theorem Ipv6Parser.decodeUntil_returns_iff
    (text : AddressFamily → List UInt8 → String)
    (inside : packet + size ≤ memory.length) :
    Ensures (fun _ => True) (fun _ => False)
        (fun decoded => returns decoded.payload decoded.payloadSize)
        (decodeUntil (succeeding text) .udp memory packet size artefacts) ↔
      40 + payloadLength memory packet ≤ size ∧ version memory packet = 6 ∧
        ∃ offset remaining,
          ExtensionChain memory (byteAt memory (packet + 6)) (packet + 40)
            (payloadLength memory packet) NextHeaderType.udp offset remaining ∧
          Accepts memory offset remaining ∧
          returns (some (offset + 8)) (remaining - 8) := by
  rw [decodeUntil_iff (returningPolicy memory) _ _ inside]
  by_cases short : size < 40
  · rw [if_pos short, false_iff]
    omega
  by_cases unversioned : version memory packet ≠ 6
  · rw [if_neg short, if_pos unversioned, false_iff]
    exact fun routed => unversioned routed.2.1
  by_cases oversized : size - 40 < payloadLength memory packet
  · rw [if_neg short, if_neg unversioned, if_pos oversized, false_iff]
    omega
  have handsOn (last : UInt8) (offset remaining : Nat) :
      HandsOn (fun _ => True) (fun _ => False) False
          (fun decoded => returns decoded.payload decoded.payloadSize) .udp memory
          (artefactsOf text memory packet artefacts) last offset remaining ↔
        last = NextHeaderType.udp ∧ Accepts memory offset remaining ∧
          returns (some (offset + 8)) (remaining - 8) := by
    unfold HandsOn
    rw [if_neg (by decide)]
    by_cases toTcp : last = NextHeaderType.tcp
    · have other : last ≠ NextHeaderType.udp := by
        rw [toTcp]
        decide
      rw [if_pos toTcp, TcpParser.decodeUntil_iff (returningPolicy memory),
        if_pos (by decide), false_iff]
      exact fun routed => other routed.1
    · by_cases toUdp : last = NextHeaderType.udp
      · rw [if_neg toTcp, if_pos toUdp, UdpParser.decodeUntil_returns_iff,
          and_iff_right toUdp]
      · rw [if_neg toTcp, if_neg toUdp, false_iff]
        exact fun routed => toUdp routed.1
  rw [if_neg short, if_neg unversioned, if_neg oversized, WalkEnsures,
    and_iff_right (show 40 + payloadLength memory packet ≤ size by omega),
    and_iff_right (not_not.mp unversioned)]
  simp only [false_or, handsOn]
  constructor
  · rintro ⟨⟨last, offset, remaining, chain⟩, all⟩
    obtain ⟨rfl, accepted, returned⟩ := all last offset remaining chain
    exact ⟨offset, remaining, chain, accepted, returned⟩
  · rintro ⟨offset, remaining, chain, accepted, returned⟩
    refine ⟨⟨_, offset, remaining, chain⟩, fun last other left otherChain => ?_⟩
    obtain ⟨rfl, rfl, rfl⟩ := chain.unique otherChain
    exact ⟨rfl, accepted, returned⟩

/-- Decoding returns exactly with what the UDP parser makes of the header that the
frame leads to. -/
theorem PacketParser.decodeUntil_returns_iff
    (text : AddressFamily → List UInt8 → String)
    (artefacts : Artefacts)
    (returns : Option Nat → Nat → Prop)
    (inside : packet + size ≤ memory.length) :
    Ensures (fun _ => True) (fun _ => False)
        (fun decoded => returns decoded.payload decoded.payloadSize)
        (decodeUntil (succeeding text) .udp memory packet size artefacts) ↔
      ∃ offset carried, CarriesUdp memory packet size offset carried ∧
        Accepts memory offset (handedUp carried) ∧
        returns (some (offset + 8)) (handedUp carried - 8) := by
  rw [decodeUntil, EthernetParser.decodeUntil_iff (returningPolicy memory) _ _ (by omega)]
  by_cases short : size < 14
  · rw [if_pos short, false_iff]
    rintro ⟨_, _, carries, _⟩
    have long := carries.header_le
    omega
  rw [if_neg short, if_neg (by decide)]
  cases announced : EthernetParser.etherType memory packet with
  | ipv4 =>
      refine (Ipv4Parser.decodeUntil_returns_iff text (by omega)).trans ?_
      constructor
      · rintro ⟨long, version, protocol, routed⟩
        exact ⟨_, _, .ipv4 (by omega) announced version protocol, routed⟩
      · rintro ⟨_, _, carries, routed⟩
        cases carries with
        | ipv4 long _ version protocol => exact ⟨by omega, version, protocol, routed⟩
        | ipv6 _ other _ _ => simp [announced] at other
  | ipv6 =>
      refine (Ipv6Parser.decodeUntil_returns_iff text (by omega)).trans ?_
      constructor
      · rintro ⟨fits, version, offset, remaining, chain, routed⟩
        have carries : CarriesUdp memory packet size offset remaining :=
          .ipv6 (by omega) announced version chain
        rw [← carries.handedUp_eq] at routed
        exact ⟨offset, remaining, carries, routed⟩
      · rintro ⟨_, _, carries, routed⟩
        cases carries with
        | ipv4 _ other _ _ => simp [announced] at other
        | ipv6 fits same version chain =>
            rw [CarriesUdp.handedUp_eq (.ipv6 fits same version chain)] at routed
            exact ⟨by omega, version, _, _, chain, routed⟩
  | other =>
      rw [false_iff]
      rintro ⟨_, _, carries, _⟩
      cases carries with
      | ipv4 _ other _ _ => simp [announced] at other
      | ipv6 _ other _ _ => simp [announced] at other

/-- The payloads that decoding can report. -/
theorem PacketParser.decodeUntil_reports_iff
    (text : AddressFamily → List UInt8 → String)
    (artefacts : Artefacts)
    (inside : packet + size ≤ memory.length)
    (payload : Option Nat)
    (payloadSize : Nat) :
    (∃ decoded,
        (decodeUntil (succeeding text) .udp memory packet size artefacts).result =
          .ok decoded ∧
        decoded.payload = payload ∧ decoded.payloadSize = payloadSize) ↔
      ∃ offset carried, CarriesUdp memory packet size offset carried ∧
        Accepts memory offset (handedUp carried) ∧
        some (offset + 8) = payload ∧ handedUp carried - 8 = payloadSize := by
  rw [← decodeUntil_returns_iff text artefacts
    (fun start length => start = payload ∧ length = payloadSize) inside,
    ensures_result_iff]
  simp only [and_false, exists_false, or_false]

end Frames

/-- Whenever decoding returns, the length field of the datagram covers its header and
not more than the IP layer carries, and the reported payload is what the length field
says it is. -/
def DelimitsDatagram
    (text : AddressFamily → List UInt8 → String)
    (memory : List UInt8)
    (packet size : Nat)
    (artefacts : Artefacts) : Prop :=
  ∀ decoded,
    (PacketParser.decodeUntil (succeeding text) .udp memory packet size
      artefacts).result = .ok decoded →
    ∃ offset carried, CarriesUdp memory packet size offset carried ∧
      8 ≤ wordAt memory (offset + 4) ∧
      (wordAt memory (offset + 4) : Int) ≤ carried ∧
      decoded.payload = some (offset + 8) ∧
      decoded.payloadSize = wordAt memory (offset + 4) - 8

/-- A datagram with an empty payload, in an IPv4 packet that carries one more byte. -/
def paddedDatagram : List UInt8 :=
  List.replicate 12 0 ++ [0x08, 0x00] ++
    [0x45, 0x00, 0x00, 0x1d, 0xa8, 0xb1, 0x40, 0x00, 0x40, 0x11, 0x94, 0x01,
      0x7f, 0x00, 0x00, 0x01, 0x7f, 0x00, 0x00, 0x01] ++
    [0x92, 0xbe, 0x05, 0x39, 0x00, 0x08, 0xfe, 0x37] ++ [0x4a]

/-- The byte behind the datagram is reported as its payload. -/
theorem not_delimitsDatagram_paddedDatagram :
    ¬DelimitsDatagram inetText paddedDatagram 0 paddedDatagram.length {} := by
  have returned :
      (PacketParser.decodeUntil (succeeding inetText) .udp paddedDatagram 0
        paddedDatagram.length {}).result =
        .ok {
          payload := some 42
          payloadSize := 1
          artefacts := {
            ipType := .ipv4
            srcIp := "127.0.0.1"
            dstIp := "127.0.0.1"
            payloadType := .udp
            srcPort := 37566
            dstPort := 1337 } } := by
    decide +kernel
  intro delimits
  obtain ⟨offset, _, _, _, _, start, length⟩ := delimits _ returned
  have located : offset = 34 := by
    have same := Option.some.inj start
    omega
  rw [located] at length
  exact absurd length (by decide)

/-- The payload of a datagram is delimited if and only if the IP layer does not carry
more than the datagram claims (unless it carries less than a header) and does not
announce less than its own header. -/
theorem delimitsDatagram_iff
    (text : AddressFamily → List UInt8 → String)
    (front frame rest : List UInt8)
    (artefacts : Artefacts) :
    DelimitsDatagram text (front ++ (frame ++ rest)) front.length frame.length
        artefacts ↔
      ∀ offset carried,
        CarriesUdp (front ++ (frame ++ rest)) front.length frame.length offset carried →
        offset + 7 < (front ++ (frame ++ rest)).length →
        0 ≤ carried ∧
          (8 ≤ carried → carried ≤ wordAt (front ++ (frame ++ rest)) (offset + 4)) := by
  have inside : front.length + frame.length ≤ (front ++ (frame ++ rest)).length := by
    simp only [List.length_append]
    omega
  generalize front ++ (frame ++ rest) = memory at inside ⊢
  constructor
  · intro delimits offset carried carries header
    have bounds := carries.bounds
    have length := wordAt_lt memory (offset + 4)
    by_contra exceeds
    have accepted : Accepts memory offset (handedUp carried) := by
      unfold Accepts handedUp
      omega
    obtain ⟨decoded, returned, _, size⟩ :=
      (PacketParser.decodeUntil_reports_iff text artefacts inside _ _).mpr
        ⟨offset, carried, carries, accepted, rfl, rfl⟩
    obtain ⟨_, _, otherCarries, least, most, _, delimited⟩ := delimits decoded returned
    obtain ⟨rfl, rfl⟩ := carries.unique otherCarries
    unfold handedUp at size
    omega
  · intro delimited decoded returned
    obtain ⟨offset, carried, carries, ⟨header, enough, fits⟩, start, size⟩ :=
      (PacketParser.decodeUntil_reports_iff text artefacts inside _ _).mp
        ⟨decoded, returned, rfl, rfl⟩
    have bounds := carries.bounds
    obtain ⟨positive, atMost⟩ := delimited offset carried carries header
    unfold handedUp at enough fits size
    exact ⟨offset, carried, carries, by omega, by omega, start.symm, by omega⟩

end NetworkTiming
