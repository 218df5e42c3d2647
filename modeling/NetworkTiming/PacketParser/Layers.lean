import NetworkTiming.PacketParser.Ethernet

/-!
# Layers of a packet

A caller names the layer that it wants, and the parsers of the layers below hand over to
the next one until they get there.  Asking for a transport layer is asking for the
network layer first, and decoding what that one hands up: nothing that the lower layers
read or report is decided by what has been asked for.
-/

namespace NetworkTiming

open Traced

/-- A sequence returns what its second step returns. -/
theorem result_bind_eq_ok_iff
    {α β : Type} {run : Decode α} {next : α → Decode β} {value : β} :
    (run >>= next).result = .ok value ↔
      ∃ middle, run.result = .ok middle ∧ (next middle).result = .ok value := by
  rw [result_bind]
  exact except_bind_eq_ok_iff

/-- A decoding behind some accesses that have been made before. -/
def behind {α : Type} (events : List Access) (run : Decode α) : Decode α :=
  ⟨events ++ run.events, run.result⟩

theorem behind_behind {α : Type} (first second : List Access) (run : Decode α) :
    behind first (behind second run) = behind (first ++ second) run := by
  rw [behind, behind, behind, List.append_assoc]

theorem events_behind_pure {α : Type} (events : List Access) (value : α) :
    (behind events (pure value)).events = events :=
  List.append_nil events

/-- A sequence goes on behind a step that returns. -/
theorem bind_eq_of_ok
    {α β : Type} {run : Decode α} (next : α → Decode β) {middle : α}
    (returned : run.result = .ok middle) :
    run >>= next = behind run.events (next middle) := by
  change Traced.bind run next = _
  rw [Traced.bind, returned]
  rfl

/-- The parser of a transport layer. -/
def transportDecode (layer : Layer) (memory : List UInt8) (packet size : Nat)
    (artefacts : Artefacts) : Decode Decoded :=
  if layer = .tcp then TcpParser.decodeUntil layer memory packet size artefacts
  else UdpParser.decodeUntil layer memory packet size artefacts

/-- A decoding is the one of a layer below and, behind it, what the transport parser
makes of the payload that has been handed up. -/
def GoesThrough (layer : Layer) (memory : List UInt8) (lower upper : Decode Decoded) :
    Prop :=
  ∃ below start, lower.result = .ok below ∧ below.payload = some start ∧
    upper = behind lower.events
      (transportDecode layer memory start below.payloadSize below.artefacts)

/-- The TCP parser has been asked for if it returns. -/
theorem TcpParser.layer_of_returned
    {layer : Layer} {memory : List UInt8} {packet size : Nat} {artefacts : Artefacts}
    {decoded : Decoded}
    (returned : (decodeUntil layer memory packet size artefacts).result = .ok decoded) :
    layer = .tcp := by
  by_contra other
  rw [decodeUntil, if_pos other] at returned
  cases returned

/-- The UDP parser has been asked for if it returns. -/
theorem UdpParser.layer_of_returned
    {layer : Layer} {memory : List UInt8} {packet size : Nat} {artefacts : Artefacts}
    {decoded : Decoded}
    (returned : (decodeUntil layer memory packet size artefacts).result = .ok decoded) :
    layer = .udp := by
  by_contra other
  rw [decodeUntil, if_pos other] at returned
  cases returned

/-- A transport layer above IPv4 is reached through the IPv4 layer. -/
theorem Ipv4Parser.decodeUntil_goesThrough
    {inetNtop : InetNtop} {layer : Layer} {memory : List UInt8} {packet size : Nat}
    {artefacts : Artefacts} {decoded : Decoded}
    (above : layer ≠ .ipv4)
    (returned : (decodeUntil inetNtop layer memory packet size artefacts).result =
      .ok decoded) :
    GoesThrough layer memory (decodeUntil inetNtop .ipv4 memory packet size artefacts)
      (decodeUntil inetNtop layer memory packet size artefacts) := by
  rw [decodeUntil, result_bind_eq_ok_iff] at returned
  obtain ⟨parser, parsed, returned⟩ := returned
  rw [if_neg above] at returned
  rw [GoesThrough, decodeUntil, decodeUntil, bind_eq_of_ok _ parsed, bind_eq_of_ok _ parsed,
    if_neg above, if_pos rfl]
  refine ⟨_, parser.payload, rfl, rfl, ?_⟩
  rw [events_behind_pure, transportDecode]
  cases announced : IpProto.ofByte parser.proto with
  | tcp =>
      rw [announced] at returned
      rw [if_pos (TcpParser.layer_of_returned returned)]
  | udp =>
      rw [announced] at returned
      rw [if_neg (by rw [UdpParser.layer_of_returned returned]; decide)]
  | other =>
      rw [announced] at returned
      cases returned

/-- A header that is followed by another one has a payload. -/
theorem Ipv6Parser.exists_payload
    {inetNtop : InetNtop} {memory : List UInt8} {packet size : Nat} {parser : Ipv6Parser}
    (parsed : (parseHeader inetNtop memory packet size).result = .ok parser)
    (more : parser.nextHdr ≠ NextHeaderType.ipv6Nonxt) :
    ∃ start, parser.payload = some start := by
  rw [parseHeader] at parsed
  split at parsed
  · cases parsed
  obtain ⟨flow, _, parsed⟩ := result_bind_eq_ok_iff.mp parsed
  dsimp only at parsed
  split at parsed
  · cases parsed
  obtain ⟨payloadLen, _, parsed⟩ := result_bind_eq_ok_iff.mp parsed
  obtain ⟨available, _, parsed⟩ := result_bind_eq_ok_iff.mp parsed
  split at parsed
  · cases parsed
  obtain ⟨hopLimit, _, parsed⟩ := result_bind_eq_ok_iff.mp parsed
  obtain ⟨src, _, parsed⟩ := result_bind_eq_ok_iff.mp parsed
  split at parsed
  · cases parsed
  obtain ⟨dst, _, parsed⟩ := result_bind_eq_ok_iff.mp parsed
  split at parsed
  · cases parsed
  obtain ⟨first, _, parsed⟩ := result_bind_eq_ok_iff.mp parsed
  obtain ⟨walked, _, parsed⟩ := result_bind_eq_ok_iff.mp parsed
  cases parsed
  exact ⟨walked.2.1, if_neg more⟩

/-- A transport layer above IPv6 is reached through the IPv6 layer. -/
theorem Ipv6Parser.decodeUntil_goesThrough
    {inetNtop : InetNtop} {layer : Layer} {memory : List UInt8} {packet size : Nat}
    {artefacts : Artefacts} {decoded : Decoded}
    (above : layer ≠ .ipv6)
    (returned : (decodeUntil inetNtop layer memory packet size artefacts).result =
      .ok decoded) :
    GoesThrough layer memory (decodeUntil inetNtop .ipv6 memory packet size artefacts)
      (decodeUntil inetNtop layer memory packet size artefacts) := by
  rw [decodeUntil, result_bind_eq_ok_iff] at returned
  obtain ⟨parser, parsed, returned⟩ := returned
  rw [if_neg above] at returned
  rw [GoesThrough, decodeUntil, decodeUntil, bind_eq_of_ok _ parsed, bind_eq_of_ok _ parsed,
    if_neg above, if_pos rfl]
  by_cases tcp : parser.nextHdr = NextHeaderType.tcp
  · rw [if_pos tcp] at returned ⊢
    obtain ⟨start, payload⟩ := exists_payload parsed (by rw [tcp]; decide)
    refine ⟨_, start, rfl, payload, ?_⟩
    rw [events_behind_pure, transportDecode,
      if_pos (TcpParser.layer_of_returned returned), payload, Option.getD_some]
  · rw [if_neg tcp] at returned ⊢
    by_cases udp : parser.nextHdr = NextHeaderType.udp
    · rw [if_pos udp] at returned ⊢
      obtain ⟨start, payload⟩ := exists_payload parsed (by rw [udp]; decide)
      have other : layer ≠ .tcp := by
        rw [UdpParser.layer_of_returned returned]
        decide
      refine ⟨_, start, rfl, payload, ?_⟩
      rw [events_behind_pure, transportDecode, if_neg other, payload,
        Option.getD_some]
    · rw [if_neg udp] at returned
      cases returned

/-- What a layer reports about the layers below it: the type of the network layer and its
addresses. -/
def SameAddresses (one other : Artefacts) : Prop :=
  one.ipType = other.ipType ∧ one.srcIp = other.srcIp ∧ one.dstIp = other.dstIp

theorem transportDecode_addresses
    {layer : Layer} {memory : List UInt8} {packet size : Nat} {artefacts : Artefacts}
    {decoded : Decoded}
    (returned : (transportDecode layer memory packet size artefacts).result = .ok decoded) :
    SameAddresses decoded.artefacts artefacts := by
  rw [transportDecode] at returned
  split at returned
  · rw [TcpParser.decodeUntil] at returned
    split at returned
    · cases returned
    · obtain ⟨parser, _, returned⟩ := result_bind_eq_ok_iff.mp returned
      cases returned
      exact ⟨rfl, rfl, rfl⟩
  · rw [UdpParser.decodeUntil] at returned
    split at returned
    · cases returned
    · obtain ⟨parser, _, returned⟩ := result_bind_eq_ok_iff.mp returned
      cases returned
      exact ⟨rfl, rfl, rfl⟩

theorem Ipv4Parser.ipType_of_returned
    {inetNtop : InetNtop} {memory : List UInt8} {packet size : Nat} {artefacts : Artefacts}
    {decoded : Decoded}
    (returned : (decodeUntil inetNtop .ipv4 memory packet size artefacts).result =
      .ok decoded) :
    decoded.artefacts.ipType = .ipv4 := by
  obtain ⟨parser, _, returned⟩ := result_bind_eq_ok_iff.mp returned
  rw [if_pos rfl] at returned
  cases returned
  rfl

theorem Ipv6Parser.ipType_of_returned
    {inetNtop : InetNtop} {memory : List UInt8} {packet size : Nat} {artefacts : Artefacts}
    {decoded : Decoded}
    (returned : (decodeUntil inetNtop .ipv6 memory packet size artefacts).result =
      .ok decoded) :
    decoded.artefacts.ipType = .ipv6 := by
  obtain ⟨parser, _, returned⟩ := result_bind_eq_ok_iff.mp returned
  rw [if_pos rfl] at returned
  cases returned
  rfl

/-- The Ethernet parser hands a packet to one of the network parsers. -/
theorem EthernetParser.exists_network
    {inetNtop : InetNtop} {layer : Layer} {memory : List UInt8} {packet size : Nat}
    {artefacts : Artefacts} {decoded : Decoded}
    (above : layer ≠ .ethernet)
    (returned : (decodeUntil inetNtop layer memory packet size artefacts).result =
      .ok decoded) :
    ∃ parser, (parseHeader memory packet size).result = .ok parser ∧
      (EtherType.ofWord parser.type = .ipv4 ∧
        (Ipv4Parser.decodeUntil inetNtop layer memory parser.payload parser.payloadSize
          artefacts).result = .ok decoded ∨
      EtherType.ofWord parser.type = .ipv6 ∧
        (Ipv6Parser.decodeUntil inetNtop layer memory parser.payload parser.payloadSize
          artefacts).result = .ok decoded) := by
  obtain ⟨parser, parsed, returned⟩ := result_bind_eq_ok_iff.mp returned
  rw [if_neg above] at returned
  refine ⟨parser, parsed, ?_⟩
  cases announced : EtherType.ofWord parser.type with
  | ipv4 =>
      rw [announced] at returned
      exact .inl ⟨rfl, returned⟩
  | ipv6 =>
      rw [announced] at returned
      exact .inr ⟨rfl, returned⟩
  | other =>
      rw [announced] at returned
      cases returned

/-- The layers below a transport layer that has been reached: asking for one of them is
answered too, with the same addresses, behind the first of the same reads; and what the
network layer hands up is what the transport parser has decoded. -/
structure Layered (inetNtop : InetNtop) (layer : Layer) (memory : List UInt8)
    (packet size : Nat) (artefacts : Artefacts) (decoded : Decoded) : Prop where
  network : GoesThrough layer memory
    (PacketParser.decodeUntil inetNtop decoded.artefacts.ipType memory packet size artefacts)
    (PacketParser.decodeUntil inetNtop layer memory packet size artefacts)
  addresses : ∀ below, (PacketParser.decodeUntil inetNtop decoded.artefacts.ipType memory
      packet size artefacts).result = .ok below →
    SameAddresses decoded.artefacts below.artefacts
  link : ∃ below, (PacketParser.decodeUntil inetNtop .ethernet memory packet size
      artefacts).result = .ok below ∧ below.payload = some (packet + 14)
  reads : (PacketParser.decodeUntil inetNtop .ethernet memory packet size artefacts).events <+:
    (PacketParser.decodeUntil inetNtop decoded.artefacts.ipType memory packet size
      artefacts).events

/-- What a decoding through a layer below returns has the addresses of that layer. -/
theorem GoesThrough.addresses
    {layer : Layer} {memory : List UInt8} {lower upper : Decode Decoded}
    {below decoded : Decoded}
    (through : GoesThrough layer memory lower upper)
    (lowerReturned : lower.result = .ok below)
    (returned : upper.result = .ok decoded) :
    SameAddresses decoded.artefacts below.artefacts := by
  obtain ⟨other, start, otherReturned, _payload, same⟩ := through
  cases lowerReturned.symm.trans otherReturned
  rw [same] at returned
  exact transportDecode_addresses returned

/-- The same reads in front do not matter. -/
theorem GoesThrough.moved
    {layer : Layer} {memory : List UInt8} {lower upper : Decode Decoded}
    (through : GoesThrough layer memory lower upper) (events : List Access) :
    GoesThrough layer memory (behind events lower) (behind events upper) := by
  obtain ⟨below, start, returned, payload, same⟩ := through
  refine ⟨below, start, returned, payload, ?_⟩
  rw [same, behind_behind]
  rfl

/-- Behind the Ethernet header, a network parser goes on. -/
theorem EthernetParser.decodeUntil_of_parsed
    {inetNtop : InetNtop} {layer : Layer} {memory : List UInt8} {packet size : Nat}
    {artefacts : Artefacts} {parser : EthernetParser}
    (above : layer ≠ .ethernet)
    (parsed : (parseHeader memory packet size).result = .ok parser) :
    PacketParser.decodeUntil inetNtop layer memory packet size artefacts =
      behind (parseHeader memory packet size).events
        (match EtherType.ofWord parser.type with
        | .ipv4 => Ipv4Parser.decodeUntil inetNtop layer memory parser.payload
            parser.payloadSize artefacts
        | .ipv6 => Ipv6Parser.decodeUntil inetNtop layer memory parser.payload
            parser.payloadSize artefacts
        | .other => fail .terminate) := by
  rw [PacketParser.decodeUntil, decodeUntil, bind_eq_of_ok _ parsed]
  cases EtherType.ofWord parser.type <;> exact congrArg _ (if_neg above)

/-- The Ethernet layer ends behind its header. -/
theorem EthernetParser.decodeUntil_ethernet
    {inetNtop : InetNtop} {memory : List UInt8} {packet size : Nat}
    {artefacts : Artefacts} {parser : EthernetParser}
    (parsed : (parseHeader memory packet size).result = .ok parser) :
    PacketParser.decodeUntil inetNtop .ethernet memory packet size artefacts =
      ⟨(parseHeader memory packet size).events,
        .ok ⟨some parser.payload, parser.payloadSize, artefacts⟩⟩ := by
  rw [PacketParser.decodeUntil, decodeUntil, bind_eq_of_ok _ parsed, if_pos rfl, behind,
    events_pure, List.append_nil, result_pure]

theorem EthernetParser.payload_of_parsed
    {memory : List UInt8} {packet size : Nat} {parser : EthernetParser}
    (parsed : (parseHeader memory packet size).result = .ok parser) :
    parser.payload = packet + 14 := by
  rw [parseHeader] at parsed
  split at parsed
  · cases parsed
  obtain ⟨payloadSize, _, parsed⟩ := result_bind_eq_ok_iff.mp parsed
  obtain ⟨etherType, _, parsed⟩ := result_bind_eq_ok_iff.mp parsed
  cases parsed
  rfl

/-- A decoding to a transport layer goes through the layers below. -/
theorem decodeUntil_layered
    (inetNtop : InetNtop) (layer : Layer) (transport : layer = .tcp ∨ layer = .udp)
    (memory : List UInt8) (packet size : Nat) (artefacts : Artefacts) (decoded : Decoded)
    (returned : (PacketParser.decodeUntil inetNtop layer memory packet size artefacts).result =
      .ok decoded) :
    Layered inetNtop layer memory packet size artefacts decoded := by
  have notEthernet : layer ≠ .ethernet := by rcases transport with rfl | rfl <;> decide
  have notIpv4 : layer ≠ .ipv4 := by rcases transport with rfl | rfl <;> decide
  have notIpv6 : layer ≠ .ipv6 := by rcases transport with rfl | rfl <;> decide
  obtain ⟨parser, parsed, network⟩ := EthernetParser.exists_network notEthernet returned
  have through : GoesThrough layer memory
      (PacketParser.decodeUntil inetNtop decoded.artefacts.ipType memory packet size artefacts)
      (PacketParser.decodeUntil inetNtop layer memory packet size artefacts) ∧
      (EthernetParser.parseHeader memory packet size).events <+:
        (PacketParser.decodeUntil inetNtop decoded.artefacts.ipType memory packet size
          artefacts).events := by
    rcases network with ⟨announced, returned⟩ | ⟨announced, returned⟩
    · have through := Ipv4Parser.decodeUntil_goesThrough notIpv4 returned
      obtain ⟨below, _start, lower, _payload, _same⟩ := id through
      have type : decoded.artefacts.ipType = .ipv4 :=
        (through.addresses lower returned).1.trans (Ipv4Parser.ipType_of_returned lower)
      rw [type, EthernetParser.decodeUntil_of_parsed (by decide) parsed,
        EthernetParser.decodeUntil_of_parsed notEthernet parsed, announced]
      exact ⟨through.moved _, List.prefix_append _ _⟩
    · have through := Ipv6Parser.decodeUntil_goesThrough notIpv6 returned
      obtain ⟨below, _start, lower, _payload, _same⟩ := id through
      have type : decoded.artefacts.ipType = .ipv6 :=
        (through.addresses lower returned).1.trans (Ipv6Parser.ipType_of_returned lower)
      rw [type, EthernetParser.decodeUntil_of_parsed (by decide) parsed,
        EthernetParser.decodeUntil_of_parsed notEthernet parsed, announced]
      exact ⟨through.moved _, List.prefix_append _ _⟩
  refine ⟨through.1, ?_, ?_, ?_⟩
  · exact fun below lower => through.1.addresses lower returned
  · rw [EthernetParser.decodeUntil_ethernet parsed]
    exact ⟨_, rfl, congrArg some (EthernetParser.payload_of_parsed parsed)⟩
  · rw [EthernetParser.decodeUntil_ethernet parsed]
    exact through.2

/-- A datagram of a byte between two hosts. -/
def datagram : List UInt8 :=
  List.replicate 12 0 ++ [0x08, 0x00] ++
    [0x45, 0x00, 0x00, 0x1d, 0xa8, 0xb1, 0x40, 0x00, 0x40, 0x11, 0x94, 0x01,
      0x0a, 0x00, 0x00, 0x01, 0x0a, 0x00, 0x00, 0x02] ++
    [0x92, 0xbe, 0x05, 0x39, 0x00, 0x09, 0xfe, 0x37] ++ [0x4a]

theorem decodeUntil_layered_datagram :
    Layered (succeeding inetText) .udp datagram 0 43 {}
      ⟨some 42, 1, ⟨.ipv4, "10.0.0.1", "10.0.0.2", .udp, 37566, 1337⟩⟩ :=
  decodeUntil_layered _ .udp (.inr rfl) datagram 0 43 {} _ (by decide +kernel)

end NetworkTiming
