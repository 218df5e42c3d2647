import NetworkTiming.PacketParser.ExtensionHeaders

/-!
# Frames on the wire

A frame on the wire is an Ethernet header, an IPv4 header with options or an IPv6
header with extension headers, a TCP header with options or a UDP header, a payload
and trailer padding.  A capture may end within the payload: what the decoder reports
depends on the headers and on the length of the whole frame.
-/

namespace NetworkTiming

open Traced ExtensionHeader

/-- What stands between the Ethernet header and the transport header. -/
inductive NetworkHeader
  | ipv4 (header : Ipv4Header)
  | ipv6 (header : Ipv6Header) (extensions : List ExtensionHeader)

namespace NetworkHeader

/-- The layer that decodes the header. -/
def layer : NetworkHeader → Layer
  | .ipv4 _ => .ipv4
  | .ipv6 _ _ => .ipv6

/-- The family of its addresses. -/
def family : NetworkHeader → AddressFamily
  | .ipv4 _ => .inet
  | .ipv6 _ _ => .inet6

/-- The bytes of the source address. -/
def src : NetworkHeader → List UInt8
  | .ipv4 header => header.src.toList
  | .ipv6 header _ => header.src.toList

/-- The bytes of the destination address. -/
def dst : NetworkHeader → List UInt8
  | .ipv4 header => header.dst.toList
  | .ipv6 header _ => header.dst.toList

/-- The value that announces the header in an Ethernet header. -/
def etherType : NetworkHeader → Nat
  | .ipv4 _ => 0x0800
  | .ipv6 _ _ => 0x86dd

/-- Size of the header and its extensions. -/
def length : NetworkHeader → Nat
  | .ipv4 header => header.length
  | .ipv6 _ extensions => 40 + chainLength extensions

/-- The number in the length field in front of a segment of `size` bytes. -/
def announced (size : Nat) : NetworkHeader → Nat
  | .ipv4 header => header.length + size
  | .ipv6 _ extensions => chainLength extensions + size

/-- The bytes of the header in front of a segment of `size` bytes. -/
def encode (protocol : UInt8) (size : Nat) : NetworkHeader → List UInt8
  | .ipv4 header => header.encode protocol size
  | .ipv6 header extensions =>
      header.encode (firstHeader protocol extensions) (chainLength extensions + size) ++
        encodeChain protocol extensions

/-- The parser passes the extensions in front of a segment of `size` bytes. -/
def Roomy (size : Nat) : NetworkHeader → Prop
  | .ipv4 _ => True
  | .ipv6 _ extensions => ExtensionHeader.Roomy extensions size

instance (size : Nat) : (header : NetworkHeader) → Decidable (header.Roomy size)
  | .ipv4 _ => isTrue trivial
  | .ipv6 _ extensions =>
      inferInstanceAs (Decidable (ExtensionHeader.Roomy extensions size))

@[simp] theorem length_encode
    (header : NetworkHeader) (protocol : UInt8) (size : Nat) :
    (header.encode protocol size).length = header.length := by
  cases header with
  | ipv4 header => exact header.length_encode protocol size
  | ipv6 header extensions => simp [encode, length]

end NetworkHeader

/-- A well-formed frame. -/
structure WireFrame where
  destination : Vector UInt8 6
  source : Vector UInt8 6
  network : NetworkHeader
  transport : TransportHeader
  payload : List UInt8
  /-- Trailer bytes behind the IP packet. -/
  padding : List UInt8
  /-- The length field of the IP header can express the length. -/
  fits : network.announced (transport.length + payload.length) < 65536

namespace WireFrame

/-- Size of the segment that the IP packet carries. -/
def segmentSize (frame : WireFrame) : Nat :=
  frame.transport.length + frame.payload.length

/-- The Ethernet header. -/
def ethernetHeader (frame : WireFrame) : List UInt8 :=
  frame.destination.toList ++ frame.source.toList ++
    BigEndian.encode 2 frame.network.etherType

/-- The IP header and its extensions. -/
def networkHeader (frame : WireFrame) : List UInt8 :=
  frame.network.encode frame.transport.protocol frame.segmentSize

/-- The transport header. -/
def transportHeader (frame : WireFrame) : List UInt8 :=
  frame.transport.encode frame.payload.length

/-- The bytes of all headers. -/
def headers (frame : WireFrame) : List UInt8 :=
  frame.ethernetHeader ++ (frame.networkHeader ++ frame.transportHeader)

/-- The bytes of the frame. -/
def encode (frame : WireFrame) : List UInt8 :=
  frame.headers ++ (frame.payload ++ frame.padding)

/-- Where the payload starts. -/
def payloadStart (frame : WireFrame) : Nat :=
  14 + frame.network.length + frame.transport.length

/-- The parser passes the extension headers of the frame. -/
def Roomy (frame : WireFrame) : Prop := frame.network.Roomy frame.segmentSize

instance (frame : WireFrame) : Decidable frame.Roomy :=
  inferInstanceAs (Decidable (frame.network.Roomy _))

/-- What the headers of the frame say. -/
def artefacts (text : AddressFamily → List UInt8 → String) (frame : WireFrame) :
    Artefacts where
  ipType := frame.network.layer
  srcIp := text frame.network.family frame.network.src
  dstIp := text frame.network.family frame.network.dst
  payloadType := frame.transport.layer
  srcPort := frame.transport.sport
  dstPort := frame.transport.dport

@[simp] theorem length_ethernetHeader (frame : WireFrame) :
    frame.ethernetHeader.length = 14 := by
  simp [ethernetHeader]

@[simp] theorem length_headers (frame : WireFrame) :
    frame.headers.length = frame.payloadStart := by
  simp [headers, networkHeader, transportHeader, payloadStart, Nat.add_assoc]

theorem length_encode (frame : WireFrame) :
    frame.encode.length =
      14 + frame.network.length + frame.segmentSize + frame.padding.length := by
  simp only [encode, List.length_append, length_headers, payloadStart, segmentSize]
  omega

/-- The payload of the frame stands where it starts. -/
theorem bytesAt_payloadStart (frame : WireFrame) :
    bytesAt frame.encode frame.payloadStart frame.payload.length = frame.payload := by
  rw [bytesAt, encode, ← length_headers, List.drop_left, List.take_left]

section Decoding

variable {permitted : Access → Prop} {faults : Fault → Prop} {undecodable abrupt : Prop}

/-- The Ethernet parser recognizes the IP version of a frame. -/
theorem etherType_headers (frame : WireFrame) (rest : List UInt8) :
    EthernetParser.etherType (frame.headers ++ rest) 0 =
      match frame.network with
      | .ipv4 _ => .ipv4
      | .ipv6 _ _ => .ipv6 := by
  have located : (frame.headers ++ rest).drop 12 =
      BigEndian.encode 2 frame.network.etherType ++
        (frame.networkHeader ++ (frame.transportHeader ++ rest)) := by
    have front : (frame.destination.toList ++ frame.source.toList).length = 12 := by
      simp
    rw [headers, ethernetHeader]
    simp only [List.append_assoc]
    rw [← List.append_assoc, List.drop_left' front]
  have first := byteAt_add located 0
  have second := byteAt_add located 1
  simp only [BigEndian.encode, List.cons_append, List.nil_append,
    byteAt_cons_succ, byteAt_cons_zero, Nat.add_zero] at first second
  rw [EthernetParser.etherType, Nat.zero_add, Nat.zero_add, first, second]
  cases frame.network with
  | ipv4 network =>
      change EthernetParser.EtherType.ofWord (ntohs (hostU16
        (UInt8.ofNat (0x0800 / 256 ^ 1)) (UInt8.ofNat (0x0800 / 256 ^ 0)))) = .ipv4
      decide
  | ipv6 network extensions =>
      change EthernetParser.EtherType.ofWord (ntohs (hostU16
        (UInt8.ofNat (0x86dd / 256 ^ 1)) (UInt8.ofNat (0x86dd / 256 ^ 0)))) = .ipv6
      decide

/-- From the headers of a frame, whatever stands behind them, the decoder learns what
they say and where the payload lies, if they announce the layer that it is asked
for. -/
theorem decodeUntil_headers_iff
    {returns : Decoded → Prop} {layer : Layer} {rest : List UInt8}
    (frame : WireFrame)
    (policy : Policy (frame.headers ++ rest) permitted faults undecodable abrupt)
    (text : AddressFamily → List UInt8 → String)
    (transport : layer = .tcp ∨ layer = .udp)
    (artefacts : Artefacts) :
    Ensures permitted faults returns
        (PacketParser.decodeUntil (succeeding text) layer (frame.headers ++ rest) 0
          frame.encode.length artefacts) ↔
      if frame.Roomy ∧ layer = frame.transport.layer then
        returns {
          payload := some frame.payloadStart
          payloadSize := frame.payload.length
          artefacts := frame.artefacts text }
      else abrupt := by
  have size := frame.length_encode
  have located : (frame.headers ++ rest).drop 14 =
      frame.networkHeader ++ (frame.transportHeader ++ rest) := by
    rw [headers, List.append_assoc, List.drop_left' frame.length_ethernetHeader,
      List.append_assoc]
  have room : 14 ≤ (frame.headers ++ rest).length := by
    rw [List.length_append, length_headers, payloadStart]
    omega
  have other : layer ≠ .ethernet ∧ layer ≠ .ipv4 ∧ layer ≠ .ipv6 := by
    rcases transport with rfl | rfl <;> decide
  rw [PacketParser.decodeUntil, EthernetParser.decodeUntil_iff policy _ _ (by omega),
    if_neg (by omega), if_neg other.1, etherType_headers, Nat.zero_add, size]
  obtain ⟨destination, source, network, transport, payload, padding, fits⟩ := frame
  cases network with
  | ipv4 network =>
      have fixed : 20 ≤ network.length := Nat.le_add_right _ _
      refine (network.decodeUntil_encode_iff policy text 14 payload.length _ located fits
        (by simp only [NetworkHeader.length]; omega) other.2.1 artefacts).trans ?_
      simp only [Roomy, NetworkHeader.Roomy, true_and]
      exact Iff.rfl
  | ipv6 network extensions =>
      rw [networkHeader, NetworkHeader.encode, List.append_assoc] at located
      refine (network.decodeUntil_encode_iff policy text 14 payload.length _ located fits
        (by simp only [NetworkHeader.length, segmentSize]; omega) other.2.2
        artefacts).trans ?_
      rw [payloadStart, NetworkHeader.length, ← Nat.add_assoc 14 40]
      exact Iff.rfl

end Decoding

end WireFrame

end NetworkTiming
