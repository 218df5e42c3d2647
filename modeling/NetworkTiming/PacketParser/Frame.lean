import NetworkTiming.Library.BigEndian
import NetworkTiming.PacketParser.Ethernet

/-!
# Well-formed frames

A frame is an Ethernet header, an IPv4 header with options or an IPv6 header
without extension headers, a TCP header with options or a UDP header, a payload
and trailer padding.  Every length field is computed from the parts, and the
parts have the sizes that the fields can express.
-/

namespace NetworkTiming

/-- Option bytes of a header, counted in words of four bytes. -/
structure Options where
  /-- The option bytes. -/
  bytes : List UInt8
  /-- Number of words that the options occupy. -/
  words : Nat
  /-- The options fill their words. -/
  length_bytes : bytes.length = 4 * words
  /-- A header has at most fifteen words, five of them fixed. -/
  words_le : words ≤ 10

/-- No options. -/
def Options.none : Options := ⟨[], 0, rfl, by decide⟩

/-- The fields of a TCP header. -/
structure TcpHeader where
  sport : UInt16
  dport : UInt16
  seq : UInt32
  ack : UInt32
  /-- The low half of the byte that starts with the data offset. -/
  reserved : Fin 16
  flags : UInt8
  window : UInt16
  checksum : UInt16
  urgent : UInt16
  options : Options

/-- The fields of a UDP header. -/
structure UdpHeader where
  sport : UInt16
  dport : UInt16
  checksum : UInt16

/-- The fields of an IPv4 header. -/
structure Ipv4Header where
  tos : UInt8
  id : UInt16
  /-- Flags and fragment offset. -/
  off : UInt16
  ttl : UInt8
  checksum : UInt16
  src : Vector UInt8 4
  dst : Vector UInt8 4
  options : Options

/-- The fields of an IPv6 header. -/
structure Ipv6Header where
  /-- Traffic class and flow label. -/
  trafficFlow : Fin (2 ^ 28)
  hopLimit : UInt8
  src : Vector UInt8 16
  dst : Vector UInt8 16

/-- A TCP header of a segment between two ports, without options. -/
def TcpHeader.between (sport dport : UInt16) : TcpHeader where
  sport := sport
  dport := dport
  seq := 0
  ack := 0
  reserved := ⟨0, by decide⟩
  flags := 24
  window := 512
  checksum := 0
  urgent := 0
  options := Options.none

/-- An IPv6 header of a packet between two addresses. -/
def Ipv6Header.between (src dst : Vector UInt8 16) : Ipv6Header where
  trafficFlow := ⟨0, by decide⟩
  hopLimit := 64
  src := src
  dst := dst

/-! ## Encoding -/

namespace TcpHeader

/-- Size of the header. -/
def length (header : TcpHeader) : Nat := 20 + 4 * header.options.words

/-- The bytes of the header. -/
def encode (header : TcpHeader) : List UInt8 :=
  BigEndian.encode 2 header.sport.toNat ++
  BigEndian.encode 2 header.dport.toNat ++
  BigEndian.encode 4 header.seq.toNat ++
  BigEndian.encode 4 header.ack.toNat ++
  [UInt8.ofNat (16 * (5 + header.options.words) + header.reserved), header.flags] ++
  BigEndian.encode 2 header.window.toNat ++
  BigEndian.encode 2 header.checksum.toNat ++
  BigEndian.encode 2 header.urgent.toNat ++
  header.options.bytes

@[simp] theorem length_encode (header : TcpHeader) :
    header.encode.length = header.length := by
  simp [encode, length, header.options.length_bytes]
  omega

end TcpHeader

namespace UdpHeader

/-- The bytes of the header of a datagram with a payload of `size` bytes. -/
def encode (header : UdpHeader) (size : Nat) : List UInt8 :=
  BigEndian.encode 2 header.sport.toNat ++
  BigEndian.encode 2 header.dport.toNat ++
  BigEndian.encode 2 (8 + size) ++
  BigEndian.encode 2 header.checksum.toNat

@[simp] theorem length_encode (header : UdpHeader) (size : Nat) :
    (header.encode size).length = 8 := by
  simp [encode]

end UdpHeader

/-- A transport header of either kind. -/
inductive TransportHeader
  | tcp (header : TcpHeader)
  | udp (header : UdpHeader)

namespace TransportHeader

/-- The layer that decodes the header. -/
def layer : TransportHeader → Layer
  | .tcp _ => .tcp
  | .udp _ => .udp

/-- The value that announces the header in an IP header. -/
def protocol : TransportHeader → UInt8
  | .tcp _ => 0x06
  | .udp _ => 0x11

/-- Source port. -/
def sport : TransportHeader → UInt16
  | .tcp header => header.sport
  | .udp header => header.sport

/-- Destination port. -/
def dport : TransportHeader → UInt16
  | .tcp header => header.dport
  | .udp header => header.dport

/-- Size of the header. -/
def length : TransportHeader → Nat
  | .tcp header => header.length
  | .udp _ => 8

/-- The bytes of the header in front of a payload of `size` bytes. -/
def encode (size : Nat) : TransportHeader → List UInt8
  | .tcp header => header.encode
  | .udp header => header.encode size

@[simp] theorem length_encode (header : TransportHeader) (size : Nat) :
    (header.encode size).length = header.length := by
  cases header with
  | tcp header => exact header.length_encode
  | udp header => exact header.length_encode size

end TransportHeader

namespace Ipv4Header

/-- Size of the header. -/
def length (header : Ipv4Header) : Nat := 20 + 4 * header.options.words

/-- The bytes of the header in front of a segment of `size` bytes. -/
def encode (header : Ipv4Header) (protocol : UInt8) (size : Nat) : List UInt8 :=
  [UInt8.ofNat (64 + (5 + header.options.words)), header.tos] ++
  BigEndian.encode 2 (header.length + size) ++
  BigEndian.encode 2 header.id.toNat ++
  BigEndian.encode 2 header.off.toNat ++
  [header.ttl, protocol] ++
  BigEndian.encode 2 header.checksum.toNat ++
  header.src.toList ++
  header.dst.toList ++
  header.options.bytes

@[simp] theorem length_encode (header : Ipv4Header) (protocol : UInt8) (size : Nat) :
    (header.encode protocol size).length = header.length := by
  simp [encode, length, header.options.length_bytes]
  omega

end Ipv4Header

namespace Ipv6Header

/-- The bytes of the header in front of a segment of `size` bytes. -/
def encode (header : Ipv6Header) (protocol : UInt8) (size : Nat) : List UInt8 :=
  BigEndian.encode 4 (6 * 2 ^ 28 + header.trafficFlow) ++
  BigEndian.encode 2 size ++
  [protocol, header.hopLimit] ++
  header.src.toList ++
  header.dst.toList

@[simp] theorem length_encode (header : Ipv6Header) (protocol : UInt8) (size : Nat) :
    (header.encode protocol size).length = 40 := by
  simp [encode]

end Ipv6Header

/-- An IP header of either version. -/
inductive InternetHeader
  | ipv4 (header : Ipv4Header)
  | ipv6 (header : Ipv6Header)

namespace InternetHeader

/-- The layer that decodes the header. -/
def layer : InternetHeader → Layer
  | .ipv4 _ => .ipv4
  | .ipv6 _ => .ipv6

/-- The value that announces the header in an Ethernet header. -/
def etherType : InternetHeader → Nat
  | .ipv4 _ => 0x0800
  | .ipv6 _ => 0x86dd

/-- Size of the header. -/
def length : InternetHeader → Nat
  | .ipv4 header => header.length
  | .ipv6 _ => 40

/-- The number in the length field in front of a segment of `size` bytes. -/
def announced (size : Nat) : InternetHeader → Nat
  | .ipv4 header => header.length + size
  | .ipv6 _ => size

/-- The bytes of the header in front of a segment of `size` bytes. -/
def encode (protocol : UInt8) (size : Nat) : InternetHeader → List UInt8
  | .ipv4 header => header.encode protocol size
  | .ipv6 header => header.encode protocol size

@[simp] theorem length_encode
    (header : InternetHeader) (protocol : UInt8) (size : Nat) :
    (header.encode protocol size).length = header.length := by
  cases header with
  | ipv4 header => exact header.length_encode protocol size
  | ipv6 header => exact header.length_encode protocol size

/-- Text of the source address. -/
def srcText (text : AddressFamily → List UInt8 → String) : InternetHeader → String
  | .ipv4 header => text .inet header.src.toList
  | .ipv6 header => text .inet6 header.src.toList

/-- Text of the destination address. -/
def dstText (text : AddressFamily → List UInt8 → String) : InternetHeader → String
  | .ipv4 header => text .inet header.dst.toList
  | .ipv6 header => text .inet6 header.dst.toList

end InternetHeader

/-- A well-formed frame. -/
structure Frame where
  destination : Vector UInt8 6
  source : Vector UInt8 6
  internet : InternetHeader
  transport : TransportHeader
  payload : List UInt8
  /-- Trailer bytes behind the IP packet. -/
  padding : List UInt8
  /-- The length field of the IP header can express the length. -/
  fits : internet.announced (transport.length + payload.length) < 65536

namespace Frame

/-- Size of the segment that the IP packet carries. -/
def segmentSize (frame : Frame) : Nat :=
  frame.transport.length + frame.payload.length

/-- The Ethernet header. -/
def ethernetHeader (frame : Frame) : List UInt8 :=
  frame.destination.toList ++ frame.source.toList ++
    BigEndian.encode 2 frame.internet.etherType

/-- The IP header. -/
def internetHeader (frame : Frame) : List UInt8 :=
  frame.internet.encode frame.transport.protocol frame.segmentSize

/-- The transport header. -/
def transportHeader (frame : Frame) : List UInt8 :=
  frame.transport.encode frame.payload.length

/-- The bytes of the frame. -/
def encode (frame : Frame) : List UInt8 :=
  frame.ethernetHeader ++ (frame.internetHeader ++
    (frame.transportHeader ++ (frame.payload ++ frame.padding)))

/-- Where the payload starts. -/
def payloadStart (frame : Frame) : Nat :=
  14 + frame.internet.length + frame.transport.length

/-- What the headers of the frame say. -/
def artefacts (text : AddressFamily → List UInt8 → String) (frame : Frame) :
    Artefacts where
  ipType := frame.internet.layer
  srcIp := frame.internet.srcText text
  dstIp := frame.internet.dstText text
  payloadType := frame.transport.layer
  srcPort := frame.transport.sport
  dstPort := frame.transport.dport

@[simp] theorem length_ethernetHeader (frame : Frame) :
    frame.ethernetHeader.length = 14 := by
  simp [ethernetHeader]

@[simp] theorem length_internetHeader (frame : Frame) :
    frame.internetHeader.length = frame.internet.length := by
  simp [internetHeader]

@[simp] theorem length_transportHeader (frame : Frame) :
    frame.transportHeader.length = frame.transport.length := by
  simp [transportHeader]

theorem length_encode (frame : Frame) :
    frame.encode.length =
      14 + frame.internet.length + frame.segmentSize + frame.padding.length := by
  simp only [encode, List.length_append, length_ethernetHeader,
    length_internetHeader, length_transportHeader, segmentSize]
  omega

/-- The payload of the frame stands where it starts. -/
theorem bytesAt_payloadStart (frame : Frame) :
    bytesAt frame.encode frame.payloadStart frame.payload.length =
      frame.payload := by
  have front : frame.encode =
      (frame.ethernetHeader ++ frame.internetHeader ++ frame.transportHeader) ++
        (frame.payload ++ frame.padding) := by
    simp [encode]
  have start : (frame.ethernetHeader ++ frame.internetHeader ++
      frame.transportHeader).length = frame.payloadStart := by
    simp [payloadStart, Nat.add_assoc]
  rw [bytesAt, front, ← start, List.drop_left, List.take_left]

end Frame
end NetworkTiming
