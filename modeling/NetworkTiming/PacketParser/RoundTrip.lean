import NetworkTiming.PacketParser.Frame
import NetworkTiming.PacketParser.WireFrame

/-!
# Decoding undoes encoding

A frame without extension headers is a frame on the wire, and a complete capture of
it is decoded to what its parts say.
-/

namespace NetworkTiming

open Traced

/-- An IP header without extensions. -/
def InternetHeader.network : InternetHeader → NetworkHeader
  | .ipv4 header => .ipv4 header
  | .ipv6 header => .ipv6 header []

namespace InternetHeader

@[simp] theorem length_network (header : InternetHeader) :
    header.network.length = header.length := by
  cases header <;> rfl

@[simp] theorem encode_network
    (header : InternetHeader) (transport : TransportHeader) (size : Nat) :
    header.network.encode transport.protocol size =
      header.encode transport.protocol size := by
  cases header with
  | ipv4 header => rfl
  | ipv6 header =>
      simp [network, NetworkHeader.encode, encode, ExtensionHeader.encodeChain,
        ExtensionHeader.firstHeader]

@[simp] theorem announced_network (header : InternetHeader) (size : Nat) :
    header.network.announced size = header.announced size := by
  cases header <;> simp [network, NetworkHeader.announced, announced]

@[simp] theorem roomy_network (header : InternetHeader) (size : Nat) :
    header.network.Roomy size := by
  cases header <;> simp [network, NetworkHeader.Roomy]

@[simp] theorem etherType_network (header : InternetHeader) :
    header.network.etherType = header.etherType := by
  cases header <;> rfl

end InternetHeader

namespace Frame

/-- The frame on the wire. -/
def wire (frame : Frame) : WireFrame where
  destination := frame.destination
  source := frame.source
  network := frame.internet.network
  transport := frame.transport
  payload := frame.payload
  padding := frame.padding
  fits := by
    rw [InternetHeader.announced_network]
    exact frame.fits

@[simp] theorem encode_wire (frame : Frame) : frame.wire.encode = frame.encode := by
  simp [WireFrame.encode, WireFrame.headers, WireFrame.ethernetHeader,
    WireFrame.networkHeader, WireFrame.transportHeader, WireFrame.segmentSize, wire,
    encode, ethernetHeader, internetHeader, transportHeader, segmentSize]

@[simp] theorem payloadStart_wire (frame : Frame) :
    frame.wire.payloadStart = frame.payloadStart := by
  simp [WireFrame.payloadStart, wire, payloadStart]

@[simp] theorem artefacts_wire
    (text : AddressFamily → List UInt8 → String) (frame : Frame) :
    frame.wire.artefacts text = frame.artefacts text := by
  obtain ⟨destination, source, internet, transport, payload, padding, fits⟩ := frame
  cases internet <;> rfl

/-- What decoding a well-formed frame up to its transport layer reports. -/
theorem result_decodeUntil_encode
    (text : AddressFamily → List UInt8 → String)
    (frame : Frame)
    (artefacts : Artefacts) :
    (PacketParser.decodeUntil (succeeding text) frame.transport.layer
        frame.encode 0 frame.encode.length artefacts).result =
      .ok {
        payload := some frame.payloadStart
        payloadSize := frame.payload.length
        artefacts := frame.artefacts text } := by
  have transport : frame.transport.layer = .tcp ∨ frame.transport.layer = .udp := by
    cases frame.transport <;> simp [TransportHeader.layer]
  have roomy : frame.wire.Roomy := frame.internet.roomy_network _
  apply Ensures.result_eq fun _ => True
  rw [← encode_wire, WireFrame.encode]
  refine (frame.wire.decodeUntil_headers_iff (returningPolicy _) text transport
    artefacts).mpr ?_
  rw [if_pos ⟨roomy, rfl⟩, payloadStart_wire, artefacts_wire]
  rfl

/-- Decoding a well-formed frame up to its transport layer reports exactly the
payload, without options and padding, and what the headers say. -/
theorem decodeUntil_encode_frame
    (text : AddressFamily → List UInt8 → String)
    (frame : Frame)
    (artefacts : Artefacts) :
    (PacketParser.decodeUntil (succeeding text) frame.transport.layer
        frame.encode 0 frame.encode.length artefacts).result =
      .ok {
        payload := some frame.payloadStart
        payloadSize := frame.payload.length
        artefacts := frame.artefacts text } ∧
    bytesAt frame.encode frame.payloadStart frame.payload.length =
      frame.payload :=
  ⟨result_decodeUntil_encode text frame artefacts, bytesAt_payloadStart frame⟩

end Frame

end NetworkTiming
