import NetworkTiming.PacketParser.HeaderFields

/-!
# Extension headers

Between its fixed header and its segment, an IPv6 packet may carry a chain of
extension headers, each of which announces the next header and its own size.  The
parser demands 64 bytes wherever an extension header starts, so that it passes
exactly the chains whose last header has that much room together with the segment.
-/

namespace NetworkTiming

open Traced

/-- Extension headers that announce their size in units of eight bytes. -/
inductive ExtensionKind
  | hopByHop
  | routing
  | destinationOptions
  deriving DecidableEq, Repr

namespace ExtensionKind

/-- The value that announces the header. -/
def value : ExtensionKind → UInt8
  | .hopByHop => Ipv6Parser.NextHeaderType.hopopt
  | .routing => Ipv6Parser.NextHeaderType.ipv6Route
  | .destinationOptions => Ipv6Parser.NextHeaderType.ipv6Opts

@[simp] theorem headerKind_value (kind : ExtensionKind) :
    Ipv6Parser.headerKind kind.value = some .extensionHeader := by
  cases kind <;> rfl

end ExtensionKind

/-- An extension header. -/
structure ExtensionHeader where
  kind : ExtensionKind
  /-- Size of the header in units of eight bytes, the first of them not counted. -/
  hdrLen : UInt8
  /-- What stands behind the two fixed bytes. -/
  content : List UInt8
  /-- The content fills the header. -/
  length_content : content.length = hdrLen.toNat * 8 + 6

namespace ExtensionHeader

/-- Size of the header. -/
def length (extension : ExtensionHeader) : Nat := extension.hdrLen.toNat * 8 + 8

/-- The bytes of the header in front of a header of another kind. -/
def encode (extension : ExtensionHeader) (next : UInt8) : List UInt8 :=
  next :: extension.hdrLen :: extension.content

@[simp] theorem length_encode (extension : ExtensionHeader) (next : UInt8) :
    (extension.encode next).length = extension.length := by
  simp [encode, length, extension.length_content]

/-! ## Chains -/

/-- The value that announces the first header of a chain in front of a segment. -/
def firstHeader (protocol : UInt8) : List ExtensionHeader → UInt8
  | [] => protocol
  | extension :: _ => extension.kind.value

/-- Size of a chain. -/
def chainLength (extensions : List ExtensionHeader) : Nat :=
  (extensions.map length).sum

/-- The bytes of a chain in front of a segment. -/
def encodeChain (protocol : UInt8) : List ExtensionHeader → List UInt8
  | [] => []
  | extension :: extensions =>
      extension.encode (firstHeader protocol extensions) ++
        encodeChain protocol extensions

@[simp] theorem chainLength_nil : chainLength [] = 0 := rfl

theorem chainLength_cons
    (extension : ExtensionHeader) (extensions : List ExtensionHeader) :
    chainLength (extension :: extensions) =
      extension.length + chainLength extensions := by
  simp [chainLength]

@[simp] theorem length_encodeChain
    (protocol : UInt8) (extensions : List ExtensionHeader) :
    (encodeChain protocol extensions).length = chainLength extensions := by
  induction extensions with
  | nil => rfl
  | cons extension extensions inductionHypothesis =>
      simp [encodeChain, chainLength_cons, inductionHypothesis]

/-- The last extension header and the segment occupy at least 64 bytes. -/
def Roomy (extensions : List ExtensionHeader) (segment : Nat) : Prop :=
  ∀ last ∈ extensions.getLast?, 64 ≤ last.length + segment

instance (extensions : List ExtensionHeader) (segment : Nat) :
    Decidable (Roomy extensions segment) := by
  unfold Roomy
  infer_instance

@[simp] theorem roomy_nil (segment : Nat) : Roomy [] segment := by
  simp [Roomy]

/-- Every header of a roomy chain has that much room. -/
theorem roomy_cons
    {extension : ExtensionHeader} {extensions : List ExtensionHeader}
    {segment : Nat} :
    Roomy (extension :: extensions) segment ↔
      64 ≤ chainLength (extension :: extensions) + segment ∧
        Roomy extensions segment := by
  induction extensions generalizing extension with
  | nil => simp [Roomy, chainLength_cons]
  | cons second extensions inductionHypothesis =>
      have same : Roomy (extension :: second :: extensions) segment ↔
          Roomy (second :: extensions) segment := by
        simp only [Roomy, List.getLast?_cons_cons]
      rw [same, chainLength_cons]
      constructor
      · intro roomy
        have first := (inductionHypothesis.mp roomy).1
        exact ⟨by omega, roomy⟩
      · exact And.right

section Walk

variable {memory rest : List UInt8} {protocol : UInt8}
  {permitted : Access → Prop} {faults : Fault → Prop} {undecodable abrupt : Prop}

/-- The walk passes a roomy chain and ends at the segment, and any other chain
terminates the program. -/
theorem skipExtensions_encode_iff
    (policy : Policy memory permitted faults undecodable abrupt)
    {returns : UInt8 × Nat × Nat → Prop}
    (upper : Ipv6Parser.headerKind protocol = some .payload)
    (extensions : List ExtensionHeader)
    (offset segment : Nat)
    (located : memory.drop offset = encodeChain protocol extensions ++ rest) :
    Ensures permitted faults returns
        (Ipv6Parser.skipExtensions memory (firstHeader protocol extensions)
          offset (chainLength extensions + segment)) ↔
      if Roomy extensions segment then
        returns (protocol, offset + chainLength extensions, segment)
      else abrupt := by
  induction extensions generalizing offset with
  | nil =>
      rw [Ipv6Parser.skipExtensions, firstHeader, Ipv6Parser.isExtensionHeader, upper]
      simp
  | cons extension extensions inductionHypothesis =>
      have room := congrArg List.length located
      simp only [List.length_drop, List.length_append, length_encodeChain,
        chainLength_cons, length] at room
      have next := byteAt_add located 0
      have hdrLen := byteAt_add located 1
      simp only [encodeChain, encode, List.cons_append, byteAt_cons_zero,
        byteAt_cons_succ, Nat.add_zero] at next hdrLen
      have behind : memory.drop (offset + extension.length) =
          encodeChain protocol extensions ++ rest := by
        rw [← List.drop_drop, located, encodeChain, List.append_assoc,
          ← length_encode extension (firstHeader protocol extensions), List.drop_left]
      have first : offset < memory.length := by omega
      have second : offset + 1 < memory.length := by omega
      rw [Ipv6Parser.skipExtensions, firstHeader, Ipv6Parser.isExtensionHeader,
        ExtensionKind.headerKind_value]
      simp only [roomy_cons]
      by_cases short : chainLength (extension :: extensions) + segment < 64
      · have stuck : ¬(64 ≤ chainLength (extension :: extensions) + segment ∧
            Roomy extensions segment) := by omega
        simp [stuck, short, policy.terminate]
      · have enough : 64 ≤ chainLength (extension :: extensions) + segment := by omega
        have fits : extension.hdrLen.toNat * 8 + 8 ≤
            chainLength (extension :: extensions) + segment := by
          rw [chainLength_cons, length]
          omega
        have remaining : chainLength (extension :: extensions) + segment -
            (extension.hdrLen.toNat * 8 + 8) = chainLength extensions + segment := by
          rw [chainLength_cons, length]
          omega
        have rest := inductionHypothesis (offset + extension.length) behind
        have ordered := policy.ordered _ _ fits
        simp only [short, if_false, ensures_bind, ensures_pure, ensures_emit,
          policy.readU8_iff, first, second, next, hdrLen, Nat.not_lt.mpr fits,
          sizeDifference_of_le fits, remaining, ordered, enough, true_and,
          BEq.rfl, if_true]
        rw [length] at rest
        rw [rest, chainLength_cons, length, Nat.add_assoc]

end Walk

end ExtensionHeader

open ExtensionHeader

section Extended

variable {memory rest : List UInt8} {permitted : Access → Prop} {faults : Fault → Prop}
  {undecodable abrupt : Prop}

/-- What the parser does at the end of a chain is up to the transport header there. -/
theorem TransportHeader.handsOn_iff
    {returns : Decoded → Prop} {layer : Layer}
    (header : TransportHeader)
    (upper : layer ≠ .ipv6)
    (artefacts : Artefacts)
    (offset remaining : Nat) :
    Ipv6Parser.HandsOn permitted faults abrupt returns layer memory artefacts
        header.protocol offset remaining ↔
      Ensures permitted faults returns
        (header.parser layer memory offset remaining artefacts) := by
  unfold Ipv6Parser.HandsOn
  rw [if_neg upper]
  cases header with
  | tcp header => exact Iff.rfl
  | udp header => exact Iff.rfl

/-- The IPv6 parser recovers a segment behind a roomy chain of extension headers, if
it is asked for its layer. -/
theorem Ipv6Header.decodeUntil_encode_iff
    {returns : Decoded → Prop} {layer : Layer}
    {transport : TransportHeader} {extensions : List ExtensionHeader}
    (policy : Policy memory permitted faults undecodable abrupt)
    (text : AddressFamily → List UInt8 → String)
    (header : Ipv6Header)
    (packet size announced : Nat)
    (located : memory.drop packet =
      header.encode (firstHeader transport.protocol extensions)
          (chainLength extensions + (transport.length + size)) ++
        (encodeChain transport.protocol extensions ++
          (transport.encode size ++ rest)))
    (fits : chainLength extensions + (transport.length + size) < 65536)
    (enough : 40 + (chainLength extensions + (transport.length + size)) ≤ announced)
    (upper : layer ≠ .ipv6)
    (artefacts : Artefacts) :
    Ensures permitted faults returns
        (Ipv6Parser.decodeUntil (succeeding text) layer memory packet announced
          artefacts) ↔
      if Roomy extensions (transport.length + size) ∧ layer = transport.layer then
        returns {
          payload := some
            (packet + 40 + chainLength extensions + transport.length)
          payloadSize := size
          artefacts := {
            ipType := .ipv6
            srcIp := text .inet6 header.src.toList
            dstIp := text .inet6 header.dst.toList
            payloadType := transport.layer
            srcPort := transport.sport
            dstPort := transport.dport } }
      else abrupt := by
  have room := congrArg List.length located
  simp only [List.length_drop, List.length_append, length_encode] at room
  obtain ⟨version, payloadLength, first, source, destination⟩ :=
    Ipv6Header.fields_encode located fits
  have chain : memory.drop (packet + 40) =
      encodeChain transport.protocol extensions ++ (transport.encode size ++ rest) := by
    rw [← List.drop_drop, located, List.drop_left' (length_encode _ _ _)]
  have segment : memory.drop (packet + 40 + chainLength extensions) =
      transport.encode size ++ rest := by
    rw [← List.drop_drop, chain, List.drop_left' (length_encodeChain _ _)]
  have known : Ipv6Parser.headerKind transport.protocol = some .payload := by
    cases transport <;> rfl
  rw [Ipv6Parser.decodeUntil_iff_skipExtensions policy _ _ (by omega),
    if_neg (by omega), if_neg (not_not.mpr version), payloadLength,
    if_neg (by omega), first,
    skipExtensions_encode_iff policy known extensions _ _ chain]
  by_cases roomy : Roomy extensions (transport.length + size)
  · rw [if_pos roomy]
    refine (transport.handsOn_iff upper _ _ _).trans
      ((TransportHeader.decodeUntil_encode_iff policy segment (by omega) layer _).trans ?_)
    rw [Ipv6Parser.artefactsOf, source, destination]
    simp only [roomy, true_and]
  · simp only [roomy, if_false, false_and]

end Extended

/-! ## Packets -/

/-- An IPv6 packet with extension headers and a segment. -/
structure Ipv6Packet where
  header : Ipv6Header
  extensions : List ExtensionHeader
  transport : TransportHeader
  payload : List UInt8
  /-- The length field can express the length. -/
  fits : chainLength extensions + (transport.length + payload.length) < 65536

namespace Ipv6Packet

/-- The bytes of the packet. -/
def encode (packet : Ipv6Packet) : List UInt8 :=
  packet.header.encode (firstHeader packet.transport.protocol packet.extensions)
      (chainLength packet.extensions +
        (packet.transport.length + packet.payload.length)) ++
    (encodeChain packet.transport.protocol packet.extensions ++
      (packet.transport.encode packet.payload.length ++ packet.payload))

/-- Where the payload starts. -/
def payloadStart (packet : Ipv6Packet) : Nat :=
  40 + chainLength packet.extensions + packet.transport.length

/-- What the headers of the packet say. -/
def artefacts (text : AddressFamily → List UInt8 → String) (packet : Ipv6Packet) :
    Artefacts where
  ipType := .ipv6
  srcIp := text .inet6 packet.header.src.toList
  dstIp := text .inet6 packet.header.dst.toList
  payloadType := packet.transport.layer
  srcPort := packet.transport.sport
  dstPort := packet.transport.dport

theorem length_encode (packet : Ipv6Packet) :
    packet.encode.length =
      40 + (chainLength packet.extensions +
        (packet.transport.length + packet.payload.length)) := by
  simp [encode]

section Located

variable (packet : Ipv6Packet) (front rest : List UInt8)

/-- What stands where the packet starts. -/
theorem drop_front :
    (front ++ (packet.encode ++ rest)).drop front.length =
      packet.header.encode (firstHeader packet.transport.protocol packet.extensions)
          (chainLength packet.extensions +
            (packet.transport.length + packet.payload.length)) ++
        (encodeChain packet.transport.protocol packet.extensions ++
          (packet.transport.encode packet.payload.length ++ (packet.payload ++ rest))) := by
  rw [List.drop_left, encode]
  simp only [List.append_assoc]

/-- The payload of the packet stands where it starts. -/
theorem bytesAt_payloadStart :
    bytesAt (front ++ (packet.encode ++ rest)) (front.length + packet.payloadStart)
      packet.payload.length = packet.payload := by
  rw [bytesAt_add (packet.drop_front front rest), bytesAt, payloadStart,
    ← List.drop_drop, ← List.drop_drop,
    List.drop_left' (Ipv6Header.length_encode _ _ _),
    List.drop_left' (length_encodeChain _ _),
    List.drop_left' (TransportHeader.length_encode _ _), List.take_left]

end Located

/-- A packet that stands anywhere in a buffer, in front of any other bytes, is
decoded to exactly its payload, its ports and its addresses if and only if its last
extension header and its segment occupy at least 64 bytes. -/
theorem decodeUntil_encode_iff_roomy
    (text : AddressFamily → List UInt8 → String)
    (packet : Ipv6Packet)
    (front rest : List UInt8)
    (artefacts : Artefacts) :
    ((Ipv6Parser.decodeUntil (succeeding text) packet.transport.layer
          (front ++ (packet.encode ++ rest)) front.length
          (packet.encode.length + rest.length) artefacts).result =
        .ok {
          payload := some (front.length + packet.payloadStart)
          payloadSize := packet.payload.length
          artefacts := packet.artefacts text } ∧
      bytesAt (front ++ (packet.encode ++ rest)) (front.length + packet.payloadStart)
          packet.payload.length = packet.payload) ↔
      Roomy packet.extensions (packet.transport.length + packet.payload.length) := by
  have upper : packet.transport.layer ≠ .ipv6 := by
    cases packet.transport <;> simp [TransportHeader.layer]
  have enough : 40 + (chainLength packet.extensions +
      (packet.transport.length + packet.payload.length)) ≤
        packet.encode.length + rest.length := by
    rw [length_encode]
    omega
  rw [and_iff_left (packet.bytesAt_payloadStart front rest)]
  constructor
  · intro returned
    by_contra cramped
    have ended : Ensures (fun _ => True)
        (fun fault => fault = .terminate ∨ fault = .outOfRange) (fun _ : Decoded => False)
        (Ipv6Parser.decodeUntil (succeeding text) packet.transport.layer
          (front ++ (packet.encode ++ rest)) front.length
          (packet.encode.length + rest.length) artefacts) := by
      rw [packet.header.decodeUntil_encode_iff (endingPolicy _) text _ _ _
        (packet.drop_front front rest) packet.fits enough upper artefacts,
        if_neg fun both => cramped both.1]
      trivial
    exact ended.value _ returned
  · intro roomy
    apply Ensures.result_eq fun _ => True
    rw [packet.header.decodeUntil_encode_iff (returningPolicy _) text _ _ _
      (packet.drop_front front rest) packet.fits enough upper artefacts,
      if_pos ⟨roomy, rfl⟩, payloadStart]
    simp only [Nat.add_assoc, Ipv6Packet.artefacts]

/-- A segment of 21 bytes behind one extension header of eight bytes. -/
def shortOptions : Ipv6Packet where
  header := .between (.replicate 16 1) (.replicate 16 2)
  extensions := [⟨.hopByHop, 0, [1, 4, 0, 0, 0, 0], rfl⟩]
  transport := .tcp (.between 49152 80)
  payload := [65]
  fits := by decide

/-- The parser ends the program on a well-formed packet. -/
theorem shortOptions_not_decoded :
    (Ipv6Parser.decodeUntil (succeeding inetText) .tcp shortOptions.encode 0
        shortOptions.encode.length {}).result = .error .terminate ∧
      ¬((Ipv6Parser.decodeUntil (succeeding inetText) .tcp shortOptions.encode 0
          shortOptions.encode.length {}).result =
        .ok {
          payload := some shortOptions.payloadStart
          payloadSize := 1
          artefacts := shortOptions.artefacts inetText }) := by
  have ended : (Ipv6Parser.decodeUntil (succeeding inetText) .tcp shortOptions.encode 0
      shortOptions.encode.length {}).result = .error .terminate := by
    decide +kernel
  rw [ended]
  exact ⟨rfl, nofun⟩

end Ipv6Packet

end NetworkTiming
