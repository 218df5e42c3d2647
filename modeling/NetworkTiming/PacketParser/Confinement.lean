import NetworkTiming.PacketParser.Ethernet

/-!
# Decoding stays inside the packet

`Confined` says that a decoding reads only bytes of the packet, that none of its
size differences wraps, and that the payload it reports lies in the packet and
behind the fixed headers of the layers passed.  Neither the IPv4 lengths nor the
TCP data offset are checked by the parsers, so confinement is a property of the
length fields of the packet: `decodeUntil_confined_iff` says exactly which.
-/

namespace NetworkTiming

open Traced

/-- End of the fixed headers of the layers passed on the way to a layer. -/
def fixedHeaders (layer : Layer) (artefacts : Artefacts) : Nat :=
  let internet := if artefacts.ipType = .ipv4 then 20 else 40
  match layer with
  | .ethernet => 14
  | .ipv4 | .ipv6 => 14 + internet
  | .tcp => 14 + internet + 20
  | .udp => 14 + internet + 8

/-- The payload is empty or lies in the packet, and a payload that is not the
null pointer starts behind the fixed headers. -/
def PayloadInside (layer : Layer) (size : Nat) (decoded : Decoded) : Prop :=
  match decoded.payload with
  | none => decoded.payloadSize = 0
  | some start =>
      (decoded.payloadSize = 0 ∨ start + decoded.payloadSize ≤ size) ∧
        fixedHeaders layer decoded.artefacts ≤ start

/-- A decoding of a packet of `size` bytes that stays inside it. -/
structure Confined (layer : Layer) (size : Nat) (run : Decode Decoded) : Prop where
  /-- Only bytes of the packet are read. -/
  reads : ∀ offset, .read offset ∈ run.events → offset < size
  /-- No difference of sizes wraps. -/
  differences : ∀ minuend subtrahend,
    .difference minuend subtrahend ∈ run.events → subtrahend ≤ minuend
  /-- A reported payload lies in the packet. -/
  payload : ∀ decoded, run.result = .ok decoded → PayloadInside layer size decoded

/-- Accesses of a confined decoding. -/
def Contained (size : Nat) : Access → Prop
  | .read offset => offset < size
  | .difference minuend subtrahend => subtrahend ≤ minuend

/-- Confinement is a postcondition that allows every fault. -/
theorem confined_iff_ensures (layer : Layer) (size : Nat) (run : Decode Decoded) :
    Confined layer size run ↔
      Ensures (Contained size) (fun _ => True) (PayloadInside layer size) run := by
  constructor
  · intro confined
    refine ⟨?_, fun _ _ => trivial, confined.payload⟩
    intro event logged
    cases event with
    | read offset => exact confined.reads offset logged
    | difference minuend subtrahend =>
        exact confined.differences minuend subtrahend logged
  · intro ensured
    exact ⟨fun offset logged => ensured.event _ logged,
      fun minuend subtrahend logged => ensured.event _ logged, ensured.value⟩

/-- Confinement forbids reads past the packet and allows every fault. -/
theorem confinedPolicy (memory : List UInt8) :
    Policy memory (Contained memory.length) (fun _ => True) True True where
  inside _ within := within
  outside _ past reads := by
    intro _
    exact absurd past (Nat.not_le.mpr reads)
  ordered _ _ le := le
  invalidArgument _ := Iff.rfl
  terminate := Iff.rfl
  outOfRange := Iff.rfl

/-- An Ethernet frame that ends behind its IPv4 header although the header
announces a TCP segment of 20 bytes. -/
def truncatedFrame : List UInt8 :=
  [0x00, 0x90, 0x4c, 0x0d, 0xf4, 0x3e, 0x44, 0x8a, 0x5b, 0x85, 0x0d, 0x6e,
   0x08, 0x00,
   0x45, 0x00, 0x00, 0x28, 0x6c, 0xfe, 0x40, 0x00, 0x40, 0x06, 0xe7, 0xf0,
   0xc0, 0xa8, 0xb2, 0x2c, 0xc0, 0xa8, 0xb2, 0x3b]

/-- The TCP parser reads the source port behind the end of the frame. -/
theorem truncatedFrame_not_confined :
    ¬Confined .tcp truncatedFrame.length
      (PacketParser.decodeUntil (succeeding inetText) .tcp truncatedFrame 0
        truncatedFrame.length {}) := by
  intro confined
  have past := confined.reads 34 (by decide)
  exact absurd past (by decide)

/-! ## Packets whose lengths are consistent -/

/-- The lengths of an IPv4 packet behind an Ethernet header, as far as a decoding
up to `layer` uses them: the header fits in the total length; a requested payload
lies in the frame and behind the fixed headers; a transport header that is long
enough to be parsed lies in the frame. -/
structure Ipv4Lengths (layer : Layer) (frame : List UInt8) : Prop where
  /-- The header is no longer than the packet. -/
  header : Ipv4Parser.internetHeaderLength frame 14 ≤ Ipv4Parser.totalLength frame 14
  /-- The payload of the packet. -/
  internet : layer = .ipv4 →
    20 ≤ Ipv4Parser.internetHeaderLength frame 14 ∧
      (Ipv4Parser.totalLength frame 14 = Ipv4Parser.internetHeaderLength frame 14 ∨
        14 + Ipv4Parser.totalLength frame 14 ≤ frame.length)
  /-- The TCP segment and its payload. -/
  tcp : layer = .tcp → Ipv4Parser.protocol frame 14 = .tcp →
    Ipv4Parser.internetHeaderLength frame 14 + 20 ≤ Ipv4Parser.totalLength frame 14 →
      Ipv4Parser.segment frame 14 + 12 < frame.length ∧
      Ipv4Parser.internetHeaderLength frame 14 +
          TcpParser.dataOffset frame (Ipv4Parser.segment frame 14) ≤
        Ipv4Parser.totalLength frame 14 ∧
      40 ≤ Ipv4Parser.internetHeaderLength frame 14 +
          TcpParser.dataOffset frame (Ipv4Parser.segment frame 14) ∧
      (Ipv4Parser.totalLength frame 14 = Ipv4Parser.internetHeaderLength frame 14 +
          TcpParser.dataOffset frame (Ipv4Parser.segment frame 14) ∨
        14 + Ipv4Parser.totalLength frame 14 ≤ frame.length)
  /-- The UDP datagram and its payload. -/
  udp : layer = .udp → Ipv4Parser.protocol frame 14 = .udp →
    Ipv4Parser.internetHeaderLength frame 14 + 8 ≤ Ipv4Parser.totalLength frame 14 →
      Ipv4Parser.segment frame 14 + 7 < frame.length ∧
      (Ipv4Parser.internetHeaderLength frame 14 +
          wordAt frame (Ipv4Parser.segment frame 14 + 4) ≤
        Ipv4Parser.totalLength frame 14 →
        20 ≤ Ipv4Parser.internetHeaderLength frame 14 ∧
        (Ipv4Parser.totalLength frame 14 =
            Ipv4Parser.internetHeaderLength frame 14 + 8 ∨
          14 + Ipv4Parser.totalLength frame 14 ≤ frame.length))

/-- The data offset of a TCP segment behind the extension headers of an IPv6
packet: it leaves the fixed headers alone and fits in the segment. -/
def Ipv6Lengths (layer : Layer) (frame : List UInt8) : Prop :=
  layer = .tcp →
    ∀ offset remaining,
      Ipv6Parser.ExtensionChain frame (byteAt frame 20) 54
        (Ipv6Parser.payloadLength frame 14)
        Ipv6Parser.NextHeaderType.tcp offset remaining →
      20 ≤ remaining →
      TcpParser.dataOffset frame offset ≤ remaining ∧
        74 ≤ offset + TcpParser.dataOffset frame offset

/-- The length fields of a frame, as far as a decoding up to `layer` uses them
and the parsers do not check them. -/
structure ConsistentLengths (layer : Layer) (frame : List UInt8) : Prop where
  /-- A frame that is long enough for an IPv4 header and has one. -/
  ipv4 : layer ≠ .ethernet → 34 ≤ frame.length →
    EthernetParser.etherType frame 0 = .ipv4 →
    Ipv4Parser.version frame 14 = 4 → Ipv4Lengths layer frame
  /-- A frame that is long enough for an IPv6 packet and has one. -/
  ipv6 : layer ≠ .ethernet → 54 ≤ frame.length →
    EthernetParser.etherType frame 0 = .ipv6 →
    Ipv6Parser.version frame 14 = 6 →
    54 + Ipv6Parser.payloadLength frame 14 ≤ frame.length →
    Ipv6Lengths layer frame

section Layers

variable {frame : List UInt8} {artefacts : Artefacts}

/-- Confinement of the TCP layer. -/
theorem tcp_ensures_iff (layer : Layer) (packet size : Nat) :
    Ensures (Contained frame.length) (fun _ => True)
        (PayloadInside layer frame.length)
        (TcpParser.decodeUntil layer frame packet size artefacts) ↔
      (layer = .tcp → 20 ≤ size →
        packet + 12 < frame.length ∧ TcpParser.dataOffset frame packet ≤ size ∧
        fixedHeaders .tcp artefacts ≤ packet + TcpParser.dataOffset frame packet ∧
        (size = TcpParser.dataOffset frame packet ∨
          packet + size ≤ frame.length)) := by
  rw [TcpParser.decodeUntil_iff (confinedPolicy frame)]
  by_cases requested : layer = .tcp
  · subst requested
    simp only [ne_eq, not_true_eq_false, if_false, true_implies, Contained]
    have region (fits : TcpParser.dataOffset frame packet ≤ size) :
        PayloadInside .tcp frame.length
            (TcpParser.decoded frame packet size artefacts) ↔
          (size = TcpParser.dataOffset frame packet ∨
            packet + size ≤ frame.length) ∧
          fixedHeaders .tcp artefacts ≤
            packet + TcpParser.dataOffset frame packet := by
      simp only [PayloadInside, TcpParser.decoded, sizeDifference_of_le fits,
        fixedHeaders]
      refine and_congr ?_ Iff.rfl
      omega
    by_cases short : size < 20
    · rw [if_pos short]
      exact iff_of_true trivial fun enough => absurd enough (by omega)
    rw [if_neg short]
    constructor
    · rintro ⟨inside, fits, holds⟩ _
      obtain ⟨finish, start⟩ := (region fits).mp holds
      exact ⟨inside, fits, start, finish⟩
    · intro consistent
      obtain ⟨inside, fits, start, finish⟩ := consistent (by omega)
      exact ⟨inside, fits, (region fits).mpr ⟨finish, start⟩⟩
  · simp [requested]

/-- Confinement of the UDP layer. -/
theorem udp_ensures_iff (layer : Layer) (packet size : Nat) :
    Ensures (Contained frame.length) (fun _ => True)
        (PayloadInside layer frame.length)
        (UdpParser.decodeUntil layer frame packet size artefacts) ↔
      (layer = .udp → 8 ≤ size →
        packet + 7 < frame.length ∧
        (wordAt frame (packet + 4) ≤ size →
          fixedHeaders .udp artefacts ≤ packet + 8 ∧
          (size = 8 ∨ packet + size ≤ frame.length))) := by
  rw [UdpParser.decodeUntil_iff (confinedPolicy frame)]
  by_cases requested : layer = .udp
  · subst requested
    simp only [ne_eq, not_true_eq_false, if_false, true_implies]
    have region (enough : 8 ≤ size) :
        PayloadInside .udp frame.length
            (UdpParser.decoded frame packet size artefacts) ↔
          (size = 8 ∨ packet + size ≤ frame.length) ∧
          fixedHeaders .udp artefacts ≤ packet + 8 := by
      simp only [PayloadInside, UdpParser.decoded, fixedHeaders]
      refine and_congr ?_ Iff.rfl
      omega
    by_cases short : size < 8
    · rw [if_pos short]
      exact iff_of_true trivial fun enough => absurd enough (by omega)
    rw [if_neg short]
    by_cases long : size < wordAt frame (packet + 4)
    · rw [if_pos long]
      constructor
      · rintro ⟨inside, _⟩ _
        exact ⟨inside, fun fits => absurd fits (by omega)⟩
      · intro consistent
        exact ⟨(consistent (by omega)).1, trivial⟩
    rw [if_neg long]
    constructor
    · rintro ⟨inside, holds⟩ enough
      obtain ⟨finish, start⟩ := (region enough).mp holds
      exact ⟨inside, fun _ => ⟨start, finish⟩⟩
    · intro consistent
      obtain ⟨inside, rest⟩ := consistent (by omega)
      obtain ⟨start, finish⟩ := rest (by omega)
      exact ⟨inside, (region (by omega)).mpr ⟨finish, start⟩⟩
  · simp [requested]

/-- Confinement of the IPv4 layer, for a frame that has an IPv4 header. -/
theorem ipv4_ensures_iff
    (artefacts : Artefacts)
    (text : AddressFamily → List UInt8 → String)
    (layer : Layer)
    (other : layer ≠ .ethernet)
    (enough : 34 ≤ frame.length)
    (versioned : Ipv4Parser.version frame 14 = 4) :
    Ensures (Contained frame.length) (fun _ => True)
        (PayloadInside layer frame.length)
        (Ipv4Parser.decodeUntil (succeeding text) layer frame 14
          (frame.length - 14) artefacts) ↔
      Ipv4Lengths layer frame := by
  rw [Ipv4Parser.decodeUntil_iff (confinedPolicy frame) _ _ (by omega),
    if_neg (by omega), if_neg (not_not.mpr versioned)]
  change Ipv4Parser.internetHeaderLength frame 14 ≤
      Ipv4Parser.totalLength frame 14 ∧ _ ↔ _
  have start : Ipv4Parser.segment frame 14 =
      14 + Ipv4Parser.internetHeaderLength frame 14 := rfl
  constructor
  · rintro ⟨header, rest⟩
    have size : Ipv4Parser.segmentSize frame 14 =
        Ipv4Parser.totalLength frame 14 -
          Ipv4Parser.internetHeaderLength frame 14 := sizeDifference_of_le header
    refine ⟨header, ?_, ?_, ?_⟩
    · intro requested
      rw [if_pos requested, requested] at rest
      simp only [PayloadInside, fixedHeaders, Ipv4Parser.artefactsOf,
        if_true, size, start] at rest
      omega
    · intro requested carried segment
      subst requested
      rw [if_neg (by decide), carried] at rest
      have consistent := (tcp_ensures_iff .tcp _ _).mp rest rfl
        (by rw [size]; omega)
      simp only [fixedHeaders, Ipv4Parser.artefactsOf, if_true, size] at consistent
      omega
    · intro requested carried datagram
      subst requested
      rw [if_neg (by decide), carried] at rest
      obtain ⟨inside, region⟩ := (udp_ensures_iff .udp _ _).mp rest rfl
        (by rw [size]; omega)
      simp only [fixedHeaders, Ipv4Parser.artefactsOf, if_true, size] at region
      refine ⟨inside, ?_⟩
      intro announced
      have bounds := region (by omega)
      omega
  · intro lengths
    have header := lengths.header
    have size : Ipv4Parser.segmentSize frame 14 =
        Ipv4Parser.totalLength frame 14 -
          Ipv4Parser.internetHeaderLength frame 14 := sizeDifference_of_le header
    refine ⟨header, ?_⟩
    by_cases requested : layer = .ipv4
    · have region := lengths.internet requested
      rw [if_pos requested, requested]
      simp only [PayloadInside, fixedHeaders, Ipv4Parser.artefactsOf,
        if_true, size, start]
      omega
    · rw [if_neg requested]
      cases carried : Ipv4Parser.protocol frame 14 with
      | tcp =>
          apply (tcp_ensures_iff layer _ _).mpr
          intro toTcp segment
          rw [size] at segment
          have region := lengths.tcp toTcp carried (by omega)
          simp only [fixedHeaders, Ipv4Parser.artefactsOf, if_true, size]
          omega
      | udp =>
          apply (udp_ensures_iff layer _ _).mpr
          intro toUdp datagram
          rw [size] at datagram
          obtain ⟨inside, region⟩ := lengths.udp toUdp carried (by omega)
          refine ⟨inside, ?_⟩
          intro announced
          rw [size] at announced
          have bounds := region (by omega)
          simp only [fixedHeaders, Ipv4Parser.artefactsOf, if_true, size]
          omega
      | other => trivial

/-- Confinement of the IPv6 layer, for a frame that holds an IPv6 packet. -/
theorem ipv6_ensures_iff
    (artefacts : Artefacts)
    (text : AddressFamily → List UInt8 → String)
    (layer : Layer)
    (other : layer ≠ .ethernet)
    (enough : 54 ≤ frame.length)
    (versioned : Ipv6Parser.version frame 14 = 6)
    (fits : 54 + Ipv6Parser.payloadLength frame 14 ≤ frame.length) :
    Ensures (Contained frame.length) (fun _ => True)
        (PayloadInside layer frame.length)
        (Ipv6Parser.decodeUntil (succeeding text) layer frame 14
          (frame.length - 14) artefacts) ↔
      Ipv6Lengths layer frame := by
  rw [Ipv6Parser.decodeUntil_iff (confinedPolicy frame) _ _ (by omega),
    if_neg (by omega), if_neg (not_not.mpr versioned), if_neg (by omega)]
  constructor
  · rintro ⟨_, handed⟩ requested offset remaining chain segment
    subst requested
    have rest := handed _ _ _ chain
    have finish := chain.end_eq
    simp only [Ipv6Parser.HandsOn, reduceCtorEq, if_false, if_true] at rest
    have consistent := (tcp_ensures_iff .tcp _ _).mp rest rfl segment
    simp only [fixedHeaders, Ipv6Parser.artefactsOf, reduceCtorEq, if_false]
      at consistent
    omega
  · intro lengths
    refine ⟨Or.inl trivial, ?_⟩
    intro last offset remaining chain
    have start := chain.offset_le
    have finish := chain.end_eq
    change Ipv6Parser.HandsOn _ _ _ _ _ _ _ last offset remaining
    unfold Ipv6Parser.HandsOn
    by_cases requested : layer = .ipv6
    · subst requested
      by_cases none_left : last = Ipv6Parser.NextHeaderType.ipv6Nonxt
      · simp [PayloadInside, none_left]
      · simp only [PayloadInside, none_left, if_false, if_true, fixedHeaders,
          Ipv6Parser.artefactsOf, reduceCtorEq]
        omega
    · rw [if_neg requested]
      by_cases toTcp : last = Ipv6Parser.NextHeaderType.tcp
      · subst toTcp
        apply (tcp_ensures_iff layer _ _).mpr
        intro transport segment
        have region := lengths transport offset remaining chain segment
        simp only [fixedHeaders, Ipv6Parser.artefactsOf, reduceCtorEq, if_false]
        omega
      · rw [if_neg toTcp]
        by_cases toUdp : last = Ipv6Parser.NextHeaderType.udp
        · rw [if_pos toUdp]
          apply (udp_ensures_iff layer _ _).mpr
          intro transport datagram
          simp only [fixedHeaders, Ipv6Parser.artefactsOf, reduceCtorEq, if_false]
          omega
        · simp [toUdp]

/-- Confinement of the IPv4 layer, whatever it holds. -/
theorem ipv4_frame_ensures_iff
    (text : AddressFamily → List UInt8 → String)
    (layer : Layer)
    (other : layer ≠ .ethernet)
    (framed : 14 ≤ frame.length) :
    Ensures (Contained frame.length) (fun _ => True)
        (PayloadInside layer frame.length)
        (Ipv4Parser.decodeUntil (succeeding text) layer frame 14
          (frame.length - 14) artefacts) ↔
      (34 ≤ frame.length → Ipv4Parser.version frame 14 = 4 →
        Ipv4Lengths layer frame) := by
  by_cases header : 34 ≤ frame.length ∧ Ipv4Parser.version frame 14 = 4
  · obtain ⟨enough, versioned⟩ := header
    simpa [enough, versioned] using
      ipv4_ensures_iff artefacts text layer other enough versioned
  · rw [Ipv4Parser.decodeUntil_iff (confinedPolicy frame) _ _ (by omega)]
    by_cases short : frame.length - 14 < 20
    · rw [if_pos short]
      exact iff_of_true trivial fun enough => absurd enough (by omega)
    · have unversioned := (not_and.mp header) (by omega)
      simp [short, unversioned]

/-- Confinement of the IPv6 layer, whatever it holds. -/
theorem ipv6_frame_ensures_iff
    (text : AddressFamily → List UInt8 → String)
    (layer : Layer)
    (other : layer ≠ .ethernet)
    (framed : 14 ≤ frame.length) :
    Ensures (Contained frame.length) (fun _ => True)
        (PayloadInside layer frame.length)
        (Ipv6Parser.decodeUntil (succeeding text) layer frame 14
          (frame.length - 14) artefacts) ↔
      (54 ≤ frame.length → Ipv6Parser.version frame 14 = 6 →
        54 + Ipv6Parser.payloadLength frame 14 ≤ frame.length →
        Ipv6Lengths layer frame) := by
  by_cases header : 54 ≤ frame.length ∧ Ipv6Parser.version frame 14 = 6 ∧
      54 + Ipv6Parser.payloadLength frame 14 ≤ frame.length
  · obtain ⟨enough, versioned, fits⟩ := header
    simpa [enough, versioned, fits] using
      ipv6_ensures_iff artefacts text layer other enough versioned fits
  · refine iff_of_true ?_ fun enough versioned fits =>
      absurd ⟨enough, versioned, fits⟩ header
    rw [Ipv6Parser.decodeUntil_iff (confinedPolicy frame) _ _ (by omega)]
    by_cases short : frame.length - 14 < 40
    · simp [short]
    · by_cases versioned : Ipv6Parser.version frame 14 = 6
      · have oversized : frame.length - 14 - 40 <
            Ipv6Parser.payloadLength frame 14 := by
          by_contra fits
          exact header ⟨by omega, versioned, by omega⟩
        simp [oversized]
      · simp [versioned]

end Layers

/-- Decoding a frame is confined exactly when the length fields that the parsers
do not check are consistent. -/
theorem decodeUntil_confined_iff
    (text : AddressFamily → List UInt8 → String)
    (layer : Layer)
    (frame : List UInt8)
    (artefacts : Artefacts) :
    Confined layer frame.length
        (PacketParser.decodeUntil (succeeding text) layer frame 0 frame.length
          artefacts) ↔
      ConsistentLengths layer frame := by
  rw [confined_iff_ensures, PacketParser.decodeUntil,
    EthernetParser.decodeUntil_iff (confinedPolicy frame) _ _ (by omega)]
  by_cases short : frame.length < 14
  · rw [if_pos short]
    exact iff_of_true trivial
      ⟨fun _ enough => absurd enough (by omega),
        fun _ enough => absurd enough (by omega)⟩
  rw [if_neg short]
  by_cases requested : layer = .ethernet
  · rw [if_pos requested]
    refine iff_of_true ?_
      ⟨fun other => absurd requested other, fun other => absurd requested other⟩
    simp only [requested, PayloadInside, fixedHeaders]
    omega
  rw [if_neg requested]
  have framed : 14 ≤ frame.length := by omega
  cases announced : EthernetParser.etherType frame 0 with
  | ipv4 =>
      refine (ipv4_frame_ensures_iff text layer requested framed).trans ?_
      constructor
      · intro lengths
        refine ⟨fun _ enough _ => lengths enough, ?_⟩
        intro _ _ mismatch
        simp [announced] at mismatch
      · intro consistent enough
        exact consistent.ipv4 requested enough announced
  | ipv6 =>
      refine (ipv6_frame_ensures_iff text layer requested framed).trans ?_
      constructor
      · intro lengths
        refine ⟨?_, fun _ enough _ => lengths enough⟩
        intro _ _ mismatch
        simp [announced] at mismatch
      · intro consistent enough
        exact consistent.ipv6 requested enough announced
  | other =>
      refine iff_of_true trivial ⟨?_, ?_⟩
      · intro _ _ mismatch
        simp [announced] at mismatch
      · intro _ _ mismatch
        simp [announced] at mismatch

end NetworkTiming
