import NetworkTiming.PcapWrapper.Queue

/-!
# Which packets the callback survives

The callback drops a packet that a parser reports by `std::invalid_argument`.
The parsers leave by other exits as well, and the size of the payload is checked
outside of the `try` block.  `handlePacket_tolerates_iff` says for which packets
the callback returns, in terms of the fields on the wire.
-/

namespace NetworkTiming

open Traced

/-- The callback returns, without reading past the packet, and has changed
nothing if the packet cannot be decoded or its payload does not fit in a slot. -/
def Tolerates
    (inetNtop : InetNtop)
    (usrdata : UserData)
    (header : PcapPkthdr)
    (packet : List UInt8) : Prop :=
  ∃ next, handlePacket inetNtop usrdata header packet = .ok next ∧
    ((∀ decoded,
        (PacketParser.decodeUntil inetNtop .tcp packet 0 header.len {}).result =
          .ok decoded →
        MAX_PACKET_SIZE < decoded.payloadSize) →
      next = usrdata)

/-! ## Tolerable packets -/

/-- A TCP segment that is too short for a header, or whose header and payload lie
in the frame and whose payload fits in a slot. -/
def TcpTolerable (frame : List UInt8) (offset size : Nat) : Prop :=
  size < 20 ∨
    offset + 12 < frame.length ∧
      TcpParser.dataOffset frame offset ≤ size ∧
      size ≤ TcpParser.dataOffset frame offset + MAX_PACKET_SIZE ∧
      (size = TcpParser.dataOffset frame offset ∨ offset + size ≤ frame.length)

/-- An IPv4 packet that carries a tolerable TCP segment. -/
def Ipv4Tolerable (frame : List UInt8) : Prop :=
  Ipv4Parser.version frame 14 = 4 ∧
    Ipv4Parser.protocol frame 14 = .tcp ∧
    Ipv4Parser.internetHeaderLength frame 14 ≤ Ipv4Parser.totalLength frame 14 ∧
    TcpTolerable frame (Ipv4Parser.segment frame 14)
      (Ipv4Parser.totalLength frame 14 - Ipv4Parser.internetHeaderLength frame 14)

/-- An IPv6 packet that is cut short, or that carries a tolerable TCP segment
behind its extension headers. -/
def Ipv6Tolerable (frame : List UInt8) : Prop :=
  Ipv6Parser.version frame 14 = 6 ∧
    (frame.length < 54 + Ipv6Parser.payloadLength frame 14 ∨
      ∃ offset remaining,
        Ipv6Parser.ExtensionChain frame (byteAt frame 20) 54
          (Ipv6Parser.payloadLength frame 14)
          Ipv6Parser.NextHeaderType.tcp offset remaining ∧
        TcpTolerable frame offset remaining)

/-- A frame that is too short for the headers it announces, or that holds a
tolerable IP packet. -/
def Tolerable (frame : List UInt8) : Prop :=
  frame.length < 14 ∨
    match EthernetParser.etherType frame 0 with
    | .ipv4 => frame.length < 34 ∨ Ipv4Tolerable frame
    | .ipv6 => frame.length < 54 ∨ Ipv6Tolerable frame
    | .other => False

/-! ## Decoding -/

/-- The faults that make the callback drop a packet. -/
def Dropped (fault : Fault) : Prop := ∃ what, fault = .invalidArgument what

/-- A decoded payload that the callback can store. -/
def Storable (frame : List UInt8) (decoded : Decoded) : Prop :=
  decoded.payloadSize ≤ MAX_PACKET_SIZE ∧
    (decoded.payloadSize = 0 ∨
      ∃ start, decoded.payload = some start ∧
        start + decoded.payloadSize ≤ frame.length)

/-- Any fault but `std::invalid_argument` is an abrupt end. -/
theorem dropPolicy (memory : List UInt8) :
    Policy memory (fun _ => True) Dropped True False where
  inside _ _ := trivial
  outside _ _ _ := by simp [Dropped]
  ordered _ _ _ := trivial
  invalidArgument what := iff_of_true ⟨what, rfl⟩ trivial
  terminate := by simp [Dropped]
  outOfRange := by simp [Dropped]

section Layers

variable {frame : List UInt8} {artefacts : Artefacts}

theorem tcp_storable_iff (packet size : Nat) :
    Ensures (fun _ => True) Dropped (Storable frame)
        (TcpParser.decodeUntil .tcp frame packet size artefacts) ↔
      TcpTolerable frame packet size := by
  rw [TcpParser.decodeUntil_iff (dropPolicy frame), if_neg (not_not.mpr rfl)]
  unfold TcpTolerable
  by_cases short : size < 20
  · simp [short]
  rw [if_neg short]
  have offsetBound := TcpParser.dataOffset_le frame packet
  by_cases fits : TcpParser.dataOffset frame packet ≤ size
  · simp only [Storable, TcpParser.decoded, sizeDifference_of_le fits,
      Option.some.injEq, exists_eq_left', short, fits, true_and, false_or]
    omega
  · -- the payload size wraps around and is far too large for a slot
    have wrapped := le_sizeDifference_of_lt (Nat.not_le.mp fits) offsetBound
    simp only [Storable, TcpParser.decoded, short, fits, false_and, and_false,
      false_or, iff_false, not_and, MAX_PACKET_SIZE]
    omega

/-- No other transport layer hands on a TCP segment. -/
theorem udp_not_storable (packet size : Nat) :
    ¬Ensures (fun _ => True) Dropped (Storable frame)
      (UdpParser.decodeUntil .tcp frame packet size artefacts) := by
  rw [UdpParser.decodeUntil_iff (dropPolicy frame)]
  simp

theorem ipv4_storable_iff
    (text : AddressFamily → List UInt8 → String)
    (framed : 14 ≤ frame.length) :
    Ensures (fun _ => True) Dropped (Storable frame)
        (Ipv4Parser.decodeUntil (succeeding text) .tcp frame 14
          (frame.length - 14) artefacts) ↔
      frame.length < 34 ∨ Ipv4Tolerable frame := by
  rw [Ipv4Parser.decodeUntil_iff (dropPolicy frame) _ _ (by omega)]
  by_cases short : frame.length < 34
  · simp [short, show frame.length - 14 < 20 by omega]
  rw [if_neg (by omega), if_neg (show Layer.tcp ≠ .ipv4 by decide)]
  unfold Ipv4Tolerable
  by_cases versioned : Ipv4Parser.version frame 14 = 4
  · cases carried : Ipv4Parser.protocol frame 14 with
    | tcp =>
        simp only [versioned, short, tcp_storable_iff, ne_eq, not_true_eq_false,
          if_false, true_and, false_or]
        by_cases ordered : Ipv4Parser.internetHeaderLength frame 14 ≤
            Ipv4Parser.totalLength frame 14
        · rw [Ipv4Parser.segmentSize, sizeDifference_of_le ordered]
          simp [ordered]
        · -- the segment size wraps around, so that the payload size does
          have wrapped := le_sizeDifference_of_lt (Nat.not_le.mp ordered)
            (Ipv4Parser.internetHeaderLength_le frame 14)
          have offsetBound :=
            TcpParser.dataOffset_le frame (Ipv4Parser.segment frame 14)
          simp only [ordered, false_and, iff_false, TcpTolerable,
            Ipv4Parser.segmentSize, MAX_PACKET_SIZE]
          omega
    | udp => simp [versioned, short, udp_not_storable]
    | other => simp [versioned, short]
  · simp [versioned, short]

theorem ipv6_storable_iff
    (text : AddressFamily → List UInt8 → String)
    (framed : 14 ≤ frame.length) :
    Ensures (fun _ => True) Dropped (Storable frame)
        (Ipv6Parser.decodeUntil (succeeding text) .tcp frame 14
          (frame.length - 14) artefacts) ↔
      frame.length < 54 ∨ Ipv6Tolerable frame := by
  rw [Ipv6Parser.decodeUntil_iff (dropPolicy frame) _ _ (by omega)]
  by_cases short : frame.length < 54
  · simp [short, show frame.length - 14 < 40 by omega]
  rw [if_neg (by omega)]
  unfold Ipv6Tolerable
  by_cases versioned : Ipv6Parser.version frame 14 = 6
  swap
  · simp [versioned, short]
  by_cases cut : frame.length < 54 + Ipv6Parser.payloadLength frame 14
  · simp [versioned, cut,
      show frame.length - 14 - 40 < Ipv6Parser.payloadLength frame 14 by omega]
  rw [if_neg (not_not.mpr versioned), if_neg (by omega)]
  simp only [versioned, short, cut, true_and, false_or]
  constructor
  · rintro ⟨impossible | ⟨last, offset, remaining, chain⟩, handed⟩
    · exact impossible.elim
    have atEnd : Ipv6Parser.HandsOn _ _ _ _ _ _ _ last offset remaining :=
      handed last offset remaining chain
    unfold Ipv6Parser.HandsOn at atEnd
    rw [if_neg (by decide)] at atEnd
    split at atEnd
    next toTcp =>
      subst toTcp
      exact ⟨offset, remaining, chain, (tcp_storable_iff _ _).mp atEnd⟩
    next =>
      split at atEnd
      next => exact absurd atEnd (udp_not_storable _ _)
      next => exact atEnd.elim
  · rintro ⟨offset, remaining, chain, tolerable⟩
    refine ⟨Or.inr ⟨_, offset, remaining, chain⟩, ?_⟩
    intro last lastOffset lastRemaining other
    obtain ⟨rfl, rfl, rfl⟩ := chain.unique other
    exact (tcp_storable_iff _ _).mpr tolerable

/-- Decoding reports a frame as undecodable or yields a payload that can be
stored exactly if the frame is tolerable. -/
theorem decodeUntil_storable_iff
    (text : AddressFamily → List UInt8 → String)
    (frame : List UInt8)
    (artefacts : Artefacts) :
    Ensures (fun _ => True) Dropped (Storable frame)
        (PacketParser.decodeUntil (succeeding text) .tcp frame 0 frame.length
          artefacts) ↔
      Tolerable frame := by
  rw [PacketParser.decodeUntil,
    EthernetParser.decodeUntil_iff (dropPolicy frame) _ _ (by omega)]
  unfold Tolerable
  by_cases short : frame.length < 14
  · simp [short]
  rw [if_neg short, if_neg (by decide)]
  have framed : 14 ≤ frame.length := Nat.not_lt.mp short
  cases EthernetParser.etherType frame 0 with
  | ipv4 => simpa [short] using ipv4_storable_iff text framed
  | ipv6 => simpa [short] using ipv6_storable_iff text framed
  | other => simp [short]

end Layers

/-! ## The callback -/

/-- Copying out the payload succeeds if it lies in the packet. -/
theorem exists_copyPayload_iff
    (nonempty : decoded.payloadSize ≠ 0) :
    (∃ payload, copyPayload packet decoded = .ok payload) ↔
      ∃ start, decoded.payload = some start ∧
        start + decoded.payloadSize ≤ packet.length := by
  have strict : Strict packet (fun _ => True) fun _ => False :=
    ⟨fun _ _ => trivial, fun _ _ _ => not_false, fun _ _ _ => trivial⟩
  unfold copyPayload
  cases decoded.payload with
  | none => simp
  | some start =>
      have returns : Ensures (fun _ => True) (fun _ => False) (fun _ => True)
          (readBytes packet start decoded.payloadSize) ↔ _ :=
        ensures_result_iff _
      rw [strict.readBytes_iff] at returns
      simpa [nonempty] using returns.symm

/-- A decoded payload is received if it can be stored. -/
theorem exists_receivedPayload_iff
    (usrdata : UserData)
    (header : PcapPkthdr)
    (packet : List UInt8)
    (decoded : Decoded) :
    (∃ stored, receivedPayload usrdata header packet decoded = .ok stored) ↔
      Storable packet decoded := by
  unfold receivedPayload Storable
  by_cases large : 1500 < decoded.payloadSize
  · simp [large, show ¬decoded.payloadSize ≤ MAX_PACKET_SIZE from Nat.not_le.mpr large]
  rw [if_neg large]
  have small : decoded.payloadSize ≤ MAX_PACKET_SIZE := Nat.not_lt.mp large
  by_cases empty : decoded.payloadSize = 0
  · simp [empty]
  rw [if_neg empty, ← exists_copyPayload_iff empty]
  constructor
  · rintro ⟨stored, copied⟩
    obtain ⟨payload, copied, _⟩ := except_bind_eq_ok_iff.mp copied
    exact ⟨small, Or.inr ⟨payload, copied⟩⟩
  · rintro ⟨_, impossible | ⟨payload, copied⟩⟩
    · exact absurd impossible empty
    · rw [copied]
      exact ⟨_, rfl⟩

/-- A captured Ethernet frame is received if it is tolerable. -/
theorem exists_received_iff
    (text : AddressFamily → List UInt8 → String)
    (running : usrdata.stopLoop = false)
    (ethernet : usrdata.linktype = .ethernet)
    (whole : header.len = packet.length) :
    (∃ stored, received (succeeding text) usrdata header packet = .ok stored) ↔
      Tolerable packet := by
  rw [← decodeUntil_storable_iff text packet {}, ensures_result_iff]
  unfold received decodePacket
  rw [running, ethernet, whole]
  simp only [Bool.false_eq_true, if_false]
  cases (PacketParser.decodeUntil (succeeding text) .tcp packet 0 packet.length
      {}).result with
  | ok decoded =>
      refine (exists_receivedPayload_iff usrdata header packet decoded).trans ?_
      simp
  | error fault =>
      cases fault with
      | invalidArgument what => simp [Dropped]
      | runtimeError what => simp [Dropped]
      | outOfRange => simp [Dropped]
      | terminate => simp [Dropped]
      | outOfBounds offset => simp [Dropped]

/-- A packet whose payload cannot be stored leaves the shared data as it is. -/
theorem eq_of_unstorable
    (handled : handlePacket inetNtop usrdata header packet = .ok next)
    (ethernet : usrdata.linktype = .ethernet)
    (unstorable : ∀ decoded,
      (PacketParser.decodeUntil inetNtop .tcp packet 0 header.len {}).result =
        .ok decoded →
      MAX_PACKET_SIZE < decoded.payloadSize) :
    next = usrdata := by
  obtain ⟨_, same⟩ | ⟨stored, receives, _⟩ := handlePacket_stores handled
  · exact same
  unfold received decodePacket at receives
  rw [ethernet] at receives
  split at receives
  · cases receives
  cases decoding :
      (PacketParser.decodeUntil inetNtop .tcp packet 0 header.len {}).result with
  | ok decoded =>
      have large : 1500 < decoded.payloadSize := unstorable decoded decoding
      rw [decoding] at receives
      change receivedPayload usrdata header packet decoded = _ at receives
      rw [receivedPayload, if_pos large] at receives
      cases receives
  | error fault =>
      rw [decoding] at receives
      cases fault <;> cases receives

/-- With room in the queue, the callback survives a captured Ethernet frame
exactly if the frame is tolerable. -/
theorem handlePacket_tolerates_iff
    (text : AddressFamily → List UInt8 → String)
    (usrdata : UserData)
    (header : PcapPkthdr)
    (packet : List UInt8)
    (running : usrdata.stopLoop = false)
    (ethernet : usrdata.linktype = .ethernet)
    (bounded : usrdata.sharedBufferIndexProducer ≤ SHARED_BUFFER_SIZE)
    (room : usrdata.HasRoom)
    (whole : header.len = packet.length) :
    Tolerates (succeeding text) usrdata header packet ↔ Tolerable packet := by
  rw [← exists_received_iff text running ethernet whole,
    ← room.exists_handlePacket_iff bounded]
  constructor
  · rintro ⟨next, handled, _⟩
    exact ⟨next, handled⟩
  · rintro ⟨next, handled⟩
    exact ⟨next, handled, eq_of_unstorable handled ethernet⟩

/-- An IPv4 packet from 10.0.0.2 with eight bytes behind its header: for UDP, an
empty datagram from port 80. -/
def shortPacket (protocol : UInt8) : List UInt8 :=
  [0x00, 0x00, 0x00, 0x00, 0x00, 0x00, 0x00, 0x00, 0x00, 0x00, 0x00, 0x00,
   0x08, 0x00,
   0x45, 0x00, 0x00, 0x1c, 0x00, 0x00, 0x40, 0x00, 0x40, protocol, 0x00, 0x00,
   0x0a, 0x00, 0x00, 0x02, 0x0a, 0x00, 0x00, 0x01,
   0x00, 0x50, 0x10, 0x00, 0x00, 0x08, 0x00, 0x00]

/-- A packet that is too short for TCP is dropped. -/
theorem handlePacket_tolerates_shortPacket :
    Tolerates (succeeding inetText) (UserData.unstarted "10.0.0.2" 80).startLoop
      ⟨⟨5, 0⟩, (shortPacket 0x06).length⟩ (shortPacket 0x06) := by
  refine (handlePacket_tolerates_iff inetText _ _ _ rfl rfl (by decide)
    (fun _ => rfl) rfl).mpr (Or.inr ?_)
  have announced : EthernetParser.etherType (shortPacket 0x06) 0 = .ipv4 := by decide
  rw [announced]
  refine Or.inr ⟨by decide, by decide, by decide, Or.inl (by decide)⟩

/-- A UDP datagram of the remote port ends the program, although the queue is
empty. -/
theorem udpDatagram_not_tolerated :
    let usrdata := (UserData.unstarted "10.0.0.2" 80).startLoop
    let header : PcapPkthdr := ⟨⟨5, 0⟩, (shortPacket 0x11).length⟩
    usrdata.stopLoop = false ∧ usrdata.linktype = .ethernet ∧ usrdata.HasRoom ∧
      handlePacket (succeeding inetText) usrdata header (shortPacket 0x11) =
        .error .terminate ∧
      ¬Tolerates (succeeding inetText) usrdata header (shortPacket 0x11) := by
  intro usrdata header
  have terminates : handlePacket (succeeding inetText) usrdata header
      (shortPacket 0x11) = .error .terminate := by rfl
  refine ⟨rfl, rfl, fun _ => rfl, terminates, ?_⟩
  rintro ⟨next, handled, _⟩
  rw [terminates] at handled
  cases handled

end NetworkTiming
