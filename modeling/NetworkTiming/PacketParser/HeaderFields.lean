import NetworkTiming.PacketParser.Frame

/-!
# Fields of encoded headers

Every header is decoded from its own bytes wherever it stands in the buffer, and
whether or not the buffer goes on behind it as far as its length fields say.
-/

namespace NetworkTiming

open Traced

/-- Reading behind a pointer is reading the bytes that it points to. -/
theorem byteAt_add
    (located : memory.drop packet = view)
    (offset : Nat) :
    byteAt memory (packet + offset) = byteAt view offset := by
  simp [byteAt, ← located, List.getD]

/-- Reading bytes behind a pointer is reading the bytes that it points to. -/
theorem bytesAt_add
    (located : memory.drop packet = view)
    (offset count : Nat) :
    bytesAt memory (packet + offset) count = bytesAt view offset count := by
  simp [bytesAt, ← located]

@[simp] theorem byteAt_cons_zero (byte : UInt8) (bytes : List UInt8) :
    byteAt (byte :: bytes) 0 = byte := rfl

@[simp] theorem byteAt_cons_succ (byte : UInt8) (bytes : List UInt8) (offset : Nat) :
    byteAt (byte :: bytes) (offset + 1) = byteAt bytes offset := rfl

/-- A port survives network byte order. -/
theorem ntohs_encoded (port : UInt16) :
    ntohs (hostU16 (UInt8.ofNat (port.toNat / 256)) (UInt8.ofNat port.toNat)) =
      port := by
  have bound := port.toNat_lt
  rw [← UInt16.toNat_inj, toNat_ntohs_hostU16, UInt8.toNat_ofNat',
    UInt8.toNat_ofNat']
  omega

/-- A length survives network byte order. -/
theorem encoded_word
    (fits : value < 65536) :
    256 * (UInt8.ofNat (value / 256)).toNat + (UInt8.ofNat value).toNat =
      value := by
  rw [UInt8.toNat_ofNat', UInt8.toNat_ofNat']
  omega

/-- Decodings that have to return. -/
theorem returningPolicy (memory : List UInt8) :
    Policy memory (fun _ => True) (fun _ => False) False False where
  inside _ _ := trivial
  outside _ _ _ := not_false
  ordered _ _ _ := trivial
  invalidArgument _ := Iff.rfl
  terminate := Iff.rfl
  outOfRange := Iff.rfl

/-- Decodings that have to end the program. -/
theorem endingPolicy (memory : List UInt8) :
    Policy memory (fun _ => True)
      (fun fault => fault = .terminate ∨ fault = .outOfRange) False True where
  inside _ _ := trivial
  outside _ _ _ := by simp
  ordered _ _ _ := trivial
  invalidArgument _ := by simp
  terminate := by simp
  outOfRange := by simp

variable {permitted : Access → Prop} {faults : Fault → Prop}
  {undecodable abrupt : Prop} {returns : Decoded → Prop}

section Tcp

variable {memory rest : List UInt8} {packet : Nat} {header : TcpHeader}

/-- The data offset of an encoded header is its length. -/
theorem TcpHeader.dataOffset_encode
    (located : memory.drop packet = header.encode ++ rest) :
    TcpParser.dataOffset memory packet = header.length := by
  have words := header.options.words_le
  have reserved := header.reserved.isLt
  rw [TcpParser.dataOffset, byteAt_add located]
  simp only [TcpHeader.encode, BigEndian.encode, List.cons_append,
    List.nil_append, byteAt_cons_succ, byteAt_cons_zero, UInt8.toNat_ofNat',
    TcpHeader.length]
  omega

theorem TcpHeader.portAt_sport
    (located : memory.drop packet = header.encode ++ rest) :
    portAt memory packet = header.sport := by
  have first := byteAt_add located 0
  have second := byteAt_add located 1
  simp only [TcpHeader.encode, BigEndian.encode, List.cons_append,
    List.nil_append, byteAt_cons_succ, byteAt_cons_zero, Nat.add_zero,
    pow_one, pow_zero, Nat.div_one] at first second
  rw [portAt, first, second, ntohs_encoded]

theorem TcpHeader.portAt_dport
    (located : memory.drop packet = header.encode ++ rest) :
    portAt memory (packet + 2) = header.dport := by
  have first := byteAt_add located 2
  have second := byteAt_add located 3
  simp only [TcpHeader.encode, BigEndian.encode, List.cons_append,
    List.nil_append, byteAt_cons_succ, byteAt_cons_zero,
    pow_one, pow_zero, Nat.div_one] at first second
  rw [portAt, Nat.add_assoc, first, second, ntohs_encoded]

/-- The TCP parser recovers an encoded header in front of `size` bytes. -/
theorem TcpHeader.decodeUntil_encode_iff
    (policy : Policy memory permitted faults undecodable abrupt)
    (located : memory.drop packet = header.encode ++ rest)
    (size : Nat)
    (artefacts : Artefacts) :
    Ensures permitted faults returns
        (TcpParser.decodeUntil .tcp memory packet (header.length + size)
          artefacts) ↔
      returns {
        payload := some (packet + header.length)
        payloadSize := size
        artefacts := { artefacts with
          payloadType := .tcp
          srcPort := header.sport
          dstPort := header.dport } } := by
  have room := congrArg List.length located
  have fixed : 20 ≤ header.length := Nat.le_add_right _ _
  simp only [List.length_drop, List.length_append, length_encode] at room
  have inside : packet + 12 < memory.length := by omega
  have ordered := policy.ordered (header.length + size) header.length (by omega)
  rw [TcpParser.decodeUntil_iff policy, if_neg (by decide), if_neg (by omega),
    TcpParser.decoded, dataOffset_encode located, portAt_sport located,
    portAt_dport located, sizeDifference_of_le (by omega),
    Nat.add_sub_cancel_left]
  simp only [inside, ordered, true_and]

end Tcp

section Udp

variable {memory rest : List UInt8} {packet size : Nat} {header : UdpHeader}

/-- The UDP parser recovers an encoded header in front of its payload. -/
theorem UdpHeader.decodeUntil_encode_iff
    (policy : Policy memory permitted faults undecodable abrupt)
    (located : memory.drop packet = header.encode size ++ rest)
    (fits : 8 + size < 65536)
    (artefacts : Artefacts) :
    Ensures permitted faults returns
        (UdpParser.decodeUntil .udp memory packet (8 + size) artefacts) ↔
      returns {
        payload := some (packet + 8)
        payloadSize := size
        artefacts := { artefacts with
          payloadType := .udp
          srcPort := header.sport
          dstPort := header.dport } } := by
  have room := congrArg List.length located
  simp only [List.length_drop, List.length_append, length_encode] at room
  have field (offset : Nat) := byteAt_add located offset
  simp only [UdpHeader.encode, BigEndian.encode, List.cons_append,
    List.nil_append, pow_one, pow_zero, Nat.div_one] at field
  have sport : portAt memory packet = header.sport := by
    have first := field 0
    have second := field 1
    simp only [byteAt_cons_succ, byteAt_cons_zero, Nat.add_zero] at first second
    rw [portAt, first, second, ntohs_encoded]
  have dport : portAt memory (packet + 2) = header.dport := by
    have first := field 2
    have second := field 3
    simp only [byteAt_cons_succ, byteAt_cons_zero] at first second
    rw [portAt, Nat.add_assoc, first, second, ntohs_encoded]
  have length : wordAt memory (packet + 4) = 8 + size := by
    have first := field 4
    have second := field 5
    simp only [byteAt_cons_succ, byteAt_cons_zero] at first second
    rw [wordAt, Nat.add_assoc, first, second, encoded_word fits]
  have inside : packet + 7 < memory.length := by omega
  rw [UdpParser.decodeUntil_iff policy, if_neg (by decide), if_neg (by omega),
    length, if_neg (by omega), UdpParser.decoded, sport, dport,
    Nat.add_sub_cancel_left]
  simp only [inside, true_and]

end Udp

/-- The parser that the protocol of a transport header selects. -/
def TransportHeader.parser : TransportHeader →
    Layer → List UInt8 → Nat → Nat → Artefacts → Decode Decoded
  | .tcp _ => TcpParser.decodeUntil
  | .udp _ => UdpParser.decodeUntil

/-- The transport parser recovers an encoded header in front of its payload, if it
is asked for its own layer. -/
theorem TransportHeader.decodeUntil_encode_iff
    {memory rest : List UInt8} {packet size : Nat} {header : TransportHeader}
    (policy : Policy memory permitted faults undecodable abrupt)
    (located : memory.drop packet = header.encode size ++ rest)
    (fits : header.length + size < 65536)
    (layer : Layer)
    (artefacts : Artefacts) :
    Ensures permitted faults returns
        (header.parser layer memory packet (header.length + size) artefacts) ↔
      if layer = header.layer then
        returns {
          payload := some (packet + header.length)
          payloadSize := size
          artefacts := { artefacts with
            payloadType := header.layer
            srcPort := header.sport
            dstPort := header.dport } }
      else abrupt := by
  cases header with
  | tcp header =>
      by_cases own : layer = .tcp
      · subst own
        exact TcpHeader.decodeUntil_encode_iff policy located size artefacts
      · refine Iff.trans ?_ (iff_of_eq (if_neg own).symm)
        exact (TcpParser.decodeUntil_iff policy _ _).trans (iff_of_eq (if_pos own))
  | udp header =>
      by_cases own : layer = .udp
      · subst own
        exact UdpHeader.decodeUntil_encode_iff policy located fits artefacts
      · refine Iff.trans ?_ (iff_of_eq (if_neg own).symm)
        exact (UdpParser.decodeUntil_iff policy _ _).trans (iff_of_eq (if_pos own))

section Internet

variable {memory rest : List UInt8} {packet size : Nat} {protocol : UInt8}

theorem bytesAt_cons_succ (byte : UInt8) (bytes : List UInt8) (offset count : Nat) :
    bytesAt (byte :: bytes) (offset + 1) count = bytesAt bytes offset count := rfl

/-- Bytes that stand at the head of the buffer. -/
theorem bytesAt_append_zero (bytes : Vector UInt8 count) (rest : List UInt8) :
    bytesAt (bytes.toList ++ rest) 0 count = bytes.toList := by
  simp [bytesAt]

/-- Bytes that stand behind an address. -/
theorem bytesAt_append_size (bytes : Vector UInt8 size) (rest : List UInt8)
    (count : Nat) :
    bytesAt (bytes.toList ++ rest) size count = bytesAt rest 0 count := by
  simp [bytesAt]

/-- The fields that the IPv4 parser finds in an encoded header. -/
theorem Ipv4Header.fields_encode
    {header : Ipv4Header}
    (located : memory.drop packet = header.encode protocol size ++ rest)
    (fits : header.length + size < 65536) :
    Ipv4Parser.version memory packet = 4 ∧
    Ipv4Parser.internetHeaderLength memory packet = header.length ∧
    Ipv4Parser.totalLength memory packet = header.length + size ∧
    byteAt memory (packet + 9) = protocol ∧
    bytesAt memory (packet + 12) 4 = header.src.toList ∧
    bytesAt memory (packet + 16) 4 = header.dst.toList := by
  have words := header.options.words_le
  have field (offset : Nat) := byteAt_add located offset
  have fields (offset count : Nat) := bytesAt_add located offset count
  simp only [Ipv4Header.encode, BigEndian.encode, List.cons_append,
    List.nil_append, List.append_assoc, pow_one, pow_zero, Nat.div_one]
    at field fields
  have first := field 0
  have high := field 2
  have low := field 3
  have carried := field 9
  have source := fields 12 4
  have destination := fields 16 4
  simp only [byteAt_cons_succ, byteAt_cons_zero, Nat.add_zero]
    at first high low carried
  simp only [bytesAt_cons_succ, bytesAt_append_zero, bytesAt_append_size]
    at source destination
  refine ⟨?_, ?_, ?_, carried, source, destination⟩
  · rw [Ipv4Parser.version, first, UInt8.toNat_ofNat']
    omega
  · rw [Ipv4Parser.internetHeaderLength, first, UInt8.toNat_ofNat',
      Ipv4Header.length]
    omega
  · rw [Ipv4Parser.totalLength, wordAt, Nat.add_assoc, high, low,
      encoded_word fits]

/-- The IPv4 parser recovers a segment behind its header, if it is asked for its
layer. -/
theorem Ipv4Header.decodeUntil_encode_iff
    {returns : Decoded → Prop} {layer : Layer} {transport : TransportHeader}
    (policy : Policy memory permitted faults undecodable abrupt)
    (text : AddressFamily → List UInt8 → String)
    (header : Ipv4Header)
    (packet size announced : Nat)
    (located : memory.drop packet =
      header.encode transport.protocol (transport.length + size) ++
        (transport.encode size ++ rest))
    (fits : header.length + (transport.length + size) < 65536)
    (enough : 20 ≤ announced)
    (upper : layer ≠ .ipv4)
    (artefacts : Artefacts) :
    Ensures permitted faults returns
        (Ipv4Parser.decodeUntil (succeeding text) layer memory packet announced
          artefacts) ↔
      if layer = transport.layer then
        returns {
          payload := some (packet + header.length + transport.length)
          payloadSize := size
          artefacts := {
            ipType := .ipv4
            srcIp := text .inet header.src.toList
            dstIp := text .inet header.dst.toList
            payloadType := transport.layer
            srcPort := transport.sport
            dstPort := transport.dport } }
      else abrupt := by
  have room := congrArg List.length located
  simp only [List.length_drop, List.length_append, length_encode,
    Ipv4Header.length] at room
  obtain ⟨version, headerLength, totalLength, carried, source, destination⟩ :=
    Ipv4Header.fields_encode located fits
  have segment : memory.drop (packet + header.length) =
      transport.encode size ++ rest := by
    rw [← List.drop_drop, located, List.drop_left' (length_encode _ _ _)]
  have ordered := policy.ordered (header.length + (transport.length + size))
    header.length (by omega)
  have decoding := @TransportHeader.decodeUntil_encode_iff permitted faults undecodable
    abrupt returns memory rest (packet + header.length) size transport policy segment
    (by omega) layer (Ipv4Parser.artefactsOf text memory packet artefacts)
  rw [Ipv4Parser.artefactsOf, source, destination] at decoding
  rw [Ipv4Parser.decodeUntil_iff policy _ _ (by omega), if_neg (by omega),
    if_neg (not_not.mpr version), if_neg upper, Ipv4Parser.protocol, carried,
    Ipv4Parser.segment, Ipv4Parser.segmentSize, headerLength, totalLength,
    sizeDifference_of_le (Nat.le_add_right _ _), Nat.add_sub_cancel_left,
    and_iff_right ordered, Ipv4Parser.artefactsOf, source, destination]
  cases transport with
  | tcp transport => exact decoding
  | udp transport => exact decoding

/-- The fields that the IPv6 parser finds in an encoded header. -/
theorem Ipv6Header.fields_encode
    {header : Ipv6Header}
    (located : memory.drop packet = header.encode protocol size ++ rest)
    (fits : size < 65536) :
    Ipv6Parser.version memory packet = 6 ∧
    Ipv6Parser.payloadLength memory packet = size ∧
    byteAt memory (packet + 6) = protocol ∧
    bytesAt memory (packet + 8) 16 = header.src.toList ∧
    bytesAt memory (packet + 24) 16 = header.dst.toList := by
  have bound := header.trafficFlow.isLt
  have field (offset : Nat) := byteAt_add located offset
  have fields (offset count : Nat) := bytesAt_add located offset count
  simp only [Ipv6Header.encode, BigEndian.encode, List.cons_append,
    List.nil_append, List.append_assoc, pow_one, pow_zero, Nat.div_one]
    at field fields
  have first := field 0
  have high := field 4
  have low := field 5
  have carried := field 6
  have source := fields 8 16
  have destination := fields 24 16
  simp only [byteAt_cons_succ, byteAt_cons_zero, Nat.add_zero]
    at first high low carried
  simp only [bytesAt_cons_succ, bytesAt_append_zero, bytesAt_append_size]
    at source destination
  refine ⟨?_, ?_, carried, source, destination⟩
  · rw [Ipv6Parser.version, first, UInt8.toNat_ofNat']
    omega
  · rw [Ipv6Parser.payloadLength, wordAt, Nat.add_assoc, high, low,
      encoded_word fits]

end Internet

end NetworkTiming
