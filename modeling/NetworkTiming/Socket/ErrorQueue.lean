import NetworkTiming.PacketParser.WireFrame
import NetworkTiming.Socket.KernelTimingSocket

/-!
# Messages on the error queue

What a retry of `getTxTimestamp` does with a message: it misses a message without
timestamps, and compares the payload of one that decodes.  A message that holds a
well-formed frame decodes as the frame says, if the frame is not longer than the buffer.
-/

namespace NetworkTiming

open Traced

/-! ## Reads of a comparison -/

theorem readU8_of_inside (inside : offset < memory.length) :
    (readU8 memory offset).result = .ok (byteAt memory offset) ∧
      (readU8 memory offset).events = [.read offset] := by
  have returned : (emit (.read offset) : Decode Unit).result = .ok () := rfl
  rw [readU8, result_bind, events_bind_of_ok _ returned, getElem?_eq_byteAt inside]
  exact ⟨rfl, rfl⟩

/-- Reading bytes of the buffer reads each of them. -/
theorem readBytes_of_inside (inside : offset + count ≤ memory.length) :
    (readBytes memory offset count).result = .ok (bytesAt memory offset count) ∧
      (readBytes memory offset count).events =
        (List.range' offset count).map Access.read := by
  induction count generalizing offset with
  | zero => exact ⟨rfl, rfl⟩
  | succ count inductionHypothesis =>
      obtain ⟨first, firstRead⟩ := readU8_of_inside (show offset < memory.length by omega)
      obtain ⟨rest, restRead⟩ :=
        inductionHypothesis (show offset + 1 + count ≤ memory.length by omega)
      rw [readBytes, result_bind, events_bind_of_ok _ first, events_bind_of_ok _ rest, first,
        firstRead, restRead, bytesAt_succ (by omega)]
      refine ⟨?_, ?_⟩
      · change (readBytes memory (offset + 1) count >>= _).result = _
        rw [result_bind, rest]
        rfl
      · simp [List.range'_succ]

namespace KernelTimingSocket

section Messages

variable {inetNtop : InetNtop} {data : List UInt8} {received : RecvmsgResult DATA_BUF_SIZE}

/-- What a message decodes to, if it comes with timestamps. -/
def Decodes
    (inetNtop : InetNtop)
    (message : Message DATA_BUF_SIZE)
    (decoded : Decoded) (payload : Nat) : Prop :=
  message.timestamps.isSome = true ∧
    (PacketParser.decodeUntil inetNtop .tcp message.dataBuf.toList 0 message.rc {}).result =
      .ok decoded ∧
    decoded.payload = some payload

/-- Looking at a message with timestamps is decoding its frame, and then comparing its
payload. -/
theorem result_retry (stamped : message.timestamps.isSome = true) :
    (retry inetNtop data (.received message)).result =
      (PacketParser.decodeUntil inetNtop .tcp message.dataBuf.toList 0 message.rc {}).result >>=
        fun decoded => (memcmp message.dataBuf.toList decoded.payload data).result := by
  obtain ⟨timestamps, same⟩ := Option.isSome_iff_exists.mp stamped
  rw [retry, examine, same]
  exact result_bind _ _

/-- Looking at a message that decodes is comparing its payload. -/
theorem retry_received
    (decoding : Decodes inetNtop message decoded payload) :
    (retry inetNtop data (.received message)).result =
      (memcmp message.dataBuf.toList (some payload) data).result := by
  obtain ⟨stamped, returned, located⟩ := decoding
  rw [result_retry stamped, returned]
  change (memcmp _ decoded.payload data).result = _
  rw [located]

/-- A comparison that stays in the buffer reads all the bytes and tells whether they are
equal. -/
theorem memcmp_of_inside
    (inside : data ≠ [] → payload + data.length ≤ memory.length) :
    (memcmp memory (some payload) data).result =
        .ok (bytesAt memory payload data.length == data) ∧
      (memcmp memory (some payload) data).events =
        (List.range' payload data.length).map Access.read := by
  have bytes : (readBytes memory payload data.length).result =
        .ok (bytesAt memory payload data.length) ∧
      (readBytes memory payload data.length).events =
        (List.range' payload data.length).map Access.read := by
    by_cases empty : data = []
    · subst empty
      exact ⟨rfl, rfl⟩
    · exact readBytes_of_inside (inside empty)
  rw [memcmp, result_bind, events_bind_of_ok _ bytes.1, bytes.1, bytes.2]
  exact ⟨rfl, List.append_nil _⟩

/-- A comparison that returns has stayed in the buffer. -/
theorem inside_of_memcmp
    (returned : (memcmp memory (some payload) data).result = .ok hit) :
    data ≠ [] → payload + data.length ≤ memory.length := by
  intro nonempty
  rw [memcmp, result_bind] at returned
  obtain ⟨bytes, bytesRead, _⟩ := except_bind_eq_ok_iff.mp returned
  rcases (bytesAt_of_readBytes bytesRead).1 with empty | inside
  · exact absurd (List.length_eq_zero_iff.mp empty) nonempty
  · exact inside

theorem Decodes.unique
    (first : Decodes inetNtop message decoded payload)
    (second : Decodes inetNtop message other otherPayload) :
    other = decoded ∧ otherPayload = payload := by
  obtain ⟨_, returned, located⟩ := first
  obtain ⟨_, alsoReturned, alsoLocated⟩ := second
  cases returned.symm.trans alsoReturned
  exact ⟨rfl, Option.some.inj (alsoLocated.symm.trans located)⟩

/-- A retry that does not look at a frame misses. -/
theorem retry_of_unstamped
    (unstamped : ∀ message, received = .received message → message.timestamps = none) :
    (retry inetNtop data received).result = .ok false := by
  rcases received with message | errno
  · rw [retry, examine, unstamped message rfl]
    rfl
  · cases errno <;> rfl

/-- A retry that returns has decoded the frame that it has looked at. -/
theorem decodes_of_retry
    (stamped : message.timestamps.isSome = true)
    (returned : (retry inetNtop data (.received message)).result = .ok hit) :
    ∃ decoded payload, Decodes inetNtop message decoded payload := by
  rw [result_retry stamped] at returned
  obtain ⟨decoded, decoding, compared⟩ := except_bind_eq_ok_iff.mp returned
  cases located : decoded.payload with
  | none =>
      rw [located] at compared
      cases compared
  | some payload => exact ⟨decoded, payload, stamped, decoding, located⟩

end Messages

/-! ## Frames -/

/-- The buffer behind `memcpy` to its start. -/
theorem toList_overwrite
    (destination : Vector UInt8 size)
    (fits : source.length ≤ size) :
    (overwrite destination source).toList =
      source ++ destination.toList.drop source.length := by
  apply List.ext_getElem
  · simp
    omega
  · intro index left right
    by_cases copied : index < source.length
    · simp [overwrite, copied]
    · simp [overwrite, copied, List.getElem_append_right, Nat.le_of_not_lt copied]

/-- A TCP frame that the error queue delivers. -/
structure SentFrame where
  frame : WireFrame
  tcp : frame.transport.layer = .tcp
  timestamps : Vector Timespec 3
  /-- What stands in the buffer before. -/
  leftover : Vector UInt8 DATA_BUF_SIZE

namespace SentFrame

variable (sent : SentFrame)

/-- The frame in the buffer; `recvmsg` reports that it has been truncated exactly if it is
longer. -/
def message : Message DATA_BUF_SIZE where
  rc := min sent.frame.encode.length DATA_BUF_SIZE
  dataBuf := overwrite sent.leftover (sent.frame.encode.take DATA_BUF_SIZE)
  rc_le := Nat.min_le_right _ _
  truncated := decide (DATA_BUF_SIZE < sent.frame.encode.length)
  controlTruncated := false
  control := [⟨SOL_SOCKET, SO_TIMESTAMPING, sent.timestamps⟩]

/-- Where the payload stands, `count` bytes that may go beyond it. -/
def window (count : Nat) : List UInt8 :=
  bytesAt sent.message.dataBuf.toList sent.frame.payloadStart count

/-- The frame is decoded completely. -/
def Whole : Prop := sent.frame.encode.length ≤ DATA_BUF_SIZE ∧ sent.frame.Roomy

variable {sent}

theorem timestamps_of_fits (fits : sent.frame.encode.length ≤ DATA_BUF_SIZE) :
    sent.message.timestamps = some sent.timestamps := by
  have whole : sent.message.truncated = false := by
    simpa [message] using fits
  rw [Message.timestamps, whole]
  rfl

theorem isSome_timestamps (fits : sent.frame.encode.length ≤ DATA_BUF_SIZE) :
    sent.message.timestamps.isSome = true := by
  rw [timestamps_of_fits fits]
  rfl

theorem timestamps_of_truncated (long : DATA_BUF_SIZE < sent.frame.encode.length) :
    sent.message.timestamps = none := by
  have truncated : sent.message.truncated = true := by
    simpa [message] using long
  rw [Message.timestamps, truncated]
  rfl

/-- The buffer starts with the headers of the frame and its payload. -/
theorem toList_dataBuf (fits : sent.frame.encode.length ≤ DATA_BUF_SIZE) :
    sent.message.dataBuf.toList =
      sent.frame.headers ++ (sent.frame.payload ++
        (sent.frame.padding ++ sent.leftover.toList.drop sent.frame.encode.length)) := by
  change (overwrite _ _).toList = _
  rw [List.take_of_length_le fits, toList_overwrite _ fits]
  nth_rewrite 1 [WireFrame.encode]
  simp only [List.append_assoc]

section Decoding

variable {permitted : Access → Prop} {faults : Fault → Prop} {undecodable abrupt : Prop}
  {returns : Decoded → Prop}

/-- Postconditions of decoding a frame that fits. -/
theorem decodeUntil_iff
    (policy : Policy sent.message.dataBuf.toList permitted faults undecodable abrupt)
    (text : AddressFamily → List UInt8 → String)
    (fits : sent.frame.encode.length ≤ DATA_BUF_SIZE) :
    Ensures permitted faults returns
        (PacketParser.decodeUntil (succeeding text) .tcp sent.message.dataBuf.toList 0
          sent.message.rc {}) ↔
      if sent.frame.Roomy then
        returns {
          payload := some sent.frame.payloadStart
          payloadSize := sent.frame.payload.length
          artefacts := sent.frame.artefacts text }
      else abrupt := by
  have size : sent.message.rc = sent.frame.encode.length := Nat.min_eq_left fits
  rw [toList_dataBuf fits] at policy ⊢
  rw [size, sent.frame.decodeUntil_headers_iff policy text (Or.inl rfl), sent.tcp]
  simp only [and_true]

end Decoding

/-- A frame that is decoded completely yields its payload. -/
theorem decodes_of_whole (text : AddressFamily → List UInt8 → String) (whole : sent.Whole) :
    Decodes (succeeding text) sent.message {
      payload := some sent.frame.payloadStart
      payloadSize := sent.frame.payload.length
      artefacts := sent.frame.artefacts text } sent.frame.payloadStart := by
  refine ⟨isSome_timestamps whole.1, ?_, rfl⟩
  apply Ensures.result_eq fun _ => True
  rw [decodeUntil_iff (returningPolicy _) text whole.1, if_pos whole.2]

/-- A frame that the parser does not pass ends the search. -/
theorem retry_of_not_roomy
    (text : AddressFamily → List UInt8 → String)
    (fits : sent.frame.encode.length ≤ DATA_BUF_SIZE) (stuck : ¬sent.frame.Roomy) :
    ∃ fault, (retry (succeeding text) data (.received sent.message)).result =
      .error fault := by
  have ended : Ensures (fun _ => True) (fun fault => fault = .terminate ∨ fault = .outOfRange)
      (fun _ => False) (PacketParser.decodeUntil (succeeding text) .tcp
        sent.message.dataBuf.toList 0 sent.message.rc {}) := by
    rw [decodeUntil_iff (endingPolicy _) text fits, if_neg stuck]
    trivial
  rw [ensures_result_iff] at ended
  obtain ⟨_, _, ⟨⟩⟩ | ⟨fault, raised, _⟩ := ended
  refine ⟨fault, ?_⟩
  rw [result_retry (isSome_timestamps fits), raised]
  rfl

/-- Within the payload the window shows the payload. -/
theorem window_of_le
    (fits : sent.frame.encode.length ≤ DATA_BUF_SIZE)
    (within : count ≤ sent.frame.payload.length) :
    sent.window count = sent.frame.payload.take count := by
  rw [window, toList_dataBuf fits, bytesAt, ← WireFrame.length_headers, List.drop_left,
    List.take_append_of_le_length within]

/-- A frame that is decoded completely is taken for what is looked for if its window holds
the same bytes; the window has to lie in the buffer. -/
theorem retry_of_whole
    (text : AddressFamily → List UInt8 → String) (whole : sent.Whole) :
    (retry (succeeding text) data (.received sent.message)).result = .ok hit ↔
      (data ≠ [] → sent.frame.payloadStart + data.length ≤ DATA_BUF_SIZE) ∧
        (sent.window data.length == data) = hit := by
  rw [retry_received (decodes_of_whole text whole)]
  constructor
  · intro returned
    have inside := inside_of_memcmp returned
    rw [(memcmp_of_inside inside).1, Except.ok.injEq] at returned
    rw [Vector.length_toList] at inside
    exact ⟨inside, returned⟩
  · rintro ⟨inside, rfl⟩
    rw [(memcmp_of_inside (by rwa [Vector.length_toList])).1]
    rfl

/-- A TCP segment over IPv4, without options. -/
def segment (payload : List UInt8) (short : payload.length ≤ 1460) : SentFrame where
  frame := {
    destination := Vector.replicate 6 2
    source := Vector.replicate 6 1
    network := .ipv4 ⟨0, 0, 0, 64, 0, Vector.replicate 4 1, Vector.replicate 4 2,
      Options.none⟩
    transport := .tcp (TcpHeader.between 40000 80)
    payload := payload
    padding := []
    fits := by
      change 20 + (20 + payload.length) < 65536
      omega }
  tcp := rfl
  timestamps := Vector.replicate 3 ⟨7, 0⟩
  leftover := Vector.replicate DATA_BUF_SIZE 0

theorem length_segment (payload : List UInt8) (short : payload.length ≤ 1460) :
    (segment payload short).frame.encode.length = 54 + payload.length := by
  rw [WireFrame.length_encode]
  change 14 + 20 + (20 + payload.length) + 0 = _
  omega

theorem whole_segment
    (short : payload.length ≤ 1460) (fits : payload.length ≤ 1446) :
    (segment payload short).Whole := by
  refine ⟨?_, trivial⟩
  rw [length_segment, DATA_BUF_SIZE]
  omega

end SentFrame

end KernelTimingSocket

end NetworkTiming
