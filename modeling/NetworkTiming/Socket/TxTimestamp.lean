import NetworkTiming.Socket.ErrorQueue

/-!
# The frame that a timestamp belongs to

A write is timed by the first message on the error queue whose frame carries the bytes
that were written, and nothing else.  The loop of `getTxTimestamp` finds this message
exactly if every message in front of it can be told from it by the bytes of its own
payload.
-/

namespace NetworkTiming

open Traced

namespace KernelTimingSocket

section Messages

variable (inetNtop : InetNtop) (data : List UInt8)

/-- A message with timestamps for a frame that carries some bytes and nothing else. -/
def Qualifies (result : RecvmsgResult DATA_BUF_SIZE) : Prop :=
  ∃ message decoded payload, result = .received message ∧
    Decodes inetNtop message decoded payload ∧
    decoded.payloadSize = data.length ∧
    bytesAt message.dataBuf.toList payload data.length = data

/-- The payload of a message decides whether it qualifies: it decodes, at least as many
bytes of payload as are looked for lie in the buffer, and they differ from these bytes if
there are more. -/
def Distinguishable (result : RecvmsgResult DATA_BUF_SIZE) : Prop :=
  ∀ message, result = .received message → message.timestamps.isSome = true →
    ∃ decoded payload, Decodes inetNtop message decoded payload ∧
      data.length ≤ decoded.payloadSize ∧
      (data ≠ [] → payload + data.length ≤ DATA_BUF_SIZE) ∧
      (data.length < decoded.payloadSize →
        bytesAt message.dataBuf.toList payload data.length ≠ data)

/-- The comparison stays in the payload that the message decodes to. -/
def Confined (result : RecvmsgResult DATA_BUF_SIZE) : Prop :=
  ∀ message decoded payload, result = .received message →
    Decodes inetNtop message decoded payload →
    ∀ access ∈ (memcmp message.dataBuf.toList decoded.payload data).events,
      ∃ offset, access = .read offset ∧ payload ≤ offset ∧
        offset < payload + decoded.payloadSize

variable {inetNtop data} {received : RecvmsgResult DATA_BUF_SIZE}

theorem Qualifies.retry
    (qualifies : Qualifies inetNtop data received) :
    (retry inetNtop data received).result = .ok true := by
  obtain ⟨message, decoded, payload, rfl, decoding, _, same⟩ := qualifies
  rw [retry_received decoding, (memcmp_of_inside _).1, same]
  · simp
  · intro nonempty
    have length := congrArg List.length same
    rw [bytesAt, List.length_take, List.length_drop] at length
    have positive := List.length_pos_iff.mpr nonempty
    omega

theorem Distinguishable.retry
    (distinguishable : Distinguishable inetNtop data received) :
    (∃ hit, (retry inetNtop data received).result = .ok hit ∧
        (hit = true → Qualifies inetNtop data received)) ∧
      Confined inetNtop data received := by
  by_cases looked : ∃ message, received = .received message ∧
      message.timestamps.isSome = true
  · obtain ⟨message, rfl, stamped⟩ := looked
    obtain ⟨decoded, payload, decoding, enough, inside, differs⟩ :=
      distinguishable message rfl stamped
    obtain ⟨compared, reads⟩ := @memcmp_of_inside data payload message.dataBuf.toList
      (by rwa [Vector.length_toList])
    refine ⟨⟨_, (retry_received decoding).trans compared, ?_⟩, ?_⟩
    · intro equal
      have same : bytesAt message.dataBuf.toList payload data.length = data :=
        eq_of_beq equal
      refine ⟨message, decoded, payload, rfl, decoding, ?_, same⟩
      exact Nat.le_antisymm (Nat.not_lt.mp fun longer => differs longer same) enough
    · rintro other otherDecoded otherPayload ⟨⟩ otherDecoding access logged
      obtain ⟨rfl, rfl⟩ := decoding.unique otherDecoding
      rw [decoding.2.2, reads] at logged
      obtain ⟨offset, read, rfl⟩ := List.mem_map.mp logged
      rw [List.mem_range'_1] at read
      exact ⟨offset, rfl, read.1, by omega⟩
  · have unstamped : ∀ message, received = .received message → message.timestamps = none := by
      intro message same
      rw [← Option.not_isSome_iff_eq_none]
      exact fun stamped => looked ⟨message, same, stamped⟩
    refine ⟨⟨false, retry_of_unstamped unstamped, ?_⟩, ?_⟩
    · intro impossible
      cases impossible
    intro message decoded payload same decoding
    exact absurd ⟨message, same, decoding.1⟩ looked

theorem distinguishable_of_retry
    (returned : (retry inetNtop data received).result = .ok hit)
    (finds : hit = true → Qualifies inetNtop data received)
    (confined : Confined inetNtop data received) :
    Distinguishable inetNtop data received := by
  rintro message rfl stamped
  obtain ⟨decoded, payload, decoding⟩ := decodes_of_retry stamped returned
  have compared := (retry_received decoding).symm.trans returned
  have inside := inside_of_memcmp compared
  obtain ⟨tells, reads⟩ := memcmp_of_inside inside
  have enough : data.length ≤ decoded.payloadSize := by
    by_contra short
    obtain ⟨offset, same, _, before⟩ := confined message decoded payload rfl decoding
      (.read (payload + decoded.payloadSize)) (by
        rw [decoding.2.2, reads, List.mem_map]
        exact ⟨_, List.mem_range'_1.mpr ⟨Nat.le_add_right _ _, by omega⟩, rfl⟩)
    cases same
    omega
  rw [Vector.length_toList] at inside
  refine ⟨decoded, payload, decoding, enough, inside, ?_⟩
  intro longer same
  have equal := compared.symm.trans tells
  rw [same, beq_self_eq_true] at equal
  obtain ⟨other, otherDecoded, otherPayload, ⟨⟩, otherDecoding, size, _⟩ :=
    finds (Except.ok.inj equal)
  obtain ⟨rfl, rfl⟩ := decoding.unique otherDecoding
  omega

end Messages

/-! ## The search -/

section Search

open TimingProxy (TIMESTAMPING_MESSAGE_MAX_RETRIES)

variable {inetNtop : InetNtop} {socket : KernelTimingSocket} {data : List UInt8}
  {queue : Nat → RecvmsgResult DATA_BUF_SIZE} {received : RecvmsgResult DATA_BUF_SIZE}

/-- `getTxTimestamp` stores the timestamp of a message with the bytes that were written,
skips every other one, and throws if there is none. -/
structure FindsOwn
    (inetNtop : InetNtop) (socket : KernelTimingSocket) (data : List UInt8)
    (queue : Nat → RecvmsgResult DATA_BUF_SIZE) : Prop where
  stores : ∀ index, findMessage inetNtop data queue = .ok (some index) →
    Qualifies inetNtop data (queue index) ∧
      getTxTimestamp inetNtop socket data queue = (.ok (), { socket with
        txTimestamp := socket.tstampSource.select (timestampsOf (queue index)) })
  skips : ∀ index < TIMESTAMPING_MESSAGE_MAX_RETRIES,
    Qualifies inetNtop data (queue index) →
      ∃ earlier ≤ index, findMessage inetNtop data queue = .ok (some earlier)
  reports : (∀ index < TIMESTAMPING_MESSAGE_MAX_RETRIES,
      ¬Qualifies inetNtop data (queue index)) →
    findMessage inetNtop data queue = .ok none ∧
      getTxTimestamp inetNtop socket data queue = (.error (.runtimeError
        ("Could not get TX timestamp from interface " ++ socket.device)), socket)
  /-- As long as the search goes on, no comparison leaves the payload. -/
  confined : ∀ index < TIMESTAMPING_MESSAGE_MAX_RETRIES,
    (∀ earlier < index, (retry inetNtop data (queue earlier)).result = .ok false) →
      Confined inetNtop data (queue index)

/-- Every message can be told from the one that is looked for, as long as this one has not
come. -/
def AllDistinguishable (inetNtop : InetNtop) (data : List UInt8)
    (queue : Nat → RecvmsgResult DATA_BUF_SIZE) : Prop :=
  ∀ index < TIMESTAMPING_MESSAGE_MAX_RETRIES,
    (∀ earlier < index, ¬Qualifies inetNtop data (queue earlier)) →
      Distinguishable inetNtop data (queue index)

/-- A message that can be told from the one looked for, and is not, is skipped. -/
theorem Distinguishable.misses
    (distinguishable : Distinguishable inetNtop data received)
    (other : ¬Qualifies inetNtop data received) :
    (KernelTimingSocket.retry inetNtop data received).result = .ok false := by
  obtain ⟨⟨hit, returned, finds⟩, _⟩ := distinguishable.retry
  cases hit with
  | false => exact returned
  | true => exact absurd (finds rfl) other

theorem not_qualifies_of_misses
    (missed : (retry inetNtop data received).result = .ok false) :
    ¬Qualifies inetNtop data received := by
  intro qualifies
  cases missed.symm.trans qualifies.retry

theorem getTxTimestamp_of_some
    (found : findMessage inetNtop data queue = .ok (some index)) :
    getTxTimestamp inetNtop socket data queue = (.ok (), { socket with
      txTimestamp := socket.tstampSource.select (timestampsOf (queue index)) }) := by
  rw [getTxTimestamp, found]

theorem getTxTimestamp_of_none
    (notFound : findMessage inetNtop data queue = .ok none) :
    getTxTimestamp inetNtop socket data queue = (.error (.runtimeError
      ("Could not get TX timestamp from interface " ++ socket.device)), socket) := by
  rw [getTxTimestamp, notFound]

/-- Where the messages in front of it can be told from it, the frame is found. -/
theorem FindsOwn.of_allDistinguishable
    (all : AllDistinguishable inetNtop data queue) :
    FindsOwn inetNtop socket data queue := by
  have misses (index : Nat) (inside : index < TIMESTAMPING_MESSAGE_MAX_RETRIES)
      (others : ∀ earlier ≤ index, ¬Qualifies inetNtop data (queue earlier)) :
      ∀ earlier ≤ index, (retry inetNtop data (queue earlier)).result = .ok false := by
    intro earlier before
    apply Distinguishable.misses
    · exact all earlier (by omega) fun first _ => others first (by omega)
    · exact others earlier before
  refine ⟨?_, ?_, ?_, ?_⟩
  · intro index found
    refine ⟨?_, getTxTimestamp_of_some found⟩
    obtain ⟨_, inside, hit, missed⟩ := Retry.misses_of_search_eq_some found
    have distinguishable := all index (by omega) fun earlier before =>
      not_qualifies_of_misses (missed earlier (Nat.zero_le _) before)
    obtain ⟨⟨tells, returned, finds⟩, _⟩ := distinguishable.retry
    cases hit.symm.trans returned
    exact finds rfl
  · intro index inside qualifies
    classical
    have qualifying : ∃ first, Qualifies inetNtop data (queue first) := ⟨index, qualifies⟩
    have least := Nat.find_min' qualifying qualifies
    refine ⟨Nat.find qualifying, least, ?_⟩
    apply Retry.search_eq_some_of_first (by omega)
    · intro earlier before
      exact misses earlier (by omega)
        (fun first within => Nat.find_min qualifying (by omega)) earlier le_rfl
    · exact (Nat.find_spec qualifying).retry
  · intro others
    have notFound : findMessage inetNtop data queue = .ok none := by
      apply Retry.search_eq_none_of_misses
      intro earlier inside
      exact misses earlier inside (fun first before => others first (by omega)) earlier le_rfl
    exact ⟨notFound, getTxTimestamp_of_none notFound⟩
  · intro index inside missed
    exact (all index inside fun earlier before =>
      not_qualifies_of_misses (missed earlier before)).retry.2

theorem FindsOwn.allDistinguishable
    (finds : FindsOwn inetNtop socket data queue) :
    AllDistinguishable inetNtop data queue := by
  intro index
  induction index using Nat.strong_induction_on with
  | _ index inductionHypothesis =>
      intro inside others
      have missed (earlier : Nat) (before : earlier < index) :
          (retry inetNtop data (queue earlier)).result = .ok false := by
        apply Distinguishable.misses
        · exact inductionHypothesis earlier before (by omega) fun first _ =>
            others first (by omega)
        · exact others earlier before
      have tells (hit : Bool)
          (returned : (retry inetNtop data (queue index)).result = .ok hit) :
          Distinguishable inetNtop data (queue index) := by
        apply distinguishable_of_retry returned
        · rintro rfl
          exact (finds.stores index
            (Retry.search_eq_some_of_first inside missed returned)).1
        · exact finds.confined index inside missed
      cases returned : (retry inetNtop data (queue index)).result with
      | ok hit => exact tells hit returned
      | error fault =>
          -- a message that is not skipped ends the search, with or without the frame in it
          have raised : findMessage inetNtop data queue = .error fault :=
            Retry.search_eq_error_of_first inside missed returned
          by_cases there : ∃ found < TIMESTAMPING_MESSAGE_MAX_RETRIES,
              Qualifies inetNtop data (queue found)
          · obtain ⟨found, within, qualifies⟩ := there
            obtain ⟨earlier, _, same⟩ := finds.skips found within qualifies
            cases raised.symm.trans same
          · have same := (finds.reports fun found within qualifies =>
              there ⟨found, within, qualifies⟩).1
            cases raised.symm.trans same

/-- `getTxTimestamp` finds the timestamp of what was written exactly if each message in
front of it can be told from it. -/
theorem findsOwn_iff
    (inetNtop : InetNtop) (socket : KernelTimingSocket) (data : List UInt8)
    (queue : Nat → RecvmsgResult DATA_BUF_SIZE) :
    FindsOwn inetNtop socket data queue ↔ AllDistinguishable inetNtop data queue :=
  ⟨FindsOwn.allDistinguishable, FindsOwn.of_allDistinguishable⟩

/-- The frame of an earlier write of `AB` is taken for that of a write of `A`. -/
theorem not_findsOwn_longer :
    ¬∀ (socket : KernelTimingSocket) (data : List UInt8)
      (queue : Nat → RecvmsgResult DATA_BUF_SIZE),
      FindsOwn (succeeding inetText) socket data queue := by
  intro finds
  let longer := SentFrame.segment [65, 66] (by decide)
  have whole : longer.Whole := SentFrame.whole_segment _ (by decide)
  have distinguishable := (finds ⟨.software, "eth0", ⟨0, 0⟩, ⟨0, 0⟩⟩ [65]
    fun _ => .received longer.message).allDistinguishable 0 (by decide)
      fun earlier before => absurd before (Nat.not_lt_zero earlier)
  obtain ⟨decoded, payload, decoding, _, _, differs⟩ :=
    distinguishable longer.message rfl (SentFrame.isSome_timestamps whole.1)
  obtain ⟨rfl, rfl⟩ := (SentFrame.decodes_of_whole inetText whole).unique decoding
  exact differs (by decide) (SentFrame.window_of_le whole.1 (by decide))

end Search

/-! ## Frames of the size of the MTU -/

section Mtu

open TimingProxy (TIMESTAMPING_MESSAGE_MAX_RETRIES)

variable {data : List UInt8}

/-- A result in front of the frame that is looked for: the queue is empty, or it holds
another TCP frame. -/
def resultOf : Option SentFrame → RecvmsgResult DATA_BUF_SIZE
  | none => .failed .again
  | some sent => .received sent.message

/-- Some results, the frame that is looked for, and what comes then. -/
def delivering
    (earlier : List (Option SentFrame)) (own : SentFrame)
    (later : Nat → RecvmsgResult DATA_BUF_SIZE) (index : Nat) :
    RecvmsgResult DATA_BUF_SIZE :=
  match earlier[index]? with
  | some result => resultOf result
  | none => if index = earlier.length then .received own.message else later index

/-- `getTxTimestamp` completes with the timestamp of the frame, whatever comes behind it. -/
def Completes
    (text : AddressFamily → List UInt8 → String) (socket : KernelTimingSocket)
    (earlier : List (Option SentFrame)) (own : SentFrame) : Prop :=
  ∀ later,
    findMessage (succeeding text) own.frame.payload (delivering earlier own later) =
        .ok (some earlier.length) ∧
      getTxTimestamp (succeeding text) socket own.frame.payload
          (delivering earlier own later) =
        (.ok (), { socket with
          txTimestamp := socket.tstampSource.select own.timestamps })

/-- A frame is not taken for that of another write: it is truncated, or the bytes from the
start of its payload on, as many as the write has, lie in the buffer and differ. -/
def PassedBy (data : List UInt8) (sent : SentFrame) : Prop :=
  DATA_BUF_SIZE < sent.frame.encode.length ∨
    sent.frame.Roomy ∧ sent.frame.payloadStart + data.length ≤ DATA_BUF_SIZE ∧
      sent.window data.length ≠ data

theorem retry_of_truncated
    {inetNtop : InetNtop} {sent : SentFrame}
    (long : DATA_BUF_SIZE < sent.frame.encode.length) :
    (retry inetNtop data (.received sent.message)).result = .ok false := by
  apply retry_of_unstamped
  rintro message ⟨⟩
  exact SentFrame.timestamps_of_truncated long

theorem retry_misses_iff
    (text : AddressFamily → List UInt8 → String) (data : List UInt8) (sent : SentFrame) :
    (retry (succeeding text) data (.received sent.message)).result = .ok false ↔
      PassedBy data sent := by
  by_cases long : DATA_BUF_SIZE < sent.frame.encode.length
  · exact iff_of_true (retry_of_truncated long) (Or.inl long)
  · have fits := Nat.le_of_not_lt long
    by_cases roomy : sent.frame.Roomy
    · rw [SentFrame.retry_of_whole text ⟨fits, roomy⟩, PassedBy, beq_eq_false_iff_ne]
      constructor
      · rintro ⟨inside, differs⟩
        refine Or.inr ⟨roomy, inside ?_, differs⟩
        rintro rfl
        exact differs rfl
      · rintro (longer | ⟨_, inside, differs⟩)
        · exact absurd longer long
        · exact ⟨fun _ => inside, differs⟩
    · obtain ⟨fault, raised⟩ := @SentFrame.retry_of_not_roomy sent data text fits roomy
      apply iff_of_false
      · rw [raised]
        intro same
        cases same
      · rintro (longer | ⟨passes, _⟩)
        · exact long longer
        · exact roomy passes

/-- The frame itself is found if it is decoded completely. -/
theorem retry_own_iff
    (text : AddressFamily → List UInt8 → String) (own : SentFrame) :
    (retry (succeeding text) own.frame.payload (.received own.message)).result = .ok true ↔
      own.Whole := by
  by_cases long : DATA_BUF_SIZE < own.frame.encode.length
  · rw [retry_of_truncated long]
    apply iff_of_false
    · intro same
      cases same
    · exact fun whole => Nat.not_le.mpr long whole.1
  · have fits := Nat.le_of_not_lt long
    by_cases roomy : own.frame.Roomy
    · refine iff_of_true ?_ ⟨fits, roomy⟩
      rw [SentFrame.retry_of_whole text ⟨fits, roomy⟩, SentFrame.window_of_le fits le_rfl,
        List.take_length, beq_self_eq_true]
      refine ⟨fun _ => Nat.le_trans ?_ fits, rfl⟩
      rw [WireFrame.length_encode, WireFrame.payloadStart, WireFrame.segmentSize]
      omega
    · obtain ⟨fault, raised⟩ :=
        @SentFrame.retry_of_not_roomy own own.frame.payload text fits roomy
      rw [raised]
      apply iff_of_false
      · intro same
        cases same
      · exact fun whole => roomy whole.2

theorem delivering_of_lt
    {earlier : List (Option SentFrame)} {own : SentFrame}
    {later : Nat → RecvmsgResult DATA_BUF_SIZE}
    (before : index < earlier.length) :
    delivering earlier own later index = resultOf earlier[index] := by
  rw [delivering, List.getElem?_eq_getElem before]

theorem delivering_length
    (earlier : List (Option SentFrame)) (own : SentFrame)
    (later : Nat → RecvmsgResult DATA_BUF_SIZE) :
    delivering earlier own later earlier.length = .received own.message := by
  rw [delivering, List.getElem?_eq_none (Nat.le_refl _)]
  exact if_pos rfl

/-- A write is timed by its own frame exactly if the frame fits into the buffer, with its
Ethernet header, and the other frames in front of it are passed by. -/
theorem completes_iff
    (text : AddressFamily → List UInt8 → String) (socket : KernelTimingSocket)
    (earlier : List (Option SentFrame)) (own : SentFrame)
    (fewer : earlier.length < TIMESTAMPING_MESSAGE_MAX_RETRIES - 1) :
    Completes text socket earlier own ↔
      own.Whole ∧ ∀ sent, some sent ∈ earlier → PassedBy own.frame.payload sent := by
  constructor
  · intro completes
    obtain ⟨found, _⟩ := completes fun _ => .failed .again
    obtain ⟨_, _, hit, missed⟩ := Retry.misses_of_search_eq_some found
    rw [delivering_length, retry_own_iff] at hit
    refine ⟨hit, ?_⟩
    intro sent member
    obtain ⟨index, before, same⟩ := List.getElem_of_mem member
    have passed := missed index (Nat.zero_le _) before
    rwa [delivering_of_lt before, same, resultOf, retry_misses_iff] at passed
  · rintro ⟨whole, passed⟩ later
    have found : findMessage (succeeding text) own.frame.payload
        (delivering earlier own later) = .ok (some earlier.length) := by
      apply Retry.search_eq_some_of_first (by omega)
      · intro index before
        rw [delivering_of_lt before]
        cases same : earlier[index] with
        | none => rfl
        | some sent =>
            rw [resultOf, retry_misses_iff]
            exact passed sent (same ▸ List.getElem_mem before)
      · rw [delivering_length, retry_own_iff]
        exact whole
    refine ⟨found, ?_⟩
    rw [getTxTimestamp_of_some found, delivering_length, timestampsOf,
      SentFrame.timestamps_of_fits whole.1]
    rfl

/-- A request of one byte behind a result in which the queue was empty. -/
theorem completes_segment :
    Completes inetText ⟨.software, "eth0", ⟨0, 0⟩, ⟨0, 0⟩⟩ [none]
      (SentFrame.segment [65] (by decide)) :=
  (completes_iff _ _ _ _ (by decide)).mpr
    ⟨SentFrame.whole_segment _ (by decide), by simp⟩

/-- The frame of a write of 1447 bytes is one byte longer than the buffer. -/
theorem not_completes_of_mtu :
    ∃ own : SentFrame, own.frame.network.length + own.frame.segmentSize = 1487 ∧
      ¬Completes inetText ⟨.software, "eth0", ⟨0, 0⟩, ⟨0, 0⟩⟩ [] own := by
  have short : (List.replicate 1447 (65 : UInt8)).length ≤ 1460 := by
    rw [List.length_replicate]
    decide
  refine ⟨.segment (List.replicate 1447 65) short, ?_, ?_⟩
  · change 20 + (20 + (List.replicate 1447 (65 : UInt8)).length) = 1487
    rw [List.length_replicate]
  · intro completes
    obtain ⟨_, _, hit, _⟩ := Retry.misses_of_search_eq_some
      (completes fun _ => .failed .again).1
    rw [delivering_length, retry_of_truncated] at hit
    · cases hit
    · rw [SentFrame.length_segment, List.length_replicate]
      decide

end Mtu

end KernelTimingSocket

end NetworkTiming
