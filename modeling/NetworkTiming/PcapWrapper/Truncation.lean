import NetworkTiming.PacketParser.WireFrame
import NetworkTiming.PcapWrapper.Queue

/-!
# Truncated captures

The capture device hands over at most as many bytes of a frame as its snapshot
length allows, but the callback takes the length of the whole frame for the size of
the packet.  It reads behind the captured bytes exactly if it copies a payload that
was not captured completely.
-/

namespace NetworkTiming

open Traced

/-! ## What the callback reads -/

section Reads

variable (inetNtop : InetNtop)

/-- `decodePacket` with a log of what it reads. -/
def tracedDecodePacket
    (linktype : LinkType)
    (header : PcapPkthdr)
    (packet : List UInt8) : Decode (Option Decoded) := do
  let decoded ← attempt
    (match linktype with
    | .ethernet => PacketParser.decodeUntil inetNtop .tcp packet 0 header.len {}
    | _ => fail (.invalidArgument "Link type not implemented"))
  match decoded with
  | .ok decoded => pure (some decoded)
  | .error (.invalidArgument _) => pure none
  | .error fault => fail fault

/-- `copyPayload` with a log of what it reads. -/
def tracedCopyPayload (packet : List UInt8) (decoded : Decoded) : Decode (List UInt8) :=
  match decoded.payload with
  | some payload => readBytes packet payload decoded.payloadSize
  | none => fail (.outOfBounds 0)

/-- `recordPayload` with a log of what it reads. -/
def tracedRecordPayload
    (usrdata : UserData)
    (header : PcapPkthdr)
    (packet : List UInt8)
    (decoded : Decoded) : Decode UserData :=
  if 1500 < decoded.payloadSize then
    fail (.invalidArgument "Payload size greater 1500 bytes is not supported")
  else if decoded.payloadSize = 0 then
    pure usrdata
  else do
    let direction := usrdata.directionOf decoded.artefacts
    let usrdata ← ofResult usrdata.makeRoom
    let payload ← tracedCopyPayload packet decoded
    ofResult (usrdata.storePacket payload direction header.ts)

/-- `handlePacket` with a log of what it reads. -/
def tracedHandlePacket
    (usrdata : UserData)
    (header : PcapPkthdr)
    (packet : List UInt8) : Decode UserData :=
  if usrdata.stopLoop then
    pure usrdata
  else do
    match ← tracedDecodePacket inetNtop usrdata.linktype header packet with
    | some decoded => tracedRecordPayload usrdata header packet decoded
    | none => pure usrdata

theorem result_tracedDecodePacket
    (linktype : LinkType) (header : PcapPkthdr) (packet : List UInt8) :
    (tracedDecodePacket inetNtop linktype header packet).result =
      decodePacket inetNtop linktype header packet := by
  unfold tracedDecodePacket decodePacket
  rw [result_bind, result_attempt]
  cases linktype with
  | null | linuxSll => rfl
  | ethernet =>
      change Except.bind (.ok
        (PacketParser.decodeUntil inetNtop .tcp packet 0 header.len {}).result) _ = _
      cases (PacketParser.decodeUntil inetNtop .tcp packet 0 header.len {}).result with
      | ok decoded => rfl
      | error fault => cases fault <;> rfl

theorem result_tracedRecordPayload
    (usrdata : UserData) (header : PcapPkthdr) (packet : List UInt8)
    (decoded : Decoded) :
    (tracedRecordPayload usrdata header packet decoded).result =
      recordPayload usrdata header packet decoded := by
  unfold tracedRecordPayload recordPayload copyPayload
  split
  · rfl
  · split
    · rfl
    · rw [result_bind, result_ofResult]
      cases usrdata.makeRoom with
      | error fault => rfl
      | ok roomy =>
          obtain ⟨payload, payloadSize, artefacts⟩ := decoded
          cases payload with
          | none => rfl
          | some payload => exact result_bind (readBytes packet payload payloadSize) _

/-- The log changes nothing. -/
theorem result_tracedHandlePacket
    (usrdata : UserData) (header : PcapPkthdr) (packet : List UInt8) :
    (tracedHandlePacket inetNtop usrdata header packet).result =
      handlePacket inetNtop usrdata header packet := by
  unfold tracedHandlePacket handlePacket
  split
  · rfl
  · rw [result_bind, result_tracedDecodePacket]
    cases decodePacket inetNtop usrdata.linktype header packet with
    | error fault => rfl
    | ok undropped =>
        cases undropped with
        | none => rfl
        | some decoded => exact result_tracedRecordPayload usrdata header packet decoded

end Reads

/-- The callback reads captured bytes only, and what it stores are captured bytes. -/
structure StaysCaptured
    (inetNtop : InetNtop)
    (usrdata : UserData)
    (header : PcapPkthdr)
    (packet : List UInt8) : Prop where
  reads : ∀ offset,
    .read offset ∈ (tracedHandlePacket inetNtop usrdata header packet).events →
    offset < packet.length
  stores : ∀ next, handlePacket inetNtop usrdata header packet = .ok next →
    next = usrdata ∨ ∃ stored, UserData.Stores usrdata next stored ∧
      stored.payload <:+: packet

/-- What is permitted to read. -/
def Captured (packet : List UInt8) : Access → Prop
  | .read offset => offset < packet.length
  | .difference _ _ => True

/-- Decodings that may end in any way, but read captured bytes only. -/
theorem capturedPolicy (packet : List UInt8) :
    Policy packet (Captured packet) (fun _ => True) True True where
  inside _ inside := inside
  outside _ past permitted := absurd permitted (Nat.not_lt.mpr past)
  ordered _ _ _ := trivial
  invalidArgument _ := Iff.rfl
  terminate := Iff.rfl
  outOfRange := Iff.rfl

/-- A payload that is copied consists of captured bytes. -/
theorem isInfix_of_copyPayload
    (copied : copyPayload packet decoded = .ok payload) :
    payload <:+: packet := by
  unfold copyPayload at copied
  split at copied
  · rw [(bytesAt_of_readBytes copied).2]
    exact (List.take_prefix _ _).isInfix.trans (List.drop_suffix _ _).isInfix
  · cases copied

/-- A payload that is received consists of captured bytes. -/
theorem isInfix_of_received
    {usrdata : UserData}
    (receives : received inetNtop usrdata header packet = .ok (some stored)) :
    stored.payload <:+: packet := by
  unfold received at receives
  split at receives
  · cases receives
  · cases decoding : decodePacket inetNtop usrdata.linktype header packet with
    | error fault =>
        rw [decoding] at receives
        cases receives
    | ok undropped =>
        rw [decoding] at receives
        cases undropped with
        | none => cases receives
        | some decoded =>
            change receivedPayload usrdata header packet decoded = _ at receives
            unfold receivedPayload at receives
            split at receives
            · cases receives
            · split at receives
              · cases receives
              · obtain ⟨payload, copied, same⟩ := except_bind_eq_ok_iff.mp receives
                cases same
                exact isInfix_of_copyPayload copied

/-- What is stored consists of captured bytes, whatever has been captured. -/
theorem isInfix_of_handlePacket
    {usrdata : UserData}
    (handled : handlePacket inetNtop usrdata header packet = .ok next) :
    next = usrdata ∨ ∃ stored, UserData.Stores usrdata next stored ∧
      stored.payload <:+: packet := by
  obtain ⟨_, same⟩ | ⟨stored, receives, stores⟩ := handlePacket_stores handled
  · exact Or.inl same
  · exact Or.inr ⟨stored, stores, isInfix_of_received receives⟩

/-- What the callback stores it has captured, so that only its reads matter. -/
theorem staysCaptured_iff_ensures
    {usrdata : UserData} :
    StaysCaptured inetNtop usrdata header packet ↔
      Ensures (Captured packet) (fun _ => True) (fun _ => True)
        (tracedHandlePacket inetNtop usrdata header packet) := by
  constructor
  · intro captured
    refine ⟨?_, fun _ _ => trivial, fun _ _ => trivial⟩
    intro access logged
    cases access with
    | read offset => exact captured.reads offset logged
    | difference minuend subtrahend => trivial
  · intro ensured
    exact ⟨fun offset logged => ensured.event _ logged, fun _ => isInfix_of_handlePacket⟩

/-- Dropping a packet reads nothing. -/
theorem tracedDecodePacket_iff
    {returns : Option Decoded → Prop}
    (drops : returns none) :
    Ensures (Captured packet) (fun _ => True) returns
        (tracedDecodePacket inetNtop .ethernet header packet) ↔
      Ensures (Captured packet) (fun _ => True) (fun decoded => returns (some decoded))
        (PacketParser.decodeUntil inetNtop .tcp packet 0 header.len {}) := by
  rw [tracedDecodePacket, ensures_bind, ensures_attempt]
  constructor
  · intro ensured
    exact ⟨ensured.event, fun _ _ => trivial,
      fun decoded returned => (ensures_pure _).mp (ensured.value decoded returned)⟩
  · intro ensured
    refine ⟨ensured.event, ?_,
      fun decoded returned => (ensures_pure _).mpr (ensured.value decoded returned)⟩
    intro fault _raised
    cases fault with
    | invalidArgument => exact (ensures_pure _).mpr drops
    | runtimeError | outOfRange | terminate | outOfBounds =>
        exact (ensures_fail _).mpr trivial

/-- Recording a payload reads all of it, unless it is too large, empty, or without a
slot. -/
theorem tracedRecordPayload_iff
    {usrdata : UserData} :
    Ensures (Captured packet) (fun _ => True) (fun _ => True)
        (tracedRecordPayload usrdata header packet ⟨some start, size, artefacts⟩) ↔
      (size ≤ 1500 → size ≠ 0 → usrdata.HasRoom → start + size ≤ packet.length) := by
  unfold tracedRecordPayload
  by_cases large : 1500 < size
  · simp [large, Nat.not_le.mpr large]
  by_cases empty : size = 0
  · simp [empty]
  by_cases room : usrdata.HasRoom
  · obtain ⟨roomy, made⟩ := room.exists_makeRoom
    have stores : ∀ payload direction,
        Ensures (Captured packet) (fun _ => True) (fun _ => True)
          (ofResult (roomy.storePacket payload direction header.ts)) := by
      intro payload direction
      rw [ensures_ofResult]
      split <;> trivial
    rw [if_neg large, if_neg empty, made, ensures_bind, ensures_ofResult]
    simp only [ensures_bind, tracedCopyPayload, (capturedPolicy packet).readBytes_iff,
      stores, or_iff_right empty, and_true]
    exact ⟨fun inside _ _ _ => inside,
      fun inside => inside (Nat.not_lt.mp large) empty room⟩
  · simp [large, empty, room, UserData.makeRoom_of_not_hasRoom room]

/-! ## Captures of frames -/

/-- The start of a well-formed frame, as far as it has been captured: all headers at
least. -/
structure Snapshot where
  frame : WireFrame
  time : Timeval
  caplen : Nat
  headers : frame.payloadStart ≤ caplen
  caplen_le : caplen ≤ frame.encode.length

namespace Snapshot

/-- What the callback is given; the length is that of the frame. -/
def header (snapshot : Snapshot) : PcapPkthdr :=
  ⟨snapshot.time, snapshot.frame.encode.length⟩

/-- The captured bytes. -/
def packet (snapshot : Snapshot) : List UInt8 :=
  snapshot.frame.encode.take snapshot.caplen

@[simp] theorem length_packet (snapshot : Snapshot) :
    snapshot.packet.length = snapshot.caplen := by
  rw [packet, List.length_take, Nat.min_eq_left snapshot.caplen_le]

/-- The payload has been captured completely. -/
def Complete (snapshot : Snapshot) : Prop :=
  snapshot.frame.payloadStart + snapshot.frame.payload.length ≤ snapshot.caplen

instance (snapshot : Snapshot) : Decidable snapshot.Complete :=
  inferInstanceAs (Decidable (_ ≤ _))

end Snapshot

/-- The callback gets through to the payload of a frame: it is running on an Ethernet
device, and the decoder finds a TCP payload that fits in a slot. -/
structure UserData.Reaches (usrdata : UserData) (frame : WireFrame) : Prop where
  running : usrdata.stopLoop = false
  ethernet : usrdata.linktype = .ethernet
  roomy : frame.Roomy
  isTcp : .tcp = frame.transport.layer
  nonempty : frame.payload ≠ []
  small : frame.payload.length ≤ MAX_PACKET_SIZE

/-- The callback copies the payload of a frame: it gets through to it, and has a slot
for it. -/
structure UserData.Copies (usrdata : UserData) (frame : WireFrame) : Prop
    extends usrdata.Reaches frame where
  room : usrdata.HasRoom

namespace Snapshot

/-- The headers stand at the start of the captured bytes. -/
theorem packet_eq (snapshot : Snapshot) :
    snapshot.packet = snapshot.frame.headers ++
      (snapshot.frame.payload ++ snapshot.frame.padding).take
        (snapshot.caplen - snapshot.frame.payloadStart) := by
  rw [packet, WireFrame.encode, List.take_append, snapshot.frame.length_headers,
    List.take_of_length_le]
  rw [snapshot.frame.length_headers]
  exact snapshot.headers

/-- What the decoder makes of a capture. -/
theorem decodeUntil_iff
    {permitted : Access → Prop} {faults : Fault → Prop} {undecodable abrupt : Prop}
    {returns : Decoded → Prop}
    (snapshot : Snapshot)
    (policy : Policy snapshot.packet permitted faults undecodable abrupt)
    (text : AddressFamily → List UInt8 → String) :
    Ensures permitted faults returns
        (PacketParser.decodeUntil (succeeding text) .tcp snapshot.packet 0
          snapshot.header.len {}) ↔
      if snapshot.frame.Roomy ∧ .tcp = snapshot.frame.transport.layer then
        returns {
          payload := some snapshot.frame.payloadStart
          payloadSize := snapshot.frame.payload.length
          artefacts := snapshot.frame.artefacts text }
      else abrupt := by
  rw [packet_eq] at policy ⊢
  exact snapshot.frame.decodeUntil_headers_iff policy text (Or.inl rfl) {}

/-- On a frame that the decoder gets through, the callback stays within the capture if
and only if the payload ends there, unless the payload is not copied. -/
theorem staysCaptured_iff_of_decodes
    {usrdata : UserData} {snapshot : Snapshot}
    (text : AddressFamily → List UInt8 → String)
    (running : usrdata.stopLoop = false)
    (ethernet : usrdata.linktype = .ethernet)
    (decodes : snapshot.frame.Roomy ∧ .tcp = snapshot.frame.transport.layer) :
    StaysCaptured (succeeding text) usrdata snapshot.header snapshot.packet ↔
      (snapshot.frame.payload.length ≤ 1500 → snapshot.frame.payload.length ≠ 0 →
        usrdata.HasRoom → snapshot.Complete) := by
  rw [staysCaptured_iff_ensures, tracedHandlePacket, running, if_neg (by decide),
    ensures_bind, ethernet, tracedDecodePacket_iff ((ensures_pure usrdata).mpr trivial),
    snapshot.decodeUntil_iff (capturedPolicy _) text, if_pos decodes]
  refine tracedRecordPayload_iff.trans ?_
  rw [length_packet, Complete]

/-- The callback stays within a capture if and only if the payload has been captured
completely or is not copied. -/
theorem staysCaptured_iff_complete
    (text : AddressFamily → List UInt8 → String)
    (usrdata : UserData)
    (snapshot : Snapshot) :
    StaysCaptured (succeeding text) usrdata snapshot.header snapshot.packet ↔
      (usrdata.Copies snapshot.frame → snapshot.Complete) := by
  by_cases stopped : usrdata.stopLoop = true
  · rw [staysCaptured_iff_ensures, tracedHandlePacket, if_pos stopped, ensures_pure]
    refine iff_of_true trivial fun copies => ?_
    rw [copies.running] at stopped
    cases stopped
  have running := Bool.eq_false_iff.mpr stopped
  by_cases ethernet : usrdata.linktype = .ethernet
  · by_cases decodes : snapshot.frame.Roomy ∧ .tcp = snapshot.frame.transport.layer
    · rw [staysCaptured_iff_of_decodes text running ethernet decodes]
      constructor
      · intro captured copies
        exact captured copies.small (mt List.length_eq_zero_iff.mp copies.nonempty)
          copies.room
      · intro complete small nonempty room
        exact complete ⟨⟨running, ethernet, decodes.1, decodes.2,
          mt List.length_eq_zero_iff.mpr nonempty, small⟩, room⟩
    · rw [staysCaptured_iff_ensures, tracedHandlePacket, if_neg stopped, ensures_bind,
        ethernet, tracedDecodePacket_iff ((ensures_pure usrdata).mpr trivial),
        snapshot.decodeUntil_iff (capturedPolicy _) text, if_neg decodes]
      exact iff_of_true trivial fun copies => absurd ⟨copies.roomy, copies.isTcp⟩ decodes
  · rw [staysCaptured_iff_ensures, tracedHandlePacket, if_neg stopped, ensures_bind]
    refine iff_of_true ?_ fun copies => absurd copies.ethernet ethernet
    cases other : usrdata.linktype with
    | ethernet => exact absurd other ethernet
    | null | linuxSll => simp [tracedDecodePacket]

/-- The payload is copied as far as it has been captured. -/
theorem copyPayload_eq_ok_iff
    {snapshot : Snapshot} {payload : List UInt8} {artefacts : Artefacts}
    (nonempty : snapshot.frame.payload ≠ []) :
    copyPayload snapshot.packet ⟨some snapshot.frame.payloadStart,
        snapshot.frame.payload.length, artefacts⟩ = .ok payload ↔
      snapshot.Complete ∧ payload = snapshot.frame.payload := by
  have captured (complete : snapshot.Complete) :
      bytesAt snapshot.packet snapshot.frame.payloadStart snapshot.frame.payload.length =
        snapshot.frame.payload := by
    have start := snapshot.headers
    unfold Complete at complete
    rw [packet, bytesAt, List.drop_take, List.take_take, Nat.min_eq_left (by omega)]
    exact snapshot.frame.bytesAt_payloadStart
  have positive := mt List.length_eq_zero_iff.mp nonempty
  constructor
  · intro copied
    obtain ⟨range, rfl⟩ := bytesAt_of_readBytes copied
    have complete : snapshot.Complete := by
      rw [Complete, ← length_packet]
      exact range.resolve_left positive
    exact ⟨complete, captured complete⟩
  · rintro ⟨complete, rfl⟩
    have strict := (returningPolicy snapshot.packet).toStrict
    refine Ensures.result_eq (fun _ => True) (strict.readBytes_iff.mpr ⟨Or.inr ?_, ?_⟩)
    · rw [length_packet]
      exact complete
    · exact captured complete

/-- What the decoder makes of a capture, as a result. -/
theorem result_decodeUntil
    (snapshot : Snapshot)
    (text : AddressFamily → List UInt8 → String)
    (decodes : snapshot.frame.Roomy ∧ .tcp = snapshot.frame.transport.layer) :
    (PacketParser.decodeUntil (succeeding text) .tcp snapshot.packet 0
        snapshot.header.len {}).result =
      .ok {
        payload := some snapshot.frame.payloadStart
        payloadSize := snapshot.frame.payload.length
        artefacts := snapshot.frame.artefacts text } := by
  apply Ensures.result_eq fun _ => True
  rw [snapshot.decodeUntil_iff (returningPolicy _) text, if_pos decodes]

/-- A capture that the decoder does not get through is not received. -/
theorem received_of_undecodable
    {usrdata : UserData} {snapshot : Snapshot}
    (text : AddressFamily → List UInt8 → String)
    (running : usrdata.stopLoop = false)
    (ethernet : usrdata.linktype = .ethernet)
    (stuck : ¬(snapshot.frame.Roomy ∧ .tcp = snapshot.frame.transport.layer)) :
    ∃ fault, received (succeeding text) usrdata snapshot.header snapshot.packet =
      .error fault := by
  have ended : Ensures (fun _ => True)
      (fun fault => fault = .terminate ∨ fault = .outOfRange) (fun _ : Decoded => False)
      (PacketParser.decodeUntil (succeeding text) .tcp snapshot.packet 0
        snapshot.header.len {}) := by
    rw [snapshot.decodeUntil_iff (endingPolicy _) text, if_neg stuck]
    trivial
  unfold received decodePacket
  rw [running, ethernet]
  cases decoding : (PacketParser.decodeUntil (succeeding text) .tcp snapshot.packet 0
      snapshot.header.len {}).result with
  | ok decoded => exact absurd decoding fun returned => ended.value decoded returned
  | error fault =>
      rcases ended.fault fault decoding with rfl | rfl
      · exact ⟨_, rfl⟩
      · exact ⟨_, rfl⟩

/-- A capture that the decoder gets through is received as its payload. -/
theorem received_of_decodes
    {usrdata : UserData} {snapshot : Snapshot}
    (text : AddressFamily → List UInt8 → String)
    (running : usrdata.stopLoop = false)
    (ethernet : usrdata.linktype = .ethernet)
    (decodes : snapshot.frame.Roomy ∧ .tcp = snapshot.frame.transport.layer) :
    received (succeeding text) usrdata snapshot.header snapshot.packet =
      receivedPayload usrdata snapshot.header snapshot.packet
        ⟨some snapshot.frame.payloadStart, snapshot.frame.payload.length,
          snapshot.frame.artefacts text⟩ := by
  unfold received decodePacket
  rw [running, if_neg (by decide), ethernet]
  simp only [snapshot.result_decodeUntil text decodes]

/-- The payload is received if it fits in a slot and has been captured completely. -/
theorem receivedPayload_eq_some_iff
    {usrdata : UserData} {snapshot : Snapshot} {artefacts : Artefacts} {stored : Packet} :
    receivedPayload usrdata snapshot.header snapshot.packet
        ⟨some snapshot.frame.payloadStart, snapshot.frame.payload.length, artefacts⟩ =
        .ok (some stored) ↔
      snapshot.frame.payload ≠ [] ∧ snapshot.frame.payload.length ≤ MAX_PACKET_SIZE ∧
        snapshot.Complete ∧
        stored = ⟨snapshot.frame.payload, snapshot.time, usrdata.directionOf artefacts⟩ := by
  unfold receivedPayload
  split
  case isTrue large =>
      exact iff_of_false nofun fun fits => absurd fits.2.1 (Nat.not_le.mpr large)
  case isFalse small =>
      split
      case isTrue empty =>
          exact iff_of_false nofun fun fits => fits.1 (List.length_eq_zero_iff.mp empty)
      case isFalse filled =>
          have nonempty := mt List.length_eq_zero_iff.mpr filled
          constructor
          · intro receives
            obtain ⟨payload, copied, same⟩ := except_bind_eq_ok_iff.mp receives
            obtain ⟨complete, rfl⟩ := (copyPayload_eq_ok_iff nonempty).mp copied
            cases same
            exact ⟨nonempty, Nat.not_lt.mp small, complete, rfl⟩
          · rintro ⟨_, _, complete, rfl⟩
            rw [(copyPayload_eq_ok_iff nonempty).mpr ⟨complete, rfl⟩]
            rfl

/-- A callback that has been stopped, or is for another device, receives nothing. -/
theorem received_of_idle
    {usrdata : UserData} {header : PcapPkthdr} {packet : List UInt8}
    (idle : ¬(usrdata.stopLoop = false ∧ usrdata.linktype = .ethernet)) :
    received inetNtop usrdata header packet = .ok none := by
  unfold received decodePacket
  cases stopped : usrdata.stopLoop with
  | true => rfl
  | false =>
      cases link : usrdata.linktype with
      | ethernet => exact absurd ⟨stopped, link⟩ idle
      | null | linuxSll => rfl

/-- The callback receives the payload of a frame if and only if it gets through to it
and the payload has been captured completely. -/
theorem received_eq_some_iff
    {usrdata : UserData} {snapshot : Snapshot} {stored : Packet}
    (text : AddressFamily → List UInt8 → String) :
    received (succeeding text) usrdata snapshot.header snapshot.packet =
        .ok (some stored) ↔
      usrdata.Reaches snapshot.frame ∧ snapshot.Complete ∧
        stored = ⟨snapshot.frame.payload, snapshot.time,
          usrdata.directionOf (snapshot.frame.artefacts text)⟩ := by
  by_cases active : usrdata.stopLoop = false ∧ usrdata.linktype = .ethernet
  · obtain ⟨running, ethernet⟩ := active
    by_cases decodes : snapshot.frame.Roomy ∧ .tcp = snapshot.frame.transport.layer
    · rw [received_of_decodes text running ethernet decodes, receivedPayload_eq_some_iff]
      constructor
      · rintro ⟨nonempty, small, complete, same⟩
        exact ⟨⟨running, ethernet, decodes.1, decodes.2, nonempty, small⟩, complete, same⟩
      · rintro ⟨reaches, complete, same⟩
        exact ⟨reaches.nonempty, reaches.small, complete, same⟩
    · obtain ⟨fault, failed⟩ := received_of_undecodable text running ethernet decodes
      rw [failed]
      exact iff_of_false nofun fun reached =>
        decodes ⟨reached.1.roomy, reached.1.isTcp⟩
  · rw [received_of_idle active]
    exact iff_of_false nofun fun reached =>
      active ⟨reached.1.running, reached.1.ethernet⟩

/-- Destination options of a given size. -/
def options (hdrLen : UInt8) : ExtensionHeader where
  kind := .destinationOptions
  hdrLen := hdrLen
  content := List.replicate (hdrLen.toNat * 8 + 6) 0
  length_content := List.length_replicate

/-- A frame with ten bytes of payload behind four extension headers, captured up to
`BUFSIZ` bytes, which leaves four bytes of the payload out. -/
def longHeaders : Snapshot where
  frame := {
    destination := Vector.replicate 6 0
    source := Vector.replicate 6 0
    network := .ipv6 (.between (.replicate 16 1) (.replicate 16 2))
      [options 255, options 255, options 255, options 245]
    transport := .tcp (.between 49152 80)
    payload := List.replicate 10 65
    padding := []
    fits := by decide }
  time := ⟨5, 0⟩
  caplen := 8192
  headers := by decide
  caplen_le := by
    rw [WireFrame.length_encode]
    decide

/-- The callback reads behind the captured bytes. -/
theorem longHeaders_not_staysCaptured :
    let usrdata := (UserData.unstarted "202:202:202:202:202:202:202:202" 80).startLoop
    ¬StaysCaptured (succeeding inetText) usrdata longHeaders.header
      longHeaders.packet := by
  intro usrdata
  rw [staysCaptured_iff_of_decodes inetText rfl rfl (by decide)]
  intro captured
  exact absurd (captured (by decide) (by decide) fun _ => rfl) (by decide)

end Snapshot

end NetworkTiming
