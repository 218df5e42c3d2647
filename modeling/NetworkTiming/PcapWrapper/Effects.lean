import NetworkTiming.Library.Interactive
import NetworkTiming.PcapWrapper.Queue

/-!
# What a call of the callback changes

The callback changes the shared data in place, so that they are left in some state also
when a call ends with an exception.  A call fills one slot and moves the producer behind
it, or it changes nothing, as long as the packet holds what the call reads of it: the
callback believes the lengths that it finds in the packet, and behind the packet nothing is
defined.
-/

namespace NetworkTiming

open Interactive

namespace PcapLoopCallback

/-- Programs that change the shared data in place. -/
abbrev InPlace := Interactive UserData Fault

/-- Store the payload of a decoded packet, if it has one. -/
def recordPayload
    (header : PcapPkthdr)
    (packet : List UInt8)
    (decoded : Decoded) : InPlace Unit := do
  if 1500 < decoded.payloadSize then
    throw (.invalidArgument "Payload size greater 1500 bytes is not supported")
  else if decoded.payloadSize = 0 then
    pure ()
  else do
    let usrdata ← get
    let direction := usrdata.directionOf decoded.artefacts
    let roomy ← MonadExcept.ofExcept usrdata.makeRoom
    set roomy
    let payload ← MonadExcept.ofExcept (copyPayload packet decoded)
    let next ← MonadExcept.ofExcept (roomy.storePacket payload direction header.ts)
    set next

/-- The callback of the capture loop. -/
def handlePacket
    (inetNtop : InetNtop)
    (header : PcapPkthdr)
    (packet : List UInt8) : InPlace Unit := do
  let usrdata ← get
  if usrdata.stopLoop then
    pure ()
  else
    match decodePacket inetNtop usrdata.linktype header packet with
    | .ok (some decoded) => recordPayload header packet decoded
    | .ok none => pure ()
    | .error fault => throw fault

end PcapLoopCallback

namespace UserData

/-- The fields of the producer have nothing to do with the slots. -/
theorem setSlot_producer
    (usrdata : UserData) (producer active : Bool) (position index : Nat) (pinfo : PacketInfo)
    (inside : index < SHARED_BUFFER_SIZE) :
    setSlot { usrdata with
        sharedBufferIndexProducer := position
        activeBufferProducer := producer } active index pinfo inside =
      { usrdata.setSlot active index pinfo inside with
        sharedBufferIndexProducer := position
        activeBufferProducer := producer } := by
  cases active <;> rfl

/-- Replacing a slot leaves the others alone. -/
theorem buffer_setSlot_of_ne
    {usrdata : UserData} {pinfo : PacketInfo}
    (inside : index < SHARED_BUFFER_SIZE) (slot : position < SHARED_BUFFER_SIZE)
    (other : (side, index) ≠ (active, position)) :
    ((usrdata.setSlot active position pinfo slot).buffer side)[index] =
      (usrdata.buffer side)[index] := by
  by_cases same : side = active
  · have apart : position ≠ index := by
      rintro rfl
      exact other (congrArg (·, position) same)
    subst same
    cases side with
    | false => exact Vector.getElem_set_ne slot inside apart
    | true => exact Vector.getElem_set_ne slot inside apart
  · cases side <;> cases active <;> first | rfl | exact absurd rfl same

/-- Where the callback stores next: in the slot of the producer, or in the first slot of
the other buffer if its own is full. -/
def producerSlot (usrdata : UserData) : Bool × Nat :=
  if usrdata.sharedBufferIndexProducer = SHARED_BUFFER_SIZE then
    (!usrdata.activeBufferProducer, 0)
  else (usrdata.activeBufferProducer, usrdata.sharedBufferIndexProducer)

/-- One slot has been filled, and the producer has gone behind it; all the rest is as it
was. -/
def filling
    (usrdata : UserData)
    (pinfo : PacketInfo)
    (inside : usrdata.producerSlot.2 < SHARED_BUFFER_SIZE) : UserData :=
  { usrdata.setSlot usrdata.producerSlot.1 usrdata.producerSlot.2 pinfo inside with
    activeBufferProducer := usrdata.producerSlot.1
    sharedBufferIndexProducer := usrdata.producerSlot.2 + 1 }

end UserData

/-- The callback has decoded a payload that a slot has room for. -/
structure Decodable
    (inetNtop : InetNtop) (usrdata : UserData)
    (header : PcapPkthdr) (packet : List UInt8) (decoded : Decoded) : Prop where
  running : usrdata.stopLoop = false
  decoding : decodePacket inetNtop usrdata.linktype header packet = .ok (some decoded)
  positive : 1 ≤ decoded.payloadSize
  fits : decoded.payloadSize ≤ MAX_PACKET_SIZE

/-- A call gets to the `throw` behind the test for a full buffer. -/
structure Overflows
    (inetNtop : InetNtop) (usrdata : UserData)
    (header : PcapPkthdr) (packet : List UInt8) : Prop where
  decodable : ∃ decoded, Decodable inetNtop usrdata header packet decoded
  crowded : usrdata.makeRoom = .error .terminate

/-- A slot holds the payload that has been decoded and the time of the capture. -/
structure Holds
    (usrdata : UserData) (header : PcapPkthdr) (packet : List UInt8) (decoded : Decoded)
    (pinfo : PacketInfo) : Prop where
  payload : ∃ start, decoded.payload = some start ∧
    start + decoded.payloadSize ≤ packet.length ∧
    pinfo.payload.toList.take pinfo.payloadSize = bytesAt packet start decoded.payloadSize
  payloadSize : pinfo.payloadSize = decoded.payloadSize
  timing : pinfo.timing = header.ts
  direction : pinfo.direction = usrdata.directionOf decoded.artefacts

/-- The packet holds everything that a call reads of it: the decoder does not get behind its
end, nor does the payload if it is copied. -/
def Readable
    (inetNtop : InetNtop) (usrdata : UserData)
    (header : PcapPkthdr) (packet : List UInt8) : Prop :=
  usrdata.stopLoop = false →
    match decodePacket inetNtop usrdata.linktype header packet with
    | .ok (some decoded) =>
        1 ≤ decoded.payloadSize → decoded.payloadSize ≤ MAX_PACKET_SIZE → usrdata.HasRoom →
          ∃ start, decoded.payload = some start ∧
            start + decoded.payloadSize ≤ packet.length
    | .ok none => True
    | .error fault => ∀ offset, fault ≠ .outOfBounds offset

/-- How a call of the callback ends. -/
inductive CallEnds
    (inetNtop : InetNtop) (usrdata : UserData)
    (header : PcapPkthdr) (packet : List UInt8) : Except Fault Unit → UserData → Prop
  /-- It has stored one packet. -/
  | stores {decoded : Decoded} {pinfo : PacketInfo}
      (decodable : Decodable inetNtop usrdata header packet decoded)
      (holds : Holds usrdata header packet decoded pinfo)
      (inside : usrdata.producerSlot.2 < SHARED_BUFFER_SIZE) :
      CallEnds inetNtop usrdata header packet (.ok ()) (usrdata.filling pinfo inside)
  /-- The capture loop is to stop. -/
  | stopped (stop : usrdata.stopLoop = true) :
      CallEnds inetNtop usrdata header packet (.ok ()) usrdata
  /-- It returns early, as the packet cannot be decoded or the link type is another one. -/
  | dropped
      (running : usrdata.stopLoop = false)
      (decoding : decodePacket inetNtop usrdata.linktype header packet = .ok none) :
      CallEnds inetNtop usrdata header packet (.ok ()) usrdata
  /-- The decoder aborts, or throws an exception that is not caught. -/
  | undecoded {fault : Fault}
      (running : usrdata.stopLoop = false)
      (decoding : decodePacket inetNtop usrdata.linktype header packet = .error fault)
      (inside : ∀ offset, fault ≠ .outOfBounds offset) :
      CallEnds inetNtop usrdata header packet (.error fault) usrdata
  /-- It throws, as no slot has room for the payload. -/
  | oversized {decoded : Decoded}
      (running : usrdata.stopLoop = false)
      (decoding : decodePacket inetNtop usrdata.linktype header packet = .ok (some decoded))
      (large : MAX_PACKET_SIZE < decoded.payloadSize) :
      CallEnds inetNtop usrdata header packet
        (.error (.invalidArgument "Payload size greater 1500 bytes is not supported")) usrdata
  /-- It returns early, as there is no payload. -/
  | empty {decoded : Decoded}
      (running : usrdata.stopLoop = false)
      (decoding : decodePacket inetNtop usrdata.linktype header packet = .ok (some decoded))
      (nothing : decoded.payloadSize = 0) :
      CallEnds inetNtop usrdata header packet (.ok ()) usrdata
  /-- It aborts, as both buffers are full. -/
  | overflows (overflows : Overflows inetNtop usrdata header packet) :
      CallEnds inetNtop usrdata header packet (.error .terminate) usrdata

/-- No call ends behind the packet. -/
theorem CallEnds.inside
    {inetNtop : InetNtop} {usrdata final : UserData} {header : PcapPkthdr}
    {packet : List UInt8} {fault : Fault}
    (ends : CallEnds inetNtop usrdata header packet (.error fault) final) (offset : Nat) :
    fault ≠ .outOfBounds offset := by
  cases ends with
  | undecoded running decoding inside => exact inside offset
  | oversized | overflows => rintro ⟨⟩

/-- How a call ends that reads behind the packet. -/
def EndsOutside : Except Fault Unit → Prop
  | .ok () => False
  | .error fault => ∃ offset, fault = .outOfBounds offset

/-! ## The calls -/

section Calls

variable {inetNtop : InetNtop} {usrdata : UserData} {header : PcapPkthdr}
  {packet : List UInt8} {decoded : Decoded}

/-- A computation that is run in place leaves the shared data as they are. -/
@[simp] theorem ensures_ofExcept
    {α : Type} {returns : α → UserData → Prop} {stops : Fault → UserData → Prop}
    (result : Except Fault α) :
    Ensures returns stops (MonadExcept.ofExcept result) usrdata ↔
      match result with
      | .ok value => returns value usrdata
      | .error fault => stops fault usrdata := by
  cases result <;> rfl

theorem fault_of_readU8
    (failed : (readU8 memory offset).result = .error fault) :
    ∃ past, fault = .outOfBounds past := by
  rw [readU8, Traced.result_bind, Traced.result_emit] at failed
  cases here : memory[offset]? with
  | some byte =>
      simp only [here] at failed
      cases failed
  | none =>
      simp only [here] at failed
      cases failed
      exact ⟨offset, rfl⟩

/-- Bytes that cannot be read lie outside of the buffer. -/
theorem fault_of_readBytes
    (failed : (readBytes memory offset count).result = .error fault) :
    ∃ past, fault = .outOfBounds past := by
  induction count generalizing offset with
  | zero => cases failed
  | succ count inductionHypothesis =>
      rw [readBytes, Traced.result_bind] at failed
      cases first : (readU8 memory offset).result with
      | error other =>
          rw [first] at failed
          cases failed
          exact fault_of_readU8 first
      | ok byte =>
          rw [first] at failed
          change (readBytes memory (offset + 1) count >>= _).result = _ at failed
          rw [Traced.result_bind] at failed
          cases rest : (readBytes memory (offset + 1) count).result with
          | error other =>
              rw [rest] at failed
              cases failed
              exact inductionHypothesis rest
          | ok bytes =>
              rw [rest] at failed
              cases failed

/-- A payload that has been copied lies in the memory of the packet. -/
theorem bytesAt_of_copyPayload
    (copied : copyPayload packet decoded = .ok payload) (filled : decoded.payloadSize ≠ 0) :
    ∃ start, decoded.payload = some start ∧ start + decoded.payloadSize ≤ packet.length ∧
      payload = bytesAt packet start decoded.payloadSize := by
  unfold copyPayload at copied
  split at copied
  next start located =>
    obtain ⟨range, same⟩ := bytesAt_of_readBytes copied
    exact ⟨start, located, range.resolve_left filled, same⟩
  next => cases copied

/-- A slot that is filled with the copied payload holds it. -/
theorem holds_fill
    (copied : copyPayload packet decoded = .ok payload)
    (decodable : Decodable inetNtop usrdata header packet decoded) (pinfo : PacketInfo) :
    Holds usrdata header packet decoded
      (pinfo.fill payload (usrdata.directionOf decoded.artefacts) header.ts) := by
  have size := length_of_copyPayload copied
  obtain ⟨start, located, inside, rfl⟩ :=
    bytesAt_of_copyPayload copied (Nat.ne_of_gt decodable.positive)
  refine ⟨⟨start, located, inside, ?_⟩, size, rfl, rfl⟩
  apply take_overwrite
  rw [size]
  exact decodable.fits

/-- A payload that cannot be copied lies outside of the memory of the packet. -/
theorem fault_of_copyPayload
    (failed : copyPayload packet decoded = .error fault) :
    ∃ offset, fault = .outOfBounds offset := by
  unfold copyPayload at failed
  split at failed
  next => exact fault_of_readBytes failed
  next =>
    cases failed
    exact ⟨0, rfl⟩

/-- Storing behind making room fills the next slot of the producer. -/
theorem storePacket_of_makeRoom
    (bounded : usrdata.sharedBufferIndexProducer ≤ SHARED_BUFFER_SIZE)
    (made : usrdata.makeRoom = .ok roomy)
    (payload : List UInt8) (direction : PacketDirection) (timing : Timeval) :
    ∃ (inside : usrdata.producerSlot.2 < SHARED_BUFFER_SIZE) (pinfo : PacketInfo),
      roomy.storePacket payload direction timing =
        .ok (usrdata.filling (pinfo.fill payload direction timing) inside) := by
  unfold UserData.makeRoom at made
  split at made
  next full =>
    split at made
    next together =>
      cases made
      have slot : usrdata.producerSlot = (!usrdata.activeBufferProducer, 0) := if_pos full
      have inside : 0 < SHARED_BUFFER_SIZE := by decide
      refine ⟨by rwa [slot], (usrdata.buffer (!usrdata.activeBufferProducer))[0], ?_⟩
      rw [UserData.storePacket, dif_pos inside]
      simp only [UserData.filling, slot, UserData.setSlot_producer]
      rfl
    next => cases made
  next room =>
    cases made
    have slot : usrdata.producerSlot =
        (usrdata.activeBufferProducer, usrdata.sharedBufferIndexProducer) := if_neg room
    have inside : usrdata.sharedBufferIndexProducer < SHARED_BUFFER_SIZE :=
      Nat.lt_of_le_of_ne bounded room
    refine ⟨by rwa [slot], (usrdata.buffer usrdata.activeBufferProducer)[
      usrdata.sharedBufferIndexProducer], ?_⟩
    rw [UserData.storePacket, dif_pos inside]
    simp only [UserData.filling, slot, UserData.activeBufferProducer_setSlot]

/-- A payload can be copied exactly if it lies in the packet. -/
theorem copyPayload_isOk_iff (filled : decoded.payloadSize ≠ 0) :
    (∃ payload, copyPayload packet decoded = .ok payload) ↔
      ∃ start, decoded.payload = some start ∧
        start + decoded.payloadSize ≤ packet.length := by
  constructor
  · rintro ⟨payload, copied⟩
    obtain ⟨start, located, inside, _⟩ := bytesAt_of_copyPayload copied filled
    exact ⟨start, located, inside⟩
  · rintro ⟨start, located, inside⟩
    unfold copyPayload
    rw [located]
    have strict : Strict packet (fun _ => True) fun _ => False :=
      ⟨fun _ _ => trivial, fun _ _ _ => not_false, fun _ _ _ => trivial⟩
    exact ⟨bytesAt packet start decoded.payloadSize, Traced.Ensures.result_eq (fun _ => True)
      (strict.readBytes_iff.mpr ⟨.inr inside, rfl⟩)⟩

/-- With room for a payload of a proper size, the call stores it, or reads behind the
packet. -/
theorem recordPayload_ends
    (decodable : Decodable inetNtop usrdata header packet decoded)
    (made : usrdata.makeRoom = .ok roomy)
    (bounded : usrdata.sharedBufferIndexProducer ≤ SHARED_BUFFER_SIZE) :
    Ensures
      (fun _ final => CallEnds inetNtop usrdata header packet (.ok ()) final ∧
        ∃ payload, copyPayload packet decoded = .ok payload)
      (fun fault _ => EndsOutside (.error fault) ∧
        ¬∃ payload, copyPayload packet decoded = .ok payload)
      (PcapLoopCallback.recordPayload header packet decoded) usrdata := by
  have small : ¬1500 < decoded.payloadSize := Nat.not_lt.mpr decodable.fits
  rw [PcapLoopCallback.recordPayload, if_neg small, if_neg (Nat.ne_of_gt decodable.positive),
    ensures_bind, ensures_get, ensures_bind, ensures_ofExcept, made]
  change Ensures _ _ (MonadExcept.ofExcept (copyPayload packet decoded) >>= _) roomy
  rw [ensures_bind, ensures_ofExcept]
  cases copied : copyPayload packet decoded with
  | error fault =>
      refine ⟨fault_of_copyPayload copied, ?_⟩
      rintro ⟨payload, ⟨⟩⟩
  | ok payload =>
      obtain ⟨inside, pinfo, stored⟩ := storePacket_of_makeRoom bounded made payload
        (usrdata.directionOf decoded.artefacts) header.ts
      simp only [ensures_bind, ensures_ofExcept, stored]
      exact ⟨.stores decodable (holds_fill copied decodable pinfo) inside, payload, rfl⟩

/-- A call that overflows terminates the program. -/
theorem Overflows.ensures
    (overflows : Overflows inetNtop usrdata header packet) :
    Ensures (fun _ _ => False) (fun fault final => fault = .terminate ∧ final = usrdata)
      (PcapLoopCallback.handlePacket inetNtop header packet) usrdata := by
  obtain ⟨⟨decoded, running, decoding, positive, fits⟩, crowded⟩ := overflows
  rw [PcapLoopCallback.handlePacket, ensures_bind, ensures_get, running, decoding]
  change Ensures _ _ (PcapLoopCallback.recordPayload header packet decoded) usrdata
  have small : ¬1500 < decoded.payloadSize := Nat.not_lt.mpr fits
  rw [PcapLoopCallback.recordPayload, if_neg small, if_neg (Nat.ne_of_gt positive),
    ensures_bind, ensures_get, ensures_bind, ensures_ofExcept, crowded]
  exact ⟨rfl, rfl⟩

/-- The buffer of the producer is full then, and the consumer has not left the other one. -/
theorem Overflows.full_apart
    (overflows : Overflows inetNtop usrdata header packet) :
    usrdata.sharedBufferIndexProducer = SHARED_BUFFER_SIZE ∧
      usrdata.activeBufferProducer ≠ usrdata.activeBufferConsumer := by
  apply Classical.not_imp.mp
  intro room
  obtain ⟨roomy, made⟩ := UserData.HasRoom.exists_makeRoom room
  cases made.symm.trans overflows.crowded

/-- What a packet has to hold, once it is known what the decoder makes of it. -/
theorem readable_iff_of_decodable (decodable : Decodable inetNtop usrdata header packet decoded) :
    Readable inetNtop usrdata header packet ↔
      (usrdata.HasRoom → ∃ payload, copyPayload packet decoded = .ok payload) := by
  unfold Readable
  rw [copyPayload_isOk_iff (Nat.ne_of_gt decodable.positive), decodable.decoding]
  exact ⟨fun readable => readable decodable.running decodable.positive decodable.fits,
    fun readable _ _ _ => readable⟩

/-- How a call ends whose packet has been decoded. -/
theorem handlePacket_ends_of_decoded
    (running : usrdata.stopLoop = false)
    (decoding : decodePacket inetNtop usrdata.linktype header packet = .ok (some decoded))
    (bounded : usrdata.sharedBufferIndexProducer ≤ SHARED_BUFFER_SIZE) :
    Ensures
      (fun _ final => Readable inetNtop usrdata header packet ∧
        CallEnds inetNtop usrdata header packet (.ok ()) final)
      (fun fault final => Readable inetNtop usrdata header packet ∧
          CallEnds inetNtop usrdata header packet (.error fault) final ∨
        ¬Readable inetNtop usrdata header packet ∧ EndsOutside (.error fault))
      (PcapLoopCallback.handlePacket inetNtop header packet) usrdata := by
  have called : outcome (PcapLoopCallback.handlePacket inetNtop header packet) usrdata =
      outcome (PcapLoopCallback.recordPayload header packet decoded) usrdata := by
    rw [PcapLoopCallback.handlePacket, outcome_bind]
    change outcome (if usrdata.stopLoop = true then _ else _) usrdata = _
    rw [running, if_neg (by decide), decoding]
  have readable_of_size (size : decoded.payloadSize = 0 ∨ MAX_PACKET_SIZE < decoded.payloadSize) :
      Readable inetNtop usrdata header packet := by
    unfold Readable
    rw [decoding]
    intro _ positive fits
    omega
  by_cases large : 1500 < decoded.payloadSize
  · rw [Ensures, called, PcapLoopCallback.recordPayload, if_pos large]
    exact .inl ⟨readable_of_size (.inr large), .oversized running decoding large⟩
  by_cases empty : decoded.payloadSize = 0
  · rw [Ensures, called, PcapLoopCallback.recordPayload, if_neg large, if_pos empty]
    exact ⟨readable_of_size (.inl empty), .empty running decoding empty⟩
  have decodable : Decodable inetNtop usrdata header packet decoded :=
    ⟨running, decoding, Nat.pos_of_ne_zero empty, Nat.not_lt.mp large⟩
  have readable := readable_iff_of_decodable decodable
  by_cases room : usrdata.HasRoom
  · obtain ⟨roomy, made⟩ := room.exists_makeRoom
    rw [Ensures, called]
    refine (recordPayload_ends decodable made bounded).mono ?_ ?_
    · rintro _ final ⟨stored, copied⟩
      exact ⟨readable.mpr fun _ => copied, stored⟩
    · rintro fault final ⟨outside, uncopied⟩
      exact .inr ⟨fun copies => uncopied (readable.mp copies room), outside⟩
  · have overflows : Overflows inetNtop usrdata header packet :=
      ⟨⟨decoded, decodable⟩, UserData.makeRoom_of_not_hasRoom room⟩
    refine overflows.ensures.mono (fun _ _ => False.elim) ?_
    rintro fault final ⟨rfl, rfl⟩
    exact .inl ⟨readable.mpr fun crowded => absurd crowded room, .overflows overflows⟩

/-- A call of the callback stores one packet or keeps everything, or it reads behind the
packet. -/
theorem handlePacket_ends
    (inetNtop : InetNtop) (header : PcapPkthdr) (packet : List UInt8)
    (bounded : usrdata.sharedBufferIndexProducer ≤ SHARED_BUFFER_SIZE) :
    Ensures
      (fun _ final => Readable inetNtop usrdata header packet ∧
        CallEnds inetNtop usrdata header packet (.ok ()) final)
      (fun fault final => Readable inetNtop usrdata header packet ∧
          CallEnds inetNtop usrdata header packet (.error fault) final ∨
        ¬Readable inetNtop usrdata header packet ∧ EndsOutside (.error fault))
      (PcapLoopCallback.handlePacket inetNtop header packet) usrdata := by
  by_cases running : usrdata.stopLoop = false
  · cases decoding : decodePacket inetNtop usrdata.linktype header packet with
    | ok undropped =>
        cases undropped with
        | some decoded => exact handlePacket_ends_of_decoded running decoding bounded
        | none =>
            rw [PcapLoopCallback.handlePacket, ensures_bind, ensures_get, running, decoding]
            refine ⟨?_, .dropped running decoding⟩
            unfold Readable
            rw [decoding]
            exact fun _ => trivial
    | error fault =>
        rw [PcapLoopCallback.handlePacket, ensures_bind, ensures_get, running, decoding]
        have readable : Readable inetNtop usrdata header packet ↔
            ∀ offset, fault ≠ .outOfBounds offset := by
          unfold Readable
          rw [decoding]
          exact ⟨fun inside => inside running, fun inside _ => inside⟩
        by_cases inside : ∀ offset, fault ≠ .outOfBounds offset
        · exact .inl ⟨readable.mpr inside, .undecoded running decoding inside⟩
        · refine .inr ⟨fun readableHere => inside (readable.mp readableHere), ?_⟩
          push Not at inside
          exact inside
  · have stopped : usrdata.stopLoop = true := Bool.eq_true_of_not_eq_false running
    rw [PcapLoopCallback.handlePacket, ensures_bind, ensures_get, stopped]
    exact ⟨fun alive => absurd alive running, .stopped stopped⟩

/-- A call ends in one of the ways of the callback exactly if its packet holds what it
reads. -/
theorem callEnds_iff
    (bounded : usrdata.sharedBufferIndexProducer ≤ SHARED_BUFFER_SIZE)
    {result : Except Fault Unit} {final : UserData}
    (ended : outcome (PcapLoopCallback.handlePacket inetNtop header packet) usrdata =
      (result, final)) :
    CallEnds inetNtop usrdata header packet result final ↔
      Readable inetNtop usrdata header packet := by
  have ends := handlePacket_ends inetNtop header packet bounded
  rw [Ensures, ended] at ends
  cases result with
  | ok =>
      obtain ⟨readable, stored⟩ := ends
      exact iff_of_true stored readable
  | error fault =>
      rcases ends with ⟨readable, kept⟩ | ⟨unreadable, offset, rfl⟩
      · exact iff_of_true kept readable
      · exact iff_of_false (fun kept => kept.inside offset rfl) unreadable

theorem recordPayload_ensures
    (usrdata : UserData) (header : PcapPkthdr) (packet : List UInt8) (decoded : Decoded) :
    Ensures (fun _ final => recordPayload usrdata header packet decoded = .ok final)
      (fun fault _ => recordPayload usrdata header packet decoded = .error fault)
      (PcapLoopCallback.recordPayload header packet decoded) usrdata := by
  rw [PcapLoopCallback.recordPayload, recordPayload]
  split
  next => rfl
  next =>
    split
    next => rfl
    next =>
      rw [ensures_bind, ensures_get, ensures_bind, ensures_ofExcept]
      cases usrdata.makeRoom with
      | error fault => rfl
      | ok roomy =>
          change Ensures _ _ (MonadExcept.ofExcept (copyPayload packet decoded) >>= _) roomy
          rw [ensures_bind, ensures_ofExcept]
          cases copyPayload packet decoded with
          | error fault => rfl
          | ok payload =>
              simp only [ensures_bind, ensures_ofExcept]
              cases stored : roomy.storePacket payload (usrdata.directionOf decoded.artefacts)
                  header.ts with
              | error fault => exact stored
              | ok next => exact stored

/-- A call in place ends as the callback does that returns the shared data. -/
theorem handlePacket_ensures
    (inetNtop : InetNtop) (usrdata : UserData) (header : PcapPkthdr) (packet : List UInt8) :
    Ensures (fun _ final => handlePacket inetNtop usrdata header packet = .ok final)
      (fun fault _ => handlePacket inetNtop usrdata header packet = .error fault)
      (PcapLoopCallback.handlePacket inetNtop header packet) usrdata := by
  rw [PcapLoopCallback.handlePacket, ensures_bind, ensures_get, handlePacket]
  cases usrdata.stopLoop with
  | true => rfl
  | false =>
      cases decodePacket inetNtop usrdata.linktype header packet with
      | error fault => rfl
      | ok undropped =>
          cases undropped with
          | none => rfl
          | some decoded => exact recordPayload_ensures usrdata header packet decoded

section Frame

variable {result : Except Fault Unit} {final : UserData}

@[inherit_doc handlePacket_ensures]
theorem handlePacket_of_outcome
    (ended : outcome (PcapLoopCallback.handlePacket inetNtop header packet) usrdata =
      (result, final)) :
    handlePacket inetNtop usrdata header packet = result.map fun _ => final := by
  have ensured := handlePacket_ensures inetNtop usrdata header packet
  rw [Ensures, ended] at ensured
  cases result with
  | ok => exact ensured
  | error fault => exact ensured

/-- A slot that is not the next one of the producer keeps what it holds. -/
theorem CallEnds.buffer_other
    (ends : CallEnds inetNtop usrdata header packet result final)
    (side : Bool) (index : Nat) (inside : index < SHARED_BUFFER_SIZE)
    (other : (side, index) ≠ usrdata.producerSlot) :
    (final.buffer side)[index] = (usrdata.buffer side)[index] := by
  cases ends with
  | stores decodable holds slot => exact UserData.buffer_setSlot_of_ne inside slot other
  | stopped | dropped | undecoded | oversized | empty | overflows => rfl

/-- The fields of the consumer are as they were. -/
theorem CallEnds.consumer
    (ends : CallEnds inetNtop usrdata header packet result final) :
    final.activeBufferConsumer = usrdata.activeBufferConsumer ∧
      final.sharedBufferIndexConsumer = usrdata.sharedBufferIndexConsumer := by
  cases ends with
  | stores decodable holds slot =>
      exact ⟨UserData.activeBufferConsumer_setSlot, UserData.sharedBufferIndexConsumer_setSlot⟩
  | stopped | dropped | undecoded | oversized | empty | overflows => exact ⟨rfl, rfl⟩

end Frame

end Calls

end NetworkTiming
