import NetworkTiming.PcapWrapper.PcapWrapper

/-!
# The shared buffers as a queue

The two shared buffers are a double buffer.  Every step of the callback and of
the search refines a step on the queue of captured packets that it represents.
-/

namespace NetworkTiming

open Traced

/-- A captured packet as the search sees it. -/
structure Packet where
  payload : List UInt8
  timing : Timeval
  direction : PacketDirection
  deriving DecidableEq, Repr

/-- The packet stored in a slot. -/
def PacketInfo.packet (pinfo : PacketInfo) : Packet where
  payload := pinfo.payload.toList.take pinfo.payloadSize
  timing := pinfo.timing
  direction := pinfo.direction

/-- The packet is what a call of `timingForPacket` looks for. -/
def Call.AnsweredBy (call : Call) (packet : Packet) : Prop :=
  packet.direction = call.direction ∧ packet.payload = call.buf

instance (call : Call) (packet : Packet) : Decidable (call.AnsweredBy packet) :=
  inferInstanceAs (Decidable (_ ∧ _))

namespace UserData

/-- The shared buffers, flags and indices as a double buffer. -/
def queue (usrdata : UserData) : DoubleBuffer PacketInfo SHARED_BUFFER_SIZE where
  first := usrdata.sharedBufferA
  second := usrdata.sharedBufferB
  reader := usrdata.activeBufferConsumer
  writer := usrdata.activeBufferProducer
  readIndex := usrdata.sharedBufferIndexConsumer
  writeIndex := usrdata.sharedBufferIndexProducer

/-- The captured packets that have not been looked at, oldest first. -/
def unread (usrdata : UserData) : List Packet :=
  usrdata.queue.contents.map PacketInfo.packet

/-- The shared buffers hold a queue of packets that fit into their slots. -/
structure Sound (usrdata : UserData) : Prop where
  queue : usrdata.queue.Invariant
  fits : ∀ pinfo ∈ usrdata.queue.contents, pinfo.payloadSize ≤ MAX_PACKET_SIZE

/-- The fields that no step changes. -/
structure SameConnection (usrdata other : UserData) : Prop where
  linktype : other.linktype = usrdata.linktype
  tstampPrecision : other.tstampPrecision = usrdata.tstampPrecision
  remoteHost : other.remoteHost = usrdata.remoteHost
  remotePort : other.remotePort = usrdata.remotePort
  stopLoop : other.stopLoop = usrdata.stopLoop

theorem SameConnection.refl (usrdata : UserData) : SameConnection usrdata usrdata :=
  ⟨rfl, rfl, rfl, rfl, rfl⟩

theorem SameConnection.trans
    (first : SameConnection usrdata middle)
    (second : SameConnection middle other) : SameConnection usrdata other where
  linktype := second.linktype.trans first.linktype
  tstampPrecision := second.tstampPrecision.trans first.tstampPrecision
  remoteHost := second.remoteHost.trans first.remoteHost
  remotePort := second.remotePort.trans first.remotePort
  stopLoop := second.stopLoop.trans first.stopLoop

/-! ## The start -/

@[simp] theorem contents_queue_startLoop (usrdata : UserData) :
    usrdata.startLoop.queue.contents = [] :=
  DoubleBuffer.contents_eq_nil ⟨rfl, rfl⟩

@[simp] theorem unread_startLoop (usrdata : UserData) :
    usrdata.startLoop.unread = [] := by
  rw [unread, contents_queue_startLoop, List.map_nil]

theorem sound_startLoop (usrdata : UserData) : usrdata.startLoop.Sound where
  queue := ⟨Nat.zero_le _, Nat.zero_le _, fun _ => Nat.le_refl _⟩
  fits := by simp

/-! ## The callback -/

/-- What a packet filled into a slot is read as. -/
theorem packet_fill
    (pinfo : PacketInfo)
    (fits : payload.length ≤ MAX_PACKET_SIZE) :
    (pinfo.fill payload direction timing).packet =
      ⟨payload, timing, direction⟩ := by
  simp only [PacketInfo.fill, PacketInfo.packet]
  rw [take_overwrite pinfo.payload fits]

/-- Making room is a turn of the writer or nothing. -/
theorem makeRoom_cases
    (valid : usrdata.queue.Invariant)
    (made : usrdata.makeRoom = .ok roomy) :
    SameConnection usrdata roomy ∧
      (roomy.queue = usrdata.queue ∧ usrdata.queue.writeIndex < SHARED_BUFFER_SIZE ∨
        usrdata.queue.writer = usrdata.queue.reader ∧
          usrdata.queue.writeIndex = SHARED_BUFFER_SIZE ∧
          roomy.queue = usrdata.queue.turnWriter) := by
  unfold makeRoom at made
  split at made
  next full =>
    split at made
    next together =>
      cases made
      exact ⟨⟨rfl, rfl, rfl, rfl, rfl⟩, Or.inr ⟨together, full, rfl⟩⟩
    next => cases made
  next room =>
    cases made
    exact ⟨SameConnection.refl _,
      Or.inl ⟨rfl, Nat.lt_of_le_of_ne valid.writeIndex_le room⟩⟩

/-- A packet stored by the callback is written to the queue. -/
theorem storePacket_cases
    (stored : usrdata.storePacket payload direction timing = .ok next) :
    ∃ (inside : usrdata.queue.writeIndex < SHARED_BUFFER_SIZE) (pinfo : PacketInfo),
      SameConnection usrdata next ∧
      next.queue = usrdata.queue.write (pinfo.fill payload direction timing) inside := by
  unfold storePacket at stored
  split at stored
  next inside =>
    cases stored
    refine ⟨inside, (usrdata.buffer usrdata.activeBufferProducer)[
      usrdata.sharedBufferIndexProducer], ?_⟩
    unfold setSlot DoubleBuffer.write DoubleBuffer.store queue
    cases usrdata.activeBufferProducer <;> exact ⟨⟨rfl, rfl, rfl, rfl, rfl⟩, rfl⟩
  next => cases stored

/-- One more packet at the end of the queue, and nothing else that the consumer
or a later call of the callback could see. -/
structure Appended (usrdata next : UserData) (packet : Packet) : Prop where
  sound : next.Sound
  unread : next.unread = usrdata.unread ++ [packet]
  connection : SameConnection usrdata next
  forConsumer : usrdata.queue.SameForReader next.queue

/-- Making room and storing appends to the queue. -/
theorem Sound.appended
    (sound : usrdata.Sound)
    (fits : payload.length ≤ MAX_PACKET_SIZE)
    (made : usrdata.makeRoom = .ok roomy)
    (stored : roomy.storePacket payload direction timing = .ok next) :
    Appended usrdata next ⟨payload, timing, direction⟩ := by
  obtain ⟨roomyConnection, turned⟩ := makeRoom_cases sound.queue made
  obtain ⟨inside, pinfo, connection, written⟩ := storePacket_cases stored
  have room : roomy.queue.Invariant ∧
      roomy.queue.contents = usrdata.queue.contents ∧
      usrdata.queue.SameForReader roomy.queue := by
    obtain ⟨same, _⟩ | ⟨together, full, turn⟩ := turned
    · rw [same]
      exact ⟨sound.queue, rfl, .refl _⟩
    · rw [turn]
      exact ⟨sound.queue.turnWriter together,
        DoubleBuffer.contents_turnWriter together full, .turnWriter together⟩
  obtain ⟨valid, contents, forConsumer⟩ := room
  have appended : next.queue.contents =
      usrdata.queue.contents ++ [pinfo.fill payload direction timing] := by
    rw [written, DoubleBuffer.contents_write valid, contents]
  constructor
  · constructor
    · rw [written]
      exact valid.write _ inside
    · intro other member
      rw [appended, List.mem_append, List.mem_singleton] at member
      obtain old | rfl := member
      · exact sound.fits other old
      · exact fits
  · rw [unread, appended, List.map_append, List.map_singleton, packet_fill _ fits]
    rfl
  · exact roomyConnection.trans connection
  · rw [written]
    exact forConsumer.trans (.write valid _ inside)

/-- The callback has room for one more packet: its buffer is not full, or the
consumer has left the other one. -/
def HasRoom (usrdata : UserData) : Prop :=
  usrdata.sharedBufferIndexProducer = SHARED_BUFFER_SIZE →
    usrdata.activeBufferProducer = usrdata.activeBufferConsumer

/-- With room for one more packet, the callback can store. -/
theorem HasRoom.exists_storePacket
    {usrdata : UserData}
    (room : usrdata.HasRoom)
    (bounded : usrdata.sharedBufferIndexProducer ≤ SHARED_BUFFER_SIZE)
    (payload : List UInt8) (direction : PacketDirection) (timing : Timeval) :
    ∃ roomy next, usrdata.makeRoom = .ok roomy ∧
      roomy.storePacket payload direction timing = .ok next := by
  by_cases full : usrdata.sharedBufferIndexProducer = SHARED_BUFFER_SIZE
  · rw [makeRoom, if_pos full, if_pos (room full)]
    exact ⟨_, _, rfl, dif_pos (show 0 < SHARED_BUFFER_SIZE by decide)⟩
  · rw [makeRoom, if_neg full]
    exact ⟨_, _, rfl, dif_pos (Nat.lt_of_le_of_ne bounded full)⟩

/-- With room for one more packet, the callback can make it. -/
theorem HasRoom.exists_makeRoom
    {usrdata : UserData}
    (room : usrdata.HasRoom) :
    ∃ roomy, usrdata.makeRoom = .ok roomy := by
  unfold makeRoom
  split
  case isTrue full => exact ⟨_, if_pos (room full)⟩
  case isFalse => exact ⟨_, rfl⟩

/-- Without room, the callback terminates the program. -/
theorem makeRoom_of_not_hasRoom
    {usrdata : UserData}
    (crowded : ¬usrdata.HasRoom) :
    usrdata.makeRoom = .error .terminate := by
  obtain ⟨full, apart⟩ := Classical.not_imp.mp crowded
  rw [makeRoom, if_pos full, if_neg apart]

end UserData

/-! ## What the callback receives -/

/-- The packet that a decoded payload is stored as, if it is stored. -/
def receivedPayload
    (usrdata : UserData)
    (header : PcapPkthdr)
    (packet : List UInt8)
    (decoded : Decoded) : Except Fault (Option Packet) :=
  if 1500 < decoded.payloadSize then
    .error (.invalidArgument "Payload size greater 1500 bytes is not supported")
  else if decoded.payloadSize = 0 then
    .ok none
  else do
    let payload ← copyPayload packet decoded
    pure (some ⟨payload, header.ts, usrdata.directionOf decoded.artefacts⟩)

/-- What the callback makes of a captured packet, buffers aside: `none` if the
packet is dropped. -/
def received
    (inetNtop : InetNtop)
    (usrdata : UserData)
    (header : PcapPkthdr)
    (packet : List UInt8) : Except Fault (Option Packet) :=
  if usrdata.stopLoop then
    .ok none
  else
    match decodePacket inetNtop usrdata.linktype header packet with
    | .ok (some decoded) => receivedPayload usrdata header packet decoded
    | .ok none => .ok none
    | .error fault => .error fault

/-- What is received depends on the connection only. -/
theorem UserData.SameConnection.received_eq
    (same : SameConnection usrdata other) :
    received inetNtop other header packet =
      received inetNtop usrdata header packet := by
  unfold received receivedPayload UserData.directionOf
  rw [same.stopLoop, same.linktype, same.remoteHost, same.remotePort]

/-- As many bytes are read as were asked for. -/
theorem length_of_readBytes
    (bytesRead : (readBytes memory offset count).result = .ok bytes) :
    bytes.length = count := by
  obtain ⟨range, rfl⟩ := bytesAt_of_readBytes bytesRead
  rw [bytesAt, List.length_take, List.length_drop]
  omega

/-- The copied payload has the size that was decoded. -/
theorem length_of_copyPayload
    (copied : copyPayload packet decoded = .ok payload) :
    payload.length = decoded.payloadSize := by
  unfold copyPayload at copied
  split at copied
  · exact length_of_readBytes copied
  · cases copied

/-- Making room for a packet and storing it. -/
def UserData.Stores (usrdata next : UserData) (stored : Packet) : Prop :=
  stored.payload.length ≤ MAX_PACKET_SIZE ∧
    ∃ roomy, usrdata.makeRoom = .ok roomy ∧
      roomy.storePacket stored.payload stored.direction stored.timing = .ok next

/-- Storing a decoded payload, or leaving it out, follows what is received. -/
theorem recordPayload_cases
    {usrdata : UserData}
    (recorded : recordPayload usrdata header packet decoded = .ok next) :
    receivedPayload usrdata header packet decoded = .ok none ∧ next = usrdata ∨
      ∃ stored, receivedPayload usrdata header packet decoded = .ok (some stored) ∧
        UserData.Stores usrdata next stored := by
  unfold recordPayload at recorded
  unfold receivedPayload
  split at recorded
  next => cases recorded
  next bounded =>
    rw [if_neg bounded]
    split at recorded
    next empty =>
      cases recorded
      exact Or.inl ⟨if_pos empty, rfl⟩
    next nonempty =>
      obtain ⟨roomy, made, recorded⟩ := except_bind_eq_ok_iff.mp recorded
      obtain ⟨payload, copied, stored⟩ := except_bind_eq_ok_iff.mp recorded
      rw [if_neg nonempty, copied]
      refine Or.inr ⟨_, rfl, ?_, roomy, made, stored⟩
      rw [length_of_copyPayload copied]
      exact Nat.not_lt.mp bounded

/-- A call of the callback that returns drops the packet and changes nothing, or
stores what it received. -/
theorem handlePacket_stores
    {usrdata : UserData}
    (handled : handlePacket inetNtop usrdata header packet = .ok next) :
    received inetNtop usrdata header packet = .ok none ∧ next = usrdata ∨
      ∃ stored, received inetNtop usrdata header packet = .ok (some stored) ∧
        UserData.Stores usrdata next stored := by
  unfold handlePacket at handled
  unfold received
  split at handled
  next stopped =>
    cases handled
    exact Or.inl ⟨if_pos stopped, rfl⟩
  next running =>
    rw [if_neg running]
    cases decoding : decodePacket inetNtop usrdata.linktype header packet with
    | error fault =>
        rw [decoding] at handled
        cases handled
    | ok undropped =>
        rw [decoding] at handled
        cases undropped with
        | none =>
            cases handled
            exact Or.inl ⟨rfl, rfl⟩
        | some decoded => exact recordPayload_cases handled

/-- On a sound queue, a stored packet is appended. -/
theorem handlePacket_cases
    {usrdata : UserData}
    (sound : usrdata.Sound)
    (handled : handlePacket inetNtop usrdata header packet = .ok next) :
    received inetNtop usrdata header packet = .ok none ∧ next = usrdata ∨
      ∃ stored, received inetNtop usrdata header packet = .ok (some stored) ∧
        UserData.Appended usrdata next stored := by
  obtain dropped | ⟨stored, receives, fits, roomy, made, storing⟩ :=
    handlePacket_stores handled
  · exact Or.inl dropped
  · exact Or.inr ⟨stored, receives, sound.appended fits made storing⟩

/-- With room in the queue, the callback returns exactly if the packet can be
received. -/
theorem UserData.HasRoom.exists_handlePacket_iff
    {usrdata : UserData}
    (room : usrdata.HasRoom)
    (bounded : usrdata.sharedBufferIndexProducer ≤ SHARED_BUFFER_SIZE) :
    (∃ next, handlePacket inetNtop usrdata header packet = .ok next) ↔
      ∃ stored, received inetNtop usrdata header packet = .ok stored := by
  constructor
  · rintro ⟨next, handled⟩
    obtain ⟨receives, _⟩ | ⟨stored, receives, _⟩ := handlePacket_stores handled
    · exact ⟨none, receives⟩
    · exact ⟨some stored, receives⟩
  rintro ⟨stored, receives⟩
  unfold received at receives
  unfold handlePacket
  split at receives
  next stopped => exact ⟨_, if_pos stopped⟩
  next running =>
    rw [if_neg running]
    cases decoding : decodePacket inetNtop usrdata.linktype header packet with
    | error fault =>
        rw [decoding] at receives
        cases receives
    | ok undropped =>
        rw [decoding] at receives
        cases undropped with
        | none => exact ⟨_, rfl⟩
        | some decoded =>
            change receivedPayload usrdata header packet decoded = .ok stored at receives
            change ∃ next, recordPayload usrdata header packet decoded = .ok next
            unfold receivedPayload at receives
            unfold recordPayload
            split at receives
            next => cases receives
            next small =>
              rw [if_neg small]
              split at receives
              next empty => exact ⟨_, if_pos empty⟩
              next nonempty =>
                obtain ⟨payload, copied, _⟩ := except_bind_eq_ok_iff.mp receives
                obtain ⟨roomy, next, made, stored⟩ :=
                  room.exists_storePacket bounded payload
                    (usrdata.directionOf decoded.artefacts) header.ts
                rw [if_neg nonempty, made, copied]
                exact ⟨next, stored⟩

/-! ## The search -/

namespace Search

/-- Comparing a search with a slot is comparing it with the packet in it. -/
theorem matches_iff
    {search : Search} {pinfo : PacketInfo}
    (fits : pinfo.payloadSize ≤ MAX_PACKET_SIZE) :
    search.Matches pinfo ↔ search.toCall.AnsweredBy pinfo.packet := by
  unfold Matches Call.AnsweredBy PacketInfo.packet
  constructor
  · rintro ⟨sameDirection, sameSize, sameBytes⟩
    rw [sameSize] at sameBytes
    exact ⟨sameDirection.symm, sameBytes⟩
  · rintro ⟨sameDirection, sameBytes⟩
    have sameSize : search.buf.length = pinfo.payloadSize := by
      rw [← sameBytes, List.length_take, Vector.length_toList]
      omega
    rw [sameSize]
    exact ⟨sameDirection.symm, rfl, sameBytes⟩

/-- What one iteration does to the queue and to the search. -/
inductive Iteration (search : Search) (usrdata : UserData) :
    UserData → Search → Prop
  /-- There is nothing to look at. -/
  | idle (empty : usrdata.unread = []) : Iteration search usrdata usrdata search
  /-- The consumer follows the producer into the other buffer. -/
  | turn {next : UserData}
      (drained : usrdata.sharedBufferIndexConsumer = SHARED_BUFFER_SIZE)
      (position : next.sharedBufferIndexConsumer = 0)
      (unread : next.unread = usrdata.unread) : Iteration search usrdata next search
  /-- The packet at the head is not the one looked for. -/
  | skip {next : UserData} {head : Packet}
      (unread : usrdata.unread = head :: next.unread)
      (different : ¬search.toCall.AnsweredBy head) :
      Iteration search usrdata next search
  /-- The packet at the head is the one looked for. -/
  | hit {next : UserData} {head : Packet} {index : Nat}
      (unread : usrdata.unread = head :: next.unread)
      (answers : search.toCall.AnsweredBy head)
      (behind : index < next.sharedBufferIndexConsumer)
      (timed : timing next (next.activeBufferConsumer, index) = .ok head.timing) :
      Iteration search usrdata next
        { search with found := some (next.activeBufferConsumer, index) }

/-- Looking at a slot removes the head of the queue. -/
theorem inspect_cases
    (search : Search)
    {usrdata : UserData}
    (sound : usrdata.Sound)
    (inside : usrdata.queue.readIndex < SHARED_BUFFER_SIZE)
    (behind : ¬(usrdata.queue.writer = usrdata.queue.reader ∧
      usrdata.queue.writeIndex = usrdata.queue.readIndex))
    (head : usrdata.queue.contents =
      (usrdata.queue.side usrdata.queue.reader)[usrdata.queue.readIndex] ::
        usrdata.queue.advance.contents) :
    ∃ next later, search.inspect usrdata = .ok (next, later) ∧
      next.Sound ∧ UserData.SameConnection usrdata next ∧
      Iteration search usrdata next later := by
  let candidate := (usrdata.queue.side usrdata.queue.reader)[usrdata.queue.readIndex]
  let next : UserData := { usrdata with
    sharedBufferIndexConsumer := usrdata.sharedBufferIndexConsumer + 1 }
  have slot : usrdata.sharedBufferIndexConsumer < SHARED_BUFFER_SIZE := inside
  have fits : candidate.payloadSize ≤ MAX_PACKET_SIZE :=
    sound.fits candidate (by rw [head]; exact List.mem_cons_self)
  have sound : next.Sound := by
    refine ⟨sound.queue.advance behind inside, fun pinfo member => ?_⟩
    apply sound.fits pinfo
    rw [head]
    exact List.mem_cons_of_mem _ member
  have unread : usrdata.unread = candidate.packet :: next.unread := by
    rw [UserData.unread, head]
    rfl
  by_cases answers : search.Matches candidate
  · refine ⟨next, { search with
      found := some (usrdata.activeBufferConsumer,
        usrdata.sharedBufferIndexConsumer) }, ?_, sound, ⟨rfl, rfl, rfl, rfl, rfl⟩, ?_⟩
    · rw [inspect, dif_pos slot]
      exact congrArg (fun later => Except.ok (next, later)) (if_pos answers)
    · exact Iteration.hit unread ((matches_iff fits).mp answers)
        (Nat.lt_succ_self _) (dif_pos inside)
  · refine ⟨next, search, ?_, sound, ⟨rfl, rfl, rfl, rfl, rfl⟩, ?_⟩
    · rw [inspect, dif_pos slot]
      exact congrArg (fun later => Except.ok (next, later)) (if_neg answers)
    · exact Iteration.skip unread (mt (matches_iff fits).mpr answers)

/-- An iteration never leaves the buffers: it waits, follows the producer, or
removes the head of the queue. -/
theorem iterate_cases
    (search : Search)
    {usrdata : UserData}
    (sound : usrdata.Sound) :
    ∃ next later, search.iterate usrdata = .ok (next, later) ∧
      next.Sound ∧ UserData.SameConnection usrdata next ∧
      Iteration search usrdata next later := by
  unfold iterate
  split
  next caughtUp =>
    refine ⟨usrdata, search, rfl, sound, .refl _, Iteration.idle ?_⟩
    rw [UserData.unread,
      DoubleBuffer.contents_eq_nil ⟨caughtUp.1.symm, caughtUp.2⟩, List.map_nil]
  next behind =>
    split
    next turned =>
      have contents : usrdata.queue.turnReader.contents = usrdata.queue.contents :=
        DoubleBuffer.contents_turnReader turned.1 turned.2
      refine ⟨_, search, rfl, ⟨sound.queue.turnReader, ?_⟩,
        ⟨rfl, rfl, rfl, rfl, rfl⟩, Iteration.turn turned.2 rfl ?_⟩
      · intro pinfo member
        exact sound.fits pinfo (contents ▸ member)
      · exact congrArg (List.map PacketInfo.packet) contents
    next undrained =>
      obtain ⟨inside, head⟩ :=
        DoubleBuffer.contents_eq_cons sound.queue behind undrained
      exact inspect_cases search sound inside behind head

end Search

end NetworkTiming
