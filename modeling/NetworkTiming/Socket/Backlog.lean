import NetworkTiming.PcapWrapper.Effects
import NetworkTiming.Socket.Segmentation

/-!
# What reachable buffers hold

In every state that the callback and the searches reach, a call of the callback fills the
next slot of the producer or changes nothing, as long as it reads nothing behind its packet,
and every unread slot holds a payload.  The buffers overflow only if the searches are a
whole buffer behind.
-/

namespace NetworkTiming

open Interactive

namespace PCAPTimingSocket

/-! ## Slots -/

/-- What a call of the callback changes, and what the unread slots hold. -/
structure KeepsSlots
    (inetNtop : InetNtop) (usrdata : UserData)
    (header : PcapPkthdr) (packet : List UInt8) : Prop where
  ends : ∀ result final,
    outcome (PcapLoopCallback.handlePacket inetNtop header packet) usrdata = (result, final) →
      CallEnds inetNtop usrdata header packet result final
  /-- The callback that the runs take is the same. -/
  agrees : ∀ result final,
    outcome (PcapLoopCallback.handlePacket inetNtop header packet) usrdata = (result, final) →
      handlePacket inetNtop usrdata header packet = result.map fun _ => final
  consumer : ∀ result final,
    outcome (PcapLoopCallback.handlePacket inetNtop header packet) usrdata = (result, final) →
      final.activeBufferConsumer = usrdata.activeBufferConsumer ∧
        final.sharedBufferIndexConsumer = usrdata.sharedBufferIndexConsumer
  otherSlots : ∀ result final,
    outcome (PcapLoopCallback.handlePacket inetNtop header packet) usrdata = (result, final) →
      ∀ side index (inside : index < SHARED_BUFFER_SIZE),
        (side, index) ≠ usrdata.producerSlot →
          (final.buffer side)[index] = (usrdata.buffer side)[index]
  filled : ∀ side index (inside : index < SHARED_BUFFER_SIZE),
    usrdata.queue.Unread side index →
      1 ≤ (usrdata.buffer side)[index].payloadSize ∧
        (usrdata.buffer side)[index].payloadSize ≤ MAX_PACKET_SIZE

/-- Every unread slot holds a payload. -/
theorem Reached.filled
    (reached : Reached inetNtop start events socket)
    {side : Bool} {index : Nat}
    (unread : socket.usrdata.queue.Unread side index) (inside : index < SHARED_BUFFER_SIZE) :
    1 ≤ (socket.usrdata.buffer side)[index].payloadSize ∧
      (socket.usrdata.buffer side)[index].payloadSize ≤ MAX_PACKET_SIZE := by
  have member : (socket.usrdata.buffer side)[index] ∈ socket.usrdata.queue.contents :=
    unread.mem_contents inside
  refine ⟨?_, reached.sound.fits _ member⟩
  rw [Nat.one_le_iff_ne_zero]
  intro empty
  apply reached.payload_ne_nil (List.mem_map_of_mem member)
  rw [PacketInfo.packet, empty, List.take_zero]

/-- In every state that is reached, a call of the callback fills the next slot of the
producer or changes nothing, and every unread slot holds a payload, exactly if the packet
holds everything that the call reads of it. -/
theorem run_keepsSlots_iff
    (inetNtop : InetNtop)
    (socket : PCAPTimingSocket)
    (events : List Event)
    (final : PCAPTimingSocket)
    (reached : Machine.run (step inetNtop) socket.connect events = some final)
    (header : PcapPkthdr) (packet : List UInt8) :
    KeepsSlots inetNtop final.usrdata header packet ↔
      Readable inetNtop final.usrdata header packet := by
  have reached := run_reached reached
  have bounded := reached.sound.queue.writeIndex_le
  constructor
  · intro keeps
    exact (callEnds_iff bounded rfl).mp (keeps.ends _ _ rfl)
  · intro readable
    refine ⟨?_, ?_, ?_, ?_, ?_⟩
    · intro result next ended
      exact (callEnds_iff bounded ended).mpr readable
    · intro result next ended
      exact handlePacket_of_outcome ended
    · intro result next ended
      exact ((callEnds_iff bounded ended).mpr readable).consumer
    · intro result next ended
      exact ((callEnds_iff bounded ended).mpr readable).buffer_other
    · intro side index inside unread
      exact reached.filled unread inside

/-- The slots behind an exchange, with one packet left, when another one is captured. -/
theorem run_keepsSlots_exchange :
    ∃ final, Machine.run (step (succeeding inetText)) portEighty.connect exchange =
        some final ∧ final.usrdata.unread.length = 1 ∧
      KeepsSlots (succeeding inetText) final.usrdata ⟨⟨8, 0⟩, (request 4).encode.length⟩
        (request 4).encode := by
  have ran : ((Machine.run (step (succeeding inetText)) portEighty.connect
      exchange).map fun final => (final.usrdata.unread.length, final.usrdata.linktype)) =
        some (1, .ethernet) := by decide +kernel
  obtain ⟨final, reached, state⟩ := Option.map_eq_some_iff.mp ran
  obtain ⟨unread, ethernet⟩ := Prod.mk.inj state
  refine ⟨final, reached, unread, (run_keepsSlots_iff _ _ _ final reached _ _).mpr ?_⟩
  rintro -
  rw [ethernet]
  exact fun _ _ _ => ⟨54, by decide +kernel, by decide +kernel⟩

/-- A frame of 60 bytes whose IPv4 header announces a packet of 100 bytes. -/
def longerThanCaptured : List UInt8 :=
  List.replicate 12 0 ++ [0x08, 0x00,
    0x45, 0x00, 0x00, 0x64, 0x00, 0x00, 0x40, 0x00, 0x40, 0x06, 0x00, 0x00,
    0x0a, 0x00, 0x00, 0x01, 0x0a, 0x00, 0x00, 0x02,
    0x10, 0x00, 0x00, 0x50, 0x00, 0x00, 0x00, 0x00, 0x00, 0x00, 0x00, 0x00,
    0x50, 0x18, 0x02, 0x00, 0x00, 0x00, 0x00, 0x00] ++ List.replicate 6 0

/-- Of the 60 bytes of payload that the decoder reports, 54 do not lie in the frame, and the
call copies them. -/
theorem not_keepsSlots_longerThanCaptured :
    ¬KeepsSlots (succeeding inetText) portEighty.connect.usrdata ⟨⟨5, 0⟩, 60⟩
      longerThanCaptured := by
  intro keeps
  have readable := (callEnds_iff (Nat.zero_le _) rfl).mp (keeps.ends _ _ rfl) rfl
  have copied : ∃ start, some 54 = some start ∧ start + 60 ≤ 60 :=
    readable (by decide +kernel) (by decide +kernel) fun _ => rfl
  obtain ⟨start, ⟨⟩, inside⟩ := copied
  exact absurd inside (by decide)

/-! ## Overflow -/

/-- An iteration of the loop of `timingForPacket` looks at a slot: it neither waits nor
follows the callback into the other buffer. -/
def Looks (usrdata : UserData) : Prop :=
  ¬(usrdata.activeBufferProducer = usrdata.activeBufferConsumer ∧
      usrdata.sharedBufferIndexProducer = usrdata.sharedBufferIndexConsumer) ∧
    ¬(usrdata.activeBufferProducer ≠ usrdata.activeBufferConsumer ∧
      usrdata.sharedBufferIndexConsumer = SHARED_BUFFER_SIZE)

instance (usrdata : UserData) : Decidable (Looks usrdata) :=
  inferInstanceAs (Decidable (_ ∧ _))

/-- The number of slots that an event looks at. -/
def Event.inspects (socket : PCAPTimingSocket) : Event → Nat
  | .proceed =>
      match socket.search with
      | some search => if search.found = none ∧ Looks socket.usrdata then 1 else 0
      | none => 0
  | _ => 0

/-- The number of packets that have been read during a run. -/
def inspected (inetNtop : InetNtop) (socket : PCAPTimingSocket) (events : List Event) : Nat :=
  Machine.cost (step inetNtop) Event.inspects socket events

/-- The number of packets that have been stored during a run and not been read. -/
def backlog (inetNtop : InetNtop) (socket : PCAPTimingSocket) (events : List Event) : Nat :=
  (captured inetNtop socket.connect.usrdata events).length -
    inspected inetNtop socket.connect events

section Counting

variable {inetNtop : InetNtop} {socket final : PCAPTimingSocket} {events : List Event}

/-- A search that looks at a slot takes the head of the queue. -/
theorem length_unread_iterate
    {usrdata next : UserData} {search later : Search}
    (sound : usrdata.Sound) (iterated : search.iterate usrdata = .ok (next, later)) :
    usrdata.unread.length = next.unread.length + if Looks usrdata then 1 else 0 := by
  unfold Search.iterate at iterated
  split at iterated
  next caughtUp =>
    cases iterated
    rw [if_neg fun looks => looks.1 caughtUp, Nat.add_zero]
  next behind =>
    split at iterated
    next turned =>
      cases iterated
      rw [if_neg fun looks => looks.2 turned, Nat.add_zero, UserData.unread, List.length_map,
        UserData.unread, List.length_map]
      exact (congrArg List.length (DoubleBuffer.contents_turnReader turned.1 turned.2)).symm
    next undrained =>
      obtain ⟨inside, head⟩ := DoubleBuffer.contents_eq_cons sound.queue behind undrained
      have slot : usrdata.sharedBufferIndexConsumer < SHARED_BUFFER_SIZE := inside
      rw [Search.inspect, dif_pos slot] at iterated
      cases iterated
      rw [if_pos ⟨behind, undrained⟩, UserData.unread, List.length_map, head]
      exact congrArg (· + 1) (List.length_map _).symm

/-- A step adds the packet that it stores and takes the one that it looks at. -/
theorem length_unread_step
    {next : PCAPTimingSocket} {event : Event}
    (sound : socket.usrdata.Sound) (stepped : step inetNtop socket event = some next) :
    socket.usrdata.unread.length + (Event.stored inetNtop socket.usrdata event).toList.length =
      event.inspects socket + next.usrdata.unread.length := by
  cases step_cases sound stepped with
  | drop receives => simp [Event.stored, receives, Event.inspects]
  | capture receives appended =>
      simp [Event.stored, receives, Event.inspects, appended.unread]
  | call idle => simp [Event.stored, Event.inspects]
  | @iterate search later usrdata running searching =>
      have iterated : search.iterate socket.usrdata = .ok (usrdata, later) := by
        rw [step, running] at stepped
        simp only [searching] at stepped
        cases iterated : search.iterate socket.usrdata with
        | error fault =>
            rw [iterated] at stepped
            cases stepped
        | ok iteration =>
            rw [iterated] at stepped
            cases stepped
            rfl
      rw [length_unread_iterate sound iterated, Event.inspects, running]
      simp [Event.stored, searching, Nat.add_comm]
  | finish running found timed =>
      simp [Event.stored, Event.inspects, running, found]

/-- What has been stored has been read or is unread. -/
theorem length_captured_eq
    (reached : Machine.run (step inetNtop) socket.connect events = some final) :
    (captured inetNtop socket.connect.usrdata events).length =
      inspected inetNtop socket.connect events + final.usrdata.unread.length := by
  refine @Machine.run_invariant _ _ (step inetNtop) socket.connect final events
    (fun history state => (captured inetNtop socket.connect.usrdata history).length =
      inspected inetNtop socket.connect history + state.usrdata.unread.length) ?_ ?_ reached
  · exact congrArg List.length (UserData.unread_startLoop socket.usrdata).symm
  · intro history state event next before counted stepped
    have passed := run_reached before
    have moved := length_unread_step passed.sound stepped
    rw [stored_of_sameConnection passed.connection] at moved
    rw [captured, List.filterMap_append, List.length_append, inspected,
      Machine.cost_concat before]
    rw [captured, inspected] at counted
    have single : List.filterMap (Event.stored inetNtop socket.connect.usrdata) [event] =
        (Event.stored inetNtop socket.connect.usrdata event).toList := by
      cases same : Event.stored inetNtop socket.connect.usrdata event <;> simp [same]
    rw [single]
    omega

/-- The backlog is the length of the queue. -/
theorem backlog_eq
    (reached : Machine.run (step inetNtop) socket.connect events = some final) :
    backlog inetNtop socket events = final.usrdata.unread.length := by
  rw [backlog, length_captured_eq reached]
  exact Nat.add_sub_cancel_left _ _

end Counting

/-- How far the searches are behind: never more than two buffers, and at least a whole
buffer where the callback overflows. -/
structure BoundsBacklog
    (inetNtop : InetNtop) (socket : PCAPTimingSocket) (events : List Event)
    (final : PCAPTimingSocket) : Prop where
  overflow : ∀ header packet, Overflows inetNtop final.usrdata header packet →
    SHARED_BUFFER_SIZE ≤ backlog inetNtop socket events
  bounded : backlog inetNtop socket events ≤ 2 * SHARED_BUFFER_SIZE
  /-- Searches that are never a whole buffer behind are spared. -/
  spares :
    (∀ before, before <+: events → backlog inetNtop socket before < SHARED_BUFFER_SIZE) →
    ∀ before state, before <+: events →
      Machine.run (step inetNtop) socket.connect before = some state →
        ∀ header packet, ¬Overflows inetNtop state.usrdata header packet

/-- Where the callback overflows, a whole buffer has not been read. -/
theorem unread_of_overflows
    {usrdata : UserData}
    (overflows : Overflows inetNtop usrdata header packet) :
    SHARED_BUFFER_SIZE ≤ usrdata.unread.length := by
  obtain ⟨full, apart⟩ := overflows.full_apart
  rw [UserData.unread, List.length_map]
  exact DoubleBuffer.capacity_le_length_contents apart.symm full

/-- The callback overflows only if the searches are a whole buffer behind. -/
theorem run_boundsBacklog
    (inetNtop : InetNtop)
    (socket : PCAPTimingSocket)
    (events : List Event)
    (final : PCAPTimingSocket)
    (reached : Machine.run (step inetNtop) socket.connect events = some final) :
    BoundsBacklog inetNtop socket events final := by
  refine ⟨?_, ?_, ?_⟩
  · intro header packet overflows
    rw [backlog_eq reached]
    exact unread_of_overflows overflows
  · rw [backlog_eq reached, UserData.unread, List.length_map]
    exact DoubleBuffer.length_contents_le _
  · intro spared before state isPrefix passed header packet overflows
    apply Nat.not_le.mpr (spared before isPrefix)
    rw [backlog_eq passed]
    exact unread_of_overflows overflows

/-- The backlog behind an exchange, with one packet left. -/
theorem run_boundsBacklog_exchange :
    ∃ final, Machine.run (step (succeeding inetText)) portEighty.connect exchange =
        some final ∧ backlog (succeeding inetText) portEighty exchange = 1 ∧
      BoundsBacklog (succeeding inetText) portEighty exchange final := by
  have ran : ((Machine.run (step (succeeding inetText)) portEighty.connect
      exchange).map fun final => final.usrdata.unread.length) = some 1 := by decide +kernel
  obtain ⟨final, reached, unread⟩ := Option.map_eq_some_iff.mp ran
  exact ⟨final, reached, (backlog_eq reached).trans unread,
    run_boundsBacklog _ _ _ final reached⟩

end PCAPTimingSocket

end NetworkTiming
