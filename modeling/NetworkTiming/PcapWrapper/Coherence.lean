import NetworkTiming.PcapWrapper.Interleaving

/-!
# What the two threads know about each other

Both threads count how often they have switched buffers.  The counts differ by at
most one, the flags are their parities, and together with the indices they say how
many packets have been stored and inspected.  Between its loads, each thread knows
something that the other one cannot undo.
-/

namespace NetworkTiming

namespace Threads

/-- The side that a thread is on after some switches. -/
def sideAfter (turns : Nat) : Bool := decide (turns % 2 = 1)

@[simp] theorem sideAfter_succ (turns : Nat) :
    sideAfter (turns + 1) = !sideAfter turns := by
  unfold sideAfter
  obtain even | odd := Nat.mod_two_eq_zero_or_one turns
  · simp [even, Nat.succ_mod_two_eq_one_iff.mpr even]
  · simp [odd, Nat.succ_mod_two_eq_zero_iff.mpr odd]

/-- Two threads at most one switch apart are on the same side exactly if they have
switched equally often. -/
theorem sideAfter_eq_iff
    (ordered : consumed ≤ produced)
    (close : produced ≤ consumed + 1) :
    sideAfter produced = sideAfter consumed ↔ produced = consumed := by
  obtain rfl | rfl : produced = consumed ∨ produced = consumed + 1 := by omega
  · simp
  · simp

/-! ## The producer -/

/-- The producer fills the slot that its index and its switches select, and has
got so far with it. -/
structure Filling
    (load : Slot → Option PacketInfo) (index produced : Nat)
    (slot : Slot) (progress : PacketInfo → Prop) : Prop where
  index_lt : index < 1000
  selected : slot = (sideAfter produced, index)
  content : ∃ pinfo, load slot = some pinfo ∧ progress pinfo

/-- What the producer knows, given how often both threads have switched. -/
def ProducerKnows
    (load : Slot → Option PacketInfo) (index : Nat) (packet : Packet)
    (produced consumed : Nat) : ProducerPc → Prop
  | .idle | .testFull => True
  | .compareProducer => index = 1000
  | .compareConsumer producer => index = 1000 ∧ producer = sideAfter produced
  | .resetIndex => index = 1000 ∧ produced = consumed
  | .loadFlag => index = 0 ∧ produced = consumed
  | .storeFlag active =>
      index = 0 ∧ produced = consumed ∧ active = sideAfter produced
  | .selectBuffer => index < 1000
  | .selectSlot active => index < 1000 ∧ active = sideAfter produced
  | .copyPayload slot copied =>
      copied < packet.payload.length ∧ Filling load index produced slot fun pinfo =>
        pinfo.payload.toList.take copied = packet.payload.take copied
  | .storeSize slot =>
      Filling load index produced slot fun pinfo =>
        pinfo.payload.toList.take packet.payload.length = packet.payload
  | .storeDirection slot =>
      Filling load index produced slot fun pinfo =>
        pinfo.packet.payload = packet.payload
  | .storeSeconds slot =>
      Filling load index produced slot fun pinfo =>
        pinfo.packet.payload = packet.payload ∧
        pinfo.direction = packet.direction
  | .storeMicroseconds slot =>
      Filling load index produced slot fun pinfo =>
        pinfo.packet.payload = packet.payload ∧
        pinfo.direction = packet.direction ∧
        pinfo.timing.tvSec = packet.timing.tvSec
  | .loadIndex =>
      Filling load index produced (sideAfter produced, index) fun pinfo =>
        pinfo.packet = packet
  | .storeIndex loaded =>
      loaded = index ∧
      Filling load index produced (sideAfter produced, index) fun pinfo =>
        pinfo.packet = packet

/-- How many packets have been stored. -/
def storedBy (index produced : Nat) : ProducerPc → Nat
  -- the index has been reset, the flag has not been inverted yet
  | .loadFlag | .storeFlag _ => produced * 1000 + 1000
  | _ => produced * 1000 + index

/-! ## The consumer -/

/-- The test for new packets has been passed: there is an unread packet in the
buffer of the consumer, or the buffer is drained and the producer has left it or
is about to. -/
def Passed
    (index inspected consumed stored produced : Nat) (switching : Prop) : Prop :=
  index < 1000 ∧ inspected < stored ∨
    index = 1000 ∧ (produced = consumed + 1 ∨ switching)

/-- What the consumer knows, given how often both threads have switched and how
many packets have been stored. -/
def ConsumerKnows
    (index inspected consumed stored produced : Nat) (switching : Prop) :
    ConsumerPc → Prop
  | .idle | .compareProducer | .loadProducerIndex => True
  | .compareConsumer producer =>
      producer ≠ sideAfter consumed → produced = consumed + 1
  | .loadConsumerIndex producerIndex =>
      producerIndex ≠ index →
        Passed index inspected consumed stored produced switching
  | .testProducer => Passed index inspected consumed stored produced switching
  | .testConsumer producer =>
      (producer ≠ sideAfter consumed → produced = consumed + 1) ∧
      (producer = sideAfter consumed → index < 1000 ∧ inspected < stored)
  | .testDrained => produced = consumed + 1
  | .loadFlag => index = 1000 ∧ produced = consumed + 1
  | .storeFlag active =>
      index = 1000 ∧ produced = consumed + 1 ∧ active = sideAfter consumed
  | .resetIndex => True
  | .selectBuffer => index < 1000 ∧ inspected < stored
  | .selectSlot active =>
      index < 1000 ∧ inspected < stored ∧ active = sideAfter consumed
  | .loadDirection slot | .loadSize slot | .compareBytes slot _ =>
      index < 1000 ∧ inspected < stored ∧ slot = (sideAfter consumed, index)
  | .loadIndex _ => index < 1000
  | .storeIndex _ loaded => index < 1000 ∧ loaded = index

/-- How many slots have been inspected. -/
def inspectedBy (index consumed : Nat) : ConsumerPc → Nat
  -- the flag has been inverted, the index has not been reset yet
  | .resetIndex => consumed * 1000
  -- the slot has been inspected, the index has not been incremented yet
  | .loadIndex _ | .storeIndex _ _ => consumed * 1000 + index + 1
  | _ => consumed * 1000 + index

/-- What the consumer knows stays true while the producer goes on. -/
theorem ConsumerKnows.mono
    {index inspected consumed stored produced stored' produced' : Nat}
    (knows : ConsumerKnows index inspected consumed stored produced switching pc)
    (more : stored ≤ stored')
    (left : produced = consumed + 1 → produced' = consumed + 1)
    (leaving : switching → switching' ∨ produced' = consumed + 1) :
    ConsumerKnows index inspected consumed stored' produced' switching' pc := by
  have passed : Passed index inspected consumed stored produced switching →
      Passed index inspected consumed stored' produced' switching' := by
    rintro (⟨inside, unread⟩ | ⟨drained, gone | switches⟩)
    · exact Or.inl ⟨inside, Nat.lt_of_lt_of_le unread more⟩
    · exact Or.inr ⟨drained, Or.inl (left gone)⟩
    · exact Or.inr ⟨drained, (leaving switches).symm⟩
  cases pc with
  | idle | compareProducer | loadProducerIndex | resetIndex => trivial
  | compareConsumer producer => exact fun apart => left (knows apart)
  | loadConsumerIndex producerIndex => exact fun apart => passed (knows apart)
  | testProducer => exact passed knows
  | testConsumer producer =>
      refine ⟨fun apart => left (knows.1 apart), fun same => ?_⟩
      exact ⟨(knows.2 same).1, Nat.lt_of_lt_of_le (knows.2 same).2 more⟩
  | testDrained => exact left knows
  | loadFlag => exact ⟨knows.1, left knows.2⟩
  | storeFlag active => exact ⟨knows.1, left knows.2.1, knows.2.2⟩
  | selectBuffer => exact ⟨knows.1, Nat.lt_of_lt_of_le knows.2 more⟩
  | selectSlot active =>
      exact ⟨knows.1, Nat.lt_of_lt_of_le knows.2.1 more, knows.2.2⟩
  | loadDirection slot | loadSize slot | compareBytes slot =>
      exact ⟨knows.1, Nat.lt_of_lt_of_le knows.2.1 more, knows.2.2⟩
  | loadIndex found => exact knows
  | storeIndex found loaded => exact knows

/-! ## The invariant -/

/-- The threads are coherent after some switches of each of them. -/
structure Coherent (threads : Threads) (produced consumed : Nat) : Prop where
  consumed_le : consumed ≤ produced
  produced_le : produced ≤ consumed + 1
  producerFlag : threads.usrdata.activeBufferProducer = sideAfter produced
  /-- A consumer between the two stores of its switch has inverted its flag. -/
  consumerFlag : threads.usrdata.activeBufferConsumer = sideAfter consumed
  producerIndex_le : threads.usrdata.sharedBufferIndexProducer ≤ 1000
  consumerIndex_le : threads.usrdata.sharedBufferIndexConsumer ≤ 1000
  packet_ne : threads.producer ≠ .idle → threads.packet.payload ≠ []
  packet_le : threads.packet.payload.length ≤ MAX_PACKET_SIZE
  stored : threads.stored.length =
    storedBy threads.usrdata.sharedBufferIndexProducer produced threads.producer
  inspected : threads.inspected =
    inspectedBy threads.usrdata.sharedBufferIndexConsumer consumed threads.consumer
  inspected_le : threads.inspected ≤ threads.stored.length
  producer : ProducerKnows threads.usrdata.load
    threads.usrdata.sharedBufferIndexProducer threads.packet produced consumed
    threads.producer
  consumer : ConsumerKnows threads.usrdata.sharedBufferIndexConsumer
    threads.inspected consumed threads.stored.length produced threads.Switching
    threads.consumer
  /-- Since the consumer's last switch, no slot has been filled twice. -/
  slots : ∀ turns index packet, consumed ≤ turns → index < 1000 →
    threads.stored[turns * 1000 + index]? = some packet →
    (threads.usrdata.load (sideAfter turns, index)).map PacketInfo.packet = some packet

/-- Coherent threads inspect the packets in the order of storing. -/
theorem Coherent.inspectsNext
    {threads : Threads}
    (coherent : Coherent threads produced consumed) : threads.InspectsNext := by
  intro slot inspects
  have knows : threads.usrdata.sharedBufferIndexConsumer < 1000 ∧
      threads.inspected < threads.stored.length ∧
      slot = (sideAfter consumed, threads.usrdata.sharedBufferIndexConsumer) ∧
      threads.inspected =
        consumed * 1000 + threads.usrdata.sharedBufferIndexConsumer := by
    have known := coherent.consumer
    have inspected := coherent.inspected
    cases pc : threads.consumer with
    | loadDirection _ | loadSize _ | compareBytes _ _ =>
        rw [pc] at known inspected inspects
        cases inspects
        exact ⟨known.1, known.2.1, known.2.2, inspected⟩
    | _ =>
        rw [pc] at inspects
        cases inspects
  obtain ⟨inside, unread, rfl, inspected⟩ := knows
  have isPacket := List.getElem?_eq_getElem unread
  refine ⟨inside, _, isPacket, ?_⟩
  apply coherent.slots consumed _ _ (Nat.le_refl _) inside
  rw [← inspected]
  exact isPacket

/-- Right after `startLoop` the threads are coherent. -/
theorem coherent_start (usrdata : UserData) : Coherent (start usrdata) 0 0 := by
  constructor <;> simp [start, UserData.startLoop, sideAfter, storedBy, inspectedBy,
    ProducerKnows, ConsumerKnows]

/-! ## Steps of the consumer -/

section Consumer

variable {threads next : Threads} {produced consumed : Nat}

/-- A step of the consumer that does not invert its flag only has to say what the
consumer knows afterwards. -/
theorem Coherent.withConsumer
    (coherent : Coherent threads produced consumed)
    (pc : ConsumerPc) (index inspected : Nat)
    (index_le : index ≤ 1000)
    (count : inspected = inspectedBy index consumed pc)
    (inspected_le : inspected ≤ threads.stored.length)
    (knows : ConsumerKnows index inspected consumed threads.stored.length produced
      threads.Switching pc) :
    Coherent
      { threads with
        usrdata := { threads.usrdata with sharedBufferIndexConsumer := index }
        consumer := pc
        inspected := inspected } produced consumed :=
  { coherent with
    consumerIndex_le := index_le
    inspected := count
    inspected_le := inspected_le
    consumer := knows }

/-- If the producer has left the consumer's buffer, then the buffer is full. -/
theorem Coherent.passed_of_left
    (coherent : Coherent threads produced consumed)
    (left : produced = consumed + 1)
    (count : threads.inspected =
      consumed * 1000 + threads.usrdata.sharedBufferIndexConsumer) :
    Passed threads.usrdata.sharedBufferIndexConsumer threads.inspected consumed
      threads.stored.length produced threads.Switching := by
  have index_le := coherent.consumerIndex_le
  have stored : produced * 1000 ≤ threads.stored.length := by
    rw [coherent.stored]
    unfold storedBy
    split <;> omega
  obtain inside | drained := Nat.lt_or_eq_of_le index_le
  · exact Or.inl ⟨inside, by omega⟩
  · exact Or.inr ⟨drained, Or.inl left⟩

/-- A consumer that finds the two indices different has passed the test. -/
theorem Coherent.passed_of_index_ne
    (coherent : Coherent threads produced consumed)
    (count : threads.inspected =
      consumed * 1000 + threads.usrdata.sharedBufferIndexConsumer)
    (different : threads.usrdata.sharedBufferIndexProducer ≠
      threads.usrdata.sharedBufferIndexConsumer) :
    Passed threads.usrdata.sharedBufferIndexConsumer threads.inspected consumed
      threads.stored.length produced threads.Switching := by
  obtain together | left : produced = consumed ∨ produced = consumed + 1 := by
    have ordered := coherent.consumed_le
    have close := coherent.produced_le
    omega
  · subst together
    have index_le := coherent.consumerIndex_le
    have producer_le := coherent.producerIndex_le
    have inspected_le := coherent.inspected_le
    have stored := coherent.stored
    by_cases switching : threads.Switching
    · obtain inside | drained := Nat.lt_or_eq_of_le index_le
      · refine Or.inl ⟨inside, ?_⟩
        obtain pc | ⟨active, pc⟩ := switching <;>
        · rw [pc, storedBy] at stored
          omega
      · exact Or.inr ⟨drained, Or.inr switching⟩
    · have stored : threads.stored.length =
          produced * 1000 + threads.usrdata.sharedBufferIndexProducer := by
        rw [stored]
        unfold storedBy
        split
        · exact absurd (Or.inl ‹_›) switching
        · exact absurd (Or.inr ⟨_, ‹_›⟩) switching
        · rfl
      exact Or.inl ⟨by omega, by omega⟩
  · exact coherent.passed_of_left left count

/-- A flag of the producer that differs from the consumer's says that the producer
has left. -/
theorem Coherent.left_of_flag_ne
    (coherent : Coherent threads produced consumed)
    (apart : threads.usrdata.activeBufferProducer ≠ sideAfter consumed) :
    produced = consumed + 1 := by
  have ordered := coherent.consumed_le
  have close := coherent.produced_le
  rw [coherent.producerFlag, ne_eq, sideAfter_eq_iff ordered close] at apart
  omega

/-- What the producer knows is not affected by a switch of the consumer. -/
theorem ProducerKnows.consumerTurned
    {packet : Packet}
    (knows : ProducerKnows load index packet produced consumed pc)
    (left : produced = consumed + 1) :
    ProducerKnows load index packet produced (consumed + 1) pc := by
  cases pc with
  | resetIndex => exact ⟨knows.1, left⟩
  | loadFlag => exact ⟨knows.1, left⟩
  | storeFlag active => exact ⟨knows.1, left, knows.2.2⟩
  | _ => exact knows

/-- The end of an inspection. -/
theorem Coherent.endInspection
    (coherent : Coherent threads produced consumed)
    (inside : threads.usrdata.sharedBufferIndexConsumer < 1000)
    (unread : threads.inspected < threads.stored.length)
    (count : threads.inspected =
      consumed * 1000 + threads.usrdata.sharedBufferIndexConsumer)
    (found : Bool) : Coherent (threads.endInspection found) produced consumed := by
  refine coherent.withConsumer (.loadIndex found) _ _ coherent.consumerIndex_le ?_
    unread inside
  rw [count, inspectedBy]

/-- A step of the consumer that stores nothing and ends no inspection. -/
theorem Coherent.consumerGoesOn
    (coherent : Coherent threads produced consumed)
    (pc : ConsumerPc)
    (count : threads.inspected =
      inspectedBy threads.usrdata.sharedBufferIndexConsumer consumed pc)
    (knows : ConsumerKnows threads.usrdata.sharedBufferIndexConsumer threads.inspected
      consumed threads.stored.length produced threads.Switching pc) :
    Coherent { threads with consumer := pc } produced consumed :=
  coherent.withConsumer pc _ _ coherent.consumerIndex_le count coherent.inspected_le knows

/-- The consumer inverts its flag. -/
theorem Coherent.consumerTurns
    (coherent : Coherent threads produced consumed)
    (pc : threads.consumer = .storeFlag active) :
    Coherent
      { threads with
        usrdata := { threads.usrdata with activeBufferConsumer := !active }
        consumer := .resetIndex } produced (consumed + 1) := by
  have count := coherent.inspected
  have knows := coherent.consumer
  rw [pc] at count knows
  obtain ⟨drained, left, rfl⟩ := knows
  refine { coherent with
    consumed_le := Nat.le_of_eq left.symm
    produced_le := by omega
    consumerFlag := (sideAfter_succ consumed).symm
    inspected := ?_
    producer := coherent.producer.consumerTurned left
    consumer := trivial
    slots := ?_ }
  · simp only [inspectedBy] at count ⊢
    omega
  · intro turns index packet later
    exact coherent.slots turns index packet (by omega)

/-- Every step of a careful consumer keeps the threads coherent. -/
theorem Coherent.consume
    (coherent : Coherent threads produced consumed)
    (careful : threads.consumer = .testProducer →
      threads.usrdata.sharedBufferIndexConsumer = SHARED_BUFFER_SIZE →
      ¬threads.Switching)
    (stepped : threads.consume = some next) :
    ∃ consumed, Coherent next produced consumed := by
  have inspected_le := coherent.inspected_le
  have count := coherent.inspected
  have knows := coherent.consumer
  have flag := coherent.consumerFlag
  unfold Threads.consume at stepped
  cases pc : threads.consumer with
  | idle => simp [pc] at stepped
  | compareProducer =>
      simp only [pc, Option.some.injEq] at stepped count
      subst stepped
      exact ⟨consumed, coherent.consumerGoesOn _ count coherent.left_of_flag_ne⟩
  | compareConsumer producer =>
      simp only [pc, Option.some.injEq, flag] at stepped count knows
      subst stepped
      refine ⟨consumed, ?_⟩
      split
      next same =>
        exact coherent.consumerGoesOn .loadProducerIndex count trivial
      next apart =>
        exact coherent.consumerGoesOn .testProducer count
          (coherent.passed_of_left (knows apart) count)
  | loadProducerIndex =>
      simp only [pc, Option.some.injEq] at stepped count
      subst stepped
      exact ⟨consumed, coherent.consumerGoesOn _ count
        (coherent.passed_of_index_ne count)⟩
  | loadConsumerIndex producerIndex =>
      simp only [pc, Option.some.injEq] at stepped count knows
      subst stepped
      refine ⟨consumed, ?_⟩
      split
      next same =>
        exact coherent.consumerGoesOn .compareProducer count trivial
      next apart =>
        exact coherent.consumerGoesOn .testProducer count (knows apart)
  | testProducer =>
      simp only [pc, Option.some.injEq] at stepped count knows
      subst stepped
      refine ⟨consumed, coherent.consumerGoesOn _ count
        ⟨coherent.left_of_flag_ne, fun same => ?_⟩⟩
      have together : produced = consumed :=
        (sideAfter_eq_iff coherent.consumed_le coherent.produced_le).mp
          (coherent.producerFlag.symm.trans same)
      obtain unread | ⟨drained, left | switching⟩ := knows
      · exact unread
      · omega
      · exact absurd switching (careful pc drained)
  | testConsumer producer =>
      simp only [pc, Option.some.injEq, flag] at stepped count knows
      subst stepped
      refine ⟨consumed, ?_⟩
      split
      next apart =>
        exact coherent.consumerGoesOn .testDrained count (knows.1 apart)
      next same =>
        exact coherent.consumerGoesOn .selectBuffer count (knows.2 (not_not.mp same))
  | testDrained =>
      simp only [pc, Option.some.injEq] at stepped count knows
      subst stepped
      refine ⟨consumed, ?_⟩
      split
      next drained =>
        exact coherent.consumerGoesOn .loadFlag count ⟨drained, knows⟩
      next undrained =>
        refine coherent.consumerGoesOn .selectBuffer count ?_
        obtain unread | ⟨drained, _⟩ := coherent.passed_of_left knows count
        · exact unread
        · exact absurd drained undrained
  | loadFlag =>
      simp only [pc, Option.some.injEq] at stepped count knows
      subst stepped
      exact ⟨consumed, coherent.consumerGoesOn _ count ⟨knows.1, knows.2, flag⟩⟩
  | storeFlag active =>
      simp only [pc, Option.some.injEq] at stepped
      subst stepped
      exact ⟨consumed + 1, coherent.consumerTurns pc⟩
  | resetIndex =>
      simp only [pc, Option.some.injEq] at stepped count
      subst stepped
      refine ⟨consumed, coherent.withConsumer _ _ _ (Nat.zero_le _) ?_ inspected_le
        trivial⟩
      simp only [inspectedBy, Nat.add_zero] at count ⊢
      exact count
  | selectBuffer =>
      simp only [pc, Option.some.injEq] at stepped count knows
      subst stepped
      exact ⟨consumed, coherent.consumerGoesOn _ count ⟨knows.1, knows.2, flag⟩⟩
  | selectSlot active =>
      simp only [pc, Option.some.injEq] at stepped count knows
      obtain ⟨inside, unread, rfl⟩ := knows
      subst stepped
      exact ⟨consumed, coherent.consumerGoesOn _ count ⟨inside, unread, rfl⟩⟩
  | loadDirection slot =>
      simp only [pc, Option.map_eq_some_iff] at stepped count knows
      obtain ⟨candidate, _loaded, rfl⟩ := stepped
      refine ⟨consumed, ?_⟩
      split
      · exact coherent.consumerGoesOn (.loadSize slot) count knows
      · exact coherent.endInspection knows.1 knows.2.1 count false
  | loadSize slot =>
      simp only [pc, Option.map_eq_some_iff] at stepped count knows
      obtain ⟨candidate, _loaded, rfl⟩ := stepped
      refine ⟨consumed, ?_⟩
      split
      · split
        · exact coherent.endInspection knows.1 knows.2.1 count true
        · exact coherent.consumerGoesOn (.compareBytes slot 0) count knows
      · exact coherent.endInspection knows.1 knows.2.1 count false
  | compareBytes slot compared =>
      simp only [pc, Option.map_eq_some_iff] at stepped count knows
      obtain ⟨candidate, _loaded, rfl⟩ := stepped
      refine ⟨consumed, ?_⟩
      split
      · split
        · exact coherent.consumerGoesOn (.compareBytes slot (compared + 1)) count knows
        · exact coherent.endInspection knows.1 knows.2.1 count true
      · exact coherent.endInspection knows.1 knows.2.1 count false
  | loadIndex found =>
      simp only [pc, Option.some.injEq] at stepped count knows
      subst stepped
      exact ⟨consumed, coherent.consumerGoesOn _ count ⟨knows, rfl⟩⟩
  | storeIndex found index =>
      simp only [pc, Option.some.injEq] at stepped count knows
      obtain ⟨inside, rfl⟩ := knows
      subst stepped
      have advanced : threads.inspected =
          consumed * 1000 + (threads.usrdata.sharedBufferIndexConsumer + 1) := by
        rw [count, inspectedBy, Nat.add_assoc]
      refine ⟨consumed, ?_⟩
      cases found with
      | true =>
          refine coherent.withConsumer .idle _ _ inside ?_ inspected_le trivial
          rw [advanced, inspectedBy] <;> simp
      | false =>
          refine coherent.withConsumer .compareProducer _ _ inside ?_ inspected_le trivial
          rw [advanced, inspectedBy] <;> simp

end Consumer

/-! ## Steps of the producer -/

section Producer

variable {threads next : Threads} {produced consumed : Nat}

/-- Storing to a part of a slot changes that slot only. -/
theorem modifySlot_cases
    {usrdata changed : UserData} {slot : Slot} {change : PacketInfo → PacketInfo}
    (modified : usrdata.modifySlot slot change = some changed) :
    changed.load slot = (usrdata.load slot).map change ∧
      (∀ other, other ≠ slot → changed.load other = usrdata.load other) ∧
      ∃ first second, changed =
        { usrdata with sharedBufferA := first, sharedBufferB := second } := by
  unfold UserData.modifySlot at modified
  split at modified
  next inside =>
    cases modified
    obtain ⟨side, index⟩ := slot
    unfold UserData.setSlot UserData.load UserData.buffer
    refine ⟨?_, ?_, ?_⟩
    · have isSlot : index < SHARED_BUFFER_SIZE := inside
      cases side <;> simp [Vector.getElem?_eq_getElem isSlot]
    · rintro ⟨otherSide, otherIndex⟩ different
      have apart : otherSide = side → index ≠ otherIndex := by
        rintro rfl rfl
        exact different rfl
      cases side <;> cases otherSide <;> simp_all [Vector.getElem?_set_ne]
    · cases side <;> exact ⟨_, _, rfl⟩
  next => cases modified

/-- A step of the producer that changes no shared data only has to say what the
producer knows afterwards. -/
theorem Coherent.withProducer
    (coherent : Coherent threads produced consumed)
    (busy : threads.producer ≠ .idle)
    (pc : ProducerPc)
    (count : storedBy threads.usrdata.sharedBufferIndexProducer produced pc =
      storedBy threads.usrdata.sharedBufferIndexProducer produced threads.producer)
    (knows : ProducerKnows threads.usrdata.load
      threads.usrdata.sharedBufferIndexProducer threads.packet produced consumed pc)
    (switching : threads.Switching → Switching { threads with producer := pc }) :
    Coherent { threads with producer := pc } produced consumed :=
  { coherent with
    packet_ne := fun _ => coherent.packet_ne busy
    stored := coherent.stored.trans count.symm
    producer := knows
    consumer := coherent.consumer.mono (Nat.le_refl _) id
      fun switches => Or.inl (switching switches) }

/-- The slot that the producer fills holds no packet that the consumer may still
inspect. -/
theorem Coherent.filling_ne
    (coherent : Coherent threads produced consumed)
    (count : threads.stored.length =
      produced * 1000 + threads.usrdata.sharedBufferIndexProducer)
    (later : consumed ≤ turns)
    (isStored : turns * 1000 + index < threads.stored.length) :
    (sideAfter turns, index) ≠
      (sideAfter produced, threads.usrdata.sharedBufferIndexProducer) := by
  intro same
  obtain ⟨sameSide, sameIndex⟩ := Prod.mk.inj same
  have close := coherent.produced_le
  have notAfter : turns ≤ produced := by omega
  have together := (sideAfter_eq_iff notAfter (by omega)).mp sameSide.symm
  subst together
  omega

/-- Storing to a part of the slot that is being filled. -/
theorem Coherent.fill
    (coherent : Coherent threads produced consumed)
    {slot : Slot} {pc : ProducerPc} {change : PacketInfo → PacketInfo}
    {progress further : PacketInfo → Prop}
    (stepped : threads.storeInto slot pc change = some next)
    (filling : Filling threads.usrdata.load
      threads.usrdata.sharedBufferIndexProducer produced slot progress)
    (before : threads.stored.length =
      produced * 1000 + threads.usrdata.sharedBufferIndexProducer)
    (after : ∀ index, storedBy index produced pc = produced * 1000 + index)
    (busy : threads.producer ≠ .idle)
    (notSwitching : ¬threads.Switching)
    (knows : ∀ load index, Filling load index produced slot further →
      ProducerKnows load index threads.packet produced consumed pc)
    (advances : ∀ pinfo, progress pinfo → further (change pinfo)) :
    Coherent next produced consumed := by
  obtain ⟨usrdata, modified, rfl⟩ := Option.map_eq_some_iff.mp stepped
  obtain ⟨atSlot, elsewhere, first, second, shape⟩ := modifySlot_cases modified
  obtain ⟨inside, selected, pinfo, loaded, progressed⟩ := filling
  have index : usrdata.sharedBufferIndexProducer =
      threads.usrdata.sharedBufferIndexProducer := by rw [shape]
  have consumerIndex : usrdata.sharedBufferIndexConsumer =
      threads.usrdata.sharedBufferIndexConsumer := by rw [shape]
  refine ⟨coherent.consumed_le, coherent.produced_le, ?_, ?_, ?_, ?_,
    fun _ => coherent.packet_ne busy, coherent.packet_le, ?_, ?_,
    coherent.inspected_le, ?_, ?_, ?_⟩
  · exact (congrArg UserData.activeBufferProducer shape).trans coherent.producerFlag
  · exact (congrArg UserData.activeBufferConsumer shape).trans coherent.consumerFlag
  · exact index ▸ coherent.producerIndex_le
  · exact consumerIndex ▸ coherent.consumerIndex_le
  · exact before.trans ((after _).trans (congrArg _ index)).symm
  · exact coherent.inspected.trans (by rw [consumerIndex])
  · apply knows
    rw [index]
    refine ⟨inside, selected, change pinfo, ?_, advances pinfo progressed⟩
    rw [atSlot, loaded, Option.map_some]
  · rw [consumerIndex]
    exact coherent.consumer.mono (Nat.le_refl _) id
      fun switches => absurd switches notSwitching
  · intro turns slotIndex packet later index_lt isPacket
    have isStored := (List.getElem?_eq_some_iff.mp isPacket).1
    rw [elsewhere _ (selected ▸ coherent.filling_ne before later isStored)]
    exact coherent.slots turns slotIndex packet later index_lt isPacket

/-- The copied part of the payload grows by one byte. -/
theorem take_setIfInBounds
    {payload : List UInt8} {copied : Nat}
    (array : Vector UInt8 MAX_PACKET_SIZE)
    (more : copied < payload.length)
    (fits : payload.length ≤ MAX_PACKET_SIZE)
    (before : array.toList.take copied = payload.take copied) :
    (array.setIfInBounds copied (payload.getD copied 0)).toList.take (copied + 1) =
      payload.take (copied + 1) := by
  have inside : copied < array.toList.length := by
    rw [Vector.length_toList]
    omega
  rw [Vector.toList_setIfInBounds, List.take_succ_eq_append_getElem (by simpa using inside),
    List.take_set_of_le (Nat.le_refl copied), List.getElem_set_self, before,
    List.take_succ_eq_append_getElem more]
  simp [more]

/-- The producer empties the buffer that it is about to enter. -/
theorem Coherent.producerResets
    (coherent : Coherent threads produced consumed)
    (pc : threads.producer = .resetIndex) :
    Coherent
      { threads with
        usrdata := { threads.usrdata with sharedBufferIndexProducer := 0 }
        producer := .loadFlag } produced consumed := by
  have count := coherent.stored
  have knows := coherent.producer
  rw [pc] at count knows
  refine { coherent with
    producerIndex_le := Nat.zero_le _
    packet_ne := fun _ => coherent.packet_ne (by simp [pc])
    stored := ?_
    producer := ⟨rfl, knows.2⟩
    consumer := coherent.consumer.mono (Nat.le_refl _) id
      fun _ => Or.inl (Or.inl rfl) }
  rw [count, storedBy, storedBy, knows.1] <;> simp

/-- The producer inverts its flag. -/
theorem Coherent.producerTurns
    (coherent : Coherent threads produced consumed)
    (pc : threads.producer = .storeFlag active) :
    Coherent
      { threads with
        usrdata := { threads.usrdata with activeBufferProducer := !active }
        producer := .selectBuffer } (produced + 1) consumed := by
  have count := coherent.stored
  have knows := coherent.producer
  rw [pc] at count knows
  obtain ⟨isZero, together, rfl⟩ := knows
  subst together
  refine { coherent with
    consumed_le := Nat.le_succ _
    produced_le := Nat.le_refl _
    producerFlag := (sideAfter_succ produced).symm
    packet_ne := fun _ => coherent.packet_ne (by simp [pc])
    stored := ?_
    producer := ?_
    consumer := coherent.consumer.mono (Nat.le_refl _) (fun _ => rfl)
      fun _ => Or.inr rfl }
  · simp only [storedBy] at count ⊢
    rw [count, isZero, Nat.add_zero, Nat.succ_mul]
  · change threads.usrdata.sharedBufferIndexProducer < 1000
    rw [isZero]
    decide

/-- With the packet that has been filled in, every slot still holds what was stored
there. -/
theorem Coherent.slots_concat
    (coherent : Coherent threads produced consumed)
    (count : threads.stored.length =
      produced * 1000 + threads.usrdata.sharedBufferIndexProducer)
    (filled : ∃ pinfo, threads.usrdata.load
      (sideAfter produced, threads.usrdata.sharedBufferIndexProducer) = some pinfo ∧
        pinfo.packet = threads.packet)
    (inside : threads.usrdata.sharedBufferIndexProducer < 1000)
    {turns index : Nat} {packet : Packet}
    (later : consumed ≤ turns) (index_lt : index < 1000)
    (isPacket : (threads.stored ++ [threads.packet])[turns * 1000 + index]? =
      some packet) :
    (threads.usrdata.load (sideAfter turns, index)).map PacketInfo.packet =
      some packet := by
  have bound := (List.getElem?_eq_some_iff.mp isPacket).1
  rw [List.length_append, List.length_singleton] at bound
  obtain earlier | newest := Nat.lt_succ_iff_lt_or_eq.mp bound
  · rw [List.getElem?_append_left earlier] at isPacket
    exact coherent.slots turns index packet later index_lt isPacket
  · obtain ⟨rfl, rfl⟩ : turns = produced ∧
        index = threads.usrdata.sharedBufferIndexProducer := by omega
    rw [newest, List.getElem?_concat_length] at isPacket
    cases isPacket
    obtain ⟨pinfo, loaded, isPacket⟩ := filled
    exact (congrArg (Option.map PacketInfo.packet) loaded).trans (congrArg some isPacket)

/-- The producer has stored its packet. -/
theorem Coherent.producerStores
    (coherent : Coherent threads produced consumed)
    (pc : threads.producer = .storeIndex index) :
    Coherent
      { threads with
        usrdata := { threads.usrdata with sharedBufferIndexProducer := index + 1 }
        producer := .idle
        stored := threads.stored ++ [threads.packet] } produced consumed := by
  have count := coherent.stored
  have knows := coherent.producer
  rw [pc] at count knows
  obtain ⟨rfl, inside, _, filled⟩ := knows
  change threads.stored.length =
    produced * 1000 + threads.usrdata.sharedBufferIndexProducer at count
  refine { coherent with
    producerIndex_le := inside
    packet_ne := fun busy => absurd rfl busy
    stored := ?_
    inspected_le := ?_
    producer := trivial
    consumer := coherent.consumer.mono ?_ id (by simp [Switching, pc])
    slots := fun _ _ _ later index_lt isPacket =>
      coherent.slots_concat count filled inside later index_lt isPacket }
  · rw [List.length_append, List.length_singleton, count, Nat.add_assoc]
    rfl
  · rw [List.length_append]
    exact Nat.le_add_right_of_le coherent.inspected_le
  · rw [List.length_append]
    exact Nat.le_add_right _ _

/-- Every step of the producer keeps the threads coherent. -/
theorem Coherent.produce
    (coherent : Coherent threads produced consumed)
    (stepped : threads.produce = some next) :
    ∃ produced, Coherent next produced consumed := by
  have count := coherent.stored
  have knows := coherent.producer
  have flag := coherent.producerFlag
  unfold Threads.produce at stepped
  cases pc : threads.producer with
  | idle => simp [pc] at stepped
  | testFull =>
      simp only [pc, Option.some.injEq] at stepped
      subst stepped
      refine ⟨produced, ?_⟩
      split
      next full =>
        exact coherent.withProducer (by simp [pc]) .compareProducer (by rw [pc]; rfl) full
          (by simp [Switching, pc])
      next room =>
        exact coherent.withProducer (by simp [pc]) .selectBuffer (by rw [pc]; rfl)
          (Nat.lt_of_le_of_ne coherent.producerIndex_le room) (by simp [Switching, pc])
  | compareProducer =>
      simp only [pc, Option.some.injEq] at stepped knows
      subst stepped
      exact ⟨produced, coherent.withProducer (by simp [pc]) _ (by rw [pc]; rfl) ⟨knows, flag⟩
        (by simp [Switching, pc])⟩
  | compareConsumer producer =>
      simp only [pc] at stepped knows
      split at stepped
      next same =>
        cases stepped
        have together : produced = consumed := by
          rw [knows.2, coherent.consumerFlag] at same
          exact (sideAfter_eq_iff coherent.consumed_le coherent.produced_le).mp same
        exact ⟨produced, coherent.withProducer (by simp [pc]) _ (by rw [pc]; rfl)
          ⟨knows.1, together⟩ (by simp [Switching, pc])⟩
      next => cases stepped
  | resetIndex =>
      simp only [pc, Option.some.injEq] at stepped
      subst stepped
      exact ⟨produced, coherent.producerResets pc⟩
  | loadFlag =>
      simp only [pc, Option.some.injEq] at stepped knows
      subst stepped
      exact ⟨produced, coherent.withProducer (by simp [pc]) _ (by rw [pc]; rfl)
        ⟨knows.1, knows.2, flag⟩ fun _ => Or.inr ⟨_, rfl⟩⟩
  | storeFlag active =>
      simp only [pc, Option.some.injEq] at stepped
      subst stepped
      exact ⟨produced + 1, coherent.producerTurns pc⟩
  | selectBuffer =>
      simp only [pc, Option.some.injEq] at stepped knows
      subst stepped
      exact ⟨produced, coherent.withProducer (by simp [pc]) _ (by rw [pc]; rfl) ⟨knows, flag⟩
        (by simp [Switching, pc])⟩
  | selectSlot active =>
      simp only [pc, Option.some.injEq] at stepped knows
      obtain ⟨inside, rfl⟩ := knows
      subst stepped
      have nonempty := coherent.packet_ne (by simp [pc])
      refine ⟨produced, coherent.withProducer (by simp [pc]) _ (by rw [pc]; rfl)
        ⟨List.length_pos_iff.mpr nonempty, inside, rfl, ?_⟩ (by simp [Switching, pc])⟩
      exact ⟨_, Vector.getElem?_eq_getElem inside, rfl⟩
  | copyPayload slot copied =>
      simp only [pc] at stepped knows count
      obtain ⟨more, filling⟩ := knows
      refine ⟨produced, ?_⟩
      split at stepped
      next continues =>
        refine coherent.fill stepped filling count (fun _ => rfl)
          (by simp [pc]) (by simp [Switching, pc]) (fun _ _ filling => ⟨continues, filling⟩) ?_
        intro pinfo before
        exact take_setIfInBounds _ more coherent.packet_le before
      next complete =>
        refine coherent.fill stepped filling count (fun _ => rfl)
          (by simp [pc]) (by simp [Switching, pc]) (fun _ _ filling => filling) ?_
        intro pinfo before
        have whole : copied + 1 = threads.packet.payload.length := by omega
        have copy := take_setIfInBounds pinfo.payload more coherent.packet_le before
        rw [whole, List.take_length] at copy
        exact copy
  | storeSize slot =>
      simp only [pc] at stepped knows count
      exact ⟨produced, coherent.fill stepped knows count (fun _ => rfl)
        (by simp [pc]) (by simp [Switching, pc]) (fun _ _ filling => filling)
        fun _ copied => copied⟩
  | storeDirection slot =>
      simp only [pc] at stepped knows count
      exact ⟨produced, coherent.fill stepped knows count (fun _ => rfl)
        (by simp [pc]) (by simp [Switching, pc]) (fun _ _ filling => filling)
        fun _ copied => ⟨copied, rfl⟩⟩
  | storeSeconds slot =>
      simp only [pc] at stepped knows count
      exact ⟨produced, coherent.fill stepped knows count (fun _ => rfl)
        (by simp [pc]) (by simp [Switching, pc]) (fun _ _ filling => filling)
        fun _ copied => ⟨copied.1, copied.2, rfl⟩⟩
  | storeMicroseconds slot =>
      simp only [pc] at stepped knows count
      have complete : ∀ load index,
          Filling load index produced slot (fun pinfo => pinfo.packet = threads.packet) →
          ProducerKnows load index threads.packet produced consumed .loadIndex := by
        intro load index filling
        have selected := filling.selected
        subst selected
        exact filling
      refine ⟨produced, coherent.fill stepped knows count (fun _ => rfl)
        (by simp [pc]) (by simp [Switching, pc]) complete ?_⟩
      rintro pinfo ⟨payload, direction, seconds⟩
      simp only [PacketInfo.packet] at payload ⊢
      rw [payload, direction, seconds]
  | loadIndex =>
      simp only [pc, Option.some.injEq] at stepped knows
      subst stepped
      exact ⟨produced, coherent.withProducer (by simp [pc]) _ (by rw [pc]; rfl) ⟨rfl, knows⟩
        (by simp [Switching, pc])⟩
  | storeIndex index =>
      simp only [pc, Option.some.injEq] at stepped
      subst stepped
      exact ⟨produced, coherent.producerStores pc⟩

end Producer

end Threads

end NetworkTiming
