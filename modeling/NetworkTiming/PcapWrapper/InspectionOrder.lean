import NetworkTiming.PcapWrapper.Coherence

/-!
# The order of inspection

As long as the search does not load the flag of the producer in the one moment at
which a switch is half done and its own buffer is drained, it inspects every stored
packet once, in the order of storing.  A load in that moment sends it behind the end
of its buffer.
-/

namespace NetworkTiming

namespace Threads

/-- The threads are coherent after some number of switches. -/
def InStep (threads : Threads) : Prop :=
  ∃ produced consumed, Coherent threads produced consumed

/-- Every careful step keeps the threads coherent. -/
theorem InStep.step
    {threads next : Threads} {event : Event}
    (inStep : InStep threads)
    (careful : Careful threads event)
    (stepped : threads.step event = some next) : InStep next := by
  obtain ⟨produced, consumed, coherent⟩ := inStep
  cases event with
  | handlePacket packet =>
      simp only [Threads.step, Option.ite_none_right_eq_some, Option.some.injEq] at stepped
      obtain ⟨⟨isIdle, nonempty, fits⟩, rfl⟩ := stepped
      have count := coherent.stored
      rw [isIdle] at count
      exact ⟨produced, consumed, { coherent with
        packet_ne := fun _ => nonempty
        packet_le := fits
        stored := count
        producer := trivial
        consumer := coherent.consumer.mono (Nat.le_refl _) id
          (by simp [Switching, isIdle]) }⟩
  | timingForPacket call =>
      simp only [Threads.step, Option.ite_none_right_eq_some, Option.some.injEq] at stepped
      obtain ⟨isIdle, rfl⟩ := stepped
      have count := coherent.inspected
      rw [isIdle] at count
      exact ⟨produced, consumed, { coherent with
        inspected := count
        consumer := trivial }⟩
  | producer =>
      obtain ⟨produced, coherent⟩ := coherent.produce stepped
      exact ⟨produced, consumed, coherent⟩
  | consumer =>
      obtain ⟨consumed, coherent⟩ := coherent.consume (careful rfl) stepped
      exact ⟨produced, consumed, coherent⟩

/-- After every careful run the threads are coherent. -/
theorem run_inStep
    {usrdata : UserData} {events : List Event} {final : Threads}
    (careful : Machine.Along step Careful (start usrdata) events)
    (reached : Machine.run step (start usrdata) events = some final) :
    InStep final :=
  Machine.run_invariant_along ⟨0, 0, coherent_start usrdata⟩
    (fun _ _ _ inStep careful stepped => inStep.step careful stepped) careful reached

/-- In every run whose steps are all careful, the consumer inspects nothing but the
stored packets, one after another, in every state that is reached. -/
theorem run_inspectsNext
    (usrdata : UserData)
    (events : List Event)
    (careful : Machine.Along step Careful (start usrdata) events)
    (history : List Event)
    (isPrefix : history <+: events)
    (state : Threads)
    (reached : Machine.run step (start usrdata) history = some state) :
    state.InspectsNext := by
  have carefulBefore : Machine.Along step Careful (start usrdata) history :=
    fun before event middle isBefore =>
      careful before event middle (isBefore.trans isPrefix)
  obtain ⟨produced, consumed, coherent⟩ := run_inStep carefulBefore reached
  exact coherent.inspectsNext

/-- A packet of one byte. -/
def onePacket : Packet := ⟨[7], ⟨1, 0⟩, .destinationRemote⟩

/-- The callback stores a packet of one byte. -/
def storeOne : List Event :=
  .handlePacket onePacket :: List.replicate 10 .producer

/-- A run in which the callback stores a second packet while the first one is looked
for. -/
def storeAndSearch : List Event :=
  storeOne ++ .timingForPacket ⟨[7], .destinationRemote⟩ :: .handlePacket onePacket ::
    [.consumer, .producer, .consumer, .producer, .consumer, .producer, .consumer,
      .producer, .consumer, .producer, .consumer, .producer, .consumer, .consumer,
      .consumer]

/-- At the end of that run, the consumer compares the bytes of the first packet. -/
theorem run_inspectsNext_storeAndSearch :
    ∃ state, Machine.run step (start (.unstarted "10.0.0.2" 80)) storeAndSearch =
        some state ∧
      state.consumer.inspects = some (false, 0) ∧ state.InspectsNext := by
  have ran : ((Machine.run step (start (.unstarted "10.0.0.2" 80)) storeAndSearch).map
      fun state => state.consumer.inspects) = some (some (false, 0)) := by decide +kernel
  obtain ⟨state, reached, inspects⟩ := Option.map_eq_some_iff.mp ran
  exact ⟨state, reached, inspects, run_inspectsNext _ storeAndSearch (by decide +kernel)
    storeAndSearch (List.prefix_refl _) state reached⟩

/-! ## A careless load -/

/-- A consumer that is about to test for the end of its drained buffer and finds the
flags equal goes behind the end. -/
theorem exists_overrun
    {threads : Threads}
    (pc : threads.consumer = .testProducer)
    (sameFlag : threads.usrdata.activeBufferProducer =
      threads.usrdata.activeBufferConsumer)
    (drained : threads.usrdata.sharedBufferIndexConsumer = SHARED_BUFFER_SIZE) :
    ∃ final, Machine.run step threads (List.replicate 4 .consumer) = some final ∧
      ¬final.InspectsNext := by
  refine ⟨_, by simp [List.replicate, step, consume, pc, sameFlag]; rfl, ?_⟩
  intro inspectsNext
  obtain ⟨inside, _⟩ := inspectsNext _ rfl
  exact absurd drained (Nat.ne_of_lt inside)

/-- Every careless load of coherent threads leads behind the end of the buffer. -/
theorem Coherent.exists_overrun
    {threads : Threads}
    (coherent : Coherent threads produced consumed)
    (careless : ¬Careful threads .consumer) :
    ∃ final, Machine.run step threads (List.replicate 4 .consumer) = some final ∧
      ¬final.InspectsNext := by
  simp only [Careful, Classical.not_imp, not_not, true_and] at careless
  obtain ⟨pc, drained, switching⟩ := careless
  have together : produced = consumed := by
    have knows := coherent.producer
    obtain producerPc | ⟨active, producerPc⟩ := switching <;> rw [producerPc] at knows
    · exact knows.2
    · exact knows.2.1
  refine Threads.exists_overrun pc ?_ drained
  rw [coherent.producerFlag, coherent.consumerFlag, together]

/-- Both threads after the callback has stored some packets of one byte in the first
buffer, before the first search. -/
structure Filled (count : Nat) (threads : Threads) : Prop where
  producer : threads.producer = .idle
  consumer : threads.consumer = .idle
  activeBufferProducer : threads.usrdata.activeBufferProducer = false
  activeBufferConsumer : threads.usrdata.activeBufferConsumer = false
  sharedBufferIndexProducer : threads.usrdata.sharedBufferIndexProducer = count
  sharedBufferIndexConsumer : threads.usrdata.sharedBufferIndexConsumer = 0
  stored : threads.stored = List.replicate count onePacket
  inspected : threads.inspected = 0

/-- The callback stores one more packet while there is room. -/
theorem Filled.storeOne
    (filled : Filled count threads)
    (room : count < SHARED_BUFFER_SIZE) :
    ∃ final, Machine.run step threads storeOne = some final ∧
      Filled (count + 1) final := by
  obtain ⟨producer, consumer, producerFlag, consumerFlag, producerIndex, consumerIndex,
    stored, inspected⟩ := filled
  have notFull : count ≠ SHARED_BUFFER_SIZE := Nat.ne_of_lt room
  have fits : 1 ≤ MAX_PACKET_SIZE := by decide
  refine ⟨_, by
    simp [Threads.storeOne, List.replicate, Machine.run_cons_match, -Machine.run_cons, step,
      producer, onePacket, produce, storeInto, UserData.modifySlot, fits, room,
      producerIndex, notFull]
    rfl, ?_⟩
  constructor <;>
    simp [producerFlag, consumerFlag, consumer, consumerIndex, stored, inspected,
      List.replicate_succ', onePacket]

/-- The callback fills the first buffer. -/
def fill (count : Nat) : List Event :=
  (List.replicate count Threads.storeOne).flatten

/-- The first buffer can be filled up to its end. -/
theorem run_fill
    (usrdata : UserData)
    (room : count ≤ SHARED_BUFFER_SIZE) :
    ∃ final, Machine.run step (start usrdata) (fill count) = some final ∧
      Filled count final := by
  induction count with
  | zero => exact ⟨start usrdata, rfl, rfl, rfl, rfl, rfl, rfl, rfl, rfl, rfl⟩
  | succ count inductionHypothesis =>
      obtain ⟨middle, reached, filled⟩ := inductionHypothesis (Nat.le_of_succ_le room)
      obtain ⟨final, stored, filled⟩ := filled.storeOne room
      refine ⟨final, ?_, filled⟩
      rw [fill, List.replicate_succ', List.flatten_concat, Machine.run_append,
        ← fill, reached]
      exact stored

/-- A search for a response, of which there is none. -/
def absent : Call := ⟨[7], .sourceRemote⟩

/-- Both threads while a search for a response goes through a full first buffer of
requests. -/
structure Draining (count : Nat) (threads : Threads) : Prop where
  producer : threads.producer = .idle
  consumer : threads.consumer = .compareProducer
  call : threads.call = absent
  activeBufferProducer : threads.usrdata.activeBufferProducer = false
  activeBufferConsumer : threads.usrdata.activeBufferConsumer = false
  sharedBufferIndexProducer :
    threads.usrdata.sharedBufferIndexProducer = SHARED_BUFFER_SIZE
  sharedBufferIndexConsumer : threads.usrdata.sharedBufferIndexConsumer = count
  requests : ∀ index, index < SHARED_BUFFER_SIZE → ∃ pinfo,
    threads.usrdata.load (false, index) = some pinfo ∧
      pinfo.direction = .destinationRemote

/-- The search goes past one more request. -/
theorem Draining.skip
    (draining : Draining count threads)
    (unread : count < SHARED_BUFFER_SIZE) :
    ∃ final, Machine.run step threads (List.replicate 11 .consumer) = some final ∧
      Draining (count + 1) final := by
  obtain ⟨producer, consumer, call, producerFlag, consumerFlag, producerIndex,
    consumerIndex, requests⟩ := draining
  obtain ⟨pinfo, loaded, direction⟩ := requests count unread
  have behind : SHARED_BUFFER_SIZE ≠ count := Nat.ne_of_gt unread
  refine ⟨_, by
    simp [List.replicate, Machine.run_cons_match, -Machine.run_cons, step, consumer, consume,
      behind, producerIndex, producerFlag, consumerIndex, consumerFlag, loaded,
      direction, call, absent, endInspection]
    rfl, ?_⟩
  exact ⟨producer, rfl, rfl, rfl, rfl, rfl, rfl, requests⟩

/-- The search goes through the first buffer. -/
def drain (count : Nat) : List Event :=
  (List.replicate count (List.replicate 11 .consumer)).flatten

/-- The first buffer can be drained up to its end. -/
theorem Draining.run_drain
    {threads : Threads}
    (draining : Draining 0 threads)
    (unread : count ≤ SHARED_BUFFER_SIZE) :
    ∃ final, Machine.run step threads (drain count) = some final ∧
      Draining count final := by
  induction count with
  | zero => exact ⟨threads, rfl, draining⟩
  | succ count inductionHypothesis =>
      obtain ⟨middle, reached, draining⟩ := inductionHypothesis (Nat.le_of_succ_le unread)
      obtain ⟨final, skipped, draining⟩ := draining.skip unread
      refine ⟨final, ?_, draining⟩
      rw [drain, List.replicate_succ', List.flatten_concat, Machine.run_append,
        ← drain, reached]
      exact skipped

/-- A run in which the search takes no step is careful. -/
theorem along_careful
    (noConsumer : ∀ event ∈ events, event ≠ .consumer) :
    Machine.Along step Careful threads events := by
  intro history event state isPrefix _reached isConsumer
  have member : event ∈ events :=
    isPrefix.subset (List.mem_append_right history List.mem_cons_self)
  exact absurd isConsumer (noConsumer event member)

/-- A search that starts when the first buffer is full of requests. -/
theorem Filled.draining
    {usrdata : UserData}
    (reached : Machine.run step (start usrdata) (fill SHARED_BUFFER_SIZE) = some threads)
    (filled : Filled SHARED_BUFFER_SIZE threads) :
    Draining 0 { threads with consumer := .compareProducer, call := absent } := by
  have noConsumer : ∀ event ∈ fill SHARED_BUFFER_SIZE, event ≠ .consumer := by
    intro event member
    obtain ⟨events, isStore, member⟩ := List.mem_flatten.mp member
    have storeOnly : ∀ event ∈ Threads.storeOne, event ≠ .consumer := by decide
    exact storeOnly event (List.eq_of_mem_replicate isStore ▸ member)
  obtain ⟨produced, consumed, coherent⟩ := run_inStep (along_careful noConsumer) reached
  refine ⟨filled.producer, rfl, rfl, filled.activeBufferProducer,
    filled.activeBufferConsumer, filled.sharedBufferIndexProducer,
    filled.sharedBufferIndexConsumer, ?_⟩
  intro index inside
  have consumedZero : consumed = 0 := by
    have inspected := coherent.inspected
    rw [filled.inspected, filled.consumer] at inspected
    have noTurn := Nat.eq_zero_of_add_eq_zero_right inspected.symm
    exact (Nat.mul_eq_zero.mp noTurn).resolve_right (by decide)
  have isRequest : threads.stored[0 * 1000 + index]? = some onePacket := by
    rw [filled.stored, List.getElem?_replicate, if_pos (by omega)]
  have held := coherent.slots 0 index onePacket (Nat.le_of_eq consumedZero) inside isRequest
  obtain ⟨pinfo, loaded, isPacket⟩ := Option.map_eq_some_iff.mp held
  exact ⟨pinfo, loaded, congrArg Packet.direction isPacket⟩

/-- The callback resets its index for one more packet; then the search tests for new
packets. -/
def halfSwitch : List Event :=
  .handlePacket onePacket :: List.replicate 4 .producer ++ List.replicate 4 .consumer

/-- A search through a drained buffer passes its test for new packets while a switch
is half done. -/
theorem Draining.run_halfSwitch
    (draining : Draining SHARED_BUFFER_SIZE threads) :
    ∃ final, Machine.run step threads halfSwitch = some final ∧
      final.consumer = .testProducer ∧
      final.usrdata.activeBufferProducer = final.usrdata.activeBufferConsumer ∧
      final.usrdata.sharedBufferIndexConsumer = SHARED_BUFFER_SIZE := by
  obtain ⟨producer, consumer, call, producerFlag, consumerFlag, producerIndex,
    consumerIndex, requests⟩ := draining
  have fits : 1 ≤ MAX_PACKET_SIZE := by decide
  have nonempty : 0 ≠ SHARED_BUFFER_SIZE := by decide
  refine ⟨_, by
    simp [halfSwitch, List.replicate, Machine.run_cons_match, -Machine.run_cons, step,
      producer, onePacket, fits, produce, consumer, consume, producerIndex, producerFlag,
      consumerIndex, consumerFlag, nonempty]
    rfl, rfl, rfl, rfl⟩

/-- The first buffer is filled and drained before the callback stores one more packet,
and the search loads the flag of the producer when the switch is half done. -/
def drainedSwitch : List Event :=
  fill SHARED_BUFFER_SIZE ++ (.timingForPacket absent :: drain SHARED_BUFFER_SIZE) ++
    halfSwitch ++ List.replicate 4 .consumer

/-- At the end of that run the consumer inspects a slot behind the end of its
buffer. -/
theorem drainedSwitch_not_inspectsNext :
    ∃ final, Machine.run step (start (.unstarted "10.0.0.2" 80)) drainedSwitch =
        some final ∧
      ¬final.InspectsNext := by
  obtain ⟨full, reached, filled⟩ :=
    run_fill (.unstarted "10.0.0.2" 80) (Nat.le_refl SHARED_BUFFER_SIZE)
  obtain ⟨drained, searched, draining⟩ :=
    (filled.draining reached).run_drain (Nat.le_refl SHARED_BUFFER_SIZE)
  obtain ⟨halfway, half, pc, sameFlag, atEnd⟩ := draining.run_halfSwitch
  obtain ⟨final, overrun, broken⟩ := exists_overrun pc sameFlag atEnd
  refine ⟨final, ?_, broken⟩
  have starts : full.step (.timingForPacket absent) =
      some { full with consumer := .compareProducer, call := absent } := by
    simp [step, filled.consumer]
  rw [drainedSwitch, Machine.run_append, Machine.run_append, Machine.run_append, reached,
    Option.bind_some, Machine.run_cons, starts, Option.bind_some, searched,
    Option.bind_some, half, Option.bind_some, overrun]

end Threads

end NetworkTiming
