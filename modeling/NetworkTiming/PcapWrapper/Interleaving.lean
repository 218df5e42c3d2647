import NetworkTiming.PcapWrapper.Queue

/-!
# Single loads and stores

Neither the callback nor the search takes its steps at once.  Here every load and
every store that `handlePacket` makes from its test for a full buffer on, and that
`timingForPacket` makes in its loop, on the fields of the shared data is a step of
its own.  The steps of each thread happen in program order, operands from left to
right, and each step is seen at once by the other thread.
-/

namespace NetworkTiming

/-- A slot of one of the two buffers. -/
abbrev Slot := Bool × Nat

/-- What the thread of the capture loop does next. -/
inductive ProducerPc
  /-- No call has got as far as the buffers. -/
  | idle
  /-- Load the index and compare it with the size of the buffers. -/
  | testFull
  /-- Load its own flag for the comparison of the flags. -/
  | compareProducer
  /-- Load the flag of the consumer and compare. -/
  | compareConsumer (producer : Bool)
  /-- Store zero to the index: the first half of a switch. -/
  | resetIndex
  /-- Load the flag to be inverted. -/
  | loadFlag
  /-- Store the inverted flag: the second half of a switch. -/
  | storeFlag (active : Bool)
  /-- Load the flag that selects the buffer. -/
  | selectBuffer
  /-- Load the index that selects the slot. -/
  | selectSlot (active : Bool)
  /-- Store one byte of the payload. -/
  | copyPayload (slot : Slot) (copied : Nat)
  /-- Store the size of the payload. -/
  | storeSize (slot : Slot)
  /-- Store the direction. -/
  | storeDirection (slot : Slot)
  /-- Store the seconds. -/
  | storeSeconds (slot : Slot)
  /-- Store the microseconds. -/
  | storeMicroseconds (slot : Slot)
  /-- Load the index to be incremented. -/
  | loadIndex
  /-- Store the incremented index. -/
  | storeIndex (index : Nat)
  deriving DecidableEq, Repr

/-- What the thread that looks a packet up does next. -/
inductive ConsumerPc
  /-- No call is running. -/
  | idle
  /-- Test for new packets: load the flag of the producer. -/
  | compareProducer
  /-- Load its own flag and compare. -/
  | compareConsumer (producer : Bool)
  /-- Load the index of the producer. -/
  | loadProducerIndex
  /-- Load its own index and compare. -/
  | loadConsumerIndex (producerIndex : Nat)
  /-- Test for the end of the buffer: load the flag of the producer. -/
  | testProducer
  /-- Load its own flag and compare. -/
  | testConsumer (producer : Bool)
  /-- Load its own index and compare it with the size of the buffers. -/
  | testDrained
  /-- Load the flag to be inverted. -/
  | loadFlag
  /-- Store the inverted flag: the first half of a switch. -/
  | storeFlag (active : Bool)
  /-- Store zero to the index: the second half of a switch. -/
  | resetIndex
  /-- Load the flag that selects the buffer. -/
  | selectBuffer
  /-- Load the index that selects the slot. -/
  | selectSlot (active : Bool)
  /-- Load the direction of the candidate and compare. -/
  | loadDirection (slot : Slot)
  /-- Load the size of the candidate and compare. -/
  | loadSize (slot : Slot)
  /-- Load one byte of the candidate and compare. -/
  | compareBytes (slot : Slot) (compared : Nat)
  /-- Load the index to be incremented. -/
  | loadIndex (found : Bool)
  /-- Store the incremented index. -/
  | storeIndex (found : Bool) (index : Nat)
  deriving DecidableEq, Repr

/-- The slot that the consumer inspects. -/
def ConsumerPc.inspects : ConsumerPc → Option Slot
  | .loadDirection slot | .loadSize slot | .compareBytes slot _ => some slot
  | _ => none

/-- The shared data and the local data of both threads, with the history of what
they have done. -/
structure Threads where
  usrdata : UserData
  producer : ProducerPc
  /-- What the running call of the callback stores. -/
  packet : Packet
  consumer : ConsumerPc
  /-- What the running call of `timingForPacket` looks for. -/
  call : Call
  /-- The packets stored by completed calls of the callback, oldest first. -/
  stored : List Packet
  /-- How many slots the consumer has finished inspecting. -/
  inspected : Nat

namespace UserData

/-- The content of a slot; there is none outside of the buffers. -/
def load (usrdata : UserData) (slot : Slot) : Option PacketInfo :=
  (usrdata.buffer slot.1)[slot.2]?

/-- Store to a part of a slot; `none` outside of the buffers. -/
def modifySlot
    (usrdata : UserData)
    (slot : Slot)
    (change : PacketInfo → PacketInfo) : Option UserData :=
  if inside : slot.2 < SHARED_BUFFER_SIZE then
    some (usrdata.setSlot slot.1 slot.2 (change (usrdata.buffer slot.1)[slot.2]) inside)
  else
    none

end UserData

namespace Threads

/-! ## The callback -/

/-- Store to a part of a slot and go on. -/
def storeInto
    (threads : Threads)
    (slot : Slot)
    (next : ProducerPc)
    (change : PacketInfo → PacketInfo) : Option Threads :=
  (threads.usrdata.modifySlot slot change).map fun usrdata =>
    { threads with usrdata := usrdata, producer := next }

/-- The next load or store of the callback.  There is none after the `throw` of a
producer that finds both buffers in use. -/
def produce (threads : Threads) : Option Threads :=
  let usrdata := threads.usrdata
  match threads.producer with
  | .idle => none
  | .testFull =>
      some { threads with
        producer :=
          if usrdata.sharedBufferIndexProducer = SHARED_BUFFER_SIZE then
            .compareProducer
          else .selectBuffer }
  | .compareProducer =>
      some { threads with producer := .compareConsumer usrdata.activeBufferProducer }
  | .compareConsumer producer =>
      if producer = usrdata.activeBufferConsumer then
        some { threads with producer := .resetIndex }
      else none
  | .resetIndex =>
      some { threads with
        usrdata := { usrdata with sharedBufferIndexProducer := 0 }
        producer := .loadFlag }
  | .loadFlag =>
      some { threads with producer := .storeFlag usrdata.activeBufferProducer }
  | .storeFlag active =>
      some { threads with
        usrdata := { usrdata with activeBufferProducer := !active }
        producer := .selectBuffer }
  | .selectBuffer =>
      some { threads with producer := .selectSlot usrdata.activeBufferProducer }
  | .selectSlot active =>
      some { threads with
        producer := .copyPayload (active, usrdata.sharedBufferIndexProducer) 0 }
  | .copyPayload slot copied =>
      threads.storeInto slot
        (if copied + 1 < threads.packet.payload.length then
          .copyPayload slot (copied + 1)
        else .storeSize slot)
        fun pinfo => { pinfo with
          payload := pinfo.payload.setIfInBounds copied
            (threads.packet.payload.getD copied 0) }
  | .storeSize slot =>
      threads.storeInto slot (.storeDirection slot) fun pinfo =>
        { pinfo with payloadSize := threads.packet.payload.length }
  | .storeDirection slot =>
      threads.storeInto slot (.storeSeconds slot) fun pinfo =>
        { pinfo with direction := threads.packet.direction }
  | .storeSeconds slot =>
      threads.storeInto slot (.storeMicroseconds slot) fun pinfo =>
        { pinfo with timing := { pinfo.timing with
            tvSec := threads.packet.timing.tvSec } }
  | .storeMicroseconds slot =>
      threads.storeInto slot .loadIndex fun pinfo =>
        { pinfo with timing := { pinfo.timing with
            tvUsec := threads.packet.timing.tvUsec } }
  | .loadIndex =>
      some { threads with producer := .storeIndex usrdata.sharedBufferIndexProducer }
  | .storeIndex index =>
      some { threads with
        usrdata := { usrdata with sharedBufferIndexProducer := index + 1 }
        producer := .idle
        stored := threads.stored ++ [threads.packet] }

/-! ## The search -/

/-- The inspection of a slot is over. -/
def endInspection (threads : Threads) (found : Bool) : Threads :=
  { threads with
    consumer := .loadIndex found
    inspected := threads.inspected + 1 }

/-- The next load or store of the search.  Nothing is said about loads outside of
the buffers. -/
def consume (threads : Threads) : Option Threads :=
  let usrdata := threads.usrdata
  match threads.consumer with
  | .idle => none
  | .compareProducer =>
      some { threads with consumer := .compareConsumer usrdata.activeBufferProducer }
  | .compareConsumer producer =>
      some { threads with
        consumer :=
          if producer = usrdata.activeBufferConsumer then .loadProducerIndex
          else .testProducer }
  | .loadProducerIndex =>
      some { threads with
        consumer := .loadConsumerIndex usrdata.sharedBufferIndexProducer }
  | .loadConsumerIndex producerIndex =>
      some { threads with
        consumer :=
          if producerIndex = usrdata.sharedBufferIndexConsumer then .compareProducer
          else .testProducer }
  | .testProducer =>
      some { threads with consumer := .testConsumer usrdata.activeBufferProducer }
  | .testConsumer producer =>
      some { threads with
        consumer :=
          if producer ≠ usrdata.activeBufferConsumer then .testDrained
          else .selectBuffer }
  | .testDrained =>
      some { threads with
        consumer :=
          if usrdata.sharedBufferIndexConsumer = SHARED_BUFFER_SIZE then .loadFlag
          else .selectBuffer }
  | .loadFlag =>
      some { threads with consumer := .storeFlag usrdata.activeBufferConsumer }
  | .storeFlag active =>
      some { threads with
        usrdata := { usrdata with activeBufferConsumer := !active }
        consumer := .resetIndex }
  | .resetIndex =>
      some { threads with
        usrdata := { usrdata with sharedBufferIndexConsumer := 0 }
        consumer := .compareProducer }
  | .selectBuffer =>
      some { threads with consumer := .selectSlot usrdata.activeBufferConsumer }
  | .selectSlot active =>
      some { threads with
        consumer := .loadDirection (active, usrdata.sharedBufferIndexConsumer) }
  | .loadDirection slot =>
      (usrdata.load slot).map fun candidate =>
        if threads.call.direction = candidate.direction then
          { threads with consumer := .loadSize slot }
        else threads.endInspection false
  | .loadSize slot =>
      (usrdata.load slot).map fun candidate =>
        if threads.call.buf.length = candidate.payloadSize then
          if threads.call.buf = [] then threads.endInspection true
          else { threads with consumer := .compareBytes slot 0 }
        else threads.endInspection false
  | .compareBytes slot compared =>
      (usrdata.load slot).map fun candidate =>
        if candidate.payload[compared]? = threads.call.buf[compared]? then
          if compared + 1 < threads.call.buf.length then
            { threads with consumer := .compareBytes slot (compared + 1) }
          else threads.endInspection true
        else threads.endInspection false
  | .loadIndex found =>
      some { threads with
        consumer := .storeIndex found usrdata.sharedBufferIndexConsumer }
  | .storeIndex found index =>
      some { threads with
        usrdata := { usrdata with sharedBufferIndexConsumer := index + 1 }
        consumer := if found then .idle else .compareProducer }

/-! ## Both threads -/

/-- What happens next. -/
inductive Event
  /-- A call of the callback gets to the buffers. -/
  | handlePacket (packet : Packet)
  /-- A search starts. -/
  | timingForPacket (call : Call)
  /-- The callback takes a step. -/
  | producer
  /-- The search takes a step. -/
  | consumer
  deriving DecidableEq, Repr

/-- One step.  A call that gets to the buffers brings a payload of one to
`MAX_PACKET_SIZE` bytes. -/
def step (threads : Threads) : Event → Option Threads
  | .handlePacket packet =>
      if threads.producer = .idle ∧ packet.payload ≠ [] ∧
          packet.payload.length ≤ MAX_PACKET_SIZE then
        some { threads with producer := .testFull, packet := packet }
      else none
  | .timingForPacket call =>
      if threads.consumer = .idle then
        some { threads with consumer := .compareProducer, call := call }
      else none
  | .producer => threads.produce
  | .consumer => threads.consume

/-- Both threads after `startLoop`. -/
def start (usrdata : UserData) : Threads where
  usrdata := usrdata.startLoop
  producer := .idle
  packet := ⟨[], ⟨0, 0⟩, .sourceRemote⟩
  consumer := .idle
  call := ⟨[], .sourceRemote⟩
  stored := []
  inspected := 0

/-- Whatever the consumer inspects lies inside the buffers and is the packet that
comes, in the order of storing, after the ones it has inspected before; the slot
holds the packet as it was stored. -/
def InspectsNext (threads : Threads) : Prop :=
  ∀ slot, threads.consumer.inspects = some slot →
    slot.2 < SHARED_BUFFER_SIZE ∧
    ∃ packet, threads.stored[threads.inspected]? = some packet ∧
      (threads.usrdata.load slot).map PacketInfo.packet = some packet

/-- The callback is between the two stores of a switch. -/
def Switching (threads : Threads) : Prop :=
  threads.producer = .loadFlag ∨
    ∃ active, threads.producer = .storeFlag active

instance (threads : Threads) : Decidable threads.Switching :=
  inferInstanceAs (Decidable (_ ∨ _))

/-- The search does not load the flag of the producer for its test for the end of
the buffer while the callback is between the two stores of a switch and the buffer
of the search is drained. -/
def Careful (threads : Threads) (event : Event) : Prop :=
  event = .consumer → threads.consumer = .testProducer →
    threads.usrdata.sharedBufferIndexConsumer = SHARED_BUFFER_SIZE →
    ¬threads.Switching

instance (threads : Threads) (event : Event) : Decidable (threads.Careful event) :=
  inferInstanceAs (Decidable (_ → _))

end Threads

end NetworkTiming
