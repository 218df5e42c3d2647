import NetworkTiming.Library.Machine
import NetworkTiming.PcapWrapper.PcapLoopCallback

/-!
# Looking packets up

`timingForPacket` walks through the captured packets until it finds one with the
bytes it was given.  Its loop runs beside the capture callback, so one iteration
is a definition of its own.
-/

namespace NetworkTiming

/-- What `startLoop` does before it starts the thread of the capture loop. -/
def UserData.startLoop (usrdata : UserData) : UserData :=
  { usrdata with
    sharedBufferIndexConsumer := 0
    sharedBufferIndexProducer := 0
    activeBufferConsumer := false
    activeBufferProducer := false
    stopLoop := false }

/-- Shared data before the capture is started, for evaluating runs: empty slots, an
Ethernet device and timestamps in microseconds. -/
def UserData.unstarted (remoteHost : String) (remotePort : UInt16) : UserData where
  sharedBufferA := .replicate _ ⟨.replicate _ 0, 0, ⟨0, 0⟩, .sourceRemote⟩
  sharedBufferB := .replicate _ ⟨.replicate _ 0, 0, ⟨0, 0⟩, .sourceRemote⟩
  activeBufferConsumer := false
  activeBufferProducer := false
  sharedBufferIndexProducer := 0
  sharedBufferIndexConsumer := 0
  linktype := .ethernet
  tstampPrecision := PCAP_TSTAMP_PRECISION_MICRO
  remoteHost := remoteHost
  remotePort := remotePort
  stopLoop := false

/-- The arguments of `timingForPacket`. -/
structure Call where
  /-- The bytes to look for. -/
  buf : List UInt8
  /-- The direction of the packet to look for. -/
  direction : PacketDirection
  deriving DecidableEq, Repr

/-- The arguments and local variables of a running `timingForPacket`. -/
structure Search extends Call where
  /-- Side and slot that `match` points into, once `found_first` is set. -/
  found : Option (Bool × Nat) := none
  deriving DecidableEq, Repr

namespace Search

/-- The test made on every candidate; the bytes are only compared if the sizes
agree. -/
def Matches (search : Search) (candidate : PacketInfo) : Prop :=
  search.direction = candidate.direction ∧
    search.buf.length = candidate.payloadSize ∧
    candidate.payload.toList.take search.buf.length = search.buf

instance (search : Search) (candidate : PacketInfo) :
    Decidable (search.Matches candidate) :=
  inferInstanceAs (Decidable (_ ∧ _ ∧ _))

/-- Look at the slot of the consumer and go to the next one. -/
def inspect
    (search : Search)
    (usrdata : UserData) : Except Fault (UserData × Search) :=
  if inside : usrdata.sharedBufferIndexConsumer < SHARED_BUFFER_SIZE then
    let active := usrdata.activeBufferConsumer
    let index := usrdata.sharedBufferIndexConsumer
    let candidate := (usrdata.buffer active)[index]
    let search :=
      if search.Matches candidate then { search with found := some (active, index) }
      else search
    .ok ({ usrdata with sharedBufferIndexConsumer := index + 1 }, search)
  else
    .error (.outOfBounds usrdata.sharedBufferIndexConsumer)

/-- One iteration of the loop of `timingForPacket`. -/
def iterate
    (search : Search)
    (usrdata : UserData) : Except Fault (UserData × Search) :=
  if usrdata.activeBufferProducer = usrdata.activeBufferConsumer ∧
      usrdata.sharedBufferIndexProducer = usrdata.sharedBufferIndexConsumer then
    -- no new packets
    .ok (usrdata, search)
  else if usrdata.activeBufferProducer ≠ usrdata.activeBufferConsumer ∧
      usrdata.sharedBufferIndexConsumer = SHARED_BUFFER_SIZE then
    -- switch to the other buffer
    .ok ({ usrdata with
      activeBufferConsumer := !usrdata.activeBufferConsumer
      sharedBufferIndexConsumer := 0 }, search)
  else
    search.inspect usrdata

/-- The time that is read through `match` after the loop. -/
def timing (usrdata : UserData) (slot : Bool × Nat) : Except Fault Timeval :=
  if inside : slot.2 < SHARED_BUFFER_SIZE then
    .ok ((usrdata.buffer slot.1)[slot.2]).timing
  else
    .error (.outOfBounds slot.2)

end Search

/-- A call of `timingForPacket` during which nothing is captured, with a bound on
how often the condition of its loop is tested; `none` if the loop is still
running then. -/
def timingForPacket :
    (tests : Nat) → Search → UserData →
      Option (Except Fault (UserData × Timeval))
  | 0, _, _ => none
  | tests + 1, search, usrdata =>
      match search.found with
      | some slot =>
          some ((Search.timing usrdata slot).map fun time => (usrdata, time))
      | none =>
          match search.iterate usrdata with
          | .error fault => some (.error fault)
          | .ok (usrdata, search) => timingForPacket tests search usrdata

end NetworkTiming
