import NetworkTiming.Library.Scan
import NetworkTiming.PcapWrapper.Queue

/-!
# Sockets whose traffic is captured

A write or a read of such a socket ends with looking its packet up among the
captured ones.  Packets are captured by a thread of its own, so that the callback
may run before, between and after the iterations of a search.
-/

namespace NetworkTiming

/-- A socket whose traffic is captured. -/
structure PCAPTimingSocket where
  /-- What the capture shares with the socket. -/
  usrdata : UserData
  /-- Time recorded by the last write. -/
  txTimestamp : Timeval
  /-- Time recorded by the last read that delivered something. -/
  rxTimestamp : Timeval
  /-- The running call of `timingForPacket`, if there is one. -/
  search : Option Search
  /-- Times recorded by all completed calls, oldest first. -/
  recorded : List Timeval

namespace PCAPTimingSocket

/-- What happens on the two threads. -/
inductive Event
  /-- The callback is called for a captured frame. -/
  | handlePacket (header : PcapPkthdr) (packet : List UInt8)
  /-- A write or a read starts to look for its packet. -/
  | timingForPacket (call : Call)
  /-- The running search tests the condition of its loop, and iterates or
  returns. -/
  | proceed
  deriving DecidableEq, Repr

/-- A write looks for the packet that carries what it sent.  What a partial send
leaves over is sent by a nested write, whose call comes first. -/
def write (data : List UInt8) : Event :=
  .timingForPacket { buf := data, direction := .destinationRemote }

/-- A read that delivered something looks for the packet that carried it. -/
def read (buf : List UInt8) : Event :=
  .timingForPacket { buf := buf, direction := .sourceRemote }

/-- The socket right after `connect`, which starts the capture. -/
def connect (socket : PCAPTimingSocket) : PCAPTimingSocket :=
  { socket with usrdata := socket.usrdata.startLoop, search := none, recorded := [] }

/-- The timestamp of a direction: writes record when their packet was sent, reads
when theirs was received. -/
def timestamp (socket : PCAPTimingSocket) : PacketDirection → Timeval
  | .destinationRemote => socket.txTimestamp
  | .sourceRemote => socket.rxTimestamp

/-- Record what a call of `timingForPacket` returned. -/
def record
    (socket : PCAPTimingSocket)
    (direction : PacketDirection)
    (time : Timeval) : PCAPTimingSocket :=
  let socket := { socket with search := none, recorded := socket.recorded ++ [time] }
  match direction with
  | .destinationRemote => { socket with txTimestamp := time }
  | .sourceRemote => { socket with rxTimestamp := time }

/-- One step of one of the two threads; a fault ends the run. -/
def step
    (inetNtop : InetNtop)
    (socket : PCAPTimingSocket) : Event → Option PCAPTimingSocket
  | .handlePacket header packet =>
      match handlePacket inetNtop socket.usrdata header packet with
      | .ok usrdata => some { socket with usrdata := usrdata }
      | .error _ => none
  | .timingForPacket call =>
      match socket.search with
      | none => some { socket with search := some { call with } }
      | some _ => none
  | .proceed =>
      match socket.search with
      | none => none
      | some search =>
          match search.found with
          | some slot =>
              match Search.timing socket.usrdata slot with
              | .ok time => some (socket.record search.direction time)
              | .error _ => none
          | none =>
              match search.iterate socket.usrdata with
              | .ok (usrdata, search) =>
                  some { socket with usrdata := usrdata, search := some search }
              | .error _ => none

/-- The time between the last write and the last read, in nanoseconds. -/
def getLastMeasurement (socket : PCAPTimingSocket) : Except Fault UInt64 :=
  timevalDeltaToNs socket.usrdata.tstampPrecision socket.txTimestamp
    socket.rxTimestamp

/-! ## Fields -/

@[simp] theorem usrdata_record :
    (record socket direction time).usrdata = socket.usrdata := by
  cases direction <;> rfl

@[simp] theorem search_record :
    (record socket direction time).search = none := by
  cases direction <;> rfl

@[simp] theorem recorded_record :
    (record socket direction time).recorded = socket.recorded ++ [time] := by
  cases direction <;> rfl

@[simp] theorem timestamp_record_same :
    (record socket direction time).timestamp direction = time := by
  cases direction <;> rfl

theorem timestamp_record_other
    (different : other ≠ direction) :
    (record socket direction time).timestamp other = socket.timestamp other := by
  cases direction <;> cases other <;> first | rfl | exact absurd rfl different

/-! ## Steps -/

/-- What a step does, in terms of the queue of captured packets. -/
inductive Step (inetNtop : InetNtop) (socket : PCAPTimingSocket) :
    Event → PCAPTimingSocket → Prop
  /-- The callback drops a frame. -/
  | drop {header packet}
      (receives : received inetNtop socket.usrdata header packet = .ok none) :
      Step inetNtop socket (.handlePacket header packet) socket
  /-- The callback stores a packet. -/
  | capture {header packet stored usrdata}
      (receives : received inetNtop socket.usrdata header packet = .ok (some stored))
      (appended : UserData.Appended socket.usrdata usrdata stored) :
      Step inetNtop socket (.handlePacket header packet)
        { socket with usrdata := usrdata }
  /-- A search starts. -/
  | call {call : Call}
      (idle : socket.search = none) :
      Step inetNtop socket (.timingForPacket call)
        { socket with search := some { call with } }
  /-- A search iterates. -/
  | iterate {search later usrdata}
      (running : socket.search = some search)
      (searching : search.found = none)
      (sound : UserData.Sound usrdata)
      (connection : UserData.SameConnection socket.usrdata usrdata)
      (iteration : search.Iteration socket.usrdata usrdata later) :
      Step inetNtop socket .proceed
        { socket with usrdata := usrdata, search := some later }
  /-- A search returns. -/
  | finish {search slot time}
      (running : socket.search = some search)
      (found : search.found = some slot)
      (timed : Search.timing socket.usrdata slot = .ok time) :
      Step inetNtop socket .proceed (socket.record search.direction time)

/-- Every step is one of the above. -/
theorem step_cases
    {socket : PCAPTimingSocket}
    (sound : socket.usrdata.Sound)
    (stepped : step inetNtop socket event = some next) :
    Step inetNtop socket event next := by
  cases event with
  | handlePacket header packet =>
      rw [step] at stepped
      cases handled : handlePacket inetNtop socket.usrdata header packet with
      | error fault =>
          rw [handled] at stepped
          cases stepped
      | ok usrdata =>
          rw [handled] at stepped
          cases stepped
          obtain ⟨receives, rfl⟩ | ⟨stored, receives, appended⟩ :=
            handlePacket_cases sound handled
          · exact Step.drop receives
          · exact Step.capture receives appended
  | timingForPacket call =>
      rw [step] at stepped
      cases running : socket.search with
      | none =>
          rw [running] at stepped
          cases stepped
          exact Step.call running
      | some search =>
          rw [running] at stepped
          cases stepped
  | proceed =>
      rw [step] at stepped
      cases running : socket.search with
      | none =>
          rw [running] at stepped
          cases stepped
      | some search =>
      rw [running] at stepped
      cases found : search.found with
      | some slot =>
          simp only [found] at stepped
          cases timed : Search.timing socket.usrdata slot with
          | error fault =>
              rw [timed] at stepped
              cases stepped
          | ok time =>
              rw [timed] at stepped
              cases stepped
              exact Step.finish running found timed
      | none =>
          simp only [found] at stepped
          obtain ⟨usrdata, later, iterated, stillSound, connection, iteration⟩ :=
            search.iterate_cases sound
          rw [iterated] at stepped
          cases stepped
          exact Step.iterate running found stillSound connection iteration

/-- Steps keep the shared buffers sound. -/
theorem Step.sound
    (stepped : Step inetNtop socket event next)
    (sound : socket.usrdata.Sound) : next.usrdata.Sound := by
  cases stepped with
  | drop => exact sound
  | capture receives appended => exact appended.sound
  | call => exact sound
  | iterate running searching stillSound => exact stillSound
  | finish =>
      rw [usrdata_record]
      exact sound

/-- Steps do not change the connection. -/
theorem Step.connection
    (stepped : Step inetNtop socket event next) :
    UserData.SameConnection socket.usrdata next.usrdata := by
  cases stepped with
  | drop => exact .refl _
  | capture receives appended => exact appended.connection
  | call => exact .refl _
  | iterate running searching stillSound connection => exact connection
  | finish =>
      rw [usrdata_record]
      exact .refl _

/-! ## Histories -/

/-- The packet that an event stores. -/
def Event.stored
    (inetNtop : InetNtop)
    (usrdata : UserData) : Event → Option Packet
  | .handlePacket header packet =>
      match received inetNtop usrdata header packet with
      | .ok stored => stored
      | .error _ => none
  | _ => none

/-- The call that an event starts. -/
def Event.asked : Event → Option Call
  | .timingForPacket call => some call
  | _ => none

/-- The packets stored during a run, oldest first. -/
def captured
    (inetNtop : InetNtop)
    (usrdata : UserData)
    (events : List Event) : List Packet :=
  events.filterMap (Event.stored inetNtop usrdata)

/-- The calls of `timingForPacket` during a run, oldest first. -/
def calls (events : List Event) : List Call :=
  events.filterMap Event.asked

/-- What is stored depends on the connection only. -/
theorem stored_of_sameConnection
    {usrdata other : UserData}
    (same : UserData.SameConnection usrdata other) :
    Event.stored inetNtop other = Event.stored inetNtop usrdata := by
  funext event
  cases event with
  | handlePacket header packet => rw [Event.stored, Event.stored, same.received_eq]
  | timingForPacket call => rfl
  | proceed => rfl

end PCAPTimingSocket

end NetworkTiming
