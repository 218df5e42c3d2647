import NetworkTiming.PacketParser.RoundTrip
import NetworkTiming.PcapWrapper.Timing
import NetworkTiming.Socket.OwnPackets

/-!
# From captured frames to a measurement

On a connection whose captured frames are well-formed TCP frames, every call
records the time of the frame that carries its bytes, and the measurement is the
difference between the times of two such frames.
-/

namespace NetworkTiming

open Traced

/-! ## Captured frames -/

/-- A frame travels to the remote end, or from the remote end to another one. -/
inductive Frame.Travels
    (text : AddressFamily → List UInt8 → String)
    (remoteHost : String) (remotePort : UInt16)
    (frame : Frame) : PacketDirection → Prop
  | toRemote
      (host : frame.internet.dstText text = remoteHost)
      (port : frame.transport.dport = remotePort) :
      Travels text remoteHost remotePort frame .destinationRemote
  | fromRemote
      (host : frame.internet.srcText text = remoteHost)
      (port : frame.transport.sport = remotePort)
      (elsewhere : ¬(frame.internet.dstText text = remoteHost ∧
        frame.transport.dport = remotePort)) :
      Travels text remoteHost remotePort frame .sourceRemote

/-- The callback recognises the direction of a frame. -/
theorem Frame.Travels.directionOf
    {usrdata : UserData} {frame : Frame}
    (travels : frame.Travels text usrdata.remoteHost usrdata.remotePort direction) :
    usrdata.directionOf (frame.artefacts text) = direction := by
  unfold UserData.directionOf Frame.artefacts
  cases travels with
  | toRemote host port => exact if_pos ⟨host.symm, port.symm⟩
  | fromRemote host port elsewhere =>
      exact if_neg fun remote => elsewhere ⟨remote.1.symm, remote.2.symm⟩

/-- A well-formed TCP frame of a connection, and the time of its capture. -/
structure Capture
    (text : AddressFamily → List UInt8 → String)
    (usrdata : UserData) where
  frame : Frame
  time : Timeval
  direction : PacketDirection
  isTcp : frame.transport.layer = .tcp
  /-- The payload fits in a slot. -/
  small : frame.payload.length ≤ MAX_PACKET_SIZE
  travels : frame.Travels text usrdata.remoteHost usrdata.remotePort direction

namespace Capture

variable {text : AddressFamily → List UInt8 → String} {usrdata : UserData}

/-- What the callback is given for the frame. -/
def header (capture : Capture text usrdata) : PcapPkthdr :=
  ⟨capture.time, capture.frame.encode.length⟩

/-- The packet that the frame is stored as; empty segments are not stored. -/
def stored (capture : Capture text usrdata) : Option Packet :=
  if capture.frame.payload = [] then none
  else some ⟨capture.frame.payload, capture.time, capture.direction⟩

/-- The frame carries the bytes of a call in its direction. -/
def Carries (call : Call) (capture : Capture text usrdata) : Prop :=
  capture.direction = call.direction ∧ capture.frame.payload = call.buf

/-- A frame that carries the bytes of a call is stored as a packet that answers
the call. -/
theorem carries_iff
    {call : Call} {capture : Capture text usrdata}
    (nonempty : call.buf ≠ []) :
    Carries call capture ↔
      ∃ packet, capture.stored = some packet ∧ call.AnsweredBy packet := by
  unfold Carries stored Call.AnsweredBy
  constructor
  · rintro ⟨sameDirection, samePayload⟩
    rw [if_neg (by rw [samePayload]; exact nonempty)]
    exact ⟨_, rfl, sameDirection, samePayload⟩
  · rintro ⟨packet, isStored, answered⟩
    split at isStored
    next => cases isStored
    next =>
      cases isStored
      exact answered

/-- A stored frame keeps the time of its capture. -/
theorem timing_of_stored
    (capture : Capture text usrdata)
    (keeps : capture.stored = some packet) : packet.timing = capture.time := by
  unfold stored at keeps
  split at keeps
  next => cases keeps
  next =>
    cases keeps
    rfl

/-- The payload is copied out of the frame. -/
theorem copyPayload_encode (frame : Frame) (artefacts : Artefacts) :
    copyPayload frame.encode
        ⟨some frame.payloadStart, frame.payload.length, artefacts⟩ =
      .ok frame.payload := by
  have strict : Strict frame.encode (fun _ => True) fun _ => False :=
    ⟨fun _ _ => trivial, fun _ _ _ => not_false, fun _ _ _ => trivial⟩
  have inside : frame.payloadStart + frame.payload.length ≤ frame.encode.length := by
    rw [Frame.length_encode, Frame.payloadStart, Frame.segmentSize]
    omega
  refine Ensures.result_eq (fun _ => True) (strict.readBytes_iff.mpr ⟨Or.inr inside, ?_⟩)
  exact frame.bytesAt_payloadStart

/-- What the callback receives for the frame. -/
theorem received_encode
    (capture : Capture text usrdata)
    (running : usrdata.stopLoop = false)
    (ethernet : usrdata.linktype = .ethernet) :
    received (succeeding text) usrdata capture.header capture.frame.encode =
      .ok capture.stored := by
  have decoded := capture.frame.result_decodeUntil_encode text {}
  rw [capture.isTcp] at decoded
  have decodes : decodePacket (succeeding text) .ethernet capture.header
      capture.frame.encode =
      .ok (some ⟨some capture.frame.payloadStart, capture.frame.payload.length,
        capture.frame.artefacts text⟩) := by
    unfold decodePacket
    simp only [header, decoded]
  unfold received
  rw [running, ethernet, decodes]
  change receivedPayload _ _ _ _ = _
  unfold receivedPayload stored
  have small : ¬1500 < capture.frame.payload.length := Nat.not_lt.mpr capture.small
  rw [if_neg small, copyPayload_encode, capture.travels.directionOf]
  by_cases empty : capture.frame.payload = []
  · rw [if_pos empty, if_pos (by rw [empty]; rfl)]
  · rw [if_neg empty, if_neg (by rwa [List.length_eq_zero_iff])]
    rfl

end Capture

namespace PCAPTimingSocket

/-! ## Runs on captured frames -/

/-- What happens on a connection that carries well-formed frames only. -/
inductive Activity
    (text : AddressFamily → List UInt8 → String) (usrdata : UserData)
  /-- A frame is captured. -/
  | frame (capture : Capture text usrdata)
  /-- A write or a read starts to look for its packet. -/
  | called (call : Call)
  /-- The running search tests the condition of its loop. -/
  | proceed

namespace Activity

variable {text : AddressFamily → List UInt8 → String} {usrdata : UserData}

/-- The event on the two threads. -/
def event : Activity text usrdata → Event
  | .frame capture => .handlePacket capture.header capture.frame.encode
  | .called call => .timingForPacket call
  | .proceed => .proceed

/-- The frame that is captured. -/
def capture : Activity text usrdata → Option (Capture text usrdata)
  | .frame capture => some capture
  | _ => none

end Activity

section Activities

variable {text : AddressFamily → List UInt8 → String} {usrdata : UserData}

/-- The calls among some activities, oldest first. -/
def callsOf (activities : List (Activity text usrdata)) : List Call :=
  calls (activities.map Activity.event)

/-- The frames captured among some activities, oldest first. -/
def framesOf (activities : List (Activity text usrdata)) :
    List (Capture text usrdata) :=
  activities.filterMap Activity.capture

/-- The packets stored during some activities are those of the captured frames. -/
theorem captured_eq
    (running : usrdata.stopLoop = false)
    (ethernet : usrdata.linktype = .ethernet)
    (activities : List (Activity text usrdata)) :
    captured (succeeding text) usrdata (activities.map Activity.event) =
      (framesOf activities).filterMap Capture.stored := by
  rw [captured, framesOf, List.filterMap_map, List.filterMap_filterMap]
  congr 1
  funext activity
  cases activity with
  | frame capture =>
      change Event.stored _ _ (.handlePacket capture.header capture.frame.encode) = _
      rw [Event.stored, capture.received_encode running ethernet]
      rfl
  | called call => rfl
  | proceed => rfl

end Activities

/-- Every call has recorded the time of its own frame, and the measurement is the
difference of two such times. -/
structure MeasuresOwnFrames
    {text : AddressFamily → List UInt8 → String} {usrdata : UserData}
    (activities : List (Activity text usrdata))
    (own : Nat → Nat)
    (socket : PCAPTimingSocket) : Prop where
  /-- A completed call has recorded the time of its own frame. -/
  recorded : ∀ k, k < socket.recorded.length →
    ∃ capture, (framesOf activities)[own k]? = some capture ∧
      socket.recorded[k]? = some capture.time
  /-- Once there have been a write and a read, the measurement is the difference in
  nanoseconds from the own frame of the last write to that of the last read; if the
  latter was captured first, the program is terminated. -/
  measurement : ∀ (write read : Nat) sent received,
    LastCall (callsOf activities) socket.recorded.length .destinationRemote write →
    LastCall (callsOf activities) socket.recorded.length .sourceRemote read →
    (framesOf activities)[own write]? = some sent →
    (framesOf activities)[own read]? = some received →
    socket.getLastMeasurement =
      if sent.time.NotAfter received.time then
        .ok (UInt64.ofInt (received.time.toNs usrdata.tstampPrecision -
          sent.time.toNs usrdata.tstampPrecision))
      else .error .terminate

/-- On well-formed frames, calls that own frames in order measure the times of
these frames. -/
theorem run_measuresOwnFrames
    (text : AddressFamily → List UInt8 → String)
    (socket : PCAPTimingSocket)
    (ethernet : socket.usrdata.linktype = .ethernet)
    (precision : socket.usrdata.tstampPrecision = PCAP_TSTAMP_PRECISION_MICRO ∨
      socket.usrdata.tstampPrecision = PCAP_TSTAMP_PRECISION_NANO)
    (activities : List (Activity text socket.connect.usrdata))
    (own : Nat → Nat)
    (final : PCAPTimingSocket)
    (reached : Machine.run (step (succeeding text)) socket.connect
      (activities.map Activity.event) = some final)
    (nonempty : ∀ call ∈ callsOf activities, call.buf ≠ [])
    (owns : Scan.Owns Capture.Carries (callsOf activities) (framesOf activities) own) :
    MeasuresOwnFrames activities own final := by
  have atEnd := run_reached reached
  have stored : captured (succeeding text) socket.connect.usrdata
      (activities.map Activity.event) =
      (framesOf activities).filterMap Capture.stored :=
    @captured_eq text socket.connect.usrdata rfl ethernet activities
  have frames : Scan.OwnsRaw Call.AnsweredBy Capture.stored (callsOf activities)
      (framesOf activities) own :=
    owns.of_iff fun call asked capture => Capture.carries_iff (nonempty call asked)
  have packets := frames.owns
  rw [← stored] at packets
  have recorded : ∀ k, k < final.recorded.length →
      ∃ capture, (framesOf activities)[own k]? = some capture ∧
        final.recorded[k]? = some capture.time := by
    intro k completed
    obtain ⟨packet, isPacket, isRecorded⟩ := atEnd.exists_recorded packets completed
    rw [stored] at isPacket
    have isCall := List.getElem?_eq_getElem
      (Nat.lt_of_lt_of_le completed atEnd.recorded_le)
    obtain ⟨capture, isCapture, keeps, _⟩ := frames.exists_record isCall isPacket
    refine ⟨capture, isCapture, ?_⟩
    rw [isRecorded, capture.timing_of_stored keeps]
  refine ⟨recorded, ?_⟩
  intro write read sent received lastWrite lastRead isSent isReceived
  have timestampOf : ∀ {direction k capture},
      LastCall (callsOf activities) final.recorded.length direction k →
      (framesOf activities)[own k]? = some capture →
      final.timestamp direction = capture.time := by
    intro direction k capture lastCall isCapture
    obtain ⟨other, isOther, isRecorded⟩ := recorded k lastCall.before
    cases isCapture.symm.trans isOther
    exact Option.some.inj ((atEnd.latest lastCall).symm.trans isRecorded)
  have sentAt : final.txTimestamp = sent.time := timestampOf lastWrite isSent
  have receivedAt : final.rxTimestamp = received.time := timestampOf lastRead isReceived
  rw [getLastMeasurement, atEnd.connection.tstampPrecision, sentAt, receivedAt]
  exact timevalDeltaToNs_eq precision sent.time received.time

/-- A request of one byte is captured. -/
def requestAt (second : Int64) (byte : UInt8) :
    Capture inetText portEighty.connect.usrdata where
  frame := request byte
  time := ⟨second, 0⟩
  direction := .destinationRemote
  isTcp := rfl
  small := show 1 ≤ MAX_PACKET_SIZE by decide
  travels := .toRemote
    (show (request 0).internet.dstText inetText = "10.0.0.2" by decide)
    (show (request 0).transport.dport = 80 by decide)

/-- A response of one byte is captured. -/
def responseAt (second : Int64) (byte : UInt8) :
    Capture inetText portEighty.connect.usrdata where
  frame := response byte
  time := ⟨second, 0⟩
  direction := .sourceRemote
  isTcp := rfl
  small := show 1 ≤ MAX_PACKET_SIZE by decide
  travels := .fromRemote
    (show (response 0).internet.srcText inetText = "10.0.0.2" by decide)
    (show (response 0).transport.sport = 80 by decide)
    (show ¬((response 0).internet.dstText inetText = "10.0.0.2" ∧
      (response 0).transport.dport = 80) by decide)

/-- A request is written and captured, and its response is captured and read. -/
def measuredExchange : List (Activity inetText portEighty.connect.usrdata) :=
  [.called { buf := [1], direction := .destinationRemote }, .frame (requestAt 5 1),
    .proceed, .proceed, .frame (responseAt 6 2),
    .called { buf := [2], direction := .sourceRemote }, .proceed, .proceed]

/-- The exchange measures one second. -/
theorem run_measuresOwnFrames_exchange :
    ∃ final, Machine.run (step (succeeding inetText)) portEighty.connect
        (measuredExchange.map Activity.event) = some final ∧
      final.getLastMeasurement.toOption = some 1000000000 ∧
      MeasuresOwnFrames measuredExchange id final := by
  have ran : ((Machine.run (step (succeeding inetText)) portEighty.connect
      (measuredExchange.map Activity.event)).map fun final =>
        final.getLastMeasurement.toOption) = some (some 1000000000) := by
    decide +kernel
  obtain ⟨final, reached, measured⟩ := Option.map_eq_some_iff.mp ran
  refine ⟨final, reached, measured, run_measuresOwnFrames inetText portEighty rfl
    (Or.inl rfl) measuredExchange id final reached (by decide) ⟨?_, ?_, ?_⟩⟩
  · intro k _next
    exact Nat.lt_succ_self k
  · intro k call capture isCall isCapture
    match k with
    | 0 =>
        cases isCall
        cases isCapture
        exact ⟨rfl, rfl⟩
    | 1 =>
        cases isCall
        cases isCapture
        exact ⟨rfl, rfl⟩
    | k + 2 => cases isCall
  · intro k j call capture _isCall before behind _isCapture
    cases k with
    | zero => exact absurd before (Nat.not_lt_zero j)
    | succ k => exact absurd before (Nat.not_lt.mpr (behind k rfl))

end PCAPTimingSocket

end NetworkTiming
