import NetworkTiming.TimingProxy.Relay
import NetworkTiming.TimingProxy.Rules

/-!
# Forwarding

The session loop of the proxy refines the relay: whatever its environment answers,
its log is a run of the relay, and when a function of the proxy returns, the relay
is where the function should have left it.
-/

namespace NetworkTiming

open Interactive

variable {kind : KindOfSocket} {relay : Relay}

/-! ## Refinement -/

/-- The log of the proxy takes the relay to a state. -/
def Tracks (relay : Relay) (proxy : TimingProxy kind) : Prop :=
  Machine.run Relay.step Relay.idle proxy.log = some relay

/-- The log of the proxy is a run of the relay. -/
def Tracked (proxy : TimingProxy kind) : Prop :=
  ∃ relay, Tracks relay proxy

theorem tracks_observes (relay : Relay) :
    Observes (Tracked : TimingProxy kind → Prop) (Tracks relay) where
  answers _proxy _answers tracks := tracks
  stops _proxy tracks := ⟨relay, tracks⟩

theorem tracked_observes : Observes (Tracked : TimingProxy kind → Prop) Tracked where
  answers _proxy _answers tracked := tracked
  stops _proxy tracked := tracked

/-- Logging an event is a step of the relay. -/
theorem emit_tracks
    {event : Event kind} {next : Relay}
    (stepped : relay.step event = some next) :
    Triple Tracked (Tracks relay) (TimingProxy.emit event) fun _ => Tracks next :=
  Triple.modify fun _proxy tracks =>
    Machine.run_concat_eq_some.mpr ⟨relay, tracks, stepped⟩

/-- Handing bytes on takes them from the queue of a peer. -/
theorem tracks_hands (relay : Relay) (peer : Peer) :
    Hands (Tracked : TimingProxy kind → Prop) peer
      fun data => Tracks (relay.await peer data) where
  observes data := tracks_observes (relay.await peer data)
  handed data count enough := by
    apply emit_tracks
    rw [Relay.step, Relay.pending_await_self, if_pos (List.take_prefix _ _),
      List.length_take_of_le enough, Relay.await_await]

namespace TimingProxy

/-! ## The functions of the proxy -/

theorem recordTx_tracks (stamp : kind.Stamp) :
    Triple Tracked (Tracks relay) (recordTx stamp) fun _ => Tracks relay :=
  (Triple.modify fun _proxy tracks => tracks).bind fun _ => emit_tracks rfl

theorem recordRx_tracks (stamp : kind.Stamp) :
    Triple Tracked (Tracks relay) (recordRx stamp) fun _ => Tracks relay :=
  (Triple.modify fun _proxy tracks => tracks).bind fun _ => emit_tracks rfl

/-- Taking the time behind a write leaves the relay alone. -/
theorem derived_tracks (data : List UInt8) :
    Triple Tracked (Tracks relay) (derived kind data) fun _ => Tracks relay := by
  cases kind with
  | cpu =>
      exact CPUTimingSocket.takeTimes_triple (tracks_observes relay) recordTx_tracks
        recordRx_tracks data
  | kernel =>
      exact KernelTimingSocket.searchErrorQueue_triple (tracks_observes relay)
        recordTx_tracks _
  | pcap => exact (time_triple (tracks_observes relay)).bind recordTx_tracks

/-- A read of the techniques that look a time up or have taken it before.  The one
that receives the time with the bytes may drop both. -/
theorem read_tracks
    {taken : List UInt8 → Relay}
    (notKernel : kind ≠ .kernel)
    (stepped : ∀ bytes, bytes ≠ [] →
      relay.step (.received .server bytes : Event kind) = some (taken bytes))
    (size : Nat) (blocking : Bool) :
    Triple Tracked (Tracks relay) (read kind size blocking)
      (Received.Leaves (Tracks relay) fun bytes => Tracks (taken bytes)) := by
  have received := TimingSocket.read_triple (tracks_observes relay)
    (fun bytes nonempty => emit_tracks (stepped bytes nonempty)) size blocking
  cases kind with
  | cpu => exact received
  | kernel => exact absurd rfl notKernel
  | pcap =>
      refine received.bind fun result => ?_
      cases result with
      | data bytes =>
          exact (time_triple (tracks_observes _)).bind fun stamp =>
            (recordRx_tracks stamp).bind fun _ => Triple.pure fun _proxy tracks => tracks
      | closed | failed => exact Triple.pure fun _proxy tracks => tracks

/-- A measurement takes the place of the response that has been measured. -/
theorem getLastMeasurement_tracks
    (unmeasured : relay.unmeasured = true) :
    Triple Tracked (Tracks relay) (getLastMeasurement : Session kind UInt64)
      fun value => Tracks
        { relay.await .control (relay.pending .control ++ networkByteOrder value) with
          unmeasured := false } := by
  refine Triple.get.bind fun proxy => ?_
  cases result : kind.difference proxy.tstampPrecision proxy.txTimestamp
    proxy.rxTimestamp with
  | ok value =>
      have stepped : relay.step
          (.measured proxy.txTimestamp proxy.rxTimestamp (.ok value)) = some _ :=
        if_pos unmeasured
      exact (emit_tracks stepped).bind fun _ => Triple.pure fun _proxy tracks => tracks
  | error fault =>
      have stepped : relay.step
          (.measured proxy.txTimestamp proxy.rxTimestamp (.error fault)) = some relay :=
        rfl
      exact (emit_tracks stepped).bind
        fun _ => Triple.throw (tracks_observes relay).stops

/-- `tryForwardInput` takes a request through the queue to the server. -/
theorem tryForwardInput_tracks :
    Triple Tracked (Tracks Relay.idle) (tryForwardInput : Session kind Unit)
      fun _ => Tracks Relay.idle := by
  have received : ∀ bytes, bytes ≠ [] →
      Triple Tracked (Tracks Relay.idle)
        (emit (.received .client bytes) : Session kind Unit)
        fun _ => Tracks (Relay.idle.await .server bytes) :=
    fun _bytes _nonempty => emit_tracks rfl
  refine (ServerSocket.read_triple (tracks_observes _) received _ _).bind
    fun result => ?_
  cases result with
  | data buf =>
      have written : Triple Tracked (Tracks (Relay.idle.await .server buf))
          (write buf : Session kind Unit) fun _ => Tracks (Relay.idle.await .server []) :=
        write_triple (tracks_hands Relay.idle .server) derived_tracks buf
      rwa [Relay.await_nil rfl] at written
  | closed => exact Triple.throw (tracks_observes _).stops
  | failed errno => exact Triple.pure fun _proxy tracks => tracks

/-- A write that begins with its data in the queue leaves the queue empty. -/
theorem ServerSocket.write_tracks
    {peer : Peer}
    (nothing : relay.pending peer = [])
    (data : List UInt8) :
    Triple Tracked (Tracks (relay.await peer data))
      (ServerSocket.write peer data : Session kind Nat) fun _ => Tracks relay := by
  have written : Triple Tracked (Tracks (relay.await peer data))
      (ServerSocket.write peer data : Session kind Nat)
      fun _ => Tracks (relay.await peer []) :=
    ServerSocket.write_triple (tracks_hands relay peer) data
  rwa [Relay.await_nil nothing] at written

/-- `tryForwardOutput` takes a response through the queue to the client, and its
measurement through the one to the observer. -/
theorem tryForwardOutput_tracks (notKernel : kind ≠ .kernel) :
    Triple Tracked (Tracks Relay.idle) (tryForwardOutput : Session kind Unit)
      fun _ => Tracks Relay.idle := by
  let unmeasured : Relay := { Relay.idle with unmeasured := true }
  have stepped : ∀ bytes, bytes ≠ [] →
      Relay.idle.step (.received .server bytes : Event kind) =
        some (unmeasured.await .client bytes) := fun _bytes nonempty =>
    if_pos ⟨nonempty, rfl, rfl⟩
  refine (read_tracks notKernel stepped _ _).bind fun result => ?_
  cases result with
  | data buf =>
      have written : Triple Tracked (Tracks (unmeasured.await .client buf))
          (ServerSocket.write .client buf : Session kind Nat) fun _ => Tracks unmeasured :=
        ServerSocket.write_tracks rfl buf
      refine written.bind fun _sent => (getLastMeasurement_tracks rfl).bind fun value => ?_
      have reported : Triple Tracked
          (Tracks (Relay.idle.await .control (networkByteOrder value)))
          (ServerSocket.write .control (networkByteOrder value) : Session kind Nat)
          fun _ => Tracks Relay.idle :=
        ServerSocket.write_tracks rfl (networkByteOrder value)
      exact reported.bind fun _reported => Triple.pure fun _proxy tracks => tracks
  | closed => exact Triple.throw (tracks_observes _).stops
  | failed errno => exact Triple.pure fun _proxy tracks => tracks

/-- An iteration of the session loop leaves the relay idle. -/
theorem tracks_rounds (notKernel : kind ≠ .kernel) :
    Rounds (Tracked : TimingProxy kind → Prop) (Tracks Relay.idle) where
  observes := tracks_observes Relay.idle
  observesStopped := tracked_observes
  input := tryForwardInput_tracks
  output := tryForwardOutput_tracks notKernel
  inputForwarded := emit_tracks rfl
  outputForwarded := emit_tracks rfl
  iterationEnded := emit_tracks rfl

/-- What holds of the relay at a point holds at every earlier one. -/
theorem relayed_of_tracked
    {proxy : TimingProxy kind} {log : List (Event kind)}
    (tracked : Tracked proxy)
    (before : log <+: proxy.log) :
    Relayed log := by
  obtain ⟨relay, tracks⟩ := tracked
  obtain ⟨middle, passed⟩ := Machine.run_prefix before tracks
  exact relayed_of_run passed

/-- At every point of every session loop, for every environment, the peers have been
handed what was received for them and the observer has the measurements. -/
theorem sessionLoop_relays
    (notKernel : kind ≠ .kernel)
    (iterations : Nat)
    (proxy : TimingProxy kind)
    (log : List (Event kind))
    (point : log <+: (outcome (sessionLoop iterations) { proxy with log := [] }).2.log) :
    Relayed log := by
  have start : Tracks Relay.idle { proxy with log := [] } := rfl
  exact relayed_of_tracked
    ((sessionLoop_triple (tracks_rounds notKernel) iterations).outcome_snd start) point

/-- An environment in which a request is accepted in two pieces and the word of its
measurement, too. -/
def piecewise : TimingProxy .pcap where
  answers := [
    .received [71, 69, 84], .accepted 2, .accepted 1, .time ⟨5, 20⟩, .time ⟨5, 10⟩,
    .received [79, 75], .time ⟨5, 42⟩, .accepted 2, .accepted 3, .accepted 5,
    .hangup false, .hangup false, .hangup false]
  established := true
  device := "eth0"
  tstampPrecision := PCAP_TSTAMP_PRECISION_MICRO
  txTimestamp := ⟨0, 0⟩
  rxTimestamp := ⟨0, 0⟩
  log := []

theorem sessionLoop_relays_piecewise :
    bytesTo .server (outcome (sessionLoop 1) piecewise).2.log = [71, 69, 84] ∧
      bytesTo .client (outcome (sessionLoop 1) piecewise).2.log = [79, 75] ∧
      bytesTo .control (outcome (sessionLoop 1) piecewise).2.log =
        [0, 0, 0, 0, 0, 0, 125, 0] ∧
      Relayed (outcome (sessionLoop 1) piecewise).2.log :=
  ⟨by decide +kernel, by decide +kernel, by decide +kernel,
    sessionLoop_relays (by decide) 1 piecewise _ (List.prefix_refl _)⟩

end TimingProxy

end NetworkTiming
