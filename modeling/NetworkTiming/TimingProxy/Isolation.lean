import Mathlib.Data.List.DropRight
import NetworkTiming.TimingProxy.Relay
import NetworkTiming.TimingProxy.Rules

/-!
# Sessions apart

A session can end with a request, a response or a word of the observer half handed on.
The rest is lost, and no later session hands it to its own peers: whatever the technique,
a session passes on nothing but what it has received itself.
-/

namespace NetworkTiming

open Interactive

variable {kind : KindOfSocket}

/-! ## The machine -/

/-- What a session has taken and not handed on. -/
structure Courier where
  /-- The rest of a request. -/
  request : List UInt8
  /-- The rest of a response, or one whose time is not known. -/
  response : List UInt8
  /-- The rest of the word of a measurement. -/
  word : List UInt8
  deriving DecidableEq

namespace Courier

def empty : Courier := ⟨[], [], []⟩

/-- The events that may happen.  A session takes over nothing from the one before it, and a
response makes way for the next one. -/
def step (courier : Courier) : Event kind → Option Courier
  | .connected => some empty
  | .received .client bytes =>
      if courier.request = [] then some { courier with request := bytes } else none
  | .received .server bytes => some { courier with response := bytes }
  | .received .control _ => none
  | .handed .server bytes =>
      if bytes <+: courier.request then
        some { courier with request := courier.request.drop bytes.length }
      else none
  | .handed .client bytes =>
      if bytes <+: courier.response then
        some { courier with response := courier.response.drop bytes.length }
      else none
  | .handed .control bytes =>
      if bytes <+: courier.word then
        some { courier with word := courier.word.drop bytes.length }
      else none
  | .measured _ _ (.ok value) =>
      if courier.response = [] ∧ courier.word = [] then
        some { courier with word := TimingProxy.networkByteOrder value }
      else none
  | .measured _ _ (.error _) | .sentAt _ | .receivedAt _ | .inputForwarded
  | .outputForwarded | .iterationEnded => some courier

/-! ## The functions of the proxy -/

/-- The log takes the machine to a state. -/
def Reaches (courier : Courier) (proxy : TimingProxy kind) : Prop :=
  Machine.run step empty proxy.log = some courier

/-- The log is a run of the machine. -/
def Reached (proxy : TimingProxy kind) : Prop := ∃ courier, Reaches courier proxy

/-- Everything that is to be handed on has been, except for a response without a time. -/
def Idle (proxy : TimingProxy kind) : Prop := ∃ response, Reaches ⟨[], response, []⟩ proxy

section Functions

variable {courier : Courier}

theorem reaches_observes (courier : Courier) :
    Observes (Reached : TimingProxy kind → Prop) (Reaches courier) where
  answers _proxy _answers reaches := reaches
  stops _proxy reaches := ⟨courier, reaches⟩

theorem reached_observes : Observes (Reached : TimingProxy kind → Prop) Reached where
  answers _proxy _answers reached := reached
  stops _proxy reached := reached

theorem idle_observes : Observes (Reached : TimingProxy kind → Prop) Idle where
  answers _proxy _answers idle := idle
  stops _proxy idle := by
    obtain ⟨response, reaches⟩ := idle
    exact ⟨_, reaches⟩

/-- Logging an event is a step of the machine. -/
theorem emit_reaches
    {event : Event kind} {next : Courier} (stepped : courier.step event = some next) :
    Triple Reached (Reaches courier) (TimingProxy.emit event) fun _ => Reaches next :=
  Triple.modify fun _proxy reaches =>
    Machine.run_concat_eq_some.mpr ⟨courier, reaches, stepped⟩

/-- An event that the machine passes over leaves it idle. -/
theorem emit_idle
    {event : Event kind} (ignored : ∀ courier : Courier, courier.step event = some courier) :
    Triple Reached Idle (TimingProxy.emit event) fun _ => Idle :=
  Triple.modify fun _proxy ⟨response, reaches⟩ =>
    ⟨response, Machine.run_concat_eq_some.mpr ⟨_, reaches, ignored _⟩⟩

/-- Handing bytes on takes them from what is held for a peer. -/
theorem reaches_hands
    {peer : Peer} {holding : List UInt8 → Courier}
    (stepped : ∀ data bytes, bytes <+: data →
      (holding data).step (.handed peer bytes : Event kind) =
        some (holding (data.drop bytes.length))) :
    Hands (Reached : TimingProxy kind → Prop) peer fun data => Reaches (holding data) where
  observes data := reaches_observes (holding data)
  handed data count enough := by
    apply emit_reaches
    rw [stepped data _ (List.take_prefix _ _), List.length_take_of_le enough]

theorem recordTx_reaches (stamp : kind.Stamp) :
    Triple Reached (Reaches courier) (TimingProxy.recordTx stamp) fun _ => Reaches courier :=
  (Triple.modify fun _proxy reaches => reaches).bind fun _ => emit_reaches rfl

theorem recordRx_reaches (stamp : kind.Stamp) :
    Triple Reached (Reaches courier) (TimingProxy.recordRx stamp) fun _ => Reaches courier :=
  (Triple.modify fun _proxy reaches => reaches).bind fun _ => emit_reaches rfl

theorem derived_reaches (data : List UInt8) :
    Triple Reached (Reaches courier) (TimingProxy.derived kind data)
      fun _ => Reaches courier := by
  cases kind with
  | cpu =>
      exact TimingProxy.CPUTimingSocket.takeTimes_triple (reaches_observes courier)
        recordTx_reaches recordRx_reaches data
  | kernel =>
      exact TimingProxy.KernelTimingSocket.searchErrorQueue_triple (reaches_observes courier)
        recordTx_reaches _
  | pcap =>
      exact (TimingProxy.time_triple (reaches_observes courier)).bind recordTx_reaches

/-- A read of any technique; the one that receives the time with the bytes may drop both. -/
theorem read_reaches (size : Nat) (blocking : Bool) :
    Triple Reached Idle (TimingProxy.read kind size blocking) fun result proxy =>
      match result with
      | .data bytes => Reaches ⟨[], bytes, []⟩ proxy
      | .closed | .failed _ => Idle proxy := by
  have received : ∀ bytes : List UInt8, bytes ≠ [] →
      Triple Reached Idle (TimingProxy.emit (.received .server bytes) : Session kind Unit)
        fun _ => Reaches ⟨[], bytes, []⟩ :=
    fun bytes _nonempty => Triple.modify fun _proxy ⟨response, reaches⟩ =>
      Machine.run_concat_eq_some.mpr ⟨⟨[], response, []⟩, reaches, rfl⟩
  have read := TimingProxy.TimingSocket.read_triple idle_observes received size blocking
  cases kind with
  | cpu =>
      refine fun proxy idle => (read proxy idle).mono (fun result final later => ?_)
        fun _ _ stopped => stopped
      cases result <;> exact later
  | kernel =>
      refine (TimingProxy.recv_triple idle_observes received size).bind fun result => ?_
      cases result with
      | data bytes =>
          refine (TimingProxy.ask_triple (reaches_observes _)).bind fun answer => ?_
          cases answer with
          | time stamp =>
              exact (recordRx_reaches stamp).bind
                fun _ => Triple.pure fun _proxy reaches => reaches
          | noTime => exact Triple.pure fun _proxy reaches => ⟨bytes, reaches⟩
          | connected | received | closed | failed | accepted | peeked | thrown | hangup =>
              exact Triple.throw (reaches_observes _).stops
      | closed => exact Triple.pure fun _proxy idle => idle
      | failed errno =>
          cases errno with
          | again => exact Triple.pure fun _proxy idle => idle
          | connectionReset | other => exact Triple.throw idle_observes.stops
  | pcap =>
      refine Triple.bind read fun result => ?_
      cases result with
      | data bytes =>
          exact (TimingProxy.time_triple (reaches_observes _)).bind fun stamp =>
            (recordRx_reaches stamp).bind fun _ => Triple.pure fun _proxy reaches => reaches
      | closed | failed => exact Triple.pure fun _proxy idle => idle

/-- A measurement is made when the response has been handed on. -/
theorem getLastMeasurement_reaches :
    Triple Reached (Reaches empty) (TimingProxy.getLastMeasurement : Session kind UInt64)
      fun value => Reaches ⟨[], [], TimingProxy.networkByteOrder value⟩ := by
  refine Triple.get.bind fun proxy => ?_
  cases result : kind.difference proxy.tstampPrecision proxy.txTimestamp
    proxy.rxTimestamp with
  | ok value =>
      have stepped : empty.step
          (.measured proxy.txTimestamp proxy.rxTimestamp (.ok value)) =
            some ⟨[], [], TimingProxy.networkByteOrder value⟩ := rfl
      exact (emit_reaches stepped).bind fun _ => Triple.pure fun _proxy reaches => reaches
  | error fault =>
      have stepped : empty.step
          (.measured proxy.txTimestamp proxy.rxTimestamp (.error fault)) = some empty := rfl
      exact (emit_reaches stepped).bind fun _ => Triple.throw (reaches_observes empty).stops

theorem tryForwardInput_idle :
    Triple Reached Idle (TimingProxy.tryForwardInput : Session kind Unit) fun _ => Idle := by
  have received : ∀ bytes : List UInt8, bytes ≠ [] →
      Triple Reached Idle (TimingProxy.emit (.received .client bytes) : Session kind Unit)
        fun _ proxy => ∃ response, Reaches ⟨bytes, response, []⟩ proxy :=
    fun bytes _nonempty => Triple.modify fun _proxy ⟨response, reaches⟩ =>
      ⟨response, Machine.run_concat_eq_some.mpr ⟨⟨[], response, []⟩, reaches, rfl⟩⟩
  refine (TimingProxy.ServerSocket.read_triple idle_observes received _ _).bind fun result => ?_
  cases result with
  | data buf =>
      rintro proxy ⟨response, reaches⟩
      have hands : Hands (Reached : TimingProxy kind → Prop) .server
          fun data => Reaches ⟨data, response, []⟩ :=
        reaches_hands fun data bytes front => if_pos front
      exact (TimingProxy.write_triple hands derived_reaches buf proxy reaches).mono
        (fun _ _ later => ⟨response, later⟩) fun _ _ stopped => stopped
  | closed => exact Triple.throw idle_observes.stops
  | failed errno => exact Triple.pure fun _proxy idle => idle

theorem tryForwardOutput_idle :
    Triple Reached Idle (TimingProxy.tryForwardOutput : Session kind Unit) fun _ => Idle := by
  have response : Hands (Reached : TimingProxy kind → Prop) .client
      fun data => Reaches ⟨[], data, []⟩ :=
    reaches_hands fun data bytes front => if_pos front
  have word : Hands (Reached : TimingProxy kind → Prop) .control
      fun data => Reaches ⟨[], [], data⟩ :=
    reaches_hands fun data bytes front => if_pos front
  refine (read_reaches _ _).bind fun result => ?_
  cases result with
  | data buf =>
      refine (TimingProxy.ServerSocket.write_triple response buf).bind fun _sent => ?_
      refine getLastMeasurement_reaches.bind fun value => ?_
      exact (TimingProxy.ServerSocket.write_triple word (TimingProxy.networkByteOrder value)).bind
        fun _reported => Triple.pure fun _proxy reaches => ⟨[], reaches⟩
  | closed => exact Triple.throw idle_observes.stops
  | failed errno => exact Triple.pure fun _proxy idle => idle

theorem idle_rounds :
    TimingProxy.Rounds (Reached : TimingProxy kind → Prop) Idle where
  observes := idle_observes
  observesStopped := reached_observes
  input := tryForwardInput_idle
  output := tryForwardOutput_idle
  inputForwarded := emit_idle fun _ => rfl
  outputForwarded := emit_idle fun _ => rfl
  iterationEnded := emit_idle fun _ => rfl

theorem handleClient_reached (iterations : Nat) :
    Triple Reached Reached (TimingProxy.handleClient iterations : Session kind Unit)
      fun _ => Reached := by
  have establish : ∀ established, Triple Reached Reached
      (modify fun proxy => { proxy with established := established } : Session kind Unit)
      fun _ => Reached := fun _ _ reached => reached
  -- whatever the last session has left is given up here
  have connect : Triple Reached Reached (TimingProxy.emit .connected : Session kind Unit)
      fun _ => Idle := Triple.modify fun _proxy ⟨courier, reaches⟩ =>
    ⟨[], Machine.run_concat_eq_some.mpr ⟨courier, reaches, rfl⟩⟩
  refine (TimingProxy.ask_triple reached_observes).bind fun answer => ?_
  cases answer with
  | connected =>
      exact (establish true).bind fun _ => connect.bind fun _ =>
        (TimingProxy.sessionLoop_triple idle_rounds iterations).bind
          fun _ => establish false
  | received | closed | failed | accepted | peeked | time | noTime | thrown | hangup =>
      exact Triple.throw reached_observes.stops

theorem run_reached (iterations sessions : Nat) :
    Triple Reached Reached (TimingProxy.run iterations sessions : Session kind Unit)
      fun _ => Reached := by
  induction sessions with
  | zero => exact Triple.pure fun _proxy reached => reached
  | succ sessions inductionHypothesis =>
      exact (handleClient_reached iterations).bind fun _ => inductionHypothesis

end Functions

/-! ## What an observer sees -/

/-- The events of the latest session. -/
def session (log : List (Event kind)) : List (Event kind) := log.rtakeWhile (· ≠ .connected)

theorem session_connected (log : List (Event kind)) : session (log ++ [.connected]) = [] :=
  List.rtakeWhile_concat_neg _ _ _ (by simp)

theorem session_concat
    {event : Event kind} (other : event ≠ .connected) (log : List (Event kind)) :
    session (log ++ [event]) = session log ++ [event] :=
  List.rtakeWhile_concat_pos _ _ _ (by simpa using other)

/-- The courier has what a session has received and not handed on.  A response that has made
way for the next one is missing on the side of the client. -/
structure Carries (courier : Courier) (log : List (Event kind)) : Prop where
  toServer : bytesFrom .client log = bytesTo .server log ++ courier.request
  toClient : (bytesTo .client log ++ courier.response).Sublist (bytesFrom .server log)
  toControl : BigEndian.encodeAll 8 ((measurements log).map UInt64.toNat) =
    bytesTo .control log ++ courier.word

namespace Carries

theorem start : Carries empty ([] : List (Event kind)) where
  toServer := rfl
  toClient := List.Sublist.refl []
  toControl := rfl

variable {courier next : Courier} {log : List (Event kind)}

/-- Events that neither carry bytes nor yield a measurement. -/
theorem ignore
    {event : Event kind}
    (carries : Carries courier log)
    (received : ∀ peer, event.bytesFrom peer = [])
    (handed : ∀ peer, event.bytesTo peer = [])
    (measured : event.measurement = []) :
    Carries courier (log ++ [event]) where
  toServer := by simp [carries.toServer, received, handed]
  toClient := by simpa [received, handed] using carries.toClient
  toControl := by simp [carries.toControl, handed, measured]

theorem receive_client
    (carries : Carries courier log)
    (nothing : courier.request = [])
    (bytes : List UInt8) :
    Carries { courier with request := bytes } (log ++ [.received .client bytes]) where
  toServer := by simp [carries.toServer, nothing, Event.bytesFrom, Event.bytesTo]
  toClient := by simpa [Event.bytesFrom, Event.bytesTo] using carries.toClient
  toControl := by simp [carries.toControl, Event.bytesTo, Event.measurement]

/-- The response that was held is dropped. -/
theorem receive_server (carries : Carries courier log) (bytes : List UInt8) :
    Carries { courier with response := bytes } (log ++ [.received .server bytes]) where
  toServer := by simp [carries.toServer, Event.bytesFrom, Event.bytesTo]
  toClient := by
    have earlier : (bytesTo .client log).Sublist (bytesFrom .server log) :=
      (List.sublist_append_left _ _).trans carries.toClient
    simpa [Event.bytesFrom, Event.bytesTo] using earlier.append_right bytes
  toControl := by simp [carries.toControl, Event.bytesTo, Event.measurement]

theorem hand_server
    {bytes : List UInt8}
    (carries : Carries courier log)
    (front : bytes <+: courier.request) :
    Carries { courier with request := courier.request.drop bytes.length }
      (log ++ [.handed .server bytes]) where
  toServer := by
    obtain ⟨rest, split⟩ := front
    simp [carries.toServer, ← split, Event.bytesFrom, Event.bytesTo]
  toClient := by simpa [Event.bytesFrom, Event.bytesTo] using carries.toClient
  toControl := by simp [carries.toControl, Event.bytesTo, Event.measurement]

theorem hand_client
    {bytes : List UInt8}
    (carries : Carries courier log)
    (front : bytes <+: courier.response) :
    Carries { courier with response := courier.response.drop bytes.length }
      (log ++ [.handed .client bytes]) where
  toServer := by simp [carries.toServer, Event.bytesFrom, Event.bytesTo]
  toClient := by
    obtain ⟨rest, split⟩ := front
    simpa [← split, Event.bytesFrom, Event.bytesTo] using carries.toClient
  toControl := by simp [carries.toControl, Event.bytesTo, Event.measurement]

theorem hand_control
    {bytes : List UInt8}
    (carries : Carries courier log)
    (front : bytes <+: courier.word) :
    Carries { courier with word := courier.word.drop bytes.length }
      (log ++ [.handed .control bytes]) where
  toServer := by simp [carries.toServer, Event.bytesFrom, Event.bytesTo]
  toClient := by simpa [Event.bytesFrom, Event.bytesTo] using carries.toClient
  toControl := by
    obtain ⟨rest, split⟩ := front
    simp [carries.toControl, ← split, Event.bytesTo, Event.measurement]

theorem measure
    (carries : Carries courier log)
    (nothing : courier.word = [])
    (tx rx : kind.Stamp) (value : UInt64) :
    Carries { courier with word := TimingProxy.networkByteOrder value }
      (log ++ [.measured tx rx (.ok value)]) where
  toServer := by simp [carries.toServer, Event.bytesFrom, Event.bytesTo]
  toClient := by simpa [Event.bytesFrom, Event.bytesTo] using carries.toClient
  toControl := by
    simp [carries.toControl, nothing, Event.bytesTo, Event.measurement,
      TimingProxy.networkByteOrder]

/-- Every event within a session keeps the account. -/
theorem step
    {event : Event kind}
    (carries : Carries courier log)
    (stepped : courier.step event = some next)
    (other : event ≠ .connected) :
    Carries next (log ++ [event]) := by
  cases event with
  | connected => exact absurd rfl other
  | received peer bytes =>
      cases peer with
      | client =>
          rw [Courier.step, Option.ite_none_right_eq_some] at stepped
          obtain ⟨nothing, same⟩ := stepped
          cases same
          exact carries.receive_client nothing bytes
      | server =>
          cases stepped
          exact carries.receive_server bytes
      | control => cases stepped
  | handed peer bytes =>
      cases peer with
      | client =>
          rw [Courier.step, Option.ite_none_right_eq_some] at stepped
          obtain ⟨front, same⟩ := stepped
          cases same
          exact carries.hand_client front
      | server =>
          rw [Courier.step, Option.ite_none_right_eq_some] at stepped
          obtain ⟨front, same⟩ := stepped
          cases same
          exact carries.hand_server front
      | control =>
          rw [Courier.step, Option.ite_none_right_eq_some] at stepped
          obtain ⟨front, same⟩ := stepped
          cases same
          exact carries.hand_control front
  | measured tx rx result =>
      cases result with
      | error fault =>
          cases stepped
          exact carries.ignore (fun _ => rfl) (fun _ => rfl) rfl
      | ok value =>
          rw [Courier.step, Option.ite_none_right_eq_some] at stepped
          obtain ⟨⟨_response, nothing⟩, same⟩ := stepped
          cases same
          exact carries.measure nothing tx rx value
  | sentAt | receivedAt | inputForwarded | outputForwarded | iterationEnded =>
      cases stepped
      exact carries.ignore (fun _ => rfl) (fun _ => rfl) rfl

end Carries

/-- At the end of every run, the courier has what the latest session has not handed on. -/
theorem carries_session
    {log : List (Event kind)} {courier : Courier}
    (ran : Machine.run step empty log = some courier) :
    Carries courier (session log) := by
  refine @Machine.run_invariant Courier (Event kind) step empty courier log
    (fun history courier => Carries courier (session history)) Carries.start ?_ ran
  intro history courier event next _before carries stepped
  by_cases connected : event = .connected
  · rw [connected] at stepped ⊢
    cases stepped
    rw [session_connected]
    exact Carries.start
  · rw [session_concat connected]
    exact carries.step stepped connected

end Courier

namespace TimingProxy

/-- At every point of every run, over any number of sessions and with any technique, what
the session has handed to the server comes from its own client, what it has handed to the
client comes from its own server, and what it has handed to the observer encodes its own
measurements, each in order. -/
theorem run_isolatesSessions
    (iterations sessions : Nat)
    (proxy : TimingProxy kind)
    {log : List (Event kind)}
    (point : log <+: (outcome (run iterations sessions) { proxy with log := [] }).2.log) :
    bytesTo .server (Courier.session log) <+: bytesFrom .client (Courier.session log) ∧
      (bytesTo .client (Courier.session log)).Sublist
        (bytesFrom .server (Courier.session log)) ∧
      bytesTo .control (Courier.session log) <+:
        BigEndian.encodeAll 8 ((measurements (Courier.session log)).map UInt64.toNat) := by
  obtain ⟨final, reached⟩ := (Courier.run_reached iterations sessions).outcome_snd
    (show Courier.Reached { proxy with log := [] } from ⟨Courier.empty, rfl⟩)
  obtain ⟨courier, ran⟩ := Machine.run_prefix point reached
  have carries := Courier.carries_session ran
  refine ⟨?_, (List.sublist_append_left _ _).trans carries.toClient, ?_⟩
  · rw [carries.toServer]
    exact List.prefix_append _ _
  · rw [carries.toControl]
    exact List.prefix_append _ _

/-- An environment in which the first session breaks in the middle of a request. -/
def brokenRequest : TimingProxy .pcap where
  answers := [.connected, .received [1, 2], .accepted 1, .failed .connectionReset,
    .hangup false, .hangup false, .hangup true,
    .connected, .received [3], .accepted 1, .time ⟨5, 10⟩,
    .received [4], .time ⟨5, 42⟩, .accepted 1, .accepted 8]
  established := false
  device := "eth0"
  tstampPrecision := PCAP_TSTAMP_PRECISION_MICRO
  txTimestamp := ⟨0, 0⟩
  rxTimestamp := ⟨0, 0⟩
  log := []

/-- The log of both sessions. -/
def brokenRequestLog : List (Event .pcap) := (outcome (run 1 2) brokenRequest).2.log

/-- The byte that the first session has kept is missing in the second one. -/
theorem run_isolatesSessions_brokenRequest :
    bytesTo .server brokenRequestLog = [1, 3] ∧
      bytesFrom .client brokenRequestLog = [1, 2, 3] ∧
      bytesTo .server (Courier.session brokenRequestLog) = [3] ∧
      bytesTo .server (Courier.session brokenRequestLog) <+:
        bytesFrom .client (Courier.session brokenRequestLog) ∧
      (bytesTo .client (Courier.session brokenRequestLog)).Sublist
        (bytesFrom .server (Courier.session brokenRequestLog)) ∧
      bytesTo .control (Courier.session brokenRequestLog) <+:
        BigEndian.encodeAll 8
          ((measurements (Courier.session brokenRequestLog)).map UInt64.toNat) :=
  ⟨by decide +kernel, by decide +kernel, by decide +kernel,
    run_isolatesSessions 1 2 brokenRequest (List.prefix_refl _)⟩

end TimingProxy

end NetworkTiming
