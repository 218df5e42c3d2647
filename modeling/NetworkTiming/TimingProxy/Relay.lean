import Mathlib.Logic.Function.Basic
import NetworkTiming.Library.Machine
import NetworkTiming.TimingProxy.TimingProxy

/-!
# The relay

What the proxy is for, without sockets: two queues of bytes between the client and
the server, and a third one of measurements for the observer on the control
connection.  Bytes enter a queue when they are received and leave it from the front
when they are handed on; a response enters only when the previous one has been
reported.  A log that the relay accepts gives complete accounts of all bytes.
-/

namespace NetworkTiming

variable {kind : KindOfSocket}

/-! ## What a log shows -/

namespace Event

/-- The bytes that an event receives from a peer. -/
def bytesFrom (peer : Peer) : Event kind → List UInt8
  | .received source bytes => if source = peer then bytes else []
  | _ => []

/-- The bytes that an event hands to a peer. -/
def bytesTo (peer : Peer) : Event kind → List UInt8
  | .handed destination bytes => if destination = peer then bytes else []
  | _ => []

/-- The measurement that an event yields. -/
def measurement : Event kind → List UInt64
  | .measured _ _ (.ok value) => [value]
  | _ => []

/-- The number of non-empty reads from the server. -/
def serverReads : Event kind → Nat
  | .received .server bytes => if bytes = [] then 0 else 1
  | _ => 0

end Event

/-- All bytes received from a peer. -/
def bytesFrom (peer : Peer) (log : List (Event kind)) : List UInt8 :=
  log.flatMap (Event.bytesFrom peer)

/-- All bytes handed to a peer. -/
def bytesTo (peer : Peer) (log : List (Event kind)) : List UInt8 :=
  log.flatMap (Event.bytesTo peer)

/-- The values that `getLastMeasurement` has given. -/
def measurements (log : List (Event kind)) : List UInt64 :=
  log.flatMap Event.measurement

/-- The number of non-empty reads from the server. -/
def serverReads (log : List (Event kind)) : Nat :=
  (log.map Event.serverReads).sum

/-- The number of complete words that the control connection has received. -/
def wordsSent (log : List (Event kind)) : Nat :=
  (bytesTo .control log).length / 8

/-- A word that the control connection has received. -/
def word (position : Nat) (log : List (Event kind)) : List UInt8 :=
  ((bytesTo .control log).drop (8 * position)).take 8

@[simp] theorem bytesFrom_concat (peer : Peer) (log : List (Event kind)) (event : Event kind) :
    bytesFrom peer (log ++ [event]) = bytesFrom peer log ++ event.bytesFrom peer := by
  simp [bytesFrom]

@[simp] theorem bytesTo_concat (peer : Peer) (log : List (Event kind)) (event : Event kind) :
    bytesTo peer (log ++ [event]) = bytesTo peer log ++ event.bytesTo peer := by
  simp [bytesTo]

@[simp] theorem measurements_concat (log : List (Event kind)) (event : Event kind) :
    measurements (log ++ [event]) = measurements log ++ event.measurement := by
  simp [measurements]

@[simp] theorem serverReads_concat (log : List (Event kind)) (event : Event kind) :
    serverReads (log ++ [event]) = serverReads log + event.serverReads := by
  simp [serverReads]

/-! ## The machine -/

/-- The queues of the relay. -/
structure Relay where
  /-- Bytes that a peer has yet to be handed. -/
  pending : Peer → List UInt8
  /-- Whether a response has not been measured yet. -/
  unmeasured : Bool

namespace Relay

/-- Nothing has to be done. -/
def idle : Relay where
  pending _ := []
  unmeasured := false

/-- Replace the queue of a peer. -/
def await (relay : Relay) (peer : Peer) (bytes : List UInt8) : Relay :=
  { relay with pending := Function.update relay.pending peer bytes }

@[simp] theorem pending_await_self (relay : Relay) (peer : Peer) (bytes : List UInt8) :
    (relay.await peer bytes).pending peer = bytes := by
  simp [await]

@[simp] theorem pending_await_of_ne
    (relay : Relay) {peer other : Peer} (bytes : List UInt8)
    (different : other ≠ peer) :
    (relay.await peer bytes).pending other = relay.pending other := by
  simp [await, different]

@[simp] theorem unmeasured_await (relay : Relay) (peer : Peer) (bytes : List UInt8) :
    (relay.await peer bytes).unmeasured = relay.unmeasured := rfl

@[simp] theorem await_await (relay : Relay) (peer : Peer) (first second : List UInt8) :
    (relay.await peer first).await peer second = relay.await peer second := by
  simp [await]

/-- Awaiting nothing changes nothing where nothing is pending. -/
theorem await_nil
    {relay : Relay} {peer : Peer}
    (nothing : relay.pending peer = []) :
    relay.await peer [] = relay := by
  rw [await, ← nothing, Function.update_eq_self]

/-- The events that may happen. -/
def step (relay : Relay) : Event kind → Option Relay
  | .connected => none
  | .received .client bytes =>
      some (relay.await .server (relay.pending .server ++ bytes))
  | .received .server bytes =>
      if bytes ≠ [] ∧ relay.pending .control = [] ∧ relay.unmeasured = false then
        some { relay.await .client (relay.pending .client ++ bytes) with
          unmeasured := true }
      else none
  | .received .control _ => none
  | .handed peer bytes =>
      if bytes <+: relay.pending peer then
        some (relay.await peer ((relay.pending peer).drop bytes.length))
      else none
  | .sentAt _ => some relay
  | .receivedAt _ => some relay
  | .measured _ _ (.ok value) =>
      if relay.unmeasured = true then
        some { relay.await .control
          (relay.pending .control ++ TimingProxy.networkByteOrder value) with
          unmeasured := false }
      else none
  | .measured _ _ (.error _) => some relay
  | .inputForwarded =>
      if relay.pending .server = [] then some relay else none
  | .outputForwarded =>
      if relay.pending .client = [] ∧ relay.pending .control = [] ∧
          relay.unmeasured = false then
        some relay
      else none
  | .iterationEnded =>
      if relay.pending .control = [] ∧ relay.unmeasured = false then some relay
      else none

end Relay

/-! ## Accounts -/

/-- The queues hold what a log has received and not handed on. -/
structure Accounts (log : List (Event kind)) (relay : Relay) : Prop where
  toServer : bytesFrom .client log = bytesTo .server log ++ relay.pending .server
  toClient : bytesFrom .server log = bytesTo .client log ++ relay.pending .client
  toControl : BigEndian.encodeAll 8 ((measurements log).map UInt64.toNat) =
    bytesTo .control log ++ relay.pending .control
  reads : serverReads log = (measurements log).length + relay.unmeasured.toNat
  unreported : (relay.pending .control).length + 8 * relay.unmeasured.toNat ≤ 8

theorem accounts_start : Accounts ([] : List (Event kind)) Relay.idle where
  toServer := rfl
  toClient := rfl
  toControl := rfl
  reads := rfl
  unreported := by decide

namespace Accounts

variable {log : List (Event kind)} {relay next : Relay}

theorem receive_client
    (accounts : Accounts log relay) (bytes : List UInt8) :
    Accounts (log ++ [.received .client bytes])
      (relay.await .server (relay.pending .server ++ bytes)) where
  toServer := by simp [accounts.toServer, Event.bytesFrom, Event.bytesTo]
  toClient := by simp [accounts.toClient, Event.bytesFrom, Event.bytesTo]
  toControl := by simp [accounts.toControl, Event.bytesTo, Event.measurement]
  reads := by simp [accounts.reads, Event.serverReads, Event.measurement]
  unreported := by simpa using accounts.unreported

theorem receive_server
    (accounts : Accounts log relay)
    {bytes : List UInt8}
    (nonempty : bytes ≠ [])
    (reported : relay.pending .control = [])
    (measured : relay.unmeasured = false) :
    Accounts (log ++ [.received .server bytes])
      { relay.await .client (relay.pending .client ++ bytes) with
        unmeasured := true } where
  toServer := by simp [accounts.toServer, Event.bytesFrom, Event.bytesTo]
  toClient := by simp [accounts.toClient, Event.bytesFrom, Event.bytesTo]
  toControl := by simp [accounts.toControl, Event.bytesTo, Event.measurement]
  reads := by
    simp [accounts.reads, Event.serverReads, Event.measurement, nonempty, measured]
  unreported := by simp [reported]

/-- Handing on takes the bytes from the front of the peer's queue. -/
theorem hand
    (accounts : Accounts log relay)
    {peer : Peer} {bytes : List UInt8}
    (front : bytes <+: relay.pending peer) :
    Accounts (log ++ [.handed peer bytes])
      (relay.await peer ((relay.pending peer).drop bytes.length)) := by
  obtain ⟨rest, split⟩ := front
  have dropped : (relay.pending peer).drop bytes.length = rest := by
    rw [← split, List.drop_left]
  rw [dropped]
  have shorter : rest.length ≤ (relay.pending peer).length := by
    rw [← split, List.length_append]
    omega
  constructor
  · cases peer <;> simp [accounts.toServer, ← split, Event.bytesFrom, Event.bytesTo]
  · cases peer <;> simp [accounts.toClient, ← split, Event.bytesFrom, Event.bytesTo]
  · cases peer <;> simp [accounts.toControl, ← split, Event.bytesTo, Event.measurement]
  · simp [accounts.reads, Event.serverReads, Event.measurement]
  · have bound := accounts.unreported
    cases peer with
    | client => simpa using bound
    | server => simpa using bound
    | control =>
        rw [Relay.pending_await_self, Relay.unmeasured_await]
        omega

theorem measure
    (accounts : Accounts log relay)
    (tx rx : kind.Stamp) (value : UInt64)
    (unmeasured : relay.unmeasured = true) :
    Accounts (log ++ [.measured tx rx (.ok value)])
      { relay.await .control
          (relay.pending .control ++ TimingProxy.networkByteOrder value) with
        unmeasured := false } where
  toServer := by simp [accounts.toServer, Event.bytesFrom, Event.bytesTo]
  toClient := by simp [accounts.toClient, Event.bytesFrom, Event.bytesTo]
  toControl := by
    simp [accounts.toControl, Event.bytesTo, Event.measurement,
      TimingProxy.networkByteOrder]
  reads := by
    simp [accounts.reads, Event.serverReads, Event.measurement, unmeasured]
  unreported := by
    have bound := accounts.unreported
    rw [unmeasured] at bound
    simp only [Relay.pending_await_self, List.length_append,
      TimingProxy.networkByteOrder, BigEndian.length_encode, Bool.toNat_false,
      Bool.toNat_true] at bound ⊢
    omega

/-- Events that neither carry bytes nor yield a measurement leave the queues. -/
theorem ignore
    (accounts : Accounts log relay)
    {event : Event kind}
    (received : ∀ peer, event.bytesFrom peer = [])
    (handed : ∀ peer, event.bytesTo peer = [])
    (measured : event.measurement = [])
    (read : event.serverReads = 0) :
    Accounts (log ++ [event]) relay where
  toServer := by simp [accounts.toServer, received, handed]
  toClient := by simp [accounts.toClient, received, handed]
  toControl := by simp [accounts.toControl, handed, measured]
  reads := by simp [accounts.reads, measured, read]
  unreported := accounts.unreported

/-- Every event that the relay accepts keeps the accounts. -/
theorem step
    (accounts : Accounts log relay)
    {event : Event kind}
    (stepped : relay.step event = some next) :
    Accounts (log ++ [event]) next := by
  cases event with
  | connected => cases stepped
  | received peer bytes =>
      cases peer with
      | client =>
          cases stepped
          exact accounts.receive_client bytes
      | server =>
          rw [Relay.step, Option.ite_none_right_eq_some] at stepped
          obtain ⟨⟨nonempty, reported, measured⟩, same⟩ := stepped
          cases same
          exact accounts.receive_server nonempty reported measured
      | control => cases stepped
  | handed peer bytes =>
      rw [Relay.step, Option.ite_none_right_eq_some] at stepped
      obtain ⟨front, same⟩ := stepped
      cases same
      exact accounts.hand front
  | sentAt stamp =>
      cases stepped
      exact accounts.ignore (fun _ => rfl) (fun _ => rfl) rfl rfl
  | receivedAt stamp =>
      cases stepped
      exact accounts.ignore (fun _ => rfl) (fun _ => rfl) rfl rfl
  | measured tx rx result =>
      cases result with
      | error fault =>
          cases stepped
          exact accounts.ignore (fun _ => rfl) (fun _ => rfl) rfl rfl
      | ok value =>
          rw [Relay.step, Option.ite_none_right_eq_some] at stepped
          obtain ⟨unmeasured, same⟩ := stepped
          cases same
          exact accounts.measure tx rx value unmeasured
  | inputForwarded | outputForwarded | iterationEnded =>
      rw [Relay.step, Option.ite_none_right_eq_some] at stepped
      obtain ⟨_condition, same⟩ := stepped
      cases same
      exact accounts.ignore (fun _ => rfl) (fun _ => rfl) rfl rfl

end Accounts

/-- Whatever the relay accepts is accounted for. -/
theorem accounts_of_run
    {log : List (Event kind)} {relay : Relay}
    (ran : Machine.run Relay.step Relay.idle log = some relay) :
    Accounts log relay :=
  Machine.run_invariant accounts_start
    (fun _history _state _event _next _before accounts stepped => accounts.step stepped)
    ran

/-! ## What an observer sees -/

/-- What holds at a point of a session. -/
structure Relayed (log : List (Event kind)) : Prop where
  /-- What the server is handed comes from the client. -/
  toServer : bytesTo .server log <+: bytesFrom .client log
  /-- What the client is handed comes from the server. -/
  toClient : bytesTo .client log <+: bytesFrom .server log
  /-- Behind `tryForwardInput`, the server has everything. -/
  inputForwarded : log.getLast? = some .inputForwarded →
    bytesTo .server log = bytesFrom .client log
  /-- Behind `tryForwardOutput`, the client and the observer have everything. -/
  outputForwarded : log.getLast? = some .outputForwarded →
    bytesTo .client log = bytesFrom .server log ∧
      (bytesTo .control log).length = 8 * serverReads log ∧
      (measurements log).length = serverReads log
  /-- The words of the observer are the measurements, one after another. -/
  words : ∀ position < wordsSent log,
    ∃ value, (measurements log)[position]? = some value ∧
      BigEndian.decode (word position log) = value.toNat
  /-- A read is measured before the next one. -/
  measuredInTurn : (measurements log).length ≤ serverReads log ∧
    serverReads log ≤ (measurements log).length + 1
  /-- The observer lags by one word at most. -/
  lag : wordsSent log ≤ serverReads log ∧ serverReads log ≤ wordsSent log + 1
  /-- When the session goes on, the observer does not lag. -/
  iterationEnded : log.getLast? = some .iterationEnded →
    wordsSent log = serverReads log

namespace Accounts

variable {log : List (Event kind)} {relay : Relay}

/-- The bytes that the control connection has received or is yet to receive. -/
theorem length_toControl
    (accounts : Accounts log relay) :
    8 * (measurements log).length =
      (bytesTo .control log).length + (relay.pending .control).length := by
  have lengths := congrArg List.length accounts.toControl
  rw [BigEndian.length_encodeAll, List.length_map, List.length_append] at lengths
  exact lengths

theorem wordsSent_le_measurements
    (accounts : Accounts log relay) :
    wordsSent log ≤ (measurements log).length := by
  have lengths := accounts.length_toControl
  rw [wordsSent]
  omega

theorem serverReads_le_wordsSent
    (accounts : Accounts log relay) :
    serverReads log ≤ wordsSent log + 1 := by
  have lengths := accounts.length_toControl
  have reads := accounts.reads
  have unreported := accounts.unreported
  rw [wordsSent]
  omega

/-- A complete word decodes to its measurement. -/
theorem decode_word
    (accounts : Accounts log relay)
    {position : Nat}
    (sent : position < wordsSent log) :
    ∃ value, (measurements log)[position]? = some value ∧
      BigEndian.decode (word position log) = value.toNat := by
  have inside : position < (measurements log).length :=
    Nat.lt_of_lt_of_le sent accounts.wordsSent_le_measurements
  refine ⟨(measurements log)[position], List.getElem?_eq_getElem inside, ?_⟩
  have fits : ∀ value ∈ (measurements log).map UInt64.toNat, value < 256 ^ 8 := by
    intro value member
    obtain ⟨number, _member, rfl⟩ := List.mem_map.mp member
    exact number.toNat_lt
  have complete : 8 * (position + 1) ≤ (bytesTo .control log).length := by
    rw [wordsSent] at sent
    omega
  rw [word, BigEndian.decode_word_of_stream fits accounts.toControl
    (by rwa [List.length_map]) complete, List.getElem_map]

/-- Nothing is left to report. -/
theorem reported
    (accounts : Accounts log relay)
    (sent : relay.pending .control = [])
    (measured : relay.unmeasured = false) :
    (bytesTo .control log).length = 8 * serverReads log ∧
      (measurements log).length = serverReads log := by
  have lengths := accounts.length_toControl
  have reads := accounts.reads
  rw [sent, List.length_nil] at lengths
  rw [measured, Bool.toNat_false] at reads
  omega

end Accounts

/-- The condition of the last event of a run. -/
theorem step_of_getLast?
    {log : List (Event kind)} {event : Event kind} {relay : Relay}
    (ran : Machine.run Relay.step Relay.idle log = some relay)
    (last : log.getLast? = some event) :
    ∃ before : Relay, before.step event = some relay := by
  obtain ⟨history, rfl⟩ := List.getLast?_eq_some_iff.mp last
  obtain ⟨before, _reached, stepped⟩ := Machine.run_concat_eq_some.mp ran
  exact ⟨before, stepped⟩

/-- Whatever the relay accepts is relayed. -/
theorem relayed_of_run
    {log : List (Event kind)} {relay : Relay}
    (ran : Machine.run Relay.step Relay.idle log = some relay) :
    Relayed log := by
  have accounts := accounts_of_run ran
  constructor
  case toServer => exact ⟨_, accounts.toServer.symm⟩
  case toClient => exact ⟨_, accounts.toClient.symm⟩
  case inputForwarded =>
      intro last
      obtain ⟨before, stepped⟩ := step_of_getLast? ran last
      rw [Relay.step, Option.ite_none_right_eq_some] at stepped
      obtain ⟨handed, same⟩ := stepped
      cases same
      rw [accounts.toServer, handed, List.append_nil]
  case outputForwarded =>
      intro last
      obtain ⟨before, stepped⟩ := step_of_getLast? ran last
      rw [Relay.step, Option.ite_none_right_eq_some] at stepped
      obtain ⟨⟨handed, sent, measured⟩, same⟩ := stepped
      cases same
      refine ⟨?_, accounts.reported sent measured⟩
      rw [accounts.toClient, handed, List.append_nil]
  case words => exact fun position sent => accounts.decode_word sent
  case measuredInTurn =>
      have reads := accounts.reads
      have atMostOne := relay.unmeasured.toNat_le
      omega
  case lag =>
      have reads := accounts.reads
      have behind := accounts.wordsSent_le_measurements
      exact ⟨by omega, accounts.serverReads_le_wordsSent⟩
  case iterationEnded =>
      intro last
      obtain ⟨before, stepped⟩ := step_of_getLast? ran last
      rw [Relay.step, Option.ite_none_right_eq_some] at stepped
      obtain ⟨⟨sent, measured⟩, same⟩ := stepped
      cases same
      obtain ⟨bytes, _measured⟩ := accounts.reported sent measured
      rw [wordsSent, bytes, Nat.mul_div_cancel_left _ (by decide)]

end NetworkTiming
