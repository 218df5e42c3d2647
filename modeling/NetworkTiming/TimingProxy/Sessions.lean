import NetworkTiming.Library.Machine
import NetworkTiming.PcapWrapper.Timing
import NetworkTiming.TimingProxy.Rules

/-!
# Timestamps of sessions

The proxy keeps the timestamps of the last write and the last read in two fields
that no session resets.  A measurement belongs to its session if the read that it
follows has found a write of the same session, at a time that is not later; a
server that speaks first, or a response that overlaps with the next request, is
measured against something else.
-/

namespace NetworkTiming

open Interactive

/-! ## Differences -/

namespace Timespec

/-- Nanoseconds since the epoch. -/
def toNs (time : Timespec) : Int :=
  time.tvSec.toInt * 1000000000 + time.tvNsec.toInt

/-- The time is the same or earlier. -/
def NotAfter (early late : Timespec) : Prop :=
  early.tvSec < late.tvSec ∨
    early.tvSec = late.tvSec ∧ early.tvNsec ≤ late.tvNsec

instance (early late : Timespec) : Decidable (early.NotAfter late) :=
  inferInstanceAs (Decidable (_ ∨ _))

/-- The difference in nanoseconds, as a residue. -/
theorem ofInt_toNs_sub (early late : Timespec) :
    UInt64.ofInt (late.toNs - early.toNs) =
      (late.tvSec - early.tvSec).toUInt64 * 1000000000 +
        (late.tvNsec - early.tvNsec).toUInt64 := by
  have second : UInt64.ofInt 1000000000 = 1000000000 := rfl
  rw [ofInt_sub, toNs, toNs, UInt64.ofInt_add, UInt64.ofInt_add, UInt64.ofInt_mul,
    UInt64.ofInt_mul, second, ofInt_toInt, ofInt_toInt, ofInt_toInt, ofInt_toInt,
    Int64.toUInt64_sub, Int64.toUInt64_sub]
  grind

end Timespec

/-- The result of `timespecDiff`. -/
theorem timespecDiff_eq (after before : Timespec) :
    timespecDiff after before =
      if before.NotAfter after then .ok (UInt64.ofInt (after.toNs - before.toNs))
      else .error .terminate := by
  have refused : (after.tvSec < before.tvSec ∨
      after.tvSec = before.tvSec ∧ after.tvNsec < before.tvNsec) ↔
        ¬before.NotAfter after := by
    rw [Timespec.NotAfter]
    simp only [Int64.lt_iff_toInt_lt, Int64.le_iff_toInt_le, ← Int64.toInt_inj]
    omega
  rw [timespecDiff]
  by_cases ordered : before.NotAfter after
  · rw [if_neg (refused.not_left.mpr ordered), if_pos ordered]
    have borrowed : (after.tvNsec + 1000000000 - before.tvNsec).toUInt64 =
        (after.tvNsec - before.tvNsec).toUInt64 + 1000000000 := by
      rw [Int64.toUInt64_sub, Int64.toUInt64_sub, Int64.toUInt64_add]
      change _ + 1000000000 - _ = _
      grind
    rw [Timespec.ofInt_toNs_sub, borrowed]
    split
    case isTrue borrow => exact congrArg Except.ok (by grind)
    case isFalse inOrder => rfl
  · rw [if_pos (refused.mpr ordered), if_neg ordered]

namespace KindOfSocket

/-- Nanoseconds since the epoch of the technique's clock. -/
def toNs (tstampPrecision : Int) : (kind : KindOfSocket) → kind.Stamp → Int
  | .cpu, stamp => stamp.toNat
  | .kernel, stamp => stamp.toNs
  | .pcap, stamp => stamp.toNs tstampPrecision

/-- The first time is the same or earlier. -/
def NotAfter : (kind : KindOfSocket) → kind.Stamp → kind.Stamp → Prop
  | .cpu, early, late => early ≤ late
  | .kernel, early, late => early.NotAfter late
  | .pcap, early, late => early.NotAfter late

instance : (kind : KindOfSocket) → (early late : kind.Stamp) →
    Decidable (kind.NotAfter early late)
  | .cpu, early, late => inferInstanceAs (Decidable (early ≤ late))
  | .kernel, early, late => inferInstanceAs (Decidable (early.NotAfter late))
  | .pcap, early, late => inferInstanceAs (Decidable (early.NotAfter late))

/-- What the techniques that refuse disordered times report. -/
theorem difference_of_notAfter
    {kind : KindOfSocket} {tstampPrecision : Int} {tx rx : kind.Stamp}
    (stamped : kind ≠ .cpu)
    (known : kind = .pcap → tstampPrecision = PCAP_TSTAMP_PRECISION_MICRO ∨
      tstampPrecision = PCAP_TSTAMP_PRECISION_NANO)
    (ordered : kind.NotAfter tx rx) :
    kind.difference tstampPrecision tx rx =
      .ok (UInt64.ofInt (kind.toNs tstampPrecision rx - kind.toNs tstampPrecision tx)) := by
  cases kind with
  | cpu => exact absurd rfl stamped
  | kernel => exact (timespecDiff_eq rx tx).trans (if_pos ordered)
  | pcap => exact (timevalDeltaToNs_eq (known rfl) tx rx).trans (if_pos ordered)

end KindOfSocket

variable {kind : KindOfSocket} {α β : Type} {tstampPrecision : Int}

/-! ## What belongs to a session -/

/-- The timestamps of a session: of its last write, and of the last read since. -/
structure Stopwatch (kind : KindOfSocket) where
  sent : Option kind.Stamp
  received : Option kind.Stamp
  deriving DecidableEq

namespace Stopwatch

/-- A new session starts without timestamps, and a write makes earlier reads void. -/
def observe (stopwatch : Stopwatch kind) : Event kind → Stopwatch kind
  | .connected => ⟨none, none⟩
  | .sentAt stamp => ⟨some stamp, none⟩
  | .receivedAt stamp => ⟨stopwatch.sent, some stamp⟩
  | _ => stopwatch

end Stopwatch

/-- The stopwatch at the end of a log. -/
def stopwatch (log : List (Event kind)) : Stopwatch kind :=
  log.foldl Stopwatch.observe ⟨none, none⟩

@[simp] theorem stopwatch_concat (log : List (Event kind)) (event : Event kind) :
    stopwatch (log ++ [event]) = (stopwatch log).observe event := by
  simp [stopwatch]

/-- A read from the server finds a write of its session at a time that is not
later. -/
def ReadInOrder (history : List (Event kind)) : Event kind → Prop
  | .receivedAt rx => ∃ tx ∈ (stopwatch history).sent, kind.NotAfter tx rx
  | _ => True

instance (history : List (Event kind)) :
    (event : Event kind) → Decidable (ReadInOrder history event)
  | .receivedAt rx =>
      inferInstanceAs (Decidable (∃ tx ∈ (stopwatch history).sent, kind.NotAfter tx rx))
  | .connected | .received _ _ | .handed _ _ | .sentAt _ | .measured _ _ _
  | .inputForwarded | .outputForwarded | .iterationEnded => isTrue trivial

/-- A measurement is the time from a write of its session to a later read. -/
def MeasuredInSession
    (tstampPrecision : Int)
    (history : List (Event kind)) : Event kind → Prop
  | .measured tx rx result =>
      stopwatch history = ⟨some tx, some rx⟩ ∧ kind.NotAfter tx rx ∧
        result = .ok (UInt64.ofInt
          (kind.toNs tstampPrecision rx - kind.toNs tstampPrecision tx))
  | _ => True

instance (history : List (Event kind)) :
    (event : Event kind) → Decidable (MeasuredInSession tstampPrecision history event)
  | .measured _ _ _ => inferInstanceAs (Decidable (_ ∧ _ ∧ _))
  | .connected | .received _ _ | .handed _ _ | .sentAt _ | .receivedAt _
  | .inputForwarded | .outputForwarded | .iterationEnded => isTrue trivial

/-- What the stopwatch shows behind reads in order. -/
theorem sent_of_received
    {log : List (Event kind)} {rx : kind.Stamp}
    (ordered : Machine.AtEach ReadInOrder log)
    (received : (stopwatch log).received = some rx) :
    ∃ tx ∈ (stopwatch log).sent, kind.NotAfter tx rx := by
  induction log using List.reverseRecOn with
  | nil => cases received
  | append_singleton history event inductionHypothesis =>
      obtain ⟨before, last⟩ := Machine.atEach_concat.mp ordered
      rw [stopwatch_concat] at received ⊢
      cases event with
      | connected | sentAt => cases received
      | receivedAt stamp =>
          cases received
          exact last
      | received | handed | measured | inputForwarded | outputForwarded | iterationEnded =>
          exact inductionHypothesis before received

/-! ## The invariant -/

/-- The fields of the proxy agree with the stopwatch, which shows a read if `fresh`,
and measurements have belonged to their sessions as far as reads were in order. -/
structure Timed
    (tstampPrecision : Int) (fresh : Bool)
    (proxy : TimingProxy kind) : Prop where
  precision : proxy.tstampPrecision = tstampPrecision
  tx : ∀ stamp, (stopwatch proxy.log).sent = some stamp → proxy.txTimestamp = stamp
  rx : ∀ stamp, (stopwatch proxy.log).received = some stamp → proxy.rxTimestamp = stamp
  fresh : fresh = true → ∃ stamp, (stopwatch proxy.log).received = some stamp
  measured : Machine.AtEach ReadInOrder proxy.log →
    Machine.AtEach (MeasuredInSession tstampPrecision) proxy.log

namespace Timed

variable {fresh : Bool} {proxy : TimingProxy kind}

/-- Nothing has been logged. -/
theorem start (proxy : TimingProxy kind) :
    Timed proxy.tstampPrecision false { proxy with log := [] } where
  precision := rfl
  tx _stamp sent := by cases sent
  rx _stamp received := by cases received
  fresh := nofun
  measured _ordered := Machine.atEach_nil _

theorem stale
    (timed : Timed tstampPrecision fresh proxy) :
    Timed tstampPrecision false proxy :=
  { timed with fresh := nofun }

/-- The measurements of a log that goes on with something else. -/
theorem measured_concat
    {event : Event kind}
    (timed : Timed tstampPrecision fresh proxy)
    (other : MeasuredInSession tstampPrecision proxy.log event)
    (ordered : Machine.AtEach ReadInOrder (proxy.log ++ [event])) :
    Machine.AtEach (MeasuredInSession tstampPrecision) (proxy.log ++ [event]) :=
  Machine.atEach_concat.mpr
    ⟨timed.measured (Machine.atEach_concat.mp ordered).1, other⟩

/-- Events that the stopwatch ignores. -/
theorem ignore
    {event : Event kind}
    (timed : Timed tstampPrecision fresh proxy)
    (ignored : ∀ stopwatch : Stopwatch kind, stopwatch.observe event = stopwatch)
    (other : ∀ history, MeasuredInSession tstampPrecision history event) :
    Timed tstampPrecision fresh { proxy with log := proxy.log ++ [event] } where
  precision := timed.precision
  tx := by simpa [ignored] using timed.tx
  rx := by simpa [ignored] using timed.rx
  fresh := by simpa [ignored] using timed.fresh
  measured := timed.measured_concat (other _)

/-- A new session. -/
theorem connect
    (timed : Timed tstampPrecision fresh proxy) :
    Timed tstampPrecision false { proxy with log := proxy.log ++ [.connected] } where
  precision := timed.precision
  tx := by simp [Stopwatch.observe]
  rx := by simp [Stopwatch.observe]
  fresh := nofun
  measured := timed.measured_concat trivial

/-- A write. -/
theorem recordTx
    (timed : Timed tstampPrecision fresh proxy)
    (stamp : kind.Stamp) :
    Timed tstampPrecision false
      { proxy with txTimestamp := stamp, log := proxy.log ++ [.sentAt stamp] } where
  precision := timed.precision
  tx := by simp [Stopwatch.observe]
  rx := by simp [Stopwatch.observe]
  fresh := nofun
  measured := timed.measured_concat trivial

/-- A read from the server. -/
theorem recordRx
    (timed : Timed tstampPrecision fresh proxy)
    (stamp : kind.Stamp) :
    Timed tstampPrecision true
      { proxy with rxTimestamp := stamp, log := proxy.log ++ [.receivedAt stamp] } where
  precision := timed.precision
  tx := by simpa [Stopwatch.observe] using timed.tx
  rx := by simp [Stopwatch.observe]
  fresh _ := by simp [Stopwatch.observe]
  measured := timed.measured_concat trivial

/-- A measurement behind a read. -/
theorem measure
    (stamped : kind ≠ .cpu)
    (known : kind = .pcap → tstampPrecision = PCAP_TSTAMP_PRECISION_MICRO ∨
      tstampPrecision = PCAP_TSTAMP_PRECISION_NANO)
    (timed : Timed tstampPrecision true proxy) :
    Timed tstampPrecision false
      { proxy with log := proxy.log ++ [.measured proxy.txTimestamp proxy.rxTimestamp
        (kind.difference proxy.tstampPrecision proxy.txTimestamp proxy.rxTimestamp)] } where
  precision := timed.precision
  tx := by simpa [Stopwatch.observe] using timed.tx
  rx := by simpa [Stopwatch.observe] using timed.rx
  fresh := nofun
  measured ordered := by
    obtain ⟨before, _last⟩ := Machine.atEach_concat.mp ordered
    obtain ⟨rx, received⟩ := timed.fresh rfl
    obtain ⟨tx, sent, inOrder⟩ := sent_of_received before received
    have shown : stopwatch proxy.log = ⟨some tx, some rx⟩ := by
      rw [← sent, ← received]
    rw [timed.tx tx sent, timed.rx rx received, timed.precision] at ordered ⊢
    exact timed.measured_concat
      ⟨shown, inOrder, KindOfSocket.difference_of_notAfter stamped known inOrder⟩ ordered

end Timed

/-! ## The functions of the proxy -/

section

variable {fresh : Bool}

theorem timed_observes :
    Observes (Timed tstampPrecision false : TimingProxy kind → Prop)
      (Timed tstampPrecision fresh) where
  answers _proxy _answers timed :=
    ⟨timed.precision, timed.tx, timed.rx, timed.fresh, timed.measured⟩
  stops _proxy timed := timed.stale

/-- Logging an event that neither the stopwatch nor the observer of measurements
looks at. -/
theorem emit_timed
    {event : Event kind}
    (ignored : ∀ stopwatch : Stopwatch kind, stopwatch.observe event = stopwatch)
    (other : ∀ history, MeasuredInSession tstampPrecision history event) :
    Triple (Timed tstampPrecision false) (Timed tstampPrecision fresh)
      (TimingProxy.emit event) fun _ => Timed tstampPrecision fresh :=
  Triple.modify fun _proxy timed => timed.ignore ignored other

theorem received_timed (peer : Peer) (bytes : List UInt8) (_nonempty : bytes ≠ []) :
    Triple (Timed tstampPrecision false) (Timed tstampPrecision false)
      (TimingProxy.emit (.received peer bytes) : Session kind Unit)
      fun _ => Timed tstampPrecision false :=
  emit_timed (fun _ => rfl) fun _ => trivial

theorem timed_hands (peer : Peer) :
    Hands (Timed tstampPrecision false : TimingProxy kind → Prop) peer
      fun _data => Timed tstampPrecision fresh where
  observes _data := timed_observes
  handed _data _count _enough := emit_timed (fun _ => rfl) fun _ => trivial

end

namespace TimingProxy

theorem recordTx_timed (stamp : kind.Stamp) :
    Triple (Timed tstampPrecision false) (Timed tstampPrecision false) (recordTx stamp)
      fun _ => Timed tstampPrecision false :=
  fun _proxy timed => timed.recordTx stamp

theorem recordRx_timed (stamp : kind.Stamp) :
    Triple (Timed tstampPrecision false) (Timed tstampPrecision false) (recordRx stamp)
      fun _ => Timed tstampPrecision true :=
  fun _proxy timed => timed.recordRx stamp

theorem derived_timed
    (stamped : kind ≠ .cpu)
    (data : List UInt8) :
    Triple (Timed tstampPrecision false) (Timed tstampPrecision false)
      (derived kind data) fun _ => Timed tstampPrecision false := by
  cases kind with
  | cpu => exact absurd rfl stamped
  | kernel =>
      exact KernelTimingSocket.searchErrorQueue_triple timed_observes recordTx_timed _
  | pcap => exact (time_triple timed_observes).bind recordTx_timed

/-- What a read from the server leaves behind: bytes that are delivered have recorded
their time. -/
abbrev Stamped (tstampPrecision : Int) : Received → TimingProxy kind → Prop :=
  Received.Leaves (Timed tstampPrecision false) fun _bytes => Timed tstampPrecision true

theorem KernelTimingSocket.read_timed (size : Nat) :
    Triple (Timed tstampPrecision false) (Timed tstampPrecision false)
      (KernelTimingSocket.read size) (Stamped tstampPrecision) := by
  refine (recv_triple timed_observes (received_timed .server) size).bind fun result => ?_
  cases result with
  | data bytes =>
      refine (ask_triple timed_observes).bind fun answer => ?_
      cases answer with
      | time stamp =>
          exact (recordRx_timed stamp).bind fun _ => Triple.pure fun _proxy timed => timed
      | noTime => exact Triple.pure fun _proxy timed => timed
      | connected | received | closed | failed | accepted | peeked | thrown | hangup =>
          exact Triple.throw fun _proxy timed => timed
  | closed => exact Triple.pure fun _proxy timed => timed
  | failed errno =>
      cases errno with
      | again => exact Triple.pure fun _proxy timed => timed
      | connectionReset | other => exact Triple.throw fun _proxy timed => timed

theorem PCAPTimingSocket.read_timed (size : Nat) (blocking : Bool) :
    Triple (Timed tstampPrecision false) (Timed tstampPrecision false)
      (PCAPTimingSocket.read size blocking) (Stamped tstampPrecision) := by
  refine (TimingSocket.read_triple timed_observes (received_timed .server) size
    blocking).bind fun result => ?_
  cases result with
  | data bytes =>
      exact (time_triple timed_observes).bind fun stamp =>
        (recordRx_timed stamp).bind fun _ => Triple.pure fun _proxy timed => timed
  | closed | failed => exact Triple.pure fun _proxy timed => timed

theorem read_timed
    (stamped : kind ≠ .cpu)
    (size : Nat) (blocking : Bool) :
    Triple (Timed tstampPrecision false) (Timed tstampPrecision false)
      (read kind size blocking) (Stamped tstampPrecision) := by
  cases kind with
  | cpu => exact absurd rfl stamped
  | kernel => exact KernelTimingSocket.read_timed size
  | pcap => exact PCAPTimingSocket.read_timed size blocking

theorem getLastMeasurement_timed
    (stamped : kind ≠ .cpu)
    (known : kind = .pcap → tstampPrecision = PCAP_TSTAMP_PRECISION_MICRO ∨
      tstampPrecision = PCAP_TSTAMP_PRECISION_NANO) :
    Triple (Timed tstampPrecision false) (Timed tstampPrecision true)
      (getLastMeasurement : Session kind UInt64) fun _ => Timed tstampPrecision false := by
  intro proxy timed
  have measured := timed.measure stamped known
  rw [getLastMeasurement, ensures_bind, ensures_get, ensures_bind, emit, ensures_modify]
  split
  case h_1 value reported => exact measured
  case h_2 fault refused => exact measured

theorem tryForwardInput_timed (stamped : kind ≠ .cpu) :
    Triple (Timed tstampPrecision false) (Timed tstampPrecision false)
      (tryForwardInput : Session kind Unit) fun _ => Timed tstampPrecision false := by
  refine (ServerSocket.read_triple timed_observes (received_timed .client) _ _).bind
    fun result => ?_
  cases result with
  | data buf => exact write_triple (timed_hands .server) (derived_timed stamped) buf
  | closed => exact Triple.throw fun _proxy timed => timed
  | failed errno => exact Triple.pure fun _proxy timed => timed

/-- The response is written to the client between the read and the measurement,
which leaves the timestamps alone. -/
theorem tryForwardOutput_timed
    (stamped : kind ≠ .cpu)
    (known : kind = .pcap → tstampPrecision = PCAP_TSTAMP_PRECISION_MICRO ∨
      tstampPrecision = PCAP_TSTAMP_PRECISION_NANO) :
    Triple (Timed tstampPrecision false) (Timed tstampPrecision false)
      (tryForwardOutput : Session kind Unit) fun _ => Timed tstampPrecision false := by
  refine (read_timed stamped _ _).bind fun result => ?_
  cases result with
  | data buf =>
      refine (ServerSocket.write_triple (timed_hands .client) buf).bind fun _sent => ?_
      refine (getLastMeasurement_timed stamped known).bind fun value => ?_
      exact (ServerSocket.write_triple (timed_hands .control) (networkByteOrder value)).bind
        fun _reported => Triple.pure fun _proxy timed => timed
  | closed => exact Triple.throw fun _proxy timed => timed
  | failed errno => exact Triple.pure fun _proxy timed => timed

theorem timed_rounds
    (stamped : kind ≠ .cpu)
    (known : kind = .pcap → tstampPrecision = PCAP_TSTAMP_PRECISION_MICRO ∨
      tstampPrecision = PCAP_TSTAMP_PRECISION_NANO) :
    Rounds (Timed tstampPrecision false : TimingProxy kind → Prop)
      (Timed tstampPrecision false) where
  observes := timed_observes
  observesStopped := timed_observes
  input := tryForwardInput_timed stamped
  output := tryForwardOutput_timed stamped known
  inputForwarded := emit_timed (fun _ => rfl) fun _ => trivial
  outputForwarded := emit_timed (fun _ => rfl) fun _ => trivial
  iterationEnded := emit_timed (fun _ => rfl) fun _ => trivial

/-! ## Runs -/

theorem handleClient_timed
    (stamped : kind ≠ .cpu)
    (known : kind = .pcap → tstampPrecision = PCAP_TSTAMP_PRECISION_MICRO ∨
      tstampPrecision = PCAP_TSTAMP_PRECISION_NANO)
    (iterations : Nat) :
    Triple (Timed tstampPrecision false) (Timed tstampPrecision false)
      (handleClient iterations : Session kind Unit)
      fun _ => Timed tstampPrecision false := by
  have establish : ∀ established, Triple (Timed tstampPrecision false)
      (Timed tstampPrecision false)
      (modify fun proxy => { proxy with established := established } : Session kind Unit)
      fun _ => Timed tstampPrecision false := by
    intro established proxy timed
    exact ⟨timed.precision, timed.tx, timed.rx, timed.fresh, timed.measured⟩
  have connect : Triple (Timed tstampPrecision false) (Timed tstampPrecision false)
      (emit .connected : Session kind Unit) fun _ => Timed tstampPrecision false :=
    Triple.modify fun _proxy timed => timed.connect
  refine (ask_triple timed_observes).bind fun answer => ?_
  cases answer with
  | connected =>
      exact (establish true).bind fun _ => connect.bind fun _ =>
        (sessionLoop_triple (timed_rounds stamped known) iterations).bind
          fun _ => establish false
  | received | closed | failed | accepted | peeked | time | noTime | thrown | hangup =>
      exact Triple.throw fun _proxy timed => timed

theorem run_timed
    (stamped : kind ≠ .cpu)
    (known : kind = .pcap → tstampPrecision = PCAP_TSTAMP_PRECISION_MICRO ∨
      tstampPrecision = PCAP_TSTAMP_PRECISION_NANO)
    (iterations sessions : Nat) :
    Triple (Timed tstampPrecision false) (Timed tstampPrecision false)
      (run iterations sessions : Session kind Unit)
      fun _ => Timed tstampPrecision false := by
  induction sessions with
  | zero => exact Triple.pure fun _proxy timed => timed
  | succ sessions inductionHypothesis =>
      exact (handleClient_timed stamped known iterations).bind
        fun _ => inductionHypothesis

/-- In every run, over any number of sessions, as long as every read from the server
finds a write of its session at a time that is not later, every measurement is the
time from the last write of its session to the read behind it. -/
theorem run_measuredInSession
    (stamped : kind ≠ .cpu)
    (iterations sessions : Nat)
    (proxy : TimingProxy kind)
    (known : kind = .pcap → proxy.tstampPrecision = PCAP_TSTAMP_PRECISION_MICRO ∨
      proxy.tstampPrecision = PCAP_TSTAMP_PRECISION_NANO)
    (ordered : Machine.AtEach ReadInOrder
      (outcome (run iterations sessions) { proxy with log := [] }).2.log) :
    Machine.AtEach (MeasuredInSession proxy.tstampPrecision)
      (outcome (run iterations sessions) { proxy with log := [] }).2.log := by
  exact ((run_timed stamped known iterations sessions).outcome_snd
    (Timed.start proxy)).measured ordered

/-- An environment in which a request is followed by its response, and the server
sends a second piece of it. -/
def requestThenResponse : TimingProxy .pcap where
  answers := [.connected,
    .received [71, 69, 84], .accepted 3, .time ⟨5, 10⟩,
    .received [79, 75], .time ⟨5, 42⟩, .accepted 2, .accepted 8,
    .hangup false, .hangup false, .hangup false,
    .failed .again, .received [33], .time ⟨6, 1⟩, .accepted 1, .accepted 8]
  established := false
  device := "eth0"
  tstampPrecision := PCAP_TSTAMP_PRECISION_MICRO
  txTimestamp := ⟨0, 0⟩
  rxTimestamp := ⟨0, 0⟩
  log := []

theorem run_measuredInSession_requestThenResponse :
    .measured ⟨5, 10⟩ ⟨6, 1⟩ (.ok 999991000) ∈
        (outcome (run 2 1) requestThenResponse).2.log ∧
      Machine.AtEach (MeasuredInSession PCAP_TSTAMP_PRECISION_MICRO)
        (outcome (run 2 1) requestThenResponse).2.log :=
  ⟨by decide +kernel,
    run_measuredInSession (by decide) 2 1 requestThenResponse (fun _ => .inl rfl)
      (by decide +kernel)⟩

/-- An environment in which the server speaks first. -/
def serverSpeaksFirst : TimingProxy .pcap where
  answers := [.connected, .failed .again,
    .received [50, 50, 48], .time ⟨5, 42⟩, .accepted 3, .accepted 8,
    .hangup false, .hangup false, .hangup false]
  established := false
  device := "eth0"
  tstampPrecision := PCAP_TSTAMP_PRECISION_MICRO
  txTimestamp := ⟨0, 0⟩
  rxTimestamp := ⟨0, 0⟩
  log := []

/-- The greeting is measured against a timestamp that no write has recorded. -/
theorem not_measuredInSession_serverSpeaksFirst :
    .measured ⟨0, 0⟩ ⟨5, 42⟩ (.ok 5000042000) ∈
        (outcome (run 1 1) serverSpeaksFirst).2.log ∧
      ¬Machine.AtEach (MeasuredInSession PCAP_TSTAMP_PRECISION_MICRO)
        (outcome (run 1 1) serverSpeaksFirst).2.log :=
  ⟨by decide +kernel, by decide +kernel⟩

end TimingProxy

end NetworkTiming
