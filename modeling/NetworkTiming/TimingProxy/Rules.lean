import NetworkTiming.TimingProxy.TimingProxy

/-!
# Rules for the programs of the proxy

Assertions about the proxy speak of its log and its fields, and not of the answers
that its environment will give.  A rule tells what a program does to such assertions
from what its events do to them.
-/

namespace NetworkTiming

open Interactive

variable {kind : KindOfSocket}

/-- An assertion does not depend on the answers to come, and the proxy may stop
where it holds. -/
structure Observes (stopped before : TimingProxy kind → Prop) : Prop where
  answers : ∀ proxy answers, before proxy → before { proxy with answers := answers }
  stops : ∀ proxy, before proxy → stopped proxy

/-- An assertion about the bytes that a peer has yet to be handed follows the bytes
that are handed. -/
structure Hands
    (stopped : TimingProxy kind → Prop)
    (peer : Peer)
    (pending : List UInt8 → TimingProxy kind → Prop) : Prop where
  observes : ∀ data, Observes stopped (pending data)
  handed : ∀ data count, count ≤ data.length →
    Triple stopped (pending data)
      (TimingProxy.emit (.handed peer (data.take count)))
      fun _ => pending (data.drop count)

namespace TimingProxy

variable {stopped before : TimingProxy kind → Prop}

/-! ## System calls -/

section Answers

variable {proxy : TimingProxy kind} {answers : List (Answer kind)}
  {returns : Answer kind → TimingProxy kind → Prop} {stops : Stop → TimingProxy kind → Prop}

/-- The next answer is what the environment is asked for. -/
theorem ask_ensures {answer : Answer kind} (next : proxy.answers = answer :: answers) :
    Ensures returns stops ask proxy ↔ returns answer { proxy with answers := answers } := by
  obtain ⟨_, established, device, precision, tx, rx, log⟩ := proxy
  cases next
  exact Iff.rfl

theorem ask_ensures_of_none (none : proxy.answers = []) :
    Ensures returns stops ask proxy ↔ stops .waiting proxy := by
  obtain ⟨_, established, device, precision, tx, rx, log⟩ := proxy
  cases none
  exact Iff.rfl

end Answers

theorem ask_triple (observes : Observes stopped before) :
    Triple stopped before (ask : Session kind _) fun _answer => before := by
  intro proxy holds
  obtain ⟨answers, established, device, tstampPrecision, tx, rx, log⟩ := proxy
  cases answers with
  | nil => exact observes.stops _ holds
  | cons answer answers => exact observes.answers _ answers holds

theorem time_triple (observes : Observes stopped before) :
    Triple stopped before (time : Session kind _) fun _stamp => before := by
  refine (ask_triple observes).bind fun answer => ?_
  cases answer with
  | time => exact Triple.pure fun _proxy holds => holds
  | connected | received | closed | failed | accepted | peeked | noTime | thrown | hangup =>
      exact Triple.throw observes.stops

/-- What holds behind a receiving call. -/
def Received.Leaves
    (before : TimingProxy kind → Prop)
    (taken : List UInt8 → TimingProxy kind → Prop) :
    Received → TimingProxy kind → Prop
  | .data bytes => taken bytes
  | _ => before

section Receiving

variable {peer : Peer} {taken : List UInt8 → TimingProxy kind → Prop}

theorem recv_triple
    (observes : Observes stopped before)
    (received : ∀ bytes, bytes ≠ [] →
      Triple stopped before (emit (.received peer bytes)) fun _ => taken bytes)
    (size : Nat) :
    Triple stopped before (recv peer size) (Received.Leaves before taken) := by
  refine (ask_triple observes).bind fun answer => ?_
  cases answer with
  | received bytes =>
      change Triple _ _ (if bytes ≠ [] ∧ bytes.length ≤ size then _ else _) _
      split
      case isTrue possible =>
          exact (received bytes possible.1).bind
            fun _ => Triple.pure fun _proxy holds => holds
      case isFalse impossible => exact Triple.throw observes.stops
  | closed | failed => exact Triple.pure fun _proxy holds => holds
  | connected | accepted | peeked | time | noTime | thrown | hangup =>
      exact Triple.throw observes.stops

/-- A result that a reading function returns, or throws away if it may block. -/
theorem result_triple
    (observes : Observes stopped before)
    (fault : Errno → Fault) (blocking : Bool) (result : Received) :
    Triple stopped (result.Leaves before taken)
      (match result with
        | .failed errno =>
            if blocking then throw (.exception (fault errno))
            else pure (.failed errno)
        | received => pure received : Session kind Received)
      (Received.Leaves before taken) := by
  cases result with
  | data | closed => exact Triple.pure fun _proxy holds => holds
  | failed errno =>
      cases blocking with
      | true => exact Triple.throw observes.stops
      | false => exact Triple.pure fun _proxy holds => holds

theorem ServerSocket.read_triple
    (observes : Observes stopped before)
    (received : ∀ bytes, bytes ≠ [] →
      Triple stopped before (emit (.received peer bytes)) fun _ => taken bytes)
    (size : Nat) (blocking : Bool) :
    Triple stopped before (ServerSocket.read peer size blocking)
      (Received.Leaves before taken) :=
  (recv_triple observes received size).bind (result_triple observes _ blocking)

theorem TimingSocket.read_triple
    (observes : Observes stopped before)
    (received : ∀ bytes, bytes ≠ [] →
      Triple stopped before (emit (.received .server bytes)) fun _ => taken bytes)
    (size : Nat) (blocking : Bool) :
    Triple stopped before (TimingSocket.read size blocking)
      (Received.Leaves before taken) := by
  refine Triple.get.bind fun proxy => ?_
  split
  case isTrue closed => exact Triple.throw observes.stops
  case isFalse established =>
      exact (recv_triple observes received size).bind (result_triple observes _ blocking)

end Receiving

section Sending

variable {peer : Peer} {pending : List UInt8 → TimingProxy kind → Prop}

theorem send_triple
    (hands : Hands stopped peer pending)
    (data : List UInt8) :
    Triple stopped (pending data) (send peer data) fun result =>
      match result with
      | .ok count => pending (data.drop count)
      | .error _ => pending data := by
  refine (ask_triple (hands.observes data)).bind fun answer => ?_
  cases answer with
  | accepted count =>
      change Triple _ _ (if possible : 1 ≤ count ∧ count ≤ data.length then _ else _) _
      split
      case isTrue possible =>
          exact (hands.handed data count possible.2).bind
            fun _ => Triple.pure fun _proxy holds => holds
      case isFalse impossible => exact Triple.throw (hands.observes data).stops
  | failed => exact Triple.pure fun _proxy holds => holds
  | connected | received | closed | peeked | time | noTime | thrown | hangup =>
      exact Triple.throw (hands.observes data).stops

/-- What is done behind a call of `send`: nothing is left to hand on if it has accepted
everything. -/
theorem rest_triple
    {data : List UInt8} {again done : Session kind α}
    (count : Count data.length)
    (part : Triple stopped (pending (data.drop count)) again fun _ => pending [])
    (whole : Triple stopped (pending []) done fun _ => pending []) :
    Triple stopped (pending (data.drop count))
      (if count.val ≠ data.length then again else done) fun _ => pending [] := by
  split
  case isTrue partly => exact part
  case isFalse everything =>
      have nothing : data.drop count = [] := by
        rw [List.drop_eq_nil_iff]
        omega
      rwa [nothing]

/-- A write hands on everything, in as many calls as it takes. -/
theorem ServerSocket.write_triple
    (hands : Hands stopped peer pending)
    (data : List UInt8) :
    Triple stopped (pending data) (ServerSocket.write peer data)
      fun _ => pending [] := by
  induction data using ServerSocket.write.induct with
  | case1 data inductionHypothesis =>
      rw [ServerSocket.write]
      refine (send_triple hands data).bind fun result => ?_
      cases result with
      | error errno => exact Triple.throw (hands.observes data).stops
      | ok count =>
          apply rest_triple count
          · exact (inductionHypothesis count).bind
              fun _ => Triple.pure fun _proxy holds => holds
          · exact Triple.pure fun _proxy holds => holds

/-- So does a write to the server, if what a derived class does behind it leaves the
assertion alone. -/
theorem TimingSocket.write_triple
    {derived : List UInt8 → Session kind Unit}
    {pending : List UInt8 → TimingProxy kind → Prop}
    (hands : Hands stopped .server pending)
    (behind : ∀ data, Triple stopped (pending []) (derived data) fun _ => pending [])
    (data : List UInt8) :
    Triple stopped (pending data) (TimingSocket.write derived data)
      fun _ => pending [] := by
  induction data using TimingSocket.write.induct with
  | case1 data inductionHypothesis =>
      rw [TimingSocket.write]
      refine Triple.get.bind fun proxy => ?_
      split
      case isTrue closed => exact Triple.throw (hands.observes data).stops
      case isFalse established =>
          refine (send_triple hands data).bind fun result => ?_
          cases result with
          | error errno => exact Triple.throw (hands.observes data).stops
          | ok count =>
              apply rest_triple count
              · exact (inductionHypothesis count).bind fun _ => behind _
              · exact Triple.pure fun _proxy holds => holds

theorem write_triple
    {pending : List UInt8 → TimingProxy kind → Prop}
    (hands : Hands stopped .server pending)
    (behind : ∀ data,
      Triple stopped (pending []) (derived kind data) fun _ => pending [])
    (data : List UInt8) :
    Triple stopped (pending data) (write data : Session kind Unit)
      fun _ => pending [] :=
  (TimingSocket.write_triple hands behind data).bind fun _ => behind data

end Sending

/-! ## Timestamps -/

theorem CPUTimingSocket.takeTimes_triple
    {stopped before : TimingProxy .cpu → Prop}
    (observes : Observes stopped before)
    (sentAt : ∀ stamp, Triple stopped before (recordTx stamp) fun _ => before)
    (receivedAt : ∀ stamp, Triple stopped before (recordRx stamp) fun _ => before)
    (data : List UInt8) :
    Triple stopped before (CPUTimingSocket.takeTimes data) fun _ => before := by
  refine (time_triple observes).bind fun tx => (sentAt tx).bind fun _ =>
    (ask_triple observes).bind fun answer => ?_
  have waited : Triple stopped before (time >>= recordRx : Session .cpu Unit)
      fun _ => before := (time_triple observes).bind receivedAt
  cases answer with
  | peeked | closed | failed => exact waited
  | connected | received | accepted | time | noTime | thrown | hangup =>
      exact Triple.throw observes.stops

theorem KernelTimingSocket.searchErrorQueue_triple
    {stopped before : TimingProxy .kernel → Prop}
    (observes : Observes stopped before)
    (sentAt : ∀ stamp, Triple stopped before (recordTx stamp) fun _ => before)
    (retries : Nat) :
    Triple stopped before (KernelTimingSocket.searchErrorQueue retries)
      fun _ => before := by
  induction retries with
  | zero => exact Triple.get.bind fun proxy => Triple.throw observes.stops
  | succ retries inductionHypothesis =>
      refine (ask_triple observes).bind fun answer => ?_
      cases answer with
      | time stamp => exact sentAt stamp
      | noTime => exact inductionHypothesis
      | connected | received | closed | failed | accepted | peeked | thrown | hangup =>
          exact Triple.throw observes.stops

/-! ## The session loop -/

theorem socketPeerClosed_triple (observes : Observes stopped before) :
    Triple stopped before (socketPeerClosed : Session kind _) fun _ => before := by
  refine (ask_triple observes).bind fun answer => ?_
  cases answer with
  | hangup => exact Triple.pure fun _proxy holds => holds
  | connected | received | closed | failed | accepted | peeked | time | noTime | thrown =>
      exact Triple.throw observes.stops

theorem anyPeerClosed_triple (observes : Observes stopped before) :
    Triple stopped before (anyPeerClosed : Session kind _) fun _ => before := by
  refine (socketPeerClosed_triple observes).bind fun clientClosed => ?_
  cases clientClosed with
  | true => exact Triple.pure fun _proxy holds => holds
  | false =>
      refine (socketPeerClosed_triple observes).bind fun controlClosed => ?_
      cases controlClosed with
      | true => exact Triple.pure fun _proxy holds => holds
      | false => exact socketPeerClosed_triple observes

/-- What the parts of an iteration have to keep. -/
structure Rounds (stopped idle : TimingProxy kind → Prop) : Prop where
  observes : Observes stopped idle
  observesStopped : Observes stopped stopped
  input : Triple stopped idle (tryForwardInput : Session kind Unit) fun _ => idle
  output : Triple stopped idle (tryForwardOutput : Session kind Unit) fun _ => idle
  inputForwarded :
    Triple stopped idle (emit .inputForwarded : Session kind Unit) fun _ => idle
  outputForwarded :
    Triple stopped idle (emit .outputForwarded : Session kind Unit) fun _ => idle
  iterationEnded :
    Triple stopped idle (emit .iterationEnded : Session kind Unit) fun _ => idle

variable {idle : TimingProxy kind → Prop}

/-- An exception leaves the session where it has been thrown. -/
theorem forward_triple (rounds : Rounds stopped idle) :
    Triple stopped idle (forward : Session kind Bool) fun established final =>
      if established then idle final else stopped final := by
  have body : Triple stopped idle (do
      tryForwardInput
      emit .inputForwarded
      tryForwardOutput
      emit .outputForwarded
      pure true : Session kind Bool)
      fun established final => if established then idle final else stopped final :=
    rounds.input.bind fun _ => rounds.inputForwarded.bind fun _ =>
      rounds.output.bind fun _ => rounds.outputForwarded.bind fun _ =>
        Triple.pure fun _proxy holds => holds
  refine body.tryCatch fun stop => ?_
  split
  · exact Triple.pure fun _final holds => holds
  · exact Triple.throw fun _final holds => holds

/-- Wherever the loop is, it may have stopped. -/
theorem sessionLoop_triple (rounds : Rounds stopped idle) (iterations : Nat) :
    Triple stopped idle (sessionLoop iterations : Session kind Unit)
      fun _ => stopped := by
  induction iterations with
  | zero => exact Triple.throw rounds.observes.stops
  | succ iterations inductionHypothesis =>
      refine (forward_triple rounds).bind fun established => ?_
      cases established with
      | false =>
          exact (anyPeerClosed_triple rounds.observesStopped).bind
            fun _closed => Triple.pure fun _proxy holds => holds
      | true =>
          refine (anyPeerClosed_triple rounds.observes).bind fun closed => ?_
          cases closed with
          | true => exact Triple.pure rounds.observes.stops
          | false => exact rounds.iterationEnded.bind fun _ => inductionHypothesis

end TimingProxy

end NetworkTiming
