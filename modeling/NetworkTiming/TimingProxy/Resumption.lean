import NetworkTiming.TimingProxy.Stages

/-!
# What is left of the `try` block

A stage stands for the rest of the `try` block of the session loop.  A program that is
given an answer has become another program, and each stage becomes the next stage of
the machine.
-/

namespace NetworkTiming

open Interactive TimingProxy

variable {kind : KindOfSocket} {α β : Type}

namespace TimingProxy

/-- The proxy in front of some answers. -/
def facing (proxy : TimingProxy kind) (answers : List (Answer kind)) :
    TimingProxy kind :=
  { proxy with answers := answers }

end TimingProxy

/-! ## Programs that are given an answer -/

/-- What a program has become when an answer has been given: another program and the
proxy it goes on with, or nothing if the environment cannot give the answer. -/
abbrev Rest (kind : KindOfSocket) (α : Type) :=
  Option (Session kind α × TimingProxy kind)

/-- The outcome of what is left of a program. -/
def Rest.outcome (proxy : TimingProxy kind) (answers : List (Answer kind)) :
    Rest kind α → Except Stop α × TimingProxy kind
  | some (next, later) => Interactive.outcome next (later.facing answers)
  | none => (.error .waiting, proxy.facing answers)

/-- The program that is given an answer goes on as what is left of it. -/
def Answered
    (answer : Answer kind)
    (proxy : TimingProxy kind)
    (program : Session kind α)
    (rest : Rest kind α) : Prop :=
  ∀ answers, outcome program (proxy.facing (answer :: answers)) =
    rest.outcome proxy answers

/-- What is left of a sequence whose first program is given an answer. -/
theorem Answered.bind
    {answer : Answer kind} {proxy : TimingProxy kind}
    {program : Session kind α} {rest : Rest kind α}
    (answered : Answered answer proxy program rest)
    (following : α → Session kind β) :
    Answered answer proxy (program >>= following)
      (rest.map fun next => (next.1 >>= following, next.2)) := by
  intro answers
  rw [outcome_bind, answered answers]
  cases rest with
  | some next => exact (outcome_bind next.1 following _).symm
  | none => rfl

/-! ## What is left at a stage -/

namespace TimingCall

/-- What is left of the timing code. -/
def rest (data : List UInt8) : {kind : KindOfSocket} → TimingCall kind →
    Session kind Unit
  | _, .writeTime => CPUTimingSocket.takeTimes data
  | _, .peek => do
      match ← ask with
      | .peeked | .closed | .failed _ => pure ()
      | _ => throw .waiting
      recordRx (← time)
  | _, .readTime => do recordRx (← time)
  | _, .search retries => KernelTimingSocket.searchErrorQueue (retries + 1)
  | _, .lookUp => PCAPTimingSocket.lookUp data

theorem rest_start (data : List UInt8) :
    (kind : KindOfSocket) → (start kind).rest data = derived kind data
  | .cpu => rfl
  | .kernel => rfl
  | .pcap => rfl

end TimingCall

namespace Stage

/-- The timing code of the enclosing buffers. -/
def unwind : List (List UInt8) → Session kind Unit
  | [] => pure ()
  | data :: enclosing => do
      derived kind data
      unwind enclosing

/-- What follows `tryForwardOutput` in the `try` block. -/
def afterOutput : Session kind Bool := do
  emit .outputForwarded
  pure true

/-- What follows `tryForwardInput` in the `try` block. -/
def afterInput : Session kind Bool := do
  emit .inputForwarded
  tryForwardOutput
  afterOutput

/-- What follows the writing to the client in `tryForwardOutput`. -/
def reporting : Session kind Unit := do
  let value ← getLastMeasurement
  let _reported ← ServerSocket.write .control (networkByteOrder value)
  pure ()

/-- What follows the reading in `tryForwardOutput`. -/
def responding : Received → Session kind Unit
  | .data buf => do
      let _sent ← ServerSocket.write .client buf
      reporting
  | .closed => throw (.exception (.runtimeError "Proxy output closed connection"))
  | .failed _ => pure ()

/-- What is left of reading from the server when bytes have been received. -/
def stamping (data : List UInt8) : (kind : KindOfSocket) → Session kind Received
  | .cpu => pure (.data data)
  | .kernel => do
      match ← ask with
      | .time stamp => do
          recordRx stamp
          pure (.data data)
      | .noTime => pure (.failed .again)
      | .thrown _ => throw (.exception .terminate)
      | _ => throw .waiting
  | .pcap => do
      recordRx (← time)
      pure (.data data)

/-- What is left of the `try` block. -/
def body : Stage kind → Session kind Bool
  | .readClient => do
      tryForwardInput
      afterInput
  | .sendServer data enclosing => do
      TimingSocket.write (derived kind) data
      derived kind data
      unwind enclosing
      afterInput
  | .timing call data enclosing => do
      call.rest data
      unwind enclosing
      afterInput
  | .readServer => do
      tryForwardOutput
      afterOutput
  | .stampRead data => do
      responding (← stamping data kind)
      afterOutput
  | .sendClient data => do
      let _sent ← ServerSocket.write .client data
      reporting
      afterOutput
  | .sendControl data => do
      let _reported ← ServerSocket.write .control data
      afterOutput
  | .poll (some what) _ => throw (.exception (.runtimeError what))
  | .poll none _ | .ended => pure true
  | .raised fault => throw (.exception fault)

@[simp] theorem body_raise (fault : Fault) :
    body (raise fault : Stage kind) = throw (.exception fault) := by
  cases fault <;> rfl

end Stage

/-! ## The calls -/

section Calls

variable {proxy : TimingProxy kind}

/-- `recv` that is given an answer. -/
theorem recv_answered (peer : Peer) (size : Nat) (answer : Answer kind) :
    Answered answer proxy (recv peer size)
      (match answer with
        | .received bytes =>
            if bytes ≠ [] ∧ bytes.length ≤ size then
              some (pure (.data bytes), proxy.observing (.received peer bytes))
            else none
        | .closed => some (pure .closed, proxy)
        | .failed errno => some (pure (.failed errno), proxy)
        | _ => none) := by
  intro answers
  cases answer with
  | received bytes =>
      change outcome (if bytes ≠ [] ∧ bytes.length ≤ size then _ else _) _ = _
      dsimp only
      split
      case isTrue => rfl
      case isFalse => rfl
  | closed => rfl
  | failed errno => rfl
  | connected | accepted | peeked | time | noTime | thrown | hangup => rfl

/-- `send` that is given an answer. -/
theorem send_answered
    (peer : Peer) {data : List UInt8} (nonempty : data ≠ []) (answer : Answer kind)
    (following : Except Errno (Count data.length) → Session kind α) :
    Answered answer proxy (send peer data >>= following)
      (match answer with
        | .accepted count =>
            if accepts : Accepts data count then
              some (following (.ok ⟨count, accepts.2 nonempty, accepts.1⟩),
                proxy.observing (.handed peer (data.take count)))
            else none
        | .failed errno => some (following (.error errno), proxy)
        | _ => none) := by
  intro answers
  cases answer with
  | accepted count =>
      by_cases accepts : Accepts data count
      · have possible : 1 ≤ count ∧ count ≤ data.length :=
          ⟨accepts.2 nonempty, accepts.1⟩
        have sent : outcome (send peer data) (proxy.facing (.accepted count :: answers)) =
            (.ok (.ok ⟨count, possible⟩),
              (proxy.observing (.handed peer (data.take count))).facing answers) := by
          change outcome (if possible : 1 ≤ count ∧ count ≤ data.length then _ else _) _ = _
          rw [dif_pos possible]
          rfl
        rw [outcome_bind, sent]
        simp only [dif_pos accepts, Rest.outcome]
      · have impossible : ¬(1 ≤ count ∧ count ≤ data.length) :=
          fun possible => accepts ⟨possible.2, fun _nonempty => possible.1⟩
        have refused : outcome (send peer data)
            (proxy.facing (.accepted count :: answers)) =
              (.error .waiting, proxy.facing answers) := by
          change outcome (if possible : 1 ≤ count ∧ count ≤ data.length then _ else _) _ = _
          rw [dif_neg impossible]
          rfl
        rw [outcome_bind, refused]
        simp only [dif_neg accepts, Rest.outcome]
  | failed errno => rfl
  | connected | received | closed | peeked | time | noTime | thrown | hangup => rfl

/-- `ServerSocket::write` that is given an answer. -/
theorem serverSocketWrite_answered
    (peer : Peer) {data : List UInt8} (nonempty : data ≠ []) (answer : Answer kind)
    (following : Session kind α) :
    Answered answer proxy
      (do
        let _sent ← ServerSocket.write peer data
        following)
      (match answer with
        | .accepted count =>
            if Accepts data count then
              some (if count ≠ data.length then do
                  let _sent ← ServerSocket.write peer (data.drop count)
                  following
                else following,
                proxy.observing (.handed peer (data.take count)))
            else none
        | .failed errno =>
            some (throw (.exception (.runtimeError
              ("Unable to send data. Reason: " ++ strerror errno))), proxy)
        | _ => none) := by
  intro answers
  rw [ServerSocket.write, bind_assoc, send_answered peer nonempty answer _ answers]
  cases answer with
  | accepted count =>
      dsimp only
      split
      case isTrue accepts =>
          split
          case isTrue partly => simp only [bind_assoc, pure_bind]
          case isFalse whole => simp only [pure_bind]
      case isFalse refused => rfl
  | failed errno => rfl
  | connected | received | closed | peeked | time | noTime | thrown | hangup => rfl

/-- `TimingSocket::write` that is given an answer. -/
theorem timingSocketWrite_answered
    (established : proxy.established = true)
    {data : List UInt8} (nonempty : data ≠ []) (answer : Answer kind)
    (following : Session kind α) :
    Answered answer proxy
      (do
        TimingSocket.write (derived kind) data
        following)
      (match answer with
        | .accepted count =>
            if Accepts data count then
              some (if count ≠ data.length then do
                  TimingSocket.write (derived kind) (data.drop count)
                  derived kind (data.drop count)
                  following
                else following,
                proxy.observing (.handed .server (data.take count)))
            else none
        | .failed errno =>
            some (throw (.exception (.runtimeError
              ("Unable to send data. Reason: " ++ strerror errno))), proxy)
        | _ => none) := by
  intro answers
  have ready : (proxy.facing (answer :: answers)).established = true := established
  rw [TimingSocket.write, bind_assoc, outcome_bind]
  change outcome ((if (proxy.facing (answer :: answers)).established = false then _
    else _) >>= _) _ = _
  rw [if_neg (by simp [ready]), bind_assoc, send_answered .server nonempty answer _ answers]
  cases answer with
  | accepted count =>
      dsimp only
      split
      case isTrue accepts =>
          split
          case isTrue partly => simp only [bind_assoc]
          case isFalse whole => simp only [pure_bind]
      case isFalse refused => rfl
  | failed errno => rfl
  | connected | received | closed | peeked | time | noTime | thrown | hangup => rfl

end Calls

/-! ## The stages -/

namespace Config

/-- What is left of the `try` block, and the proxy it goes on with. -/
def left (config : Config kind) : Session kind Bool × TimingProxy kind :=
  (config.stage.body, config.proxy)

variable {proxy : TimingProxy kind}

theorem readClient_answered (answer : Answer kind) :
    Answered answer proxy (Stage.body .readClient)
      ((readClient proxy answer).map left) := by
  intro answers
  cases answer with
  | received bytes =>
      have writing : Stage.body (.sendServer bytes []) =
          (do write bytes; Stage.afterInput : Session kind Bool) := by
        simp only [Stage.body, Stage.unwind, write, bind_assoc, pure_bind]
      have received := @recv_answered kind proxy .client BUFSIZE (.received bytes) answers
      rw [Stage.body, tryForwardInput, ServerSocket.read, bind_assoc, bind_assoc,
        outcome_bind, received, readClient]
      by_cases fits : bytes ≠ [] ∧ bytes.length ≤ BUFSIZE
      · simp only [if_pos fits, Rest.outcome, Option.map, left, writing]
        rfl
      · simp only [if_neg fits]
        rfl
  | closed => rfl
  | failed errno => rfl
  | connected | accepted | peeked | time | noTime | thrown | hangup => rfl

theorem sendServer_answered
    (established : proxy.established = true)
    {data : List UInt8} (nonempty : data ≠ [])
    (enclosing : List (List UInt8)) (answer : Answer kind) :
    Answered answer proxy (Stage.body (.sendServer data enclosing))
      ((sendServer proxy data enclosing answer).map left) := by
  intro answers
  rw [Stage.body, timingSocketWrite_answered established nonempty answer _ answers]
  cases answer with
  | accepted count =>
      dsimp only [sendServer]
      split
      case isTrue accepts =>
          split
          case isTrue partly =>
              simp only [Rest.outcome, Option.map, left, Stage.body, Stage.unwind,
                bind_assoc]
          case isFalse whole =>
              simp only [Rest.outcome, Option.map, left, Stage.body,
                TimingCall.rest_start]
      case isFalse refused => rfl
  | failed errno => rfl
  | connected | received | closed | peeked | time | noTime | thrown | hangup => rfl

/-- What is left when a `write` has returned. -/
theorem written_left
    (proxy : TimingProxy kind)
    (enclosing : List (List UInt8)) (answers : List (Answer kind)) :
    outcome (written proxy enclosing).stage.body
        ((written proxy enclosing).proxy.facing answers) =
      outcome (do Stage.unwind enclosing; Stage.afterInput) (proxy.facing answers) := by
  cases enclosing with
  | nil => rfl
  | cons data enclosing =>
      simp only [written, Stage.body, Stage.unwind, TimingCall.rest_start, bind_assoc]

theorem timing_answered
    (call : TimingCall kind) (data : List UInt8) (enclosing : List (List UInt8))
    (answer : Answer kind) :
    Answered answer proxy (Stage.body (.timing call data enclosing))
      ((timing data enclosing proxy call answer).map left) := by
  intro answers
  cases call with
  | writeTime =>
      cases answer with
      | time stamp => rfl
      | connected | received | closed | failed | accepted | peeked | noTime | thrown
      | hangup => rfl
  | peek =>
      cases answer with
      | peeked => rfl
      | closed => rfl
      | failed errno => rfl
      | connected | received | accepted | time | noTime | thrown | hangup => rfl
  | readTime =>
      cases answer with
      | time stamp => exact (written_left (proxy.stampedRx stamp) enclosing answers).symm
      | connected | received | closed | failed | accepted | peeked | noTime | thrown
      | hangup => rfl
  | search retries =>
      cases answer with
      | time stamp =>
          rw [show timing data enclosing proxy (.search retries) (.time stamp) =
            some (written (proxy.stampedTx stamp) enclosing) by cases retries <;> rfl]
          exact (written_left (proxy.stampedTx stamp) enclosing answers).symm
      | noTime =>
          cases retries with
          | zero => rfl
          | succ retries => rfl
      | thrown fault =>
          rw [show timing data enclosing proxy (.search retries) (.thrown fault) =
            some ⟨.raise fault, proxy⟩ by cases retries <;> rfl]
          simp only [Rest.outcome, Option.map, left, Stage.body_raise]
          rfl
      | connected | received | closed | failed | accepted | peeked | hangup =>
          cases retries <;> rfl
  | lookUp =>
      cases answer with
      | time stamp => exact (written_left (proxy.stampedTx stamp) enclosing answers).symm
      | connected | received | closed | failed | accepted | peeked | noTime | thrown
      | hangup => rfl

theorem tryForwardOutput_eq :
    (tryForwardOutput : Session kind Unit) =
      (do Stage.responding (← read kind BUFSIZE false)) := by
  apply congrArg (read kind BUFSIZE false >>= ·)
  funext received
  cases received with
  | data buf => rfl
  | closed => rfl
  | failed errno => rfl

/-- What is left when bytes have been received from the server. -/
theorem arrived_left (data : List UInt8) :
    (arrived data kind).body =
      (do
        Stage.responding (← Stage.stamping data kind)
        Stage.afterOutput : Session kind Bool) := by
  cases kind with
  | cpu =>
      simp only [arrived, Stage.body, Stage.stamping, Stage.responding, bind_assoc,
        pure_bind]
  | kernel => rfl
  | pcap => rfl

/-- `TimingSocket::read` that does not block. -/
theorem timingSocketRead_eq
    (established : proxy.established = true) (size : Nat) :
    outcome (TimingSocket.read size false) proxy =
      outcome (recv .server size : Session kind Received) proxy := by
  rw [TimingSocket.read]
  change outcome (if proxy.established = false then _ else recv .server size >>= _) proxy = _
  rw [if_neg (by simp [established]), outcome_bind]
  rcases outcome (recv .server size) proxy with ⟨received | stop, later⟩
  · rfl
  · cases stop <;> rfl

/-- What the virtual `read` does behind `recv`. -/
def received : (kind : KindOfSocket) → Received → Session kind Received
  | .cpu, result => pure result
  | .kernel, .data bytes => Stage.stamping bytes .kernel
  | .kernel, .closed => pure .closed
  | .kernel, .failed .again => pure (.failed .again)
  | .kernel, .failed .connectionReset =>
      throw (.exception (.runtimeError "Connection reset"))
  | .kernel, .failed (.other _) => throw (.exception .terminate)
  | .pcap, .data bytes => Stage.stamping bytes .pcap
  | .pcap, .closed => pure .closed
  | .pcap, .failed errno => pure (.failed errno)

theorem read_eq (established : proxy.established = true) :
    outcome (TimingProxy.read kind BUFSIZE false) proxy =
      outcome (do received kind (← recv .server BUFSIZE)) proxy := by
  cases kind with
  | cpu =>
      change outcome (TimingSocket.read BUFSIZE false) proxy = _
      rw [timingSocketRead_eq established, outcome_bind]
      rcases outcome (recv .server BUFSIZE) proxy with ⟨stop | result, later⟩
      · rfl
      · cases result <;> rfl
  | kernel =>
      apply congrArg (outcome · proxy)
      apply congrArg (recv .server BUFSIZE >>= ·)
      funext result
      cases result with
      | data bytes => rfl
      | closed => rfl
      | failed errno => cases errno <;> rfl
  | pcap =>
      change outcome (TimingSocket.read BUFSIZE false >>= _) proxy = _
      rw [outcome_bind, timingSocketRead_eq established, outcome_bind]
      rcases outcome (recv .server BUFSIZE) proxy with ⟨stop | result, later⟩
      · rfl
      · cases result <;> rfl

theorem readServer_answered
    (established : proxy.established = true) (answer : Answer kind) :
    Answered answer proxy (Stage.body .readServer)
      ((readServer proxy answer).map left) := by
  intro answers
  have readable : (proxy.facing (answer :: answers)).established = true := established
  have answered := (@recv_answered kind proxy .server BUFSIZE answer).bind
    (fun result => received kind result >>= fun received => do
      Stage.responding received
      Stage.afterOutput) answers
  rw [Stage.body, tryForwardOutput_eq, bind_assoc, outcome_bind, read_eq readable,
    ← outcome_bind, bind_assoc, answered]
  cases answer with
  | received bytes =>
      rw [readServer.eq_def]
      by_cases fits : bytes ≠ [] ∧ bytes.length ≤ BUFSIZE
      · simp only [if_pos fits, Rest.outcome, Option.map, left, arrived_left, pure_bind]
        cases kind <;> rfl
      · simp only [if_neg fits]
        rfl
  | closed => cases kind <;> rfl
  | failed errno => cases kind <;> cases errno <;> rfl
  | connected | accepted | peeked | time | noTime | thrown | hangup =>
      cases kind <;> rfl

theorem stampRead_answered
    (stamped : kind ≠ .cpu) (data : List UInt8) (answer : Answer kind) :
    Answered answer proxy (Stage.body (.stampRead data))
      ((stampRead data proxy answer).map left) := by
  intro answers
  have answering (proxy : TimingProxy kind) :
      outcome (Stage.responding (.data data) >>= fun _ => Stage.afterOutput) proxy =
        outcome (Stage.body (.sendClient data)) proxy := by
    simp only [Stage.responding, Stage.body, bind_assoc]
  cases kind with
  | cpu => exact absurd rfl stamped
  | kernel =>
      cases answer with
      | time stamp => exact answering ((proxy.stampedRx stamp).facing answers)
      | noTime => rfl
      | thrown fault => rfl
      | connected | received | closed | failed | accepted | peeked | hangup => rfl
  | pcap =>
      cases answer with
      | time stamp => exact answering ((proxy.stampedRx stamp).facing answers)
      | connected | received | closed | failed | accepted | peeked | noTime | thrown
      | hangup => rfl

/-- What `getLastMeasurement` returns or throws. -/
def concluding : Except Fault UInt64 → Session kind UInt64
  | .ok value => pure value
  | .error fault => throw (.exception fault)

/-- `getLastMeasurement` needs no answer. -/
theorem getLastMeasurement_eq (proxy : TimingProxy kind) (answers : List (Answer kind)) :
    outcome getLastMeasurement (proxy.facing answers) =
      ((kind.difference proxy.tstampPrecision proxy.txTimestamp
          proxy.rxTimestamp).mapError .exception,
        (measure proxy).proxy.facing answers) := by
  rw [getLastMeasurement, measure]
  change outcome (emit (.measured proxy.txTimestamp proxy.rxTimestamp
    (kind.difference proxy.tstampPrecision proxy.txTimestamp proxy.rxTimestamp)) >>=
      fun _ => concluding (kind.difference proxy.tstampPrecision proxy.txTimestamp
        proxy.rxTimestamp)) (proxy.facing answers) = _
  generalize kind.difference proxy.tstampPrecision proxy.txTimestamp proxy.rxTimestamp =
    result
  cases result with
  | ok value => rfl
  | error fault => rfl

/-- What is left when the response has been handed to the client. -/
theorem measure_left (proxy : TimingProxy kind) (answers : List (Answer kind)) :
    outcome (measure proxy).stage.body ((measure proxy).proxy.facing answers) =
      outcome (do Stage.reporting; Stage.afterOutput) (proxy.facing answers) := by
  rw [Stage.reporting, bind_assoc, outcome_bind, getLastMeasurement_eq, measure]
  generalize kind.difference proxy.tstampPrecision proxy.txTimestamp proxy.rxTimestamp =
    result
  cases result with
  | ok value =>
      simp only [report, Stage.body, Except.mapError, bind_assoc, pure_bind]
  | error fault =>
      simp only [report, Stage.body_raise]
      rfl

theorem sendClient_answered
    {data : List UInt8} (nonempty : data ≠ []) (answer : Answer kind) :
    Answered answer proxy (Stage.body (.sendClient data))
      ((sendClient proxy data answer).map left) := by
  intro answers
  rw [Stage.body, serverSocketWrite_answered .client nonempty answer _ answers]
  cases answer with
  | accepted count =>
      dsimp only [sendClient]
      by_cases accepts : Accepts data count
      · by_cases partly : count ≠ data.length
        · simp only [if_pos accepts, if_pos partly]
          rfl
        · simp only [if_pos accepts, if_neg partly]
          exact (measure_left (proxy.observing (.handed .client (data.take count)))
            answers).symm
      · simp only [if_neg accepts]
        rfl
  | failed errno => rfl
  | connected | received | closed | peeked | time | noTime | thrown | hangup => rfl

theorem sendControl_answered
    {data : List UInt8} (nonempty : data ≠ []) (answer : Answer kind) :
    Answered answer proxy (Stage.body (.sendControl data))
      ((sendControl proxy data answer).map left) := by
  intro answers
  rw [Stage.body, serverSocketWrite_answered .control nonempty answer _ answers]
  cases answer with
  | accepted count =>
      dsimp only [sendControl]
      by_cases accepts : Accepts data count
      · by_cases partly : count ≠ data.length
        · simp only [if_pos accepts, if_pos partly]
          rfl
        · simp only [if_pos accepts, if_neg partly]
          rfl
      · simp only [if_neg accepts]
        rfl
  | failed errno => rfl
  | connected | received | closed | peeked | time | noTime | thrown | hangup => rfl

end Config

end NetworkTiming
