import NetworkTiming.Socket.KernelTimingSocket
import NetworkTiming.TimingProxy.Relay
import NetworkTiming.TimingProxy.Rules
import NetworkTiming.TimingProxy.Shutdown

/-!
# Sessions with kernel timestamps

A session asks whether a message carries a timestamp; what `recvmsg` returns decides the
answer.  Bytes that come without ancillary data are taken from the connection, but the
session goes on as if there had been nothing to read, and they are missing in what the
client is sent.
-/

namespace NetworkTiming

open Interactive

namespace KernelTimingSocket

/-! ## The error queue -/

section ErrorQueue

variable {inetNtop : InetNtop} {socket : KernelTimingSocket} {data : List UInt8}
  {queue : Nat → RecvmsgResult DATA_BUF_SIZE}

/-- What a session sees of a retry of `getTxTimestamp`. -/
def retryAnswer
    (inetNtop : InetNtop) (socket : KernelTimingSocket) (data : List UInt8)
    (received : RecvmsgResult DATA_BUF_SIZE) : Answer .kernel :=
  match (retry inetNtop data received).result with
  | .ok true => .time (socket.tstampSource.select (timestampsOf received))
  | .ok false => .noTime
  | .error fault => .thrown fault

/-- What a session sees of some retries. -/
def retryAnswers
    (inetNtop : InetNtop) (socket : KernelTimingSocket) (data : List UInt8)
    (queue : Nat → RecvmsgResult DATA_BUF_SIZE) (retries index : Nat) :
    List (Answer .kernel) :=
  (List.range' index retries).map fun retry =>
    retryAnswer inetNtop socket data (queue retry)

/-- How the loop over the error queue ends. -/
theorem searchErrorQueue_ensures
    {proxy : TimingProxy .kernel} {rest : List (Answer .kernel)} {retries index : Nat}
    (device : proxy.device = socket.device)
    (answers : proxy.answers = retryAnswers inetNtop socket data queue retries index ++ rest) :
    Ensures
      (fun _ final => ∃ found,
        Retry.search (fun index => (retry inetNtop data (queue index)).result) retries index =
            .ok (some found) ∧
          final.txTimestamp = socket.tstampSource.select (timestampsOf (queue found)))
      (fun reason final => final.txTimestamp = proxy.txTimestamp ∧
        ((∃ fault, reason = .exception fault ∧
            Retry.search (fun index => (retry inetNtop data (queue index)).result)
              retries index = .error fault) ∨
          reason = .exception (.runtimeError
            ("Could not get TX timestamp from interface " ++ socket.device)) ∧
          Retry.search (fun index => (retry inetNtop data (queue index)).result)
            retries index = .ok none))
      (TimingProxy.KernelTimingSocket.searchErrorQueue retries) proxy := by
  induction retries generalizing index proxy with
  | zero =>
      refine ⟨rfl, Or.inr ⟨?_, rfl⟩⟩
      rw [← device]
  | succ retries inductionHypothesis =>
      have next : proxy.answers = retryAnswer inetNtop socket data (queue index) ::
          (retryAnswers inetNtop socket data queue retries (index + 1) ++ rest) := answers
      rw [TimingProxy.KernelTimingSocket.searchErrorQueue, ensures_bind,
        TimingProxy.ask_ensures next, retryAnswer, Retry.search]
      cases ended : (retry inetNtop data (queue index)).result with
      | error fault => exact ⟨rfl, Or.inl ⟨fault, rfl, rfl⟩⟩
      | ok hit =>
          cases hit with
          | true => exact ⟨index, rfl, rfl⟩
          | false => exact inductionHypothesis device rfl

/-- With these answers, the session ends `getTxTimestamp` as the socket does. -/
theorem getTxTimestamp_ensures
    {proxy : TimingProxy .kernel} {rest : List (Answer .kernel)}
    (device : proxy.device = socket.device)
    (answers : proxy.answers = retryAnswers inetNtop socket data queue
      TimingProxy.TIMESTAMPING_MESSAGE_MAX_RETRIES 0 ++ rest) :
    Ensures
      (fun _ final => getTxTimestamp inetNtop socket data queue =
        (.ok (), { socket with txTimestamp := final.txTimestamp }))
      (fun reason final => final.txTimestamp = proxy.txTimestamp ∧
        ∃ fault, reason = .exception fault ∧
          getTxTimestamp inetNtop socket data queue = (.error fault, socket))
      (TimingProxy.KernelTimingSocket.getTxTimestamp data) proxy := by
  apply (searchErrorQueue_ensures device answers).mono
  · rintro _ final ⟨found, searched, stored⟩
    rw [getTxTimestamp, findMessage, searched, stored]
  · rintro reason final ⟨kept, ⟨fault, raised, searched⟩ | ⟨raised, searched⟩⟩
    · refine ⟨kept, fault, raised, ?_⟩
      rw [getTxTimestamp, findMessage, searched]
    · refine ⟨kept, _, raised, ?_⟩
      rw [getTxTimestamp, findMessage, searched]

end ErrorQueue

/-! ## Reading -/

end KernelTimingSocket

/-- A message is complete and has no ancillary data. -/
def Message.Bare (message : Message size) : Prop :=
  message.truncated = false ∧ message.controlTruncated = false ∧ message.control = []

instance (message : Message size) : Decidable message.Bare :=
  inferInstanceAs (Decidable (_ ∧ _ ∧ _))

namespace KernelTimingSocket

section Reading

variable {socket : KernelTimingSocket} {message : Message size}

/-- What a session sees of the ancillary data of a message. -/
def stampAnswer (socket : KernelTimingSocket) (message : Message size) : Answer .kernel :=
  match message.timestamps with
  | some timestamps => .time (socket.tstampSource.select timestamps)
  | none => if message.Bare then .noTime else .thrown .terminate

/-- What a session sees of a message. -/
def readAnswers (socket : KernelTimingSocket) :
    RecvmsgResult size → List (Answer .kernel)
  | .failed errno => [.failed errno]
  | .received message =>
      if message.rc = 0 then [.closed]
      else [.received (message.dataBuf.toList.take message.rc), socket.stampAnswer message]

/-- A message with timestamps is complete, and they come first in its ancillary data. -/
theorem timestamps_eq_some_iff :
    message.timestamps = some timestamps ↔
      message.truncated = false ∧ message.controlTruncated = false ∧
        ∃ cmsg others, message.control = cmsg :: others ∧ cmsg.cmsgLevel = SOL_SOCKET ∧
          cmsg.cmsgType = SO_TIMESTAMPING ∧ cmsg.cmsgData = timestamps := by
  obtain ⟨rc, dataBuf, rc_le, truncated, controlTruncated, control⟩ := message
  rw [Message.timestamps]
  cases truncated <;> cases controlTruncated <;> rcases control with _ | ⟨cmsg, others⟩ <;> simp

theorem timestamps_of_bare (bare : message.Bare) : message.timestamps = none := by
  rw [Message.timestamps, bare.1, bare.2.1, bare.2.2]
  rfl

theorem read_of_closed (empty : message.rc = 0) :
    read socket size (.received message) = (.ok .closed, socket) := by
  rw [read, if_pos empty]

/-- Reading bytes with their timestamp. -/
theorem read_of_timestamps
    (nonempty : message.rc ≠ 0) (stamped : message.timestamps = some timestamps) :
    read socket size (.received message) =
      (.ok (.data (message.dataBuf.toList.take message.rc)), { socket with
        rxTimestamp := socket.tstampSource.select timestamps }) := by
  obtain ⟨whole, complete, cmsg, others, control, level, type, rfl⟩ :=
    timestamps_eq_some_iff.mp stamped
  simp [read, nonempty, whole, complete, control, level, type]

/-- Reading bytes without ancillary data. -/
theorem read_of_bare (nonempty : message.rc ≠ 0) (bare : message.Bare) :
    read socket size (.received message) = (.ok (.failed .again), socket) := by
  obtain ⟨whole, complete, control⟩ := bare
  simp [read, nonempty, whole, complete, control]

/-- Reading bytes with other ancillary data. -/
theorem read_of_unstamped
    (nonempty : message.rc ≠ 0) (unstamped : message.timestamps = none)
    (attended : ¬message.Bare) :
    read socket size (.received message) = (.error .terminate, socket) := by
  obtain ⟨rc, dataBuf, rc_le, truncated, controlTruncated, control⟩ := message
  rw [Message.timestamps] at unstamped
  rw [Message.Bare] at attended
  rw [read, if_neg nonempty]
  cases truncated with
  | true => rfl
  | false =>
      cases controlTruncated with
      | true => rfl
      | false =>
          cases control with
          | nil => exact absurd ⟨rfl, rfl, rfl⟩ attended
          | cons cmsg others =>
              by_cases level : cmsg.cmsgLevel = SOL_SOCKET
              · by_cases type : cmsg.cmsgType = SO_TIMESTAMPING
                · simp [level, type] at unstamped
                · simp [level, type]
              · simp [level]

/-- Some bytes are delivered, and not more than there is room for. -/
theorem delivered_of_nonempty (nonempty : message.rc ≠ 0) :
    message.dataBuf.toList.take message.rc ≠ [] ∧
      (message.dataBuf.toList.take message.rc).length ≤ size := by
  have length : (message.dataBuf.toList.take message.rc).length = message.rc := by
    rw [List.length_take, Vector.length_toList, Nat.min_eq_left message.rc_le]
  constructor
  · apply List.ne_nil_of_length_pos
    rw [length]
    exact Nat.pos_of_ne_zero nonempty
  · rw [length]
    exact message.rc_le

/-- With these answers, the session reads as the socket does. -/
theorem read_ensures
    {proxy : TimingProxy .kernel} {rest : List (Answer .kernel)}
    {received : RecvmsgResult size}
    (rx : proxy.rxTimestamp = socket.rxTimestamp)
    (answers : proxy.answers = socket.readAnswers received ++ rest) :
    Ensures
      (fun value final => read socket size received =
        (.ok value, { socket with rxTimestamp := final.rxTimestamp }))
      (fun reason _ => ∃ fault, reason = .exception fault ∧
        read socket size received = (.error fault, socket))
      (TimingProxy.KernelTimingSocket.read size) proxy := by
  rw [TimingProxy.KernelTimingSocket.read, TimingProxy.recv, ensures_bind, ensures_bind]
  have unchanged (result : Except Fault TimingProxy.Received)
      (same : read socket size received = (result, socket)) :
      read socket size received =
        (result, { socket with rxTimestamp := proxy.rxTimestamp }) := by
    rw [rx]
    exact same
  cases received with
  | failed errno =>
      rw [TimingProxy.ask_ensures answers]
      cases errno with
      | again => exact unchanged _ rfl
      | connectionReset => exact ⟨_, rfl, rfl⟩
      | other description => exact ⟨_, rfl, rfl⟩
  | received message =>
      rw [readAnswers] at answers
      by_cases empty : message.rc = 0
      · rw [if_pos empty] at answers
        rw [TimingProxy.ask_ensures answers]
        exact unchanged _ (read_of_closed empty)
      · rw [if_neg empty] at answers
        rw [TimingProxy.ask_ensures answers]
        simp only [if_pos (delivered_of_nonempty empty)]
        change Ensures _ _ (TimingProxy.ask >>= _) _
        rw [ensures_bind, TimingProxy.ask_ensures rfl, stampAnswer]
        cases stamped : message.timestamps with
        | some timestamps => exact read_of_timestamps empty stamped
        | none =>
            by_cases bare : message.Bare
            · rw [if_pos bare]
              exact unchanged _ (read_of_bare empty bare)
            · rw [if_neg bare]
              exact ⟨_, rfl, read_of_unstamped empty stamped bare⟩

end Reading

end KernelTimingSocket

/-! ## Bytes on their way -/

/-- The session still passes bytes on. -/
def Stage.isRelaying : Stage kind → Bool
  | .poll (some _) _ | .ended | .raised _ => false
  | _ => true

section Observing

variable {kind : KindOfSocket}

theorem bytesTo_observing (peer : Peer) (proxy : TimingProxy kind) (event : Event kind) :
    bytesTo peer (proxy.observing event).log = bytesTo peer proxy.log ++ event.bytesTo peer :=
  bytesTo_concat peer proxy.log event

theorem bytesFrom_observing (peer : Peer) (proxy : TimingProxy kind) (event : Event kind) :
    bytesFrom peer (proxy.observing event).log =
      bytesFrom peer proxy.log ++ event.bytesFrom peer :=
  bytesFrom_concat peer proxy.log event

end Observing

namespace Config

/-- The client has been sent what the kernel has delivered, in order and without gaps; only
at the end of the session its last bytes may be missing. -/
structure Exact (config : Config .kernel) : Prop where
  ordered : bytesTo .client config.proxy.log ++ config.stage.unforwarded <+:
    bytesFrom .server config.proxy.log
  complete : config.stage.isRelaying = true →
    bytesTo .client config.proxy.log ++ config.stage.unforwarded =
      bytesFrom .server config.proxy.log

/-- `KernelTimingSocket::read` reports that there is nothing to read, although bytes have
been received. -/
def DropsBytes (config : Config .kernel) (answer : Answer .kernel) : Prop :=
  ∃ data, config.stage = .stampRead data ∧ answer = .noTime

theorem isRelaying_raise (fault : Fault) :
    (Stage.raise fault : Stage kind).isRelaying = false := by
  cases fault <;> rfl

variable {config next : Config .kernel}

/-- A step that leaves what is on its way. -/
theorem Exact.same
    (agrees : config.Exact)
    (toClient : bytesTo .client next.proxy.log ++ next.stage.unforwarded =
      bytesTo .client config.proxy.log ++ config.stage.unforwarded)
    (fromServer : bytesFrom .server next.proxy.log = bytesFrom .server config.proxy.log)
    (relaying : next.stage.isRelaying = true → config.stage.isRelaying = true) :
    next.Exact := by
  refine ⟨?_, fun goesOn => ?_⟩
  · rw [toClient, fromServer]
    exact agrees.ordered
  · rw [toClient, fromServer]
    exact agrees.complete (relaying goesOn)

/-- A step that observes something else than these bytes. -/
theorem Exact.observe
    {event : Event .kernel}
    (agrees : config.Exact)
    (proxy : next.proxy.log = (config.proxy.observing event).log)
    (silent : event.bytesTo .client = [] ∧ event.bytesFrom .server = [])
    (unforwarded : next.stage.unforwarded = config.stage.unforwarded)
    (relaying : config.stage.isRelaying = true) :
    next.Exact := by
  apply agrees.same
  · rw [proxy, bytesTo_observing, silent.1, List.append_nil, unforwarded]
  · rw [proxy, bytesFrom_observing, silent.2, List.append_nil]
  · exact fun _ => relaying

/-- Bytes are received from the server. -/
theorem Exact.receive
    {proxy : TimingProxy .kernel}
    (agrees : Exact ⟨.readServer, proxy⟩) (bytes : List UInt8) :
    Exact ⟨.stampRead bytes, proxy.observing (.received .server bytes)⟩ := by
  have before : bytesTo .client proxy.log ++ [] = bytesFrom .server proxy.log :=
    agrees.complete rfl
  have behind : bytesTo .client (proxy.observing (.received .server bytes)).log ++ bytes =
      bytesFrom .server (proxy.observing (.received .server bytes)).log := by
    rw [bytesTo_observing, bytesFrom_observing, ← before]
    rfl
  exact ⟨behind ▸ List.prefix_refl _, fun _ => behind⟩

/-- Bytes are handed to the client. -/
theorem Exact.hand
    {proxy : TimingProxy .kernel} {data : List UInt8}
    (agrees : Exact ⟨.sendClient data, proxy⟩) (count : Nat) :
    Exact ⟨.sendClient (data.drop count),
      proxy.observing (.handed .client (data.take count))⟩ := by
  apply agrees.same
  · rw [bytesTo_observing, List.append_assoc]
    exact congrArg (bytesTo .client proxy.log ++ ·) (List.take_append_drop count data)
  · rw [bytesFrom_observing]
    exact List.append_nil _
  · exact fun _ => rfl

/-- A `write` to the server returns. -/
theorem Exact.writeReturns
    {proxy : TimingProxy .kernel} {call : TimingCall .kernel} {data : List UInt8}
    {enclosing : List (List UInt8)}
    (agrees : Exact ⟨.timing call data enclosing, proxy⟩) :
    Exact (written proxy enclosing) := by
  cases enclosing with
  | nil => exact agrees.observe rfl ⟨rfl, rfl⟩ rfl rfl
  | cons data enclosing => exact agrees.same rfl rfl fun _ => rfl

/-- A step that ends the session, whatever is on its way. -/
theorem Exact.leave
    (agrees : config.Exact)
    (proxy : next.proxy = config.proxy)
    (unforwarded : next.stage.unforwarded = [])
    (leaves : next.stage.isRelaying = false) :
    next.Exact := by
  refine ⟨?_, fun goesOn => ?_⟩
  · rw [proxy, unforwarded, List.append_nil]
    exact (List.prefix_append _ _).trans agrees.ordered
  · rw [leaves] at goesOn
    cases goesOn

/-- Every step that drops no bytes keeps the client's bytes in step with the server's. -/
theorem Exact.step
    {answer : Answer .kernel}
    (agrees : config.Exact) (keeps : ¬config.DropsBytes answer)
    (moves : Moves config answer next) :
    next.Exact := by
  cases moves with
  | unstamped => exact absurd ⟨_, rfl, rfl⟩ keeps
  | misstamped | forwardingFailed | clientClosed | sendingFailed | searchExhausted
  | serverClosed | serverReset | readingFailed | reportingFailed | pollingFailed | hungUp
  | caught => exact agrees.leave rfl rfl rfl
  | searchFailed => exact agrees.leave rfl (Network.unforwarded_raise _) (isRelaying_raise _)
  | @responded _ _ bytes nonempty fits => exact agrees.receive bytes
  | @partForwarded _ _ data count accepts rest => exact agrees.hand count
  | @allForwarded _ _ data =>
      have handed := agrees.hand data.length
      rw [List.drop_length, List.take_length] at handed
      exact handed.observe rfl ⟨rfl, rfl⟩ (Network.unforwarded_measure _) rfl
  | @messageFound proxy data enclosing retries stamp =>
      have stamped : Exact ⟨.timing (.search retries) data enclosing, proxy.stampedTx stamp⟩ :=
        agrees.observe rfl ⟨rfl, rfl⟩ rfl rfl
      exact stamped.writeReturns
  | @clientThere _ _ reason | @controlThere _ _ reason =>
      cases reason with
      | none => exact agrees.same rfl rfl fun _ => rfl
      | some what => exact agrees.same rfl rfl id
  | searchedOn => exact agrees.same rfl rfl fun _ => rfl
  | @allReported _ proxy data =>
      have reported : Exact ⟨.sendControl [], proxy.observing (.handed .control data)⟩ :=
        agrees.observe rfl ⟨rfl, rfl⟩ rfl rfl
      exact reported.observe rfl ⟨rfl, rfl⟩ rfl rfl
  | received | nothingReceived | partSent | allSent | partReported | noResponse
  | readStamped | serverThere => exact agrees.observe rfl ⟨rfl, rfl⟩ rfl rfl

end Config

/-! ## Sessions -/

namespace KernelTimingSocket

/-- What happens in a session: the socket has called `recvmsg` to read, or another call
has returned. -/
inductive Input
  | recvmsg (received : RecvmsgResult TimingProxy.BUFSIZE)
  | call (answer : Answer .kernel)

/-- What leads from a stage of the session to the next one; reading is one step. -/
def step (socket : KernelTimingSocket) (config : Config .kernel) : Input → Option (Config .kernel)
  | .recvmsg received =>
      match config.stage with
      | .readServer => Machine.run Config.step config (socket.readAnswers received)
      | _ => none
  | .call answer =>
      match config.stage with
      | .readServer | .stampRead _ => none
      | _ => config.step answer

/-- The beginning of a session. -/
def start (proxy : TimingProxy .kernel) : Config .kernel :=
  ⟨.readClient, { proxy with log := [] }⟩

/-- Bytes are received without ancillary data. -/
def ArrivesBare : RecvmsgResult size → Prop
  | .received message => message.rc ≠ 0 ∧ message.Bare
  | .failed _ => False

/-- What is received is returned or ends in an exception, and the client is sent exactly
these bytes. -/
structure PassesOn
    (socket : KernelTimingSocket) (proxy : TimingProxy .kernel) (inputs : List Input) : Prop where
  reads : ∀ message, .recvmsg (.received message) ∈ inputs → message.rc ≠ 0 →
    ∀ earlier : KernelTimingSocket,
      (∃ later, read earlier TimingProxy.BUFSIZE (.received message) =
        (.ok (.data (message.dataBuf.toList.take message.rc)), later)) ∨
      ∃ fault, read earlier TimingProxy.BUFSIZE (.received message) = (.error fault, earlier)
  forwards : ∀ before config, before <+: inputs →
    Machine.run socket.step (start proxy) before = some config → config.Exact

variable {socket : KernelTimingSocket} {proxy : TimingProxy .kernel} {inputs : List Input}

/-- The session is told that there is no timestamp only where bytes come without ancillary
data. -/
theorem arrivesBare_of_noTime
    {received : RecvmsgResult size}
    (answered : .noTime ∈ socket.readAnswers received) : ArrivesBare received := by
  cases received with
  | failed errno => simp [readAnswers] at answered
  | received message =>
      rw [readAnswers] at answered
      by_cases empty : message.rc = 0
      · simp [empty] at answered
      · refine ⟨empty, ?_⟩
        rw [if_neg empty, stampAnswer] at answered
        cases stamped : message.timestamps with
        | some timestamps => simp [stamped] at answered
        | none =>
            by_contra attended
            simp [stamped, attended] at answered

/-- A session goes on with exactly what has been received, as long as no bytes come without
ancillary data. -/
theorem step_exact
    {config next : Config .kernel} {input : Input}
    (agrees : config.Exact)
    (keeps : ∀ received, input = .recvmsg received → ¬ArrivesBare received)
    (stepped : socket.step config input = some next) :
    next.Exact := by
  obtain ⟨stage, proxy⟩ := config
  cases input with
  | recvmsg received =>
      cases stage with
      | readServer =>
          apply Machine.run_invariant_along agrees _ _ stepped
          · exact fun config answer => ¬config.DropsBytes answer
          · intro config answer next agrees keeps stepped
            exact agrees.step keeps (Config.moves_of_step stepped)
          · rintro history answer config isPrefix _ ⟨data, _, rfl⟩
            apply keeps received rfl
            exact arrivesBare_of_noTime (isPrefix.subset (List.mem_concat_self ..))
      | _ => cases stepped
  | call answer =>
      have elsewhere : ¬Config.DropsBytes ⟨stage, proxy⟩ answer := by
        rintro ⟨data, rfl, _⟩
        cases stepped
      cases stage with
      | readServer | stampRead => cases stepped
      | _ => exact agrees.step elsewhere (Config.moves_of_step stepped)

/-- Bytes without ancillary data are missing in what the client is sent. -/
theorem not_exact_of_arrivesBare
    {config next : Config .kernel} {received : RecvmsgResult TimingProxy.BUFSIZE}
    (agrees : config.Exact) (bare : ArrivesBare received)
    (stepped : socket.step config (.recvmsg received) = some next) :
    ¬next.Exact := by
  obtain ⟨stage, proxy⟩ := config
  cases received with
  | failed errno => exact bare.elim
  | received message =>
      obtain ⟨nonempty, bare⟩ := bare
      cases stage with
      | readServer =>
          have before : bytesTo .client proxy.log ++ [] = bytesFrom .server proxy.log :=
            agrees.complete rfl
          change Machine.run _ _ (readAnswers _ _) = _ at stepped
          rw [readAnswers, if_neg nonempty, stampAnswer, timestamps_of_bare bare,
            Machine.run_cons, Config.step, Config.readServer,
            if_pos (delivered_of_nonempty nonempty)] at stepped
          simp only [if_pos bare] at stepped
          cases stepped
          intro later
          have gap := later.complete rfl
          change bytesTo .client ((proxy.observing _).observing .outputForwarded).log ++ [] =
            bytesFrom .server ((proxy.observing _).observing .outputForwarded).log at gap
          rw [bytesTo_observing, bytesTo_observing, bytesFrom_observing, bytesFrom_observing,
            ← before] at gap
          have nothing : message.dataBuf.toList.take message.rc = [] := by
            simpa [Event.bytesTo, Event.bytesFrom] using gap
          exact (delivered_of_nonempty nonempty).1 nothing
      | _ => cases stepped

/-- As long as no bytes come without ancillary data, the client is sent exactly what has
been received. -/
theorem exact_of_run
    {config : Config .kernel}
    (attended : ∀ received, .recvmsg received ∈ inputs → ¬ArrivesBare received)
    (reached : Machine.run socket.step (start proxy) inputs = some config) :
    config.Exact := by
  apply Machine.run_invariant_along _ _ _ reached
  · exact fun _ input => ∀ received, input = .recvmsg received → ¬ArrivesBare received
  · exact ⟨List.prefix_refl _, fun _ => rfl⟩
  · exact fun _ _ _ agrees keeps stepped => step_exact agrees keeps stepped
  · rintro history _ config isPrefix _ received rfl
    exact attended received (isPrefix.subset (List.mem_concat_self ..))

/-- At each of its stages, a session has sent the client what has been received exactly if
no bytes have come without ancillary data. -/
theorem run_exact_iff
    {final : Config .kernel}
    (reached : Machine.run socket.step (start proxy) inputs = some final) :
    (∀ before config, before <+: inputs →
        Machine.run socket.step (start proxy) before = some config → config.Exact) ↔
      ∀ received, .recvmsg received ∈ inputs → ¬ArrivesBare received := by
  constructor
  · intro agrees received member bare
    obtain ⟨history, rest, rfl⟩ := List.append_of_mem member
    rw [List.append_cons] at agrees reached
    obtain ⟨next, passed⟩ := Machine.run_prefix (List.prefix_append _ rest) reached
    obtain ⟨config, before, stepped⟩ := Machine.run_concat_eq_some.mp passed
    have earlier : history <+: history ++ [.recvmsg received] ++ rest :=
      (List.prefix_append _ _).trans (List.prefix_append _ _)
    exact not_exact_of_arrivesBare (agrees history config earlier before) bare stepped
      (agrees _ next (List.prefix_append _ rest) passed)
  · intro attended before config isPrefix
    exact exact_of_run fun received member => attended received (isPrefix.subset member)

/-- Everything that is received is passed on exactly if no bytes come without ancillary
data. -/
theorem passesOn_iff
    (socket : KernelTimingSocket) (proxy : TimingProxy .kernel) (inputs : List Input) :
    PassesOn socket proxy inputs ↔
      ∀ received, .recvmsg received ∈ inputs → ¬ArrivesBare received := by
  constructor
  · rintro passes (message | errno) member bare
    · rcases passes.reads message member bare.1 socket with ⟨later, same⟩ | ⟨fault, same⟩
      · cases (read_of_bare bare.1 bare.2).symm.trans same
      · cases (read_of_bare bare.1 bare.2).symm.trans same
    · exact bare
  · intro attended
    refine ⟨?_, ?_⟩
    · intro message member nonempty earlier
      cases stamped : message.timestamps with
      | some timestamps => exact Or.inl ⟨_, read_of_timestamps nonempty stamped⟩
      | none =>
          exact Or.inr ⟨_, read_of_unstamped nonempty stamped fun bare =>
            attended _ member ⟨nonempty, bare⟩⟩
    · intro before config isPrefix
      exact exact_of_run fun received member => attended received (isPrefix.subset member)

/-- A message of one byte without ancillary data. -/
def bareByte : Message TimingProxy.BUFSIZE where
  rc := 1
  dataBuf := Vector.replicate TimingProxy.BUFSIZE 65
  rc_le := by decide
  truncated := false
  controlTruncated := false
  control := []

/-- The byte is missing in what the client is sent. -/
theorem not_passesOn_bareByte :
    ¬∀ (socket : KernelTimingSocket) (proxy : TimingProxy .kernel) (inputs : List Input),
      PassesOn socket proxy inputs := by
  intro passes
  let socket : KernelTimingSocket := ⟨.software, "eth0", ⟨0, 0⟩, ⟨0, 0⟩⟩
  let proxy : TimingProxy .kernel := ⟨[], true, "eth0", 0, ⟨0, 0⟩, ⟨0, 0⟩, []⟩
  have agrees := (passes socket proxy
    [.call (.failed .again), .recvmsg (.received bareByte)]).forwards
  have reached : ∃ final, Machine.run socket.step (start proxy)
      [.call (.failed .again), .recvmsg (.received bareByte)] = some final := ⟨_, rfl⟩
  obtain ⟨final, reached⟩ := reached
  have bare : ArrivesBare (.received bareByte) := ⟨by decide, rfl, rfl, rfl⟩
  exact (run_exact_iff reached).mp agrees (.received bareByte) (by simp) bare

end KernelTimingSocket

end NetworkTiming
