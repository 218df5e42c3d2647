import NetworkTiming.Library.Machine
import NetworkTiming.TimingProxy.TimingProxy

/-!
# Stages of a session

The session loop as a machine.  A stage is a call that the loop waits for, together
with the calls that are to return behind it; the answer of the environment leads to
the next stage.  Interleavings with the programs at the other ends of the
connections are runs of this machine.
-/

namespace NetworkTiming

/-- What the timing code of a technique waits for. -/
inductive TimingCall : KindOfSocket → Type
  /-- `CPUTimingSocket::write` takes `write_tstamp`. -/
  | writeTime : TimingCall .cpu
  /-- It waits for the response. -/
  | peek : TimingCall .cpu
  /-- It takes `read_tstamp`. -/
  | readTime : TimingCall .cpu
  /-- A retry of `getTxTimestamp`, with the number of retries behind it. -/
  | search (retries : Nat) : TimingCall .kernel
  /-- `timingForPacket`. -/
  | lookUp : TimingCall .pcap
  deriving DecidableEq

/-- The first call of the timing code. -/
def TimingCall.start : (kind : KindOfSocket) → TimingCall kind
  | .cpu => .writeTime
  | .kernel => .search (TimingProxy.TIMESTAMPING_MESSAGE_MAX_RETRIES - 1)
  | .pcap => .lookUp

/-- What the session loop waits for. -/
inductive Stage (kind : KindOfSocket)
  /-- `recv` in `tryForwardInput`. -/
  | readClient
  /-- `send` to the server.  The `write` of each enclosing buffer, the innermost
  first, has sent a part of it and called the virtual `write` for the rest. -/
  | sendServer (data : List UInt8) (enclosing : List (List UInt8))
  /-- The timing code behind sending `data`. -/
  | timing (call : TimingCall kind) (data : List UInt8)
      (enclosing : List (List UInt8))
  /-- `recv` in `tryForwardOutput`. -/
  | readServer
  /-- The timestamp of a read. -/
  | stampRead (data : List UInt8)
  /-- `send` to the client. -/
  | sendClient (data : List UInt8)
  /-- `send` to the control connection. -/
  | sendControl (data : List UInt8)
  /-- `socketPeerClosed` of a connection, behind the `try` block; `reason` is the
  text of the exception that has been caught. -/
  | poll (reason : Option String) (peer : Peer)
  /-- The session loop has ended. -/
  | ended
  /-- An exception has left the session loop. -/
  | raised (fault : Fault)
  deriving DecidableEq

/-- The session loop and what it has observed. -/
structure Config (kind : KindOfSocket) where
  stage : Stage kind
  proxy : TimingProxy kind

namespace TimingProxy

variable {kind : KindOfSocket}

/-- The proxy behind an event. -/
def observing (proxy : TimingProxy kind) (event : Event kind) : TimingProxy kind :=
  { proxy with log := proxy.log ++ [event] }

/-- The proxy behind recording the time of a write. -/
def stampedTx (proxy : TimingProxy kind) (stamp : kind.Stamp) : TimingProxy kind :=
  { proxy with txTimestamp := stamp }.observing (.sentAt stamp)

/-- The proxy behind recording the time of a read. -/
def stampedRx (proxy : TimingProxy kind) (stamp : kind.Stamp) : TimingProxy kind :=
  { proxy with rxTimestamp := stamp }.observing (.receivedAt stamp)

/-- A number of bytes that `send` can return. -/
def Accepts (data : List UInt8) (count : Nat) : Prop :=
  count ≤ data.length ∧ (data ≠ [] → 1 ≤ count)

instance (data : List UInt8) (count : Nat) : Decidable (Accepts data count) :=
  inferInstanceAs (Decidable (_ ∧ _))

end TimingProxy

namespace Stage

variable {kind : KindOfSocket}

/-- What an exception in the `try` block leads to. -/
def raise : Fault → Stage kind
  | .runtimeError what => .poll (some what) .client
  | fault => .raised fault

/-- An exception has left the session loop. -/
def isRaised : Stage kind → Bool
  | .raised _ => true
  | _ => false

end Stage

namespace Config

open TimingProxy

section Answers

variable {kind : KindOfSocket} (proxy : TimingProxy kind)

/-- An answer of `recv` in `tryForwardInput`. -/
def readClient : Answer kind → Option (Config kind)
  | .received bytes =>
      if bytes ≠ [] ∧ bytes.length ≤ BUFSIZE then
        some ⟨.sendServer bytes [], proxy.observing (.received .client bytes)⟩
      else none
  | .closed => some ⟨.raise (.runtimeError "Proxy input closed connection"), proxy⟩
  | .failed _ => some ⟨.readServer, proxy.observing .inputForwarded⟩
  | _ => none

/-- An answer of `send` to the server.  A part that is accepted leads into a nested
`write` of the rest. -/
def sendServer (data : List UInt8) (enclosing : List (List UInt8)) :
    Answer kind → Option (Config kind)
  | .accepted count =>
      if Accepts data count then
        some ⟨if count ≠ data.length then
            .sendServer (data.drop count) (data :: enclosing)
          else .timing (.start kind) data enclosing,
          proxy.observing (.handed .server (data.take count))⟩
      else none
  | .failed errno =>
      some ⟨.raise (.runtimeError ("Unable to send data. Reason: " ++ strerror errno)),
        proxy⟩
  | _ => none

/-- A `write` has returned, into the `write` of the enclosing buffer or into
`tryForwardInput`. -/
def written : List (List UInt8) → Config kind
  | [] => ⟨.readServer, proxy.observing .inputForwarded⟩
  | data :: enclosing => ⟨.timing (.start kind) data enclosing, proxy⟩

/-- An answer to a call of the timing code. -/
def timing (data : List UInt8) (enclosing : List (List UInt8)) :
    {kind : KindOfSocket} → TimingProxy kind → TimingCall kind → Answer kind →
      Option (Config kind)
  | _, proxy, .writeTime, .time stamp =>
      some ⟨.timing .peek data enclosing, proxy.stampedTx stamp⟩
  -- what the peeking call returns is not looked at
  | _, proxy, .peek, .peeked => some ⟨.timing .readTime data enclosing, proxy⟩
  | _, proxy, .peek, .closed => some ⟨.timing .readTime data enclosing, proxy⟩
  | _, proxy, .peek, .failed _ => some ⟨.timing .readTime data enclosing, proxy⟩
  | _, proxy, .readTime, .time stamp =>
      some (written (proxy.stampedRx stamp) enclosing)
  | _, proxy, .search _, .time stamp =>
      some (written (proxy.stampedTx stamp) enclosing)
  | _, proxy, .search 0, .noTime =>
      some ⟨.raise (.runtimeError
        ("Could not get TX timestamp from interface " ++ proxy.device)), proxy⟩
  | _, proxy, .search (retries + 1), .noTime =>
      some ⟨.timing (.search retries) data enclosing, proxy⟩
  | _, proxy, .search _, .thrown fault => some ⟨.raise fault, proxy⟩
  | _, proxy, .lookUp, .time stamp =>
      some (written (proxy.stampedTx stamp) enclosing)
  | _, _, _, _ => none

/-- `tryForwardOutput` has returned. -/
def outputForwarded : Config kind :=
  ⟨.poll none .client, proxy.observing .outputForwarded⟩

/-- What follows when bytes have been received from the server. -/
def arrived (data : List UInt8) : (kind : KindOfSocket) → Stage kind
  | .cpu => .sendClient data
  | .kernel | .pcap => .stampRead data

/-- What a failure of `recv` in `tryForwardOutput` leads to. -/
def unread : {kind : KindOfSocket} → TimingProxy kind → Errno → Config kind
  | .cpu, proxy, _ | .pcap, proxy, _ => outputForwarded proxy
  | .kernel, proxy, .again => outputForwarded proxy
  | .kernel, proxy, .connectionReset =>
      ⟨.raise (.runtimeError "Connection reset"), proxy⟩
  | .kernel, proxy, .other _ => ⟨.raise .terminate, proxy⟩

/-- An answer of `recv` in `tryForwardOutput`. -/
def readServer : Answer kind → Option (Config kind)
  | .received bytes =>
      if bytes ≠ [] ∧ bytes.length ≤ BUFSIZE then
        some ⟨arrived bytes kind, proxy.observing (.received .server bytes)⟩
      else none
  | .closed => some ⟨.raise (.runtimeError "Proxy output closed connection"), proxy⟩
  | .failed errno => some (unread proxy errno)
  | _ => none

/-- The timestamp of a read. -/
def stampRead (data : List UInt8) : {kind : KindOfSocket} → TimingProxy kind →
    Answer kind → Option (Config kind)
  | .kernel, proxy, .time stamp => some ⟨.sendClient data, proxy.stampedRx stamp⟩
  -- without ancillary data, the call returns -1 although bytes were received
  | .kernel, proxy, .noTime => some (outputForwarded proxy)
  | .kernel, proxy, .thrown _ => some ⟨.raise .terminate, proxy⟩
  | .pcap, proxy, .time stamp => some ⟨.sendClient data, proxy.stampedRx stamp⟩
  | _, _, _ => none

/-- What follows what `getLastMeasurement` returns. -/
def report : Except Fault UInt64 → Stage kind
  | .ok value => .sendControl (networkByteOrder value)
  | .error fault => .raise fault

/-- `getLastMeasurement`. -/
def measure : Config kind :=
  let result := kind.difference proxy.tstampPrecision proxy.txTimestamp
    proxy.rxTimestamp
  ⟨report result,
    proxy.observing (.measured proxy.txTimestamp proxy.rxTimestamp result)⟩

/-- An answer of `send` to the client. -/
def sendClient (data : List UInt8) : Answer kind → Option (Config kind)
  | .accepted count =>
      if Accepts data count then
        some (if count ≠ data.length then
            ⟨.sendClient (data.drop count),
              proxy.observing (.handed .client (data.take count))⟩
          else measure (proxy.observing (.handed .client (data.take count))))
      else none
  | .failed errno =>
      some ⟨.raise (.runtimeError ("Unable to send data. Reason: " ++ strerror errno)),
        proxy⟩
  | _ => none

/-- An answer of `send` to the control connection. -/
def sendControl (data : List UInt8) : Answer kind → Option (Config kind)
  | .accepted count =>
      if Accepts data count then
        some (if count ≠ data.length then
            ⟨.sendControl (data.drop count),
              proxy.observing (.handed .control (data.take count))⟩
          else outputForwarded (proxy.observing (.handed .control (data.take count))))
      else none
  | .failed errno =>
      some ⟨.raise (.runtimeError ("Unable to send data. Reason: " ++ strerror errno)),
        proxy⟩
  | _ => none

/-- An answer of `socketPeerClosed`.  The connections are polled in turn, until one
of them has been shut down. -/
def poll (reason : Option String) : Peer → Answer kind → Option (Config kind)
  | _, .hangup true => some ⟨.ended, proxy⟩
  | .client, .hangup false => some ⟨.poll reason .control, proxy⟩
  | .control, .hangup false => some ⟨.poll reason .server, proxy⟩
  | .server, .hangup false =>
      match reason with
      | none => some ⟨.readClient, proxy.observing .iterationEnded⟩
      | some _ => some ⟨.ended, proxy⟩
  | _, .failed _ => some ⟨.raise .terminate, proxy⟩
  | _, _ => none

end Answers

/-- What an answer of the environment leads to. -/
def step {kind : KindOfSocket}
    (config : Config kind) (answer : Answer kind) : Option (Config kind) :=
  match config.stage with
  | .readClient => readClient config.proxy answer
  | .sendServer data enclosing => sendServer config.proxy data enclosing answer
  | .timing call data enclosing => timing data enclosing config.proxy call answer
  | .readServer => readServer config.proxy answer
  | .stampRead data => stampRead data config.proxy answer
  | .sendClient data => sendClient config.proxy data answer
  | .sendControl data => sendControl config.proxy data answer
  | .poll reason peer => poll config.proxy reason peer answer
  | .ended | .raised _ => none

/-! ## What a step can do -/

/-- The steps of the machine, one by one. -/
inductive Moves : {kind : KindOfSocket} → Config kind → Answer kind → Config kind → Prop
  /-- `tryForwardInput` has received bytes. -/
  | received {kind} {proxy : TimingProxy kind} {bytes : List UInt8}
      (nonempty : bytes ≠ []) (fits : bytes.length ≤ BUFSIZE) :
      Moves ⟨.readClient, proxy⟩ (.received bytes)
        ⟨.sendServer bytes [], proxy.observing (.received .client bytes)⟩
  /-- `tryForwardInput` has found the end of the stream. -/
  | clientClosed {kind} {proxy : TimingProxy kind} :
      Moves ⟨.readClient, proxy⟩ .closed
        ⟨.raise (.runtimeError "Proxy input closed connection"), proxy⟩
  /-- `tryForwardInput` has received nothing. -/
  | nothingReceived {kind} {proxy : TimingProxy kind} {errno : Errno} :
      Moves ⟨.readClient, proxy⟩ (.failed errno)
        ⟨.readServer, proxy.observing .inputForwarded⟩
  /-- `send` to the server has accepted a part. -/
  | partSent {kind} {proxy : TimingProxy kind} {data : List UInt8}
      {enclosing : List (List UInt8)} {count : Nat}
      (accepts : Accepts data count) (rest : count < data.length) :
      Moves ⟨.sendServer data enclosing, proxy⟩ (.accepted count)
        ⟨.sendServer (data.drop count) (data :: enclosing),
          proxy.observing (.handed .server (data.take count))⟩
  /-- `send` to the server has accepted everything. -/
  | allSent {kind} {proxy : TimingProxy kind} {data : List UInt8}
      {enclosing : List (List UInt8)} :
      Moves ⟨.sendServer data enclosing, proxy⟩ (.accepted data.length)
        ⟨.timing (.start kind) data enclosing, proxy.observing (.handed .server data)⟩
  /-- `send` to the server has failed. -/
  | sendingFailed {kind} {proxy : TimingProxy kind} {data : List UInt8}
      {enclosing : List (List UInt8)} {errno : Errno} :
      Moves ⟨.sendServer data enclosing, proxy⟩ (.failed errno)
        ⟨.raise (.runtimeError ("Unable to send data. Reason: " ++ strerror errno)), proxy⟩
  /-- `write_tstamp` has been taken. -/
  | writeTime {proxy : TimingProxy .cpu} {data : List UInt8}
      {enclosing : List (List UInt8)} {stamp : UInt64} :
      Moves ⟨.timing .writeTime data enclosing, proxy⟩ (.time stamp)
        ⟨.timing .peek data enclosing, proxy.stampedTx stamp⟩
  /-- The peeking call has returned. -/
  | peeked {proxy : TimingProxy .cpu} {data : List UInt8}
      {enclosing : List (List UInt8)} {answer : Answer .cpu}
      (returns : answer = .peeked ∨ answer = .closed ∨ ∃ errno, answer = .failed errno) :
      Moves ⟨.timing .peek data enclosing, proxy⟩ answer
        ⟨.timing .readTime data enclosing, proxy⟩
  /-- `read_tstamp` has been taken. -/
  | readTime {proxy : TimingProxy .cpu} {data : List UInt8}
      {enclosing : List (List UInt8)} {stamp : UInt64} :
      Moves ⟨.timing .readTime data enclosing, proxy⟩ (.time stamp)
        (written (proxy.stampedRx stamp) enclosing)
  /-- `getTxTimestamp` has found the message. -/
  | messageFound {proxy : TimingProxy .kernel} {data : List UInt8}
      {enclosing : List (List UInt8)} {retries : Nat} {stamp : Timespec} :
      Moves ⟨.timing (.search retries) data enclosing, proxy⟩ (.time stamp)
        (written (proxy.stampedTx stamp) enclosing)
  /-- `getTxTimestamp` goes on searching. -/
  | searchedOn {proxy : TimingProxy .kernel} {data : List UInt8}
      {enclosing : List (List UInt8)} {retries : Nat} :
      Moves ⟨.timing (.search (retries + 1)) data enclosing, proxy⟩ .noTime
        ⟨.timing (.search retries) data enclosing, proxy⟩
  /-- `getTxTimestamp` has given up. -/
  | searchExhausted {proxy : TimingProxy .kernel} {data : List UInt8}
      {enclosing : List (List UInt8)} :
      Moves ⟨.timing (.search 0) data enclosing, proxy⟩ .noTime
        ⟨.raise (.runtimeError
          ("Could not get TX timestamp from interface " ++ proxy.device)), proxy⟩
  /-- `getTxTimestamp` has thrown. -/
  | searchFailed {proxy : TimingProxy .kernel} {data : List UInt8}
      {enclosing : List (List UInt8)} {retries : Nat} {fault : Fault} :
      Moves ⟨.timing (.search retries) data enclosing, proxy⟩ (.thrown fault)
        ⟨.raise fault, proxy⟩
  /-- `timingForPacket` has returned. -/
  | lookedUp {proxy : TimingProxy .pcap} {data : List UInt8}
      {enclosing : List (List UInt8)} {stamp : Timeval} :
      Moves ⟨.timing .lookUp data enclosing, proxy⟩ (.time stamp)
        (written (proxy.stampedTx stamp) enclosing)
  /-- `tryForwardOutput` has received bytes. -/
  | responded {kind} {proxy : TimingProxy kind} {bytes : List UInt8}
      (nonempty : bytes ≠ []) (fits : bytes.length ≤ BUFSIZE) :
      Moves ⟨.readServer, proxy⟩ (.received bytes)
        ⟨arrived bytes kind, proxy.observing (.received .server bytes)⟩
  /-- `tryForwardOutput` has found the end of the stream. -/
  | serverClosed {kind} {proxy : TimingProxy kind} :
      Moves ⟨.readServer, proxy⟩ .closed
        ⟨.raise (.runtimeError "Proxy output closed connection"), proxy⟩
  /-- `tryForwardOutput` has received nothing. -/
  | noResponse {kind} {proxy : TimingProxy kind} {errno : Errno}
      (quiet : kind = .kernel → errno = .again) :
      Moves ⟨.readServer, proxy⟩ (.failed errno) (outputForwarded proxy)
  /-- `KernelTimingSocket::read` has found the connection reset. -/
  | serverReset {proxy : TimingProxy .kernel} :
      Moves ⟨.readServer, proxy⟩ (.failed .connectionReset)
        ⟨.raise (.runtimeError "Connection reset"), proxy⟩
  /-- `KernelTimingSocket::read` has failed. -/
  | readingFailed {proxy : TimingProxy .kernel} {description : String} :
      Moves ⟨.readServer, proxy⟩ (.failed (.other description)) ⟨.raise .terminate, proxy⟩
  /-- A read has been stamped. -/
  | readStamped {kind} {proxy : TimingProxy kind} {data : List UInt8}
      {stamp : kind.Stamp} (stamped : kind ≠ .cpu) :
      Moves ⟨.stampRead data, proxy⟩ (.time stamp)
        ⟨.sendClient data, proxy.stampedRx stamp⟩
  /-- `KernelTimingSocket::read` has found no ancillary data. -/
  | unstamped {proxy : TimingProxy .kernel} {data : List UInt8} :
      Moves ⟨.stampRead data, proxy⟩ .noTime (outputForwarded proxy)
  /-- `KernelTimingSocket::read` has found other ancillary data. -/
  | misstamped {proxy : TimingProxy .kernel} {data : List UInt8} {fault : Fault} :
      Moves ⟨.stampRead data, proxy⟩ (.thrown fault) ⟨.raise .terminate, proxy⟩
  /-- `send` to the client has accepted a part. -/
  | partForwarded {kind} {proxy : TimingProxy kind} {data : List UInt8} {count : Nat}
      (accepts : Accepts data count) (rest : count < data.length) :
      Moves ⟨.sendClient data, proxy⟩ (.accepted count)
        ⟨.sendClient (data.drop count), proxy.observing (.handed .client (data.take count))⟩
  /-- `send` to the client has accepted everything. -/
  | allForwarded {kind} {proxy : TimingProxy kind} {data : List UInt8} :
      Moves ⟨.sendClient data, proxy⟩ (.accepted data.length)
        (measure (proxy.observing (.handed .client data)))
  /-- `send` to the client has failed. -/
  | forwardingFailed {kind} {proxy : TimingProxy kind} {data : List UInt8}
      {errno : Errno} :
      Moves ⟨.sendClient data, proxy⟩ (.failed errno)
        ⟨.raise (.runtimeError ("Unable to send data. Reason: " ++ strerror errno)), proxy⟩
  /-- `send` to the control connection has accepted a part. -/
  | partReported {kind} {proxy : TimingProxy kind} {data : List UInt8} {count : Nat}
      (accepts : Accepts data count) (rest : count < data.length) :
      Moves ⟨.sendControl data, proxy⟩ (.accepted count)
        ⟨.sendControl (data.drop count),
          proxy.observing (.handed .control (data.take count))⟩
  /-- `send` to the control connection has accepted everything. -/
  | allReported {kind} {proxy : TimingProxy kind} {data : List UInt8} :
      Moves ⟨.sendControl data, proxy⟩ (.accepted data.length)
        (outputForwarded (proxy.observing (.handed .control data)))
  /-- `send` to the control connection has failed. -/
  | reportingFailed {kind} {proxy : TimingProxy kind} {data : List UInt8}
      {errno : Errno} :
      Moves ⟨.sendControl data, proxy⟩ (.failed errno)
        ⟨.raise (.runtimeError ("Unable to send data. Reason: " ++ strerror errno)), proxy⟩
  /-- A connection has been shut down by its peer. -/
  | hungUp {kind} {proxy : TimingProxy kind} {reason : Option String} {peer : Peer} :
      Moves ⟨.poll reason peer, proxy⟩ (.hangup true) ⟨.ended, proxy⟩
  /-- The control connection is polled behind that of the client. -/
  | clientThere {kind} {proxy : TimingProxy kind} {reason : Option String} :
      Moves ⟨.poll reason .client, proxy⟩ (.hangup false) ⟨.poll reason .control, proxy⟩
  /-- The connection to the server is polled behind the control connection. -/
  | controlThere {kind} {proxy : TimingProxy kind} {reason : Option String} :
      Moves ⟨.poll reason .control, proxy⟩ (.hangup false) ⟨.poll reason .server, proxy⟩
  /-- Another iteration starts. -/
  | serverThere {kind} {proxy : TimingProxy kind} :
      Moves ⟨.poll none .server, proxy⟩ (.hangup false)
        ⟨.readClient, proxy.observing .iterationEnded⟩
  /-- The session ends because of an exception that has been caught. -/
  | caught {kind} {proxy : TimingProxy kind} {what : String} :
      Moves ⟨.poll (some what) .server, proxy⟩ (.hangup false) ⟨.ended, proxy⟩
  /-- `epoll_wait` has failed. -/
  | pollingFailed {kind} {proxy : TimingProxy kind} {reason : Option String}
      {peer : Peer} {errno : Errno} :
      Moves ⟨.poll reason peer, proxy⟩ (.failed errno) ⟨.raise .terminate, proxy⟩

variable {kind : KindOfSocket} {proxy : TimingProxy kind} {answer : Answer kind}
  {next : Config kind}

/-- What `send` accepts is a part or everything. -/
theorem accepted_cases
    {α : Type} (goOn : α → Config kind) {part whole : α}
    {data : List UInt8} {count : Nat}
    (stepped : (if Accepts data count then
        some (goOn (if count ≠ data.length then part else whole))
      else none) = some next) :
    Accepts data count ∧ count < data.length ∧ goOn part = next ∨
      count = data.length ∧ goOn whole = next := by
  rw [Option.ite_none_right_eq_some] at stepped
  obtain ⟨accepts, stepped⟩ := stepped
  rcases accepts.1.lt_or_eq with rest | same
  · rw [if_pos rest.ne] at stepped
    exact .inl ⟨accepts, rest, Option.some.inj stepped⟩
  · rw [if_neg (not_not.mpr same)] at stepped
    exact .inr ⟨same, Option.some.inj stepped⟩

theorem moves_of_readClient (stepped : readClient proxy answer = some next) :
    Moves ⟨.readClient, proxy⟩ answer next := by
  cases answer with
  | received bytes =>
      rw [readClient, Option.ite_none_right_eq_some] at stepped
      obtain ⟨⟨nonempty, fits⟩, stepped⟩ := stepped
      cases stepped
      exact .received nonempty fits
  | closed =>
      cases stepped
      exact .clientClosed
  | failed errno =>
      cases stepped
      exact .nothingReceived
  | connected | accepted | peeked | time | noTime | thrown | hangup => cases stepped

theorem moves_of_sendServer
    {data : List UInt8} {enclosing : List (List UInt8)}
    (stepped : sendServer proxy data enclosing answer = some next) :
    Moves ⟨.sendServer data enclosing, proxy⟩ answer next := by
  cases answer with
  | accepted count =>
      rcases accepted_cases (fun stage => ⟨stage, _⟩) stepped with ⟨accepts, rest, rfl⟩ | ⟨rfl, rfl⟩
      · exact .partSent accepts rest
      · rw [List.take_length]
        exact .allSent
  | failed errno =>
      cases stepped
      exact .sendingFailed
  | connected | received | closed | peeked | time | noTime | thrown | hangup =>
      cases stepped

theorem moves_of_timing
    {call : TimingCall kind} {data : List UInt8} {enclosing : List (List UInt8)}
    (stepped : timing data enclosing proxy call answer = some next) :
    Moves ⟨.timing call data enclosing, proxy⟩ answer next := by
  cases call with
  | writeTime =>
      cases answer <;> cases stepped
      exact .writeTime
  | peek =>
      cases answer <;> cases stepped
      · exact .peeked (.inr (.inl rfl))
      · exact .peeked (.inr (.inr ⟨_, rfl⟩))
      · exact .peeked (.inl rfl)
  | readTime =>
      cases answer <;> cases stepped
      exact .readTime
  | search retries =>
      cases retries with
      | zero =>
          cases answer <;> cases stepped
          · exact .messageFound
          · exact .searchExhausted
          · exact .searchFailed
      | succ retries =>
          cases answer <;> cases stepped
          · exact .messageFound
          · exact .searchedOn
          · exact .searchFailed
  | lookUp =>
      cases answer <;> cases stepped
      exact .lookedUp

theorem moves_of_readServer (stepped : readServer proxy answer = some next) :
    Moves ⟨.readServer, proxy⟩ answer next := by
  cases answer with
  | received bytes =>
      rw [readServer, Option.ite_none_right_eq_some] at stepped
      obtain ⟨⟨nonempty, fits⟩, stepped⟩ := stepped
      cases stepped
      exact .responded nonempty fits
  | closed =>
      cases stepped
      exact .serverClosed
  | failed errno =>
      cases stepped
      cases kind with
      | cpu | pcap => exact .noResponse (by simp)
      | kernel =>
          cases errno with
          | again => exact .noResponse fun _ => rfl
          | connectionReset => exact .serverReset
          | other description => exact .readingFailed
  | connected | accepted | peeked | time | noTime | thrown | hangup => cases stepped

theorem moves_of_stampRead
    {data : List UInt8} (stepped : stampRead data proxy answer = some next) :
    Moves ⟨.stampRead data, proxy⟩ answer next := by
  cases kind with
  | cpu => cases stepped
  | kernel =>
      cases answer <;> cases stepped
      · exact .readStamped (by simp)
      · exact .unstamped
      · exact .misstamped
  | pcap =>
      cases answer <;> cases stepped
      exact .readStamped (by simp)

theorem moves_of_sendClient
    {data : List UInt8} (stepped : sendClient proxy data answer = some next) :
    Moves ⟨.sendClient data, proxy⟩ answer next := by
  cases answer with
  | accepted count =>
      rcases accepted_cases id stepped with ⟨accepts, rest, rfl⟩ | ⟨rfl, rfl⟩
      · exact .partForwarded accepts rest
      · rw [List.take_length]
        exact .allForwarded
  | failed errno =>
      cases stepped
      exact .forwardingFailed
  | connected | received | closed | peeked | time | noTime | thrown | hangup =>
      cases stepped

theorem moves_of_sendControl
    {data : List UInt8} (stepped : sendControl proxy data answer = some next) :
    Moves ⟨.sendControl data, proxy⟩ answer next := by
  cases answer with
  | accepted count =>
      rcases accepted_cases id stepped with ⟨accepts, rest, rfl⟩ | ⟨rfl, rfl⟩
      · exact .partReported accepts rest
      · rw [List.take_length]
        exact .allReported
  | failed errno =>
      cases stepped
      exact .reportingFailed
  | connected | received | closed | peeked | time | noTime | thrown | hangup =>
      cases stepped

theorem moves_of_poll
    {reason : Option String} {peer : Peer}
    (stepped : poll proxy reason peer answer = some next) :
    Moves ⟨.poll reason peer, proxy⟩ answer next := by
  cases answer with
  | hangup closed =>
      cases closed with
      | true =>
          cases peer <;> cases stepped <;> exact .hungUp
      | false =>
          cases peer with
          | client =>
              cases stepped
              exact .clientThere
          | control =>
              cases stepped
              exact .controlThere
          | server =>
              cases reason with
              | none =>
                  cases stepped
                  exact .serverThere
              | some what =>
                  cases stepped
                  exact .caught
  | failed errno =>
      cases peer <;> cases stepped <;> exact .pollingFailed
  | connected | received | closed | accepted | peeked | time | noTime | thrown =>
      cases peer <;> cases stepped

/-- The step function takes no step but these. -/
theorem moves_of_step {config : Config kind} (stepped : step config answer = some next) :
    Moves config answer next := by
  obtain ⟨stage, proxy⟩ := config
  cases stage with
  | readClient => exact moves_of_readClient stepped
  | sendServer => exact moves_of_sendServer stepped
  | timing => exact moves_of_timing stepped
  | readServer => exact moves_of_readServer stepped
  | stampRead => exact moves_of_stampRead stepped
  | sendClient => exact moves_of_sendClient stepped
  | sendControl => exact moves_of_sendControl stepped
  | poll => exact moves_of_poll stepped
  | ended | raised => cases stepped

theorem accepts_length (data : List UInt8) : Accepts data data.length :=
  ⟨Nat.le_refl _, List.length_pos_iff.mpr⟩

/-- The step function takes all these steps. -/
theorem step_of_moves (moves : Moves config answer next) : step config answer = some next := by
  cases moves with
  | received nonempty fits => exact if_pos ⟨nonempty, fits⟩
  | responded nonempty fits => exact if_pos ⟨nonempty, fits⟩
  | partSent accepts rest => simp [step, sendServer, accepts, rest.ne]
  | partForwarded accepts rest => simp [step, sendClient, accepts, rest.ne]
  | partReported accepts rest => simp [step, sendControl, accepts, rest.ne]
  | @allSent _ _ data => simp [step, sendServer, accepts_length data]
  | @allForwarded _ _ data => simp [step, sendClient, accepts_length data]
  | @allReported _ _ data => simp [step, sendControl, accepts_length data]
  | peeked returns => rcases returns with rfl | rfl | ⟨errno, rfl⟩ <;> rfl
  | @noResponse _ _ errno quiet =>
      cases kind with
      | cpu | pcap => rfl
      | kernel =>
          cases quiet rfl
          rfl
  | readStamped stamped =>
      cases kind with
      | cpu => exact absurd rfl stamped
      | kernel | pcap => rfl
  | @hungUp _ _ _ peer | @pollingFailed _ _ _ peer => cases peer <;> rfl
  | clientClosed | nothingReceived | sendingFailed | writeTime | readTime | messageFound
  | searchedOn | searchExhausted | searchFailed | lookedUp | serverClosed | serverReset
  | readingFailed | unstamped | misstamped | forwardingFailed | reportingFailed
  | clientThere | controlThere | serverThere | caught => rfl

end Config

end NetworkTiming
