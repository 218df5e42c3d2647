import NetworkTiming.Library.BigEndian
import NetworkTiming.Library.Interactive
import NetworkTiming.PcapWrapper.PcapLoopCallback

/-!
# The proxy

The proxy passes bytes between a client and a server and reports, for each
response, the time that has passed since the last request.  It is an interactive
program: whatever the operating system, the network and the capture thread decide
is an answer of its environment.  What an observer can see is logged.
-/

namespace NetworkTiming

/-! ## Timestamps -/

/-- `struct timespec` of the C library on a 64-bit host. -/
structure Timespec where
  tvSec : Int64
  tvNsec : Int64
  deriving DecidableEq, Repr

/-- Nanoseconds from `before` to `after`. -/
def timespecDiff (after before : Timespec) : Except Fault UInt64 :=
  if after.tvSec < before.tvSec ∨
      after.tvSec = before.tvSec ∧ after.tvNsec < before.tvNsec then
    .error .terminate
  else
    let secDiff := (after.tvSec - before.tvSec).toUInt64
    if after.tvNsec < before.tvNsec then
      .ok ((secDiff - 1) * 1000000000 +
        (after.tvNsec + 1000000000 - before.tvNsec).toUInt64)
    else
      .ok (secDiff * 1000000000 + (after.tvNsec - before.tvNsec).toUInt64)

/-- Techniques of measuring times. -/
inductive KindOfSocket
  | cpu
  | kernel
  | pcap
  deriving DecidableEq, Repr

namespace KindOfSocket

/-- The timestamps that a technique takes. -/
@[reducible] def Stamp : KindOfSocket → Type
  | .cpu => UInt64
  | .kernel => Timespec
  | .pcap => Timeval

instance : (kind : KindOfSocket) → DecidableEq kind.Stamp
  | .cpu => inferInstanceAs (DecidableEq UInt64)
  | .kernel => inferInstanceAs (DecidableEq Timespec)
  | .pcap => inferInstanceAs (DecidableEq Timeval)

/-- The time between the timestamps of a write and a read. -/
def difference (tstampPrecision : Int) :
    (kind : KindOfSocket) → (tx rx : kind.Stamp) → Except Fault UInt64
  | .cpu, tx, rx => .ok (rx - tx)
  | .kernel, tx, rx => timespecDiff rx tx
  | .pcap, tx, rx => timevalDeltaToNs tstampPrecision tx rx

end KindOfSocket

/-! ## The environment -/

/-- Errors that system calls report. -/
inductive Errno
  | again
  | connectionReset
  | other (description : String)
  deriving DecidableEq, Repr

/-- Texts of errors. -/
def strerror : Errno → String
  | .again => "Resource temporarily unavailable"
  | .connectionReset => "Connection reset by peer"
  | .other description => description

/-- The programs at the other ends of the connections. -/
inductive Peer
  | client
  | server
  | control
  deriving DecidableEq, Repr

/-- What the environment answers when the proxy asks. -/
inductive Answer (kind : KindOfSocket)
  /-- The connections of a session are set up. -/
  | connected
  /-- A receiving call delivers some bytes. -/
  | received (bytes : List UInt8)
  /-- A receiving call reports the end of the stream. -/
  | closed
  /-- A system call fails. -/
  | failed (errno : Errno)
  /-- A sending call accepts some bytes. -/
  | accepted (count : Nat)
  /-- There is something to peek at. -/
  | peeked
  /-- A clock is read, a search returns, or a message carries a timestamp. -/
  | time (stamp : kind.Stamp)
  /-- A message carries no timestamp, or not the one asked for. -/
  | noTime
  /-- A library call throws. -/
  | thrown (fault : Fault)
  /-- Whether a connection has been shut down by its peer. -/
  | hangup (closed : Bool)

/-- What can be observed of a session. -/
inductive Event (kind : KindOfSocket)
  /-- A session starts. -/
  | connected
  /-- Bytes were received from a peer. -/
  | received (peer : Peer) (bytes : List UInt8)
  /-- Bytes were handed to a connection. -/
  | handed (peer : Peer) (bytes : List UInt8)
  /-- A write to the server has recorded its time. -/
  | sentAt (stamp : kind.Stamp)
  /-- A read from the server has recorded its time. -/
  | receivedAt (stamp : kind.Stamp)
  /-- `getLastMeasurement` has looked at two timestamps. -/
  | measured (tx rx : kind.Stamp) (result : Except Fault UInt64)
  /-- `tryForwardInput` has returned. -/
  | inputForwarded
  /-- `tryForwardOutput` has returned. -/
  | outputForwarded
  /-- An iteration of the session loop has ended, and another one follows. -/
  | iterationEnded
  deriving DecidableEq

/-- Why the observation of the proxy ends. -/
inductive Stop
  /-- The environment gives no further answer, or one that it cannot give. -/
  | waiting
  /-- The loop goes on behind the iterations looked at. -/
  | running
  /-- An exception. -/
  | exception (fault : Fault)

/-- The proxy and its environment. -/
structure TimingProxy (kind : KindOfSocket) where
  /-- Answers that have not been given. -/
  answers : List (Answer kind)
  /-- Whether `proxy_output` is in `SOCKSTATE_ESTABLISHED`. -/
  established : Bool
  /-- The network interface of `proxy_output`. -/
  device : String
  /-- Precision of the capture device of `proxy_output`. -/
  tstampPrecision : Int
  /-- The timestamp of the last write. -/
  txTimestamp : kind.Stamp
  /-- The timestamp of the last read. -/
  rxTimestamp : kind.Stamp
  /-- Everything observed, oldest first. -/
  log : List (Event kind)

/-- Programs of the proxy. -/
abbrev Session (kind : KindOfSocket) := Interactive (TimingProxy kind) Stop

namespace TimingProxy

variable {kind : KindOfSocket}

/-- Ask the environment. -/
def ask : Session kind (Answer kind) := do
  let proxy ← get
  match proxy.answers with
  | [] => throw .waiting
  | answer :: answers => do
      set { proxy with answers := answers }
      pure answer

/-- Log an event. -/
def emit (event : Event kind) : Session kind Unit :=
  modify fun proxy => { proxy with log := proxy.log ++ [event] }

/-- Record the time of a write. -/
def recordTx (stamp : kind.Stamp) : Session kind Unit := do
  modify fun proxy => { proxy with txTimestamp := stamp }
  emit (.sentAt stamp)

/-- Record the time of a read. -/
def recordRx (stamp : kind.Stamp) : Session kind Unit := do
  modify fun proxy => { proxy with rxTimestamp := stamp }
  emit (.receivedAt stamp)

/-- The time that a clock or a search yields. -/
def time : Session kind kind.Stamp := do
  match ← ask with
  | .time stamp => pure stamp
  | _ => throw .waiting

/-- What a receiving call returns. -/
inductive Received
  | data (bytes : List UInt8)
  | closed
  | failed (errno : Errno)

/-- `recv` into a buffer of some size. -/
def recv (peer : Peer) (size : Nat) : Session kind Received := do
  match ← ask with
  | .received bytes =>
      if bytes ≠ [] ∧ bytes.length ≤ size then do
        emit (.received peer bytes)
        pure (.data bytes)
      else throw .waiting
  | .closed => pure .closed
  | .failed errno => pure (.failed errno)
  | _ => throw .waiting

/-- Numbers of bytes that a sending call can accept. -/
abbrev Count (size : Nat) := { count : Nat // 1 ≤ count ∧ count ≤ size }

/-- `send`. -/
def send (peer : Peer) (data : List UInt8) :
    Session kind (Except Errno (Count data.length)) := do
  match ← ask with
  | .accepted count =>
      if possible : 1 ≤ count ∧ count ≤ data.length then do
        emit (.handed peer (data.take count))
        pure (.ok ⟨count, possible⟩)
      else throw .waiting
  | .failed errno => pure (.error errno)
  | _ => throw .waiting

/-! ## `ServerSocket` -/

/-- `ServerSocket::read`. -/
def ServerSocket.read (peer : Peer) (size : Nat) (blocking : Bool) :
    Session kind Received := do
  match ← recv peer size with
  | .failed errno =>
      if blocking then
        throw (.exception (.runtimeError
          ("Unable to recieve data. Reason: " ++ strerror errno)))
      else pure (.failed errno)
  | received => pure received

/-- `ServerSocket::write`; it returns what the first `send` accepted. -/
def ServerSocket.write (peer : Peer) (data : List UInt8) : Session kind Nat := do
  match ← send peer data with
  | .error errno =>
      throw (.exception (.runtimeError
        ("Unable to send data. Reason: " ++ strerror errno)))
  | .ok count =>
      if count.val ≠ data.length then do
        let _rest ← ServerSocket.write peer (data.drop count)
        pure count.val
      else pure count.val
termination_by data.length
decreasing_by
  rw [List.length_drop]
  have := count.property
  omega

/-! ## `TimingSocket` -/

/-- `TimingSocket::write`.  The nested call is virtual, so that what the derived
class does behind it happens for the rest of a partial `send`, too. -/
def TimingSocket.write
    (derived : List UInt8 → Session kind Unit)
    (data : List UInt8) : Session kind Unit := do
  let proxy ← get
  if proxy.established = false then
    throw (.exception (.runtimeError "Socket is not ready for sending"))
  else
    match ← send .server data with
    | .error errno =>
        throw (.exception (.runtimeError
          ("Unable to send data. Reason: " ++ strerror errno)))
    | .ok count =>
        if count.val ≠ data.length then do
          TimingSocket.write derived (data.drop count)
          derived (data.drop count)
        else pure ()
termination_by data.length
decreasing_by
  rw [List.length_drop]
  have := count.property
  omega

/-- `TimingSocket::read`. -/
def TimingSocket.read (size : Nat) (blocking : Bool) : Session kind Received := do
  let proxy ← get
  if proxy.established = false then
    throw (.exception (.runtimeError "Socket is not ready for recieving"))
  else
    match ← recv .server size with
    | .failed errno =>
        if blocking then
          throw (.exception (.runtimeError
            ("Unable to recieve data. Reason: " ++ strerror errno)))
        else pure (.failed errno)
    | received => pure received

/-- What `CPUTimingSocket::write` does behind sending: it takes the time, waits
for the response, and takes the time again. -/
def CPUTimingSocket.takeTimes (_data : List UInt8) : Session .cpu Unit := do
  recordTx (← time)
  match ← ask with
  -- what the peeking call returns is not looked at
  | .peeked | .closed | .failed _ => pure ()
  | _ => throw .waiting
  recordRx (← time)

/-- `TIMESTAMPING_MESSAGE_MAX_RETRIES`. -/
def TIMESTAMPING_MESSAGE_MAX_RETRIES : Nat := 1000

/-- The loop of `KernelTimingSocket::getTxTimestamp`.  A retry either finds the
message with the bytes that were sent or goes on; decoding a message may throw. -/
def KernelTimingSocket.searchErrorQueue : (retries : Nat) → Session .kernel Unit
  | 0 => do
      let proxy ← get
      throw (.exception (.runtimeError
        ("Could not get TX timestamp from interface " ++ proxy.device)))
  | retries + 1 => do
      match ← ask with
      | .time stamp => recordTx stamp
      | .noTime => searchErrorQueue retries
      | .thrown fault => throw (.exception fault)
      | _ => throw .waiting

/-- `KernelTimingSocket::getTxTimestamp`. -/
def KernelTimingSocket.getTxTimestamp (_data : List UInt8) : Session .kernel Unit :=
  KernelTimingSocket.searchErrorQueue TIMESTAMPING_MESSAGE_MAX_RETRIES

/-- `KernelTimingSocket::read`. -/
def KernelTimingSocket.read (size : Nat) : Session .kernel Received := do
  match ← recv .server size with
  | .data bytes =>
      match ← ask with
      | .time stamp => do
          recordRx stamp
          pure (.data bytes)
      -- without ancillary data, the call returns -1 although bytes were received
      | .noTime => pure (.failed .again)
      -- a truncated message, or ancillary data of another kind
      | .thrown _ => throw (.exception .terminate)
      | _ => throw .waiting
  | .closed => pure .closed
  | .failed .again => pure (.failed .again)
  | .failed .connectionReset =>
      throw (.exception (.runtimeError "Connection reset"))
  | .failed (.other _) => throw (.exception .terminate)

/-- What `PCAPTimingSocket::write` does behind sending: it looks up the packet. -/
def PCAPTimingSocket.lookUp (_data : List UInt8) : Session .pcap Unit := do
  recordTx (← time)

/-- `PCAPTimingSocket::read`. -/
def PCAPTimingSocket.read (size : Nat) (blocking : Bool) :
    Session .pcap Received := do
  match ← TimingSocket.read size blocking with
  | .data bytes => do
      recordRx (← time)
      pure (.data bytes)
  | received => pure received

/-- What the `write` of a derived class does behind sending. -/
def derived : (kind : KindOfSocket) → List UInt8 → Session kind Unit
  | .cpu => CPUTimingSocket.takeTimes
  | .kernel => KernelTimingSocket.getTxTimestamp
  | .pcap => PCAPTimingSocket.lookUp

/-- The virtual `write` of `proxy_output`. -/
def write (data : List UInt8) : Session kind Unit := do
  TimingSocket.write (derived kind) data
  derived kind data

/-- The virtual `read` of `proxy_output`. -/
def read : (kind : KindOfSocket) → (size : Nat) → (blocking : Bool) →
    Session kind Received
  | .cpu, size, blocking => TimingSocket.read size blocking
  | .kernel, size, _ => KernelTimingSocket.read size
  | .pcap, size, blocking => PCAPTimingSocket.read size blocking

/-- The virtual `getLastMeasurement` of `proxy_output`. -/
def getLastMeasurement : Session kind UInt64 := do
  let proxy ← get
  let result := kind.difference proxy.tstampPrecision proxy.txTimestamp
    proxy.rxTimestamp
  emit (.measured proxy.txTimestamp proxy.rxTimestamp result)
  match result with
  | .ok value => pure value
  | .error fault => throw (.exception fault)

/-! ## `TimingProxy` -/

/-- `BUFSIZE`. -/
def BUFSIZE : Nat := 2500

/-- `TimingProxy::tryForwardInput`. -/
def tryForwardInput : Session kind Unit := do
  match ← ServerSocket.read .client BUFSIZE false with
  | .data buf => write buf
  | .closed =>
      throw (.exception (.runtimeError "Proxy input closed connection"))
  | .failed _ => pure ()

/-- The bytes of a number in network order, as `native_to_big` leaves them. -/
def networkByteOrder (value : UInt64) : List UInt8 :=
  BigEndian.encode 8 value.toNat

/-- `TimingProxy::tryForwardOutput`. -/
def tryForwardOutput : Session kind Unit := do
  match ← read kind BUFSIZE false with
  | .data buf => do
      let _sent ← ServerSocket.write .client buf
      let value ← getLastMeasurement
      let _reported ← ServerSocket.write .control (networkByteOrder value)
      pure ()
  | .closed =>
      throw (.exception (.runtimeError "Proxy output closed connection"))
  | .failed _ => pure ()

/-- The `try` block of the session loop; it yields `connection_established`. -/
def forward : Session kind Bool :=
  tryCatch
    (do
      tryForwardInput
      emit .inputForwarded
      tryForwardOutput
      emit .outputForwarded
      pure true)
    fun stop =>
      match stop with
      | .exception (.runtimeError _) => pure false
      | _ => throw stop

/-- `socketPeerClosed` of a connection. -/
def socketPeerClosed : Session kind Bool := do
  match ← ask with
  | .hangup closed => pure closed
  | .failed _ => throw (.exception .terminate)
  | _ => throw .waiting

/-- Whether the peer of one of the three connections has shut it down. -/
def anyPeerClosed : Session kind Bool := do
  if ← socketPeerClosed then pure true
  else if ← socketPeerClosed then pure true
  else socketPeerClosed

/-- The session loop of `handleClient`, for a number of iterations. -/
def sessionLoop : (iterations : Nat) → Session kind Unit
  | 0 => throw .running
  | iterations + 1 => do
      let established ← forward
      let closed ← anyPeerClosed
      if established && !closed then do
        emit .iterationEnded
        sessionLoop iterations
      else pure ()

/-- `TimingProxy::handleClient`.  Setting up the connections may throw. -/
def handleClient (iterations : Nat) : Session kind Unit := do
  match ← ask with
  | .connected => do
      modify fun proxy => { proxy with established := true }
      emit .connected
      sessionLoop iterations
      modify fun proxy => { proxy with established := false }
  | .thrown fault => throw (.exception fault)
  | _ => throw .waiting

/-- The loop of `TimingProxy::run`, for a number of sessions. -/
def run (iterations : Nat) : (sessions : Nat) → Session kind Unit
  | 0 => pure ()
  | sessions + 1 => do
      handleClient iterations
      run iterations sessions

end TimingProxy

end NetworkTiming
