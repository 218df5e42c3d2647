import NetworkTiming.Library.Retry
import NetworkTiming.TimingProxy.TimingProxy

/-!
# The socket with kernel timestamps

The kernel hands timestamps over as ancillary data: those of a read with the bytes that
are read, those of a write with a copy of the frame that has left, on the error queue of
the socket.  The frames there are decoded until one carries the bytes that were written.
-/

namespace NetworkTiming

open Traced

/-- `SOL_SOCKET`. -/
def SOL_SOCKET : Int := 1

/-- `SO_TIMESTAMPING`. -/
def SO_TIMESTAMPING : Int := 37

/-- `KernelTimingSocket::TSTAMP_SOURCE`. -/
inductive TstampSource
  | software
  | hardware
  deriving DecidableEq, Repr

/-- Which of the timestamps of a message is used. -/
def TstampSource.index : TstampSource → Fin 3
  | .software => 0
  | .hardware => 2

/-- `ts_ptr[tstamp_source]`. -/
def TstampSource.select (source : TstampSource) (timestamps : Vector Timespec 3) : Timespec :=
  timestamps[source.index]

/-- A control message with the timestamps in its data. -/
structure ControlMessage where
  cmsgLevel : Int
  cmsgType : Int
  cmsgData : Vector Timespec 3

/-- What `recvmsg` leaves in `msg` and the buffers it points to. -/
structure Message (size : Nat) where
  /-- The number of bytes that are received. -/
  rc : Nat
  /-- The buffer; what stands behind the bytes that are received is arbitrary. -/
  dataBuf : Vector UInt8 size
  rc_le : rc ≤ size
  /-- `MSG_TRUNC`. -/
  truncated : Bool
  /-- `MSG_CTRUNC`. -/
  controlTruncated : Bool
  /-- The control messages; there are none if `msg_controllen` is 0. -/
  control : List ControlMessage

/-- What `recvmsg` returns. -/
inductive RecvmsgResult (size : Nat)
  | received (message : Message size)
  | failed (errno : Errno)

/-- The part of a `KernelTimingSocket` that reading and writing use. -/
structure KernelTimingSocket where
  tstampSource : TstampSource
  device : String
  txTimestamp : Timespec
  rxTimestamp : Timespec

/-- The size of `data_buf` of `getTxTimestamp`. -/
def DATA_BUF_SIZE : Nat := 1500

/-- `memcmp`, which may look at all the bytes that it is given; whether they are equal. -/
def memcmp (memory : List UInt8) (pointer : Option Nat) (data : List UInt8) : Decode Bool :=
  match pointer with
  | none => fail (.outOfBounds 0)
  | some offset => do
      let bytes ← readBytes memory offset data.length
      pure (bytes == data)

namespace Message

/-- The timestamps of a message, if it is complete and they come first in its control
data. -/
def timestamps (message : Message size) : Option (Vector Timespec 3) :=
  if message.truncated then none
  else if message.controlTruncated then none
  else
    match message.control with
    | [] => none
    | cmsg :: _ =>
        if cmsg.cmsgLevel ≠ SOL_SOCKET then none
        else if cmsg.cmsgType ≠ SO_TIMESTAMPING then none
        else some cmsg.cmsgData

/-- `msg` and the buffers as they are handed to `recvmsg`: all control data is zero. -/
def prepared (size : Nat) (dataBuf : Vector UInt8 size) : Message size where
  rc := 0
  dataBuf := dataBuf
  rc_le := Nat.zero_le size
  truncated := false
  controlTruncated := false
  control := [⟨0, 0, Vector.replicate 3 ⟨0, 0⟩⟩]

end Message

namespace KernelTimingSocket

variable (inetNtop : InetNtop)

/-- What a retry of `getTxTimestamp` does with what `recvmsg` has left: whether this is
the frame that is looked for. -/
def examine (data : List UInt8) (message : Message DATA_BUF_SIZE) : Decode Bool :=
  match message.timestamps with
  | none => pure false
  | some _ => do
      let decoded ← PacketParser.decodeUntil inetNtop .tcp message.dataBuf.toList 0
        message.rc {}
      memcmp message.dataBuf.toList decoded.payload data

/-- A retry of `getTxTimestamp`. -/
def retry (data : List UInt8) : RecvmsgResult DATA_BUF_SIZE → Decode Bool
  | .received message => examine inetNtop data message
  | .failed .again => pure false
  -- another error is not looked at, and `recvmsg` has left everything as it was
  | .failed _ => examine inetNtop data (.prepared _ (Vector.replicate DATA_BUF_SIZE 0))

/-- The timestamps that `ts_ptr` points to. -/
def timestampsOf : RecvmsgResult DATA_BUF_SIZE → Vector Timespec 3
  | .received message => message.timestamps.getD (Vector.replicate 3 ⟨0, 0⟩)
  | .failed _ => Vector.replicate 3 ⟨0, 0⟩

/-- The loop of `getTxTimestamp`, on what `recvmsg` returns time after time: the number of
the retry that has found the frame. -/
def findMessage (data : List UInt8) (queue : Nat → RecvmsgResult DATA_BUF_SIZE) :
    Except Fault (Option Nat) :=
  Retry.search (fun index => (retry inetNtop data (queue index)).result)
    TimingProxy.TIMESTAMPING_MESSAGE_MAX_RETRIES 0

/-- `KernelTimingSocket::getTxTimestamp`. -/
def getTxTimestamp
    (socket : KernelTimingSocket)
    (data : List UInt8)
    (queue : Nat → RecvmsgResult DATA_BUF_SIZE) : Except Fault Unit × KernelTimingSocket :=
  match findMessage inetNtop data queue with
  | .error fault => (.error fault, socket)
  | .ok none =>
      (.error (.runtimeError
        ("Could not get TX timestamp from interface " ++ socket.device)), socket)
  | .ok (some index) =>
      (.ok (), { socket with
        txTimestamp := socket.tstampSource.select (timestampsOf (queue index)) })

/-- `KernelTimingSocket::read`, on what `recvmsg` returns. -/
def read (socket : KernelTimingSocket) (size : Nat) :
    RecvmsgResult size → Except Fault TimingProxy.Received × KernelTimingSocket
  | .failed .again => (.ok (.failed .again), socket)
  | .failed .connectionReset => (.error (.runtimeError "Connection reset"), socket)
  | .failed (.other _) => (.error .terminate, socket)
  | .received message =>
      if message.rc = 0 then (.ok .closed, socket)
      else if message.truncated then (.error .terminate, socket)
      else if message.controlTruncated then (.error .terminate, socket)
      else
        match message.control with
        -- the call returns -1 although bytes were received
        | [] => (.ok (.failed .again), socket)
        | cmsg :: _ =>
            if cmsg.cmsgLevel ≠ SOL_SOCKET then (.error .terminate, socket)
            else if cmsg.cmsgType ≠ SO_TIMESTAMPING then (.error .terminate, socket)
            else
              (.ok (.data (message.dataBuf.toList.take message.rc)), { socket with
                rxTimestamp := socket.tstampSource.select cmsg.cmsgData })

end KernelTimingSocket

end NetworkTiming
