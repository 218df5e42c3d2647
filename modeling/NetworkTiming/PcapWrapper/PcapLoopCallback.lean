import NetworkTiming.Library.DoubleBuffer
import NetworkTiming.PacketParser.Ethernet

/-!
# The capture callback

`handlePacket` is called by the capture loop for every frame.  It decodes the
frame, decides which way it travels, and stores the payload with the time of the
capture in one of two buffers that it shares with the thread that looks packets
up.
-/

namespace NetworkTiming

open Traced

/-! ## Times -/

/-- `struct timeval` of the C library on a 64-bit host. -/
structure Timeval where
  tvSec : Int64
  tvUsec : Int64
  deriving DecidableEq, Repr

/-- Precision in which the capture device reports fractions of a second. -/
def PCAP_TSTAMP_PRECISION_MICRO : Int := 0

@[inherit_doc PCAP_TSTAMP_PRECISION_MICRO]
def PCAP_TSTAMP_PRECISION_NANO : Int := 1

/-- Nanoseconds from `tvEarly` to `tvLate`.  The sums wrap as `uint64_t` does. -/
def timevalDeltaToNs
    (tstampPrecision : Int)
    (tvEarly tvLate : Timeval) : Except Fault UInt64 := do
  let usecsPerSecond : UInt64 ←
    if tstampPrecision = PCAP_TSTAMP_PRECISION_MICRO then pure 1000000
    else if tstampPrecision = PCAP_TSTAMP_PRECISION_NANO then pure 1000000000
    else throw .terminate
  if tvLate.tvSec < tvEarly.tvSec then
    throw .terminate
  let seconds := (tvLate.tvSec - tvEarly.tvSec).toUInt64
  -- borrow a second
  let (seconds, usecs) ←
    if tvLate.tvUsec < tvEarly.tvUsec then
      if seconds = 0 then throw .terminate
      else pure (seconds - 1, usecsPerSecond)
    else pure (seconds, (0 : UInt64))
  let usecs := (tvLate.tvUsec.toUInt64 + usecs) - tvEarly.tvUsec.toUInt64
  if tstampPrecision = PCAP_TSTAMP_PRECISION_MICRO then
    pure (seconds * 1000000000 + usecs * 1000)
  else if tstampPrecision = PCAP_TSTAMP_PRECISION_NANO then
    pure (seconds * 1000000000 + usecs)
  else throw .terminate

/-! ## Shared data -/

/-- Payload bytes that a slot has room for. -/
def MAX_PACKET_SIZE : Nat := 1500

/-- Slots of each of the two buffers. -/
def SHARED_BUFFER_SIZE : Nat := 1000

/-- Link types of capture devices. -/
inductive LinkType
  | null
  | ethernet
  | linuxSll
  deriving DecidableEq, Repr

/-- Which way a packet travels. -/
inductive PacketDirection
  | destinationRemote
  | sourceRemote
  deriving DecidableEq, Repr

/-- The part of `struct pcap_pkthdr` that the callback reads. -/
structure PcapPkthdr where
  /-- Time of the capture. -/
  ts : Timeval
  /-- Length of the packet. -/
  len : Nat
  deriving DecidableEq, Repr

/-- A slot of the shared buffers. -/
structure PacketInfo where
  payload : Vector UInt8 MAX_PACKET_SIZE
  payloadSize : Nat
  timing : Timeval
  direction : PacketDirection
  deriving DecidableEq

/-- What the callback and the thread that looks packets up share. -/
structure UserData where
  sharedBufferA : Vector PacketInfo SHARED_BUFFER_SIZE
  sharedBufferB : Vector PacketInfo SHARED_BUFFER_SIZE
  activeBufferConsumer : Bool
  activeBufferProducer : Bool
  sharedBufferIndexProducer : Nat
  sharedBufferIndexConsumer : Nat
  linktype : LinkType
  tstampPrecision : Int
  remoteHost : String
  remotePort : UInt16
  stopLoop : Bool

/-- `memcpy` to the start of an array. -/
def overwrite
    (destination : Vector UInt8 size)
    (source : List UInt8) : Vector UInt8 size :=
  Vector.ofFn fun index => source[index.val]?.getD destination[index]

/-- The bytes that were copied are found at the start of the array. -/
theorem take_overwrite
    (destination : Vector UInt8 size)
    (fits : source.length ≤ size) :
    (overwrite destination source).toList.take source.length = source := by
  apply List.ext_getElem
  · simp [fits]
  · intro index left right
    simp [overwrite, right]

/-- Fill a slot. -/
def PacketInfo.fill
    (pinfo : PacketInfo)
    (payload : List UInt8)
    (direction : PacketDirection)
    (timing : Timeval) : PacketInfo :=
  { pinfo with
    payload := overwrite pinfo.payload payload
    payloadSize := payload.length
    direction := direction
    timing := timing }

namespace UserData

/-- The buffer of a side. -/
def buffer
    (usrdata : UserData)
    (active : Bool) : Vector PacketInfo SHARED_BUFFER_SIZE :=
  if active then usrdata.sharedBufferB else usrdata.sharedBufferA

/-- Replace a slot of the buffer of a side. -/
def setSlot
    (usrdata : UserData)
    (active : Bool) (index : Nat) (pinfo : PacketInfo)
    (inside : index < SHARED_BUFFER_SIZE) : UserData :=
  if active then
    { usrdata with sharedBufferB := usrdata.sharedBufferB.set index pinfo inside }
  else
    { usrdata with sharedBufferA := usrdata.sharedBufferA.set index pinfo inside }

section SetSlot

variable {usrdata : UserData} {active : Bool} {index : Nat} {pinfo : PacketInfo}
variable {inside : index < SHARED_BUFFER_SIZE}

@[simp] theorem activeBufferConsumer_setSlot :
    (usrdata.setSlot active index pinfo inside).activeBufferConsumer =
      usrdata.activeBufferConsumer := by
  cases active <;> rfl

@[simp] theorem activeBufferProducer_setSlot :
    (usrdata.setSlot active index pinfo inside).activeBufferProducer =
      usrdata.activeBufferProducer := by
  cases active <;> rfl

@[simp] theorem sharedBufferIndexConsumer_setSlot :
    (usrdata.setSlot active index pinfo inside).sharedBufferIndexConsumer =
      usrdata.sharedBufferIndexConsumer := by
  cases active <;> rfl

@[simp] theorem sharedBufferIndexProducer_setSlot :
    (usrdata.setSlot active index pinfo inside).sharedBufferIndexProducer =
      usrdata.sharedBufferIndexProducer := by
  cases active <;> rfl

end SetSlot

/-- Switch to the other buffer if the current one is full.  The switch is only
possible while the consumer is not in the other buffer. -/
def makeRoom (usrdata : UserData) : Except Fault UserData :=
  if usrdata.sharedBufferIndexProducer = SHARED_BUFFER_SIZE then
    if usrdata.activeBufferProducer = usrdata.activeBufferConsumer then
      .ok { usrdata with
        sharedBufferIndexProducer := 0
        activeBufferProducer := !usrdata.activeBufferProducer }
    else
      .error .terminate
  else
    .ok usrdata

/-- Fill the slot of the producer and go to the next one. -/
def storePacket
    (usrdata : UserData)
    (payload : List UInt8)
    (direction : PacketDirection)
    (timing : Timeval) : Except Fault UserData :=
  if inside : usrdata.sharedBufferIndexProducer < SHARED_BUFFER_SIZE then
    let active := usrdata.activeBufferProducer
    let index := usrdata.sharedBufferIndexProducer
    let pinfo := ((usrdata.buffer active)[index]).fill payload direction timing
    .ok { usrdata.setSlot active index pinfo inside with
      sharedBufferIndexProducer := index + 1 }
  else
    .error (.outOfBounds usrdata.sharedBufferIndexProducer)

/-- A packet for the remote host and port travels towards it; any other packet
is taken to come from it. -/
def directionOf (usrdata : UserData) (artefacts : Artefacts) : PacketDirection :=
  if usrdata.remoteHost = artefacts.dstIp ∧ usrdata.remotePort = artefacts.dstPort
  then .destinationRemote
  else .sourceRemote

end UserData

/-! ## The callback -/

section Callback

variable (inetNtop : InetNtop)

/-- Decode a captured packet up to TCP; `none` if it is dropped because it
cannot be decoded. -/
def decodePacket
    (linktype : LinkType)
    (header : PcapPkthdr)
    (packet : List UInt8) : Except Fault (Option Decoded) :=
  let decoded : Except Fault Decoded :=
    match linktype with
    | .ethernet =>
        (PacketParser.decodeUntil inetNtop .tcp packet 0 header.len {}).result
    | _ => .error (.invalidArgument "Link type not implemented")
  match decoded with
  | .ok decoded => .ok (some decoded)
  | .error (.invalidArgument _) => .ok none
  | .error fault => .error fault

/-- Copy the payload out of the packet. -/
def copyPayload
    (packet : List UInt8)
    (decoded : Decoded) : Except Fault (List UInt8) :=
  match decoded.payload with
  | some payload => (readBytes packet payload decoded.payloadSize).result
  | none => .error (.outOfBounds 0)

/-- Store the payload of a decoded packet, if it has one. -/
def recordPayload
    (usrdata : UserData)
    (header : PcapPkthdr)
    (packet : List UInt8)
    (decoded : Decoded) : Except Fault UserData :=
  if 1500 < decoded.payloadSize then
    .error (.invalidArgument "Payload size greater 1500 bytes is not supported")
  else if decoded.payloadSize = 0 then
    .ok usrdata
  else do
    let direction := usrdata.directionOf decoded.artefacts
    let usrdata ← usrdata.makeRoom
    let payload ← copyPayload packet decoded
    usrdata.storePacket payload direction header.ts

/-- The callback of the capture loop.  A fault leaves the thread of the capture
loop, which ends the program, so that there is no state to return then. -/
def handlePacket
    (usrdata : UserData)
    (header : PcapPkthdr)
    (packet : List UInt8) : Except Fault UserData :=
  if usrdata.stopLoop then
    .ok usrdata
  else
    match decodePacket inetNtop usrdata.linktype header packet with
    | .ok (some decoded) => recordPayload usrdata header packet decoded
    | .ok none => .ok usrdata
    | .error fault => .error fault

end Callback

end NetworkTiming
