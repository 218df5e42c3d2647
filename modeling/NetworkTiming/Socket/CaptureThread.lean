import NetworkTiming.Library.Machine
import NetworkTiming.Socket.RemoteAddress
import NetworkTiming.Socket.SocketState

/-!
# The capture thread

Connecting a socket whose traffic is captured starts the thread that captures, and closing
it joins the thread.  The thread, the object that owns its handle and the connection are
acquired one after the other, and nothing is given back when a later one fails.
-/

namespace NetworkTiming

namespace Socket

/-- What `loop_thread` points to. -/
inductive LoopThread
  /-- It is the null pointer. -/
  | null
  | running
  /-- A thread whose `pcap_loop` has returned, and which has not been joined. -/
  | finished
  /-- A thread that has been joined and deleted; the pointer has been kept. -/
  | deleted
  deriving DecidableEq

/-- The handle of the thread in a `PcapWrapper`. -/
structure PcapWrapper where
  loopThread : LoopThread
  deriving DecidableEq

namespace PcapWrapper

/-- A wrapper whose constructor has opened its device. -/
def opened : PcapWrapper := ⟨.null⟩

/-- The thread is running. -/
def Capturing (wrapper : PcapWrapper) : Prop := wrapper.loopThread = .running

instance (wrapper : PcapWrapper) : Decidable wrapper.Capturing :=
  inferInstanceAs (Decidable (_ = _))

/-- `PcapWrapper::startLoop`, whether or not the thread can be created; the pointer to an
earlier thread is overwritten. -/
def startLoop (wrapper : PcapWrapper) (starts : Bool) : Except Fault PcapWrapper :=
  if starts then .ok { wrapper with loopThread := .running }
  else .error (.runtimeError "Resource temporarily unavailable")

/-- `PcapWrapper::stopLoop`.  Joining a thread that there is not is undefined. -/
def stopLoop (wrapper : PcapWrapper) : Option PcapWrapper :=
  match wrapper.loopThread with
  | .null | .deleted => none
  | .running | .finished => some { wrapper with loopThread := .deleted }

end PcapWrapper

/-- The part of a `PCAPTimingSocket` that connecting and closing use, with the capture
threads that it has started. -/
structure PCAPTimingSocket (Address : Type) extends TimingSocket Address where
  device : String
  pcap : Option PcapWrapper
  pcapInitialized : Bool
  /-- How many threads are running whose handle has been overwritten or destroyed. -/
  abandoned : Nat

/-- Outcomes of the calls of `PCAPTimingSocket::connect`. -/
structure CaptureCalls (Address : Type) where
  /-- A default device is found and opened. -/
  opens : Bool
  /-- The filter is compiled and installed. -/
  installs : Bool
  /-- The thread can be created. -/
  starts : Bool
  network : Network Address

namespace PCAPTimingSocket

variable {Address : Type} (numbering : DescriptorNumbering) (inetPton : InetPton)

/-- The wrapper's own thread is running. -/
def Capturing (socket : PCAPTimingSocket Address) : Prop :=
  ∃ wrapper ∈ socket.pcap, wrapper.Capturing

/-- How many threads that the wrapper has a handle of are running. -/
def ownThreads (socket : PCAPTimingSocket Address) : Nat :=
  if socket.pcap.any fun wrapper => wrapper.Capturing then 1 else 0

/-- How many capture threads are running. -/
def threads (socket : PCAPTimingSocket Address) : Nat :=
  socket.ownThreads + socket.abandoned

/-- A socket right after its construction. -/
def created (sock epfd port : Int) : PCAPTimingSocket Address where
  toTimingSocket := .created sock epfd port
  device := ""
  pcap := none
  pcapInitialized := false
  abandoned := 0

/-- `pcap` is given another wrapper, or its wrapper another thread. -/
def withWrapper
    (socket : PCAPTimingSocket Address)
    (wrapper : PcapWrapper) : PCAPTimingSocket Address :=
  { socket with
    pcap := some wrapper
    abandoned := socket.threads }

/-- `PCAPTimingSocket::initPcap`, whether or not the device can be opened. -/
def initPcap
    (socket : PCAPTimingSocket Address)
    (device : String)
    (opens : Bool) : Except Fault Unit × PCAPTimingSocket Address :=
  let socket := { socket with device := device }
  if opens then
    (.ok (), { socket.withWrapper .opened with pcapInitialized := true })
  else (.error .terminate, socket)

/-- The host is written as an address. -/
def isAddress (host : String) : Bool :=
  isValidIpv4Address inetPton host || isValidIpv6Address inetPton host

theorem rejects_eq (host : String) :
    (!isValidIpv4Address inetPton host && !isValidIpv6Address inetPton host) =
      !isAddress inetPton host :=
  (Bool.not_or _ _).symm

/-- `PCAPTimingSocket::connect`; `none` if its behaviour is undefined. -/
def connect
    (socket : PCAPTimingSocket Address)
    (host : String) (port : UInt16)
    (calls : CaptureCalls Address) :
    Option (Except Fault Unit × PCAPTimingSocket Address) :=
  if !isValidIpv4Address inetPton host && !isValidIpv6Address inetPton host then
    some (.error (.invalidArgument
      "Current pcap implementation needs an ip address in order to correlate packets."),
      socket)
  -- the wrapper for the default device is created and destroyed at once
  else if !socket.pcapInitialized && !calls.opens then some (.error .terminate, socket)
  else
    match socket.pcap with
    | none => none
    | some wrapper =>
        if !calls.installs then some (.error .terminate, socket)
        else
          match wrapper.startLoop calls.starts with
          | .error fault => some (.error fault, socket)
          | .ok wrapper =>
              let socket := socket.withWrapper wrapper
              let (result, connected) :=
                socket.toTimingSocket.connect numbering host port calls.network
              some (result, { socket with toTimingSocket := connected })

/-- `PCAPTimingSocket::close`; `none` if its behaviour is undefined. -/
def close (socket : PCAPTimingSocket Address) : Option (PCAPTimingSocket Address) :=
  match socket.pcap with
  | none => none
  | some wrapper =>
      wrapper.stopLoop.map fun wrapper =>
        { socket with
          toTimingSocket := socket.toTimingSocket.close
          pcap := some wrapper }

/-- `PCAPTimingSocket::write`; `none` if its behaviour is undefined.  The packet is looked
up by the wrapper. -/
def write
    (socket : PCAPTimingSocket Address)
    (sent : Except Fault Unit) : Option (Except Fault Unit) :=
  match socket.toTimingSocket.write sent with
  | .error fault => some (.error fault)
  | .ok () => if socket.pcap.isSome then some (.ok ()) else none

/-- `PCAPTimingSocket::read`; `none` if its behaviour is undefined. -/
def read
    (socket : PCAPTimingSocket Address)
    (received : Except Fault TimingProxy.Received) :
    Option (Except Fault TimingProxy.Received) :=
  match socket.toTimingSocket.read received with
  | .ok (.data bytes) => if socket.pcap.isSome then some (.ok (.data bytes)) else none
  | other => some other

/-! ## Sequences of calls -/

end PCAPTimingSocket

/-- What follows the start of the thread ends the program. -/
def CaptureCalls.Ends (calls : CaptureCalls Address) : Prop :=
  calls.starts ∧ calls.network.Reachable ∧ calls.network.epoll ≠ .enabled

/-- The calls that a `PCAPTimingSocket` receives, with what they come to, and the end of
its thread. -/
inductive PCAPCall (Address : Type)
  | initPcap (device : String) (opens : Bool)
  | connect (host : String) (port : UInt16) (calls : CaptureCalls Address)
  | read (received : Except Fault TimingProxy.Received)
  | write (sent : Except Fault Unit)
  | close
  /-- `pcap_loop` returns by itself on the thread of the wrapper, if it is running. -/
  | loopReturns

namespace PCAPTimingSocket

variable {Address : Type} (numbering : DescriptorNumbering) (inetPton : InetPton)

/-- `pcap_loop` returns by itself. -/
def loopReturns (socket : PCAPTimingSocket Address) : PCAPTimingSocket Address :=
  { socket with
    pcap := socket.pcap.map fun wrapper =>
      if wrapper.Capturing then { wrapper with loopThread := .finished } else wrapper }

/-- Whether a call returns, and the socket behind it; `none` if its behaviour is
undefined. -/
def perform (socket : PCAPTimingSocket Address) :
    PCAPCall Address → Option (Except Fault Unit × PCAPTimingSocket Address)
  | .initPcap device opens => some (socket.initPcap device opens)
  | .connect host port calls => socket.connect numbering inetPton host port calls
  | .read received =>
      (socket.read received).map fun result => (result.map fun _ => (), socket)
  | .write sent => (socket.write sent).map fun result => (result, socket)
  | .close => socket.close.map fun closed => (.ok (), closed)
  | .loopReturns => some (.ok (), socket.loopReturns)

/-- A call after which the program goes on. -/
def step (socket : PCAPTimingSocket Address) (call : PCAPCall Address) :
    Option (PCAPTimingSocket Address) :=
  goesOn (socket.perform numbering inetPton call)

/-- The capture thread of the socket is running exactly when it is connected, and there is
no other one. -/
structure Agrees (socket : PCAPTimingSocket Address) : Prop where
  running : socket.Capturing ↔ socket.Connected
  alone : socket.threads ≤ 1

/-- A call has a defined behaviour and, unless it ends the program, leaves the thread and
the connection in agreement; a call of `connect` that throws leaves no thread. -/
def Manages (socket : PCAPTimingSocket Address) (call : PCAPCall Address) : Prop :=
  ∃ result next, socket.perform numbering inetPton call = some (result, next) ∧
    (result ≠ .error .terminate →
      next.Agrees ∧
        ∀ host port calls fault, call = .connect host port calls →
          result = .error fault → next.threads = 0)

/-- The order of calls that the socket is made for: `initPcap` and `connect` are called
while it is not connected, `connect` behind `initPcap` and so that nothing fails once the
thread has been started, and `close` while it is connected.  What ends the program
anyway is not restricted. -/
def Ordered (socket : PCAPTimingSocket Address) : PCAPCall Address → Prop
  | .initPcap _ opens => opens → ¬socket.Connected
  | .connect host _ calls =>
      if isAddress inetPton host then
        if socket.pcap.isSome then
          calls.installs → calls.Ends ∨
            ¬socket.Connected ∧ (calls.starts → calls.network.Reachable)
        else calls.opens = false
      else ¬socket.Connected
  | .read _ | .write _ => True
  | .close => socket.Connected
  | .loopReturns => ¬socket.Connected

/-- What holds as long as the calls are ordered. -/
structure Coherent (socket : PCAPTimingSocket Address) : Prop where
  settled : socket.Settled
  initialized : socket.pcapInitialized = socket.pcap.isSome
  established : socket.state = .established → socket.pcap = some ⟨.running⟩
  idle : socket.state ≠ .established →
    ∀ wrapper ∈ socket.pcap, wrapper = ⟨.null⟩ ∨ wrapper = ⟨.deleted⟩
  abandoned : socket.abandoned = 0

theorem coherent_created (sock epfd port : Int) :
    (created sock epfd port : PCAPTimingSocket Address).Coherent where
  settled := TimingSocket.settled_created sock epfd port
  initialized := rfl
  established := by simp [created, TimingSocket.created]
  idle := by simp [created]
  abandoned := rfl

/-! ## Threads -/

theorem ownThreads_of_capturing {socket : PCAPTimingSocket Address}
    (capturing : socket.Capturing) : socket.ownThreads = 1 := by
  obtain ⟨wrapper, isWrapper, running⟩ := capturing
  rw [ownThreads, isWrapper]
  exact if_pos (decide_eq_true running)

theorem ownThreads_of_not_capturing {socket : PCAPTimingSocket Address}
    (idle : ¬socket.Capturing) : socket.ownThreads = 0 := by
  apply if_neg
  rw [Option.any_eq_true]
  rintro ⟨wrapper, isWrapper, running⟩
  exact idle ⟨wrapper, isWrapper, of_decide_eq_true running⟩

namespace Coherent

variable {socket : PCAPTimingSocket Address}

/-- Without a connection, there is no wrapper, or none with a thread. -/
theorem idle_cases (coherent : socket.Coherent) (unconnected : ¬socket.Connected) :
    socket.pcap = none ∨ socket.pcap = some ⟨.null⟩ ∨ socket.pcap = some ⟨.deleted⟩ := by
  rw [coherent.settled.connected_iff] at unconnected
  cases isWrapper : socket.pcap with
  | none => exact Or.inl rfl
  | some wrapper =>
      rcases coherent.idle unconnected wrapper isWrapper with rfl | rfl
      · exact Or.inr (Or.inl rfl)
      · exact Or.inr (Or.inr rfl)

theorem capturing_iff (coherent : socket.Coherent) :
    socket.Capturing ↔ socket.Connected := by
  rw [coherent.settled.connected_iff]
  constructor
  · rintro ⟨wrapper, isWrapper, running⟩
    by_contra unestablished
    rcases coherent.idle unestablished wrapper isWrapper with rfl | rfl
    · cases running
    · cases running
  · intro established
    exact ⟨_, coherent.established established, rfl⟩

/-- Without a connection there are no threads. -/
theorem threads_eq_zero (coherent : socket.Coherent) (idle : ¬socket.Connected) :
    socket.threads = 0 := by
  rw [← coherent.capturing_iff] at idle
  rw [threads, ownThreads_of_not_capturing idle, coherent.abandoned]

theorem agrees (coherent : socket.Coherent) : socket.Agrees where
  running := coherent.capturing_iff
  alone := by
    rw [threads, coherent.abandoned, ownThreads]
    split <;> omega

end Coherent

/-! ## Single calls -/

section Calls

variable {numbering : DescriptorNumbering} {inetPton : InetPton}
  {socket next : PCAPTimingSocket Address}
  {call : PCAPCall Address} {result : Except Fault Unit}

theorem manages_iff (performed : socket.perform numbering inetPton call = some (result, next)) :
    socket.Manages numbering inetPton call ↔
      (result ≠ .error .terminate →
        next.Agrees ∧
          ∀ host port calls fault, call = .connect host port calls →
            result = .error fault → next.threads = 0) := by
  unfold Manages
  rw [performed]
  constructor
  · rintro ⟨_, _, same, managed⟩
    cases same
    exact managed
  · intro managed
    exact ⟨result, next, rfl, managed⟩

theorem not_manages (undefined : socket.perform numbering inetPton call = none) :
    ¬socket.Manages numbering inetPton call := by
  rintro ⟨_, _, performed, _⟩
  rw [undefined] at performed
  cases performed

/-- A call that ends the program leaves nothing to agree. -/
theorem manages_of_terminate
    (performed : socket.perform numbering inetPton call = some (.error .terminate, next)) :
    socket.Manages numbering inetPton call :=
  (manages_iff performed).mpr fun survived => absurd rfl survived

/-- Of a call other than `connect`, agreement is all that is asked. -/
theorem manages_iff_agrees
    (performed : socket.perform numbering inetPton call = some (.ok (), next)) :
    socket.Manages numbering inetPton call ↔ next.Agrees := by
  rw [manages_iff performed]
  simp

/-! ### Opening a device -/

theorem Coherent.initPcap
    (coherent : socket.Coherent)
    (unconnected : ¬socket.Connected)
    (device : String) : (socket.initPcap device true).2.Coherent where
  settled := coherent.settled
  initialized := rfl
  established established :=
    absurd (coherent.settled.connected_iff.mpr established) unconnected
  idle := by
    rintro _ wrapper ⟨⟩
    exact Or.inl rfl
  abandoned := coherent.threads_eq_zero unconnected

theorem manages_initPcap_iff (coherent : socket.Coherent) (device : String) (opens : Bool) :
    socket.Manages numbering inetPton (.initPcap device opens) ↔
      socket.Ordered inetPton (.initPcap device opens) := by
  cases opens with
  | false => exact iff_of_true (manages_of_terminate rfl) (by simp [Ordered])
  | true =>
      rw [manages_iff_agrees rfl]
      constructor
      · intro agrees _ connected
        obtain ⟨wrapper, isWrapper, running⟩ := agrees.running.mpr connected
        cases isWrapper
        cases running
      · intro ordered
        exact (coherent.initPcap (ordered rfl) device).agrees

/-! ### Reading and writing -/

theorem Coherent.write_isSome (coherent : socket.Coherent) (sent : Except Fault Unit) :
    ∃ result, socket.write sent = some result := by
  unfold write TimingSocket.write
  by_cases established : socket.state = .established
  · rw [if_neg (not_not.mpr established)]
    cases sent with
    | error fault => exact ⟨_, rfl⟩
    | ok =>
        rw [coherent.established established]
        exact ⟨_, rfl⟩
  · rw [if_pos established]
    exact ⟨_, rfl⟩

theorem Coherent.read_isSome
    (coherent : socket.Coherent)
    (received : Except Fault TimingProxy.Received) :
    ∃ result, socket.read received = some result := by
  unfold read TimingSocket.read
  by_cases established : socket.state = .established
  · rw [if_neg (not_not.mpr established)]
    rw [coherent.established established]
    split
    · exact ⟨_, rfl⟩
    · exact ⟨_, rfl⟩
  · rw [if_pos established]
    exact ⟨_, rfl⟩

theorem manages_write (coherent : socket.Coherent) (sent : Except Fault Unit) :
    socket.Manages numbering inetPton (.write sent) := by
  obtain ⟨result, written⟩ := coherent.write_isSome sent
  have performed : socket.perform numbering inetPton (.write sent) =
      some (result, socket) := by
    rw [perform, written, Option.map_some]
  exact (manages_iff performed).mpr fun _ => ⟨coherent.agrees, nofun⟩

theorem manages_read
    (coherent : socket.Coherent)
    (received : Except Fault TimingProxy.Received) :
    socket.Manages numbering inetPton (.read received) := by
  obtain ⟨result, returned⟩ := coherent.read_isSome received
  have performed : socket.perform numbering inetPton (.read received) =
      some (result.map fun _ => (), socket) := by
    rw [perform, returned, Option.map_some]
  exact (manages_iff performed).mpr fun _ => ⟨coherent.agrees, nofun⟩

/-! ### Closing -/

/-- A socket that has been closed, and whose thread has been joined. -/
def closed (socket : PCAPTimingSocket Address) : PCAPTimingSocket Address :=
  { socket with
    toTimingSocket := socket.toTimingSocket.close
    pcap := some ⟨.deleted⟩ }

theorem Coherent.close
    (coherent : socket.Coherent)
    (connected : socket.Connected) :
    socket.close = some socket.closed ∧ socket.closed.Coherent := by
  have wrapper := coherent.established (coherent.settled.connected_iff.mp connected)
  constructor
  · rw [PCAPTimingSocket.close, wrapper]
    rfl
  · exact {
      settled := coherent.settled.close
      initialized := by
        change socket.pcapInitialized = true
        rw [coherent.initialized, wrapper, Option.isSome_some]
      established := nofun
      idle := by
        rintro _ wrapper ⟨⟩
        exact Or.inr rfl
      abandoned := coherent.abandoned }

theorem Coherent.close_eq_none
    (coherent : socket.Coherent)
    (unconnected : ¬socket.Connected) : socket.close = none := by
  rw [PCAPTimingSocket.close]
  rcases coherent.idle_cases unconnected with none | null | deleted
  · rw [none]
  · rw [null]
    rfl
  · rw [deleted]
    rfl

theorem manages_close_iff (coherent : socket.Coherent) :
    socket.Manages numbering inetPton .close ↔ socket.Connected := by
  by_cases connected : socket.Connected
  · obtain ⟨same, closed⟩ := coherent.close connected
    have performed : socket.perform numbering inetPton .close =
        some (.ok (), socket.closed) := by
      rw [perform, same, Option.map_some]
    exact iff_of_true ((manages_iff_agrees performed).mpr closed.agrees) connected
  · have undefined : socket.perform numbering inetPton .close = none := by
      rw [perform, coherent.close_eq_none connected, Option.map_none]
    exact iff_of_false (not_manages undefined) connected

/-! ### The end of the thread -/

theorem Coherent.loopReturns_eq
    (coherent : socket.Coherent)
    (unconnected : ¬socket.Connected) : socket.loopReturns = socket := by
  have kept : (socket.pcap.map fun wrapper =>
      if wrapper.Capturing then { wrapper with loopThread := .finished } else wrapper) =
        socket.pcap := by
    rcases coherent.idle_cases unconnected with none | null | deleted
    · rw [none, Option.map_none]
    · rw [null]
      rfl
    · rw [deleted]
      rfl
  rw [loopReturns, kept]

theorem manages_loopReturns_iff (coherent : socket.Coherent) :
    socket.Manages numbering inetPton .loopReturns ↔ ¬socket.Connected := by
  rw [manages_iff_agrees rfl]
  constructor
  · intro agrees connected
    obtain ⟨wrapper, isWrapper, running⟩ := agrees.running.mpr connected
    rw [loopReturns, coherent.established (coherent.settled.connected_iff.mp connected)]
      at isWrapper
    cases isWrapper
    cases running
  · intro unconnected
    rw [coherent.loopReturns_eq unconnected]
    exact coherent.agrees

/-! ### Connecting -/

section Connect

variable {host : String} {port : UInt16} {calls : CaptureCalls Address}

/-- A call of `connect` that throws in front of the start of the thread is fine on a
socket that is not connected. -/
theorem manages_connect_of_throw
    (coherent : socket.Coherent)
    (performed : socket.perform numbering inetPton (.connect host port calls) =
      some (.error fault, socket))
    (survived : fault ≠ .terminate) :
    socket.Manages numbering inetPton (.connect host port calls) ↔ ¬socket.Connected := by
  rw [manages_iff performed]
  constructor
  · intro managed connected
    have none := (managed (by simpa using survived)).2 host port calls fault rfl rfl
    rw [threads, ownThreads_of_capturing (coherent.capturing_iff.mpr connected)] at none
    omega
  · intro unconnected _
    exact ⟨coherent.agrees, fun _ _ _ _ _ _ => coherent.threads_eq_zero unconnected⟩

/-- The socket with a running thread, and the connection that has been made meanwhile. -/
def started
    (socket : PCAPTimingSocket Address)
    (connected : TimingSocket Address) : PCAPTimingSocket Address :=
  { socket.withWrapper ⟨.running⟩ with toTimingSocket := connected }

theorem threads_started (connected : TimingSocket Address) :
    (socket.started connected).threads = 1 + socket.threads := rfl

theorem Coherent.started
    (coherent : socket.Coherent)
    (unconnected : ¬socket.Connected)
    (initialized : socket.pcapInitialized)
    {connected : TimingSocket Address}
    (settled : connected.Settled)
    (established : connected.state = .established) :
    (socket.started connected).Coherent where
  settled := settled
  initialized := initialized
  established := fun _ => rfl
  idle unestablished := absurd established unestablished
  abandoned := coherent.threads_eq_zero unconnected

/-- If the thread is started in order, the base class completes what the thread is for. -/
theorem Coherent.starts
    (coherent : socket.Coherent)
    (initialized : socket.pcapInitialized)
    (ordered : calls.Ends ∨ ¬socket.Connected ∧ calls.network.Reachable)
    (survived : (socket.toTimingSocket.connect numbering host port calls.network).1 ≠
      .error .terminate) :
    (socket.started
      (socket.toTimingSocket.connect numbering host port calls.network).2).Coherent := by
  have outcome := socket.toTimingSocket.connect_outcome numbering host port calls.network
  generalize socket.toTimingSocket.connect numbering host port calls.network = call
    at outcome survived
  cases id outcome with
  | aborted _ _ => exact absurd rfl survived
  | refused unreachable _ _ =>
      rcases ordered with ⟨_, reachable, _⟩ | ⟨_, reachable⟩
      · exact absurd reachable unreachable
      · exact absurd reachable unreachable
  | connected found watched =>
      rcases ordered with ends | ⟨unconnected, _⟩
      · exact absurd watched ends.2.2
      · exact coherent.started unconnected initialized
          (outcome.settled numbering coherent.settled
            (mt coherent.settled.connected_iff.mpr unconnected) survived)
          found.established

/-- How far a call of `connect` gets, and what that asks for. -/
inductive ConnectCase
    (numbering : DescriptorNumbering) (inetPton : InetPton)
    (socket : PCAPTimingSocket Address)
    (host : String) (port : UInt16)
    (calls : CaptureCalls Address) : Prop
  /-- The program ends in front of the start of the thread. -/
  | ends :
      socket.perform numbering inetPton (.connect host port calls) =
        some (.error .terminate, socket) →
      socket.Ordered inetPton (.connect host port calls) →
      ConnectCase numbering inetPton socket host port calls
  /-- The null pointer is dereferenced. -/
  | undefined :
      socket.perform numbering inetPton (.connect host port calls) = none →
      ¬socket.Ordered inetPton (.connect host port calls) →
      ConnectCase numbering inetPton socket host port calls
  /-- The call throws in front of the start of the thread. -/
  | throws {fault : Fault} :
      socket.perform numbering inetPton (.connect host port calls) =
        some (.error fault, socket) →
      fault ≠ .terminate →
      (socket.Ordered inetPton (.connect host port calls) ↔ ¬socket.Connected) →
      ConnectCase numbering inetPton socket host port calls
  /-- The thread is started, and the base class connects. -/
  | starts :
      socket.perform numbering inetPton (.connect host port calls) =
        some ((socket.toTimingSocket.connect numbering host port calls.network).1,
          socket.started
            (socket.toTimingSocket.connect numbering host port calls.network).2) →
      socket.pcapInitialized →
      calls.starts →
      (socket.Ordered inetPton (.connect host port calls) ↔
        calls.Ends ∨ ¬socket.Connected ∧ calls.network.Reachable) →
      ConnectCase numbering inetPton socket host port calls

theorem connect_cases
    (numbering : DescriptorNumbering) (inetPton : InetPton)
    (agree : socket.pcapInitialized = socket.pcap.isSome)
    (host : String) (port : UInt16)
    (calls : CaptureCalls Address) :
    ConnectCase numbering inetPton socket host port calls := by
  cases valid : isAddress inetPton host with
  | false =>
      have threw : ∃ what, socket.perform numbering inetPton (.connect host port calls) =
          some (.error (.invalidArgument what), socket) := by
        rw [perform, connect, rejects_eq, valid]
        exact ⟨_, rfl⟩
      obtain ⟨what, threw⟩ := threw
      refine .throws threw (by simp) ?_
      rw [Ordered, if_neg (by simp [valid])]
  | true =>
  cases isWrapper : socket.pcap with
  | none =>
      rw [isWrapper, Option.isSome_none] at agree
      cases opens : calls.opens with
      | false =>
          refine .ends ?_ ?_
          · rw [perform, connect, rejects_eq, valid, agree, opens]
            rfl
          · rw [Ordered, if_pos valid, if_neg (by simp [isWrapper])]
            exact opens
      | true =>
          refine .undefined ?_ ?_
          · rw [perform, connect, rejects_eq, valid, agree, opens, isWrapper]
            rfl
          · rw [Ordered, if_pos valid, if_neg (by simp [isWrapper])]
            simp [opens]
  | some wrapper =>
      rw [isWrapper, Option.isSome_some] at agree
      have ordered : socket.Ordered inetPton (.connect host port calls) ↔
          (calls.installs → calls.Ends ∨
            ¬socket.Connected ∧ (calls.starts → calls.network.Reachable)) := by
        rw [Ordered, if_pos valid, if_pos (by simp [isWrapper])]
      cases installs : calls.installs with
      | false =>
          refine .ends ?_ (ordered.mpr (by simp [installs]))
          rw [perform, connect, rejects_eq, valid, agree, isWrapper, installs]
          rfl
      | true =>
      cases starts : calls.starts with
      | false =>
          have threw : ∃ what,
              socket.perform numbering inetPton (.connect host port calls) =
                some (.error (.runtimeError what), socket) := by
            rw [perform, connect, rejects_eq, valid, agree, isWrapper, installs, starts]
            exact ⟨_, rfl⟩
          obtain ⟨what, threw⟩ := threw
          refine .throws threw (by simp) ?_
          rw [ordered, CaptureCalls.Ends, installs, starts]
          simp
      | true =>
          refine .starts ?_ agree starts ?_
          · rw [perform, connect, rejects_eq, valid, agree, isWrapper, installs, starts]
            rfl
          · rw [ordered, installs, starts]
            simp

/-- Behind the start of the thread, everything is up to the base class. -/
theorem manages_connect_of_starts
    (coherent : socket.Coherent)
    (performed : socket.perform numbering inetPton (.connect host port calls) =
      some ((socket.toTimingSocket.connect numbering host port calls.network).1,
        socket.started
          (socket.toTimingSocket.connect numbering host port calls.network).2))
    (initialized : socket.pcapInitialized)
    (starts : calls.starts) :
    socket.Manages numbering inetPton (.connect host port calls) ↔
      calls.Ends ∨ ¬socket.Connected ∧ calls.network.Reachable := by
  have kept := @Coherent.starts Address numbering socket host port calls coherent initialized
  have outcome := socket.toTimingSocket.connect_outcome numbering host port calls.network
  generalize socket.toTimingSocket.connect numbering host port calls.network = call
    at outcome performed kept
  cases outcome with
  | aborted reachable failed =>
      exact iff_of_true (manages_of_terminate performed) (Or.inl ⟨starts, reachable, failed⟩)
  | connected found watched =>
      rw [manages_iff_agrees performed]
      constructor
      · intro agrees
        refine Or.inr ⟨?_, found.reachable⟩
        intro isConnected
        have alone := agrees.alone
        rw [threads_started, threads,
          ownThreads_of_capturing (coherent.capturing_iff.mpr isConnected)] at alone
        omega
      · exact fun ordered => (kept ordered (by simp)).agrees
  | refused unreachable state opened =>
      rw [manages_iff performed]
      constructor
      · intro managed
        have none := (managed (by simp)).2 host port calls _ rfl rfl
        rw [threads_started] at none
        omega
      · rintro (⟨_, reachable, _⟩ | ⟨_, reachable⟩)
        · exact absurd reachable unreachable
        · exact absurd reachable unreachable

theorem manages_connect_iff (coherent : socket.Coherent) :
    socket.Manages numbering inetPton (.connect host port calls) ↔
      socket.Ordered inetPton (.connect host port calls) := by
  cases connect_cases numbering inetPton coherent.initialized host port calls with
  | ends performed ordered => exact iff_of_true (manages_of_terminate performed) ordered
  | undefined performed disordered => exact iff_of_false (not_manages performed) disordered
  | throws performed survived ordered =>
      rw [manages_connect_of_throw coherent performed survived, ordered]
  | starts performed initialized starts ordered =>
      rw [manages_connect_of_starts coherent performed initialized starts, ordered]

end Connect

/-- Under the invariant, the calls that are managed are the ordered ones. -/
theorem manages_iff_ordered (coherent : socket.Coherent) (call : PCAPCall Address) :
    socket.Manages numbering inetPton call ↔ socket.Ordered inetPton call := by
  cases call with
  | initPcap device opens => exact manages_initPcap_iff coherent device opens
  | connect host port calls => exact manages_connect_iff coherent
  | read received => exact iff_of_true (manages_read coherent received) trivial
  | write sent => exact iff_of_true (manages_write coherent sent) trivial
  | close => exact manages_close_iff coherent
  | loopReturns => exact manages_loopReturns_iff coherent

/-! ## Runs -/

/-- Ordered calls keep the invariant. -/
theorem Coherent.step
    (coherent : socket.Coherent)
    (ordered : socket.Ordered inetPton call)
    (stepped : socket.step numbering inetPton call = some next) : next.Coherent := by
  obtain ⟨result, performed, survived⟩ := goesOn_eq_some_iff.mp stepped
  cases call with
  | initPcap device opens =>
      cases opens with
      | false =>
          cases performed
          exact absurd rfl survived
      | true =>
          cases performed
          exact coherent.initPcap (ordered rfl) device
  | connect host port calls =>
      cases connect_cases numbering inetPton coherent.initialized host port calls with
      | ends other _ =>
          rw [other] at performed
          cases performed
          exact absurd rfl survived
      | undefined other _ =>
          rw [other] at performed
          cases performed
      | throws other _ _ =>
          rw [other] at performed
          cases performed
          exact coherent
      | starts other initialized _ asks =>
          rw [other] at performed
          cases performed
          exact coherent.starts initialized (asks.mp ordered) survived
  | read received =>
      obtain ⟨_, _, same⟩ := Option.map_eq_some_iff.mp performed
      cases same
      exact coherent
  | write sent =>
      obtain ⟨_, _, same⟩ := Option.map_eq_some_iff.mp performed
      cases same
      exact coherent
  | close =>
      obtain ⟨same, closed⟩ := coherent.close ordered
      rw [perform, same, Option.map_some] at performed
      cases performed
      exact closed
  | loopReturns =>
      cases performed
      rw [coherent.loopReturns_eq ordered]
      exact coherent

end Calls

/-- Without `initPcap`, `connect` announces that it falls back to the default device, and
dereferences the null pointer. -/
theorem not_along_manages_fallback :
    ¬Machine.Along
      (step .ascending NetworkTiming.PCAPTimingSocket.documentationPton)
      (Manages .ascending NetworkTiming.PCAPTimingSocket.documentationPton)
      (created 0 0 0 : PCAPTimingSocket Nat)
      [.connect "2001:db8::1" 443
        ⟨true, true, true, ⟨some [⟨1, fun _ => ⟨true, true⟩⟩], .enabled⟩⟩] := by
  have valid : isAddress NetworkTiming.PCAPTimingSocket.documentationPton "2001:db8::1" =
      true := by
    decide
  rw [Machine.along_cons]
  rintro ⟨managed, _⟩
  refine not_manages ?_ managed
  rw [perform, connect, rejects_eq, valid]
  rfl

/-- In every sequence of calls on a new socket, all calls are defined and keep the thread
and the connection in agreement if and only if they are ordered. -/
theorem along_manages_iff_ordered
    (sock epfd port : Int)
    (calls : List (PCAPCall Address)) :
    Machine.Along (step numbering inetPton) (Manages numbering inetPton)
        (created sock epfd port) calls ↔
      Machine.Along (step numbering inetPton) (Ordered inetPton)
        (created sock epfd port) calls :=
  Machine.along_congr_of_forall (coherent_created sock epfd port)
    (fun _ _ _ coherent ordered stepped => coherent.step ordered stepped)
    fun _ call coherent => manages_iff_ordered coherent call

end PCAPTimingSocket

end Socket

end NetworkTiming
