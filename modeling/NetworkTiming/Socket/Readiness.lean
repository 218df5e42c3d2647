import NetworkTiming.Socket.CaptureThread
import NetworkTiming.Socket.KernelTimingSocket

/-!
# When a socket is ready

Writing asks whether a socket has been established, and so does reading, except with kernel
timestamps.  The virtual `connect` of each technique connects the base class somewhere in
the middle, and what goes wrong behind that is not undone.
-/

namespace NetworkTiming

namespace Socket

/-! ## Kernel timestamps -/

/-- The part of a `KernelTimingSocket` that connecting uses. -/
structure KernelTimingSocket (Address : Type) extends TimingSocket Address where
  device : String
  deviceSupportsHardwareTimestamping : Bool
  tstampSource : TstampSource

/-- Outcomes of the calls of `KernelTimingSocket::connect`. -/
structure KernelCalls (Address : Type) where
  network : Network Address
  /-- The driver already has hardware timestamping enabled. -/
  enabled : Bool
  /-- Hardware timestamping can be enabled in the driver. -/
  enables : Bool
  /-- The socket accepts the options for hardware timestamps. -/
  acceptsHardware : Bool
  /-- The socket accepts the options for software timestamps. -/
  acceptsSoftware : Bool

/-- The socket accepts neither options that are tried. -/
def KernelCalls.Refuses (calls : KernelCalls Address) : Prop :=
  ¬((calls.enabled ∨ calls.enables) ∧ calls.acceptsHardware) ∧ ¬calls.acceptsSoftware

namespace KernelTimingSocket

variable {Address : Type} (numbering : DescriptorNumbering)

/-- `initializeDeviceForHardwareTimestamping`. -/
def initializeDeviceForHardwareTimestamping
    (socket : KernelTimingSocket Address)
    (calls : KernelCalls Address) : KernelTimingSocket Address :=
  if calls.enabled then { socket with deviceSupportsHardwareTimestamping := true }
  else { socket with deviceSupportsHardwareTimestamping := calls.enables }

/-- `initializeSocketForHardwareTimestamping`. -/
def initializeSocketForHardwareTimestamping
    (socket : KernelTimingSocket Address)
    (calls : KernelCalls Address) : Except Fault Unit × KernelTimingSocket Address :=
  if socket.deviceSupportsHardwareTimestamping && calls.acceptsHardware then
    (.ok (), { socket with tstampSource := .hardware })
  else if calls.acceptsSoftware then
    (.ok (), { socket with tstampSource := .software })
  else
    (.error (.runtimeError "Unable to enable timestamping on the socket"), socket)

/-- Connections to the host are made on the loopback device. -/
def OnLoopback (socket : KernelTimingSocket Address) (host : String) : Prop :=
  host = "127.0.0.1" ∨ host = "::1" ∨ socket.device = "lo"

instance (socket : KernelTimingSocket Address) (host : String) :
    Decidable (socket.OnLoopback host) :=
  inferInstanceAs (Decidable (_ ∨ _ ∨ _))

/-- `KernelTimingSocket::connect`. -/
def connect
    (socket : KernelTimingSocket Address)
    (host : String) (port : UInt16)
    (calls : KernelCalls Address) : Except Fault Unit × KernelTimingSocket Address :=
  if socket.OnLoopback host then
    (.error (.invalidArgument "kernel timestamping on loopback does not work"), socket)
  else
    match socket.toTimingSocket.connect numbering host port calls.network with
    | (.error fault, connected) =>
        (.error fault, { socket with toTimingSocket := connected })
    | (.ok (), connected) =>
        let socket := { socket with toTimingSocket := connected }
        let socket := socket.initializeDeviceForHardwareTimestamping calls
        socket.initializeSocketForHardwareTimestamping calls

/-- The state of the driver decides which options are tried first. -/
theorem initializeDevice_eq (socket : KernelTimingSocket Address) (calls : KernelCalls Address) :
    socket.initializeDeviceForHardwareTimestamping calls =
      { socket with
        deviceSupportsHardwareTimestamping := calls.enabled || calls.enables } := by
  unfold initializeDeviceForHardwareTimestamping
  cases calls.enabled with
  | false => rfl
  | true => rfl

/-- Setting the options does not change the connection, and throws if both are refused. -/
inductive Initialized
    (socket : KernelTimingSocket Address)
    (calls : KernelCalls Address) :
    Except Fault Unit × KernelTimingSocket Address → Prop
  | accepted {next : KernelTimingSocket Address} :
      next.toTimingSocket = socket.toTimingSocket →
      ¬calls.Refuses →
      Initialized socket calls (.ok (), next)
  | refused {what : String} {next : KernelTimingSocket Address} :
      next.toTimingSocket = socket.toTimingSocket →
      calls.Refuses →
      Initialized socket calls (.error (.runtimeError what), next)

theorem initialized (socket : KernelTimingSocket Address) (calls : KernelCalls Address) :
    Initialized socket calls
      (initializeSocketForHardwareTimestamping
        (socket.initializeDeviceForHardwareTimestamping calls) calls) := by
  rw [initializeDevice_eq]
  unfold initializeSocketForHardwareTimestamping
  by_cases hardware : (calls.enabled || calls.enables) && calls.acceptsHardware
  · rw [if_pos hardware]
    refine .accepted rfl ?_
    simp only [Bool.and_eq_true, Bool.or_eq_true] at hardware
    exact fun refuses => refuses.1 hardware
  · rw [if_neg hardware]
    simp only [Bool.and_eq_true, Bool.or_eq_true] at hardware
    by_cases software : calls.acceptsSoftware
    · rw [if_pos software]
      exact .accepted rfl fun refuses => refuses.2 software
    · rw [if_neg software]
      exact .refused rfl ⟨hardware, software⟩

end KernelTimingSocket

/-! ## All techniques -/

/-- The object of a technique. -/
@[reducible] def Object (Address : Type) : KindOfSocket → Type
  | .cpu => TimingSocket Address
  | .kernel => KernelTimingSocket Address
  | .pcap => PCAPTimingSocket Address

/-- Outcomes of the calls of the `connect` of a technique. -/
@[reducible] def ConnectCalls (Address : Type) : KindOfSocket → Type
  | .cpu => Network Address
  | .kernel => KernelCalls Address
  | .pcap => CaptureCalls Address

/-- The calls that a socket receives, with what they come to. -/
inductive VirtualCall (Address : Type) (kind : KindOfSocket)
  | connect (host : String) (port : UInt16) (calls : ConnectCalls Address kind)
  | close
  | read (received : Except Fault TimingProxy.Received)
  | write (sent : Except Fault Unit)

namespace Object

variable {Address : Type} {kind : KindOfSocket}
  (numbering : DescriptorNumbering) (inetPton : InetPton)

/-- The fields of the base class. -/
def base : {kind : KindOfSocket} → Object Address kind → TimingSocket Address
  | .cpu, object => object
  | .kernel, object => object.toTimingSocket
  | .pcap, object => object.toTimingSocket

/-- The virtual `connect`. -/
def connect : {kind : KindOfSocket} → Object Address kind →
    String → UInt16 → ConnectCalls Address kind →
      Option (Except Fault Unit × Object Address kind)
  | .cpu, object, host, port, network =>
      some (TimingSocket.connect numbering object host port network)
  | .kernel, object, host, port, calls =>
      some (KernelTimingSocket.connect numbering object host port calls)
  | .pcap, object, host, port, calls =>
      PCAPTimingSocket.connect numbering inetPton object host port calls

/-- The virtual `close`. -/
def close : {kind : KindOfSocket} → Object Address kind → Option (Object Address kind)
  | .cpu, object => some (TimingSocket.close object)
  | .kernel, object =>
      some { object with toTimingSocket := object.toTimingSocket.close }
  | .pcap, object => PCAPTimingSocket.close object

/-- The virtual `read`. -/
def read : {kind : KindOfSocket} → Object Address kind →
    Except Fault TimingProxy.Received → Option (Except Fault TimingProxy.Received)
  | .cpu, object, received => some (TimingSocket.read object received)
  -- the state is not asked for
  | .kernel, _, received => some received
  | .pcap, object, received => PCAPTimingSocket.read object received

/-- The virtual `write`. -/
def write : {kind : KindOfSocket} → Object Address kind →
    Except Fault Unit → Option (Except Fault Unit)
  | .cpu, object, sent => some (TimingSocket.write object sent)
  | .kernel, object, sent => some (object.toTimingSocket.write sent)
  | .pcap, object, sent => PCAPTimingSocket.write object sent

/-- Whether a call returns, and the object behind it; `none` if its behaviour is
undefined. -/
def perform (object : Object Address kind) :
    VirtualCall Address kind → Option (Except Fault Unit × Object Address kind)
  | .connect host port calls => object.connect numbering inetPton host port calls
  | .close => object.close.map fun closed => (.ok (), closed)
  | .read received =>
      (object.read received).map fun result => (result.map fun _ => (), object)
  | .write sent => (object.write sent).map fun result => (result, object)

/-- A call after which the program goes on. -/
def step (object : Object Address kind) (call : VirtualCall Address kind) :
    Option (Object Address kind) :=
  goesOn (object.perform numbering inetPton call)

/-! ## What is asked of a call -/

/-- `read` does not get to receive: whatever there is, it throws. -/
def RefusesToRead (object : Object Address kind) : Prop :=
  ∃ fault, ∀ received, object.read received = some (.error fault)

/-- `write` does not get to send. -/
def RefusesToWrite (object : Object Address kind) : Prop :=
  ∃ fault, ∀ sent, object.write sent = some (.error fault)

/-- Neither `read` nor `write` regards the socket as ready. -/
def Unready (object : Object Address kind) : Prop :=
  object.RefusesToRead ∧ object.RefusesToWrite

/-- What the base class throws leaves the `write` of every technique. -/
theorem write_of_base
    {object : Object Address kind} {sent : Except Fault Unit} {fault : Fault}
    (threw : object.base.write sent = .error fault) :
    object.write sent = some (.error fault) := by
  cases kind with
  | cpu => exact congrArg some threw
  | kernel => exact congrArg some threw
  | pcap =>
      change object.toTimingSocket.write sent = _ at threw
      rw [write, PCAPTimingSocket.write, threw]

/-- A socket that is not established does not get to send. -/
theorem refusesToWrite_iff (object : Object Address kind) :
    object.RefusesToWrite ↔ object.base.state ≠ .established := by
  constructor
  · rintro ⟨fault, refuses⟩ established
    have passesOn (sent : Fault) : object.write (.error sent) = some (.error sent) :=
      write_of_base (TimingSocket.write_of_established established _)
    cases (passesOn .terminate).symm.trans (refuses _)
    cases (passesOn (.runtimeError "")).symm.trans (refuses _)
  · intro unestablished
    exact ⟨_, fun sent => write_of_base (TimingSocket.write_of_unestablished unestablished sent)⟩

/-- So does what it throws leave a `read` that calls the base class. -/
theorem read_of_base
    {object : Object Address kind} {received : Except Fault TimingProxy.Received}
    {fault : Fault} (asks : kind ≠ .kernel)
    (threw : object.base.read received = .error fault) :
    object.read received = some (.error fault) := by
  cases kind with
  | cpu => exact congrArg some threw
  | kernel => exact absurd rfl asks
  | pcap =>
      change object.toTimingSocket.read received = _ at threw
      rw [read, PCAPTimingSocket.read, threw]

/-- A socket that is not established does not get to receive, unless it has kernel
timestamps. -/
theorem refusesToRead_iff (object : Object Address kind) :
    object.RefusesToRead ↔ kind ≠ .kernel ∧ object.base.state ≠ .established := by
  constructor
  · rintro ⟨fault, refuses⟩
    have asks : kind ≠ .kernel := by
      rintro rfl
      cases refuses (.ok .closed)
    refine ⟨asks, fun established => ?_⟩
    have passesOn (failed : Fault) : object.read (.error failed) = some (.error failed) :=
      read_of_base asks (TimingSocket.read_of_established established _)
    cases (passesOn .terminate).symm.trans (refuses _)
    cases (passesOn (.runtimeError "")).symm.trans (refuses _)
  · rintro ⟨asks, unestablished⟩
    exact ⟨_, fun received =>
      read_of_base asks (TimingSocket.read_of_unestablished unestablished received)⟩

/-- A socket is unready if it is not established, and its `read` asks for that. -/
theorem unready_iff (object : Object Address kind) :
    object.Unready ↔ kind ≠ .kernel ∧ object.base.state ≠ .established := by
  rw [Unready, refusesToRead_iff, refusesToWrite_iff, and_assoc, and_self]

/-- With kernel timestamps, `read` goes on to receive whatever has become of `connect`. -/
example (object : Object Address .kernel) : ¬object.Unready :=
  fun unready => ((unready_iff object).mp unready).1 rfl

/-- What the calls of the base class come to. -/
def network : {kind : KindOfSocket} → ConnectCalls Address kind → Network Address
  | .cpu, network => network
  | .kernel, calls => calls.network
  | .pcap, calls => calls.network

/-- A call has left the state and the descriptors in agreement, and a call of `connect`
that throws does not leave a socket that can be read from or written to. -/
def Reliable (object : Object Address kind) (call : VirtualCall Address kind) : Prop :=
  ∀ result next, object.perform numbering inetPton call = some (result, next) →
    result ≠ .error .terminate →
    next.base.Consistent ∧
      ∀ host port calls fault, call = .connect host port calls →
        result = .error fault → next.Unready

/-- Nothing goes wrong in a call of `connect` that the technique could not stand.  What is
read with kernel timestamps is received whether or not the socket is connected, so that
for them nothing may go wrong. -/
def Bears : {kind : KindOfSocket} → Object Address kind →
    (host : String) → ConnectCalls Address kind → Prop
  | .cpu, _, _, _ => True
  | .kernel, object, host, calls =>
      ¬object.OnLoopback host ∧ calls.network.Reachable ∧ ¬calls.Refuses
  | .pcap, _, _, _ => True

/-- `connect` is called while the socket is not established, and nothing goes wrong that
the technique could not stand. -/
def Fair (object : Object Address kind) : VirtualCall Address kind → Prop
  | .connect host _ calls => object.base.state ≠ .established ∧ object.Bears host calls
  | .close | .read _ | .write _ => True

/-- What a call of `connect` that does not end the program does to the base class. -/
inductive ConnectEffect
    (object : Object Address kind)
    (calls : ConnectCalls Address kind) :
    Except Fault Unit → Object Address kind → Prop
  /-- The call throws in front of the connection. -/
  | early {fault : Fault} {next : Object Address kind} :
      next.base = object.base →
      ConnectEffect object calls (.error fault) next
  /-- The call ends with the connection. -/
  | made {result : Except Fault Unit} {next : Object Address kind} :
      TimingSocket.Outcome numbering object.base (network calls) (result, next.base) →
      ConnectEffect object calls result next
  /-- The call throws behind the connection. -/
  | late {fault : Fault} {next : Object Address kind} :
      kind = .kernel →
      TimingSocket.Outcome numbering object.base (network calls) (.ok (), next.base) →
      ConnectEffect object calls (.error fault) next

theorem pcap_connect_effect
    {object next : PCAPTimingSocket Address}
    {host : String} {port : UInt16} {calls : CaptureCalls Address}
    {result : Except Fault Unit}
    (connected : object.connect numbering inetPton host port calls = some (result, next))
    (survived : result ≠ .error .terminate) :
    @ConnectEffect Address .pcap numbering object calls result next := by
  have outcome := object.toTimingSocket.connect_outcome numbering host port calls.network
  unfold PCAPTimingSocket.connect at connected
  split at connected
  · cases connected
    exact .early rfl
  split at connected
  · cases connected
    exact absurd rfl survived
  split at connected
  · cases connected
  split at connected
  · cases connected
    exact absurd rfl survived
  split at connected
  · cases connected
    exact .early rfl
  · cases connected
    exact .made outcome

/-- With kernel timestamps, a call bears what goes wrong exactly if nothing does. -/
theorem kernel_connect_effect
    {object next : KernelTimingSocket Address}
    {host : String} {port : UInt16} {calls : KernelCalls Address}
    {result : Except Fault Unit}
    (connected : object.connect numbering host port calls = (result, next))
    (survived : result ≠ .error .terminate) :
    @ConnectEffect Address .kernel numbering object calls result next ∧
      (@Bears Address .kernel object host calls ↔ result = .ok ()) := by
  have outcome := object.toTimingSocket.connect_outcome numbering host port calls.network
  unfold KernelTimingSocket.connect at connected
  by_cases loopback : object.OnLoopback host
  · rw [if_pos loopback] at connected
    cases connected
    exact ⟨.early rfl, iff_of_false (fun bears => bears.1 loopback) nofun⟩
  rw [if_neg loopback] at connected
  generalize object.toTimingSocket.connect numbering host port calls.network = call
    at outcome connected
  cases id outcome with
  | aborted _ _ =>
      cases connected
      exact absurd rfl survived
  | refused unreachable _ _ =>
      cases connected
      exact ⟨.made outcome, iff_of_false (fun bears => unreachable bears.2.1) nofun⟩
  | @connected middle found _ =>
      have initialized := KernelTimingSocket.initialized
        { object with toTimingSocket := middle.watched numbering } calls
      change KernelTimingSocket.initializeSocketForHardwareTimestamping
        (KernelTimingSocket.initializeDeviceForHardwareTimestamping
          { object with toTimingSocket := middle.watched numbering } calls) calls = _
        at connected
      rw [connected] at initialized
      cases initialized with
      | accepted same accepts =>
          refine ⟨.made ?_, iff_of_true ⟨loopback, found.reachable, accepts⟩ rfl⟩
          change TimingSocket.Outcome _ _ _ (_, next.toTimingSocket)
          rw [same]
          exact outcome
      | refused same refuses =>
          refine ⟨.late rfl ?_, iff_of_false (fun bears => bears.2.2 refuses) nofun⟩
          change TimingSocket.Outcome _ _ _ (_, next.toTimingSocket)
          rw [same]
          exact outcome

/-- Every call of `connect` has one of these effects. -/
theorem connect_effect
    {object next : Object Address kind}
    {host : String} {port : UInt16} {calls : ConnectCalls Address kind}
    {result : Except Fault Unit}
    (connected : object.connect numbering inetPton host port calls = some (result, next))
    (survived : result ≠ .error .terminate) :
    ConnectEffect numbering object calls result next := by
  cases kind with
  | cpu =>
      have outcome := TimingSocket.connect_outcome numbering object host port calls
      have same : TimingSocket.connect numbering object host port calls = (result, next) :=
        Option.some.inj connected
      rw [same] at outcome
      exact .made outcome
  | kernel => exact (kernel_connect_effect numbering (Option.some.inj connected) survived).1
  | pcap => exact pcap_connect_effect numbering inetPton connected survived

/-- A call bears what goes wrong in it exactly if it returns or `read` asks for the
state. -/
theorem bears_iff
    {object next : Object Address kind}
    {host : String} {port : UInt16} {calls : ConnectCalls Address kind}
    {result : Except Fault Unit}
    (connected : object.connect numbering inetPton host port calls = some (result, next))
    (survived : result ≠ .error .terminate) :
    object.Bears host calls ↔ kind ≠ .kernel ∨ result = .ok () := by
  cases kind with
  | cpu => exact iff_of_true trivial (.inl nofun)
  | kernel =>
      have returns := (kernel_connect_effect numbering (Option.some.inj connected) survived).2
      rw [returns]
      simp
  | pcap => exact iff_of_true trivial (.inl nofun)

/-! ## Runs -/

/-- A second connection leaves a descriptor of the first one open. -/
theorem not_consistent_of_reconnect
    {before middle : TimingSocket Address}
    {candidates : Option (List (Candidate Address))}
    (settled : before.Settled)
    (established : before.state = .established)
    (found : TimingSocket.Found before candidates middle) :
    ¬(middle.watched numbering).Consistent := by
  intro consistent
  cases settled with
  | idle unestablished _ => exact unestablished established
  | @ready sock _ _ _ _ _ _ opened =>
      obtain ⟨_, _, _, _, _, _, establishes⟩ := found
      have isOpen : sock ∈ before.descriptors.opened := by
        rw [opened]
        simp
      have stillOpen : sock ∈ middle.descriptors.opened := by
        rw [establishes.opened]
        simp [isOpen]
      have remains : sock ∈ (middle.watched numbering).descriptors.opened := by
        change sock ∈ middle.descriptors.opened.insert _ _
        simp [stillOpen]
      rcases consistent.held sock remains with isSock | isEpfd
      · apply establishes.new
        change middle.sock = sock at isSock
        rw [isSock]
        exact isOpen
      · apply middle.descriptors.next_notMem numbering
        change (middle.descriptors.next numbering : Int) = sock at isEpfd
        rw [Int.natCast_inj.mp isEpfd]
        exact stillOpen

/-- On a settled socket, a call of `connect` that the program survives is reliable if and
only if it is fair. -/
theorem reliable_connect_iff
    {object next : Object Address kind}
    {host : String} {port : UInt16} {calls : ConnectCalls Address kind}
    {result : Except Fault Unit}
    (settled : object.base.Settled)
    (connected : object.connect numbering inetPton host port calls = some (result, next))
    (survived : result ≠ .error .terminate) :
    object.Reliable numbering inetPton (.connect host port calls) ↔
      object.Fair (.connect host port calls) := by
  have asked : object.Reliable numbering inetPton (.connect host port calls) ↔
      next.base.Consistent ∧
        ∀ fault, result = .error fault →
          kind ≠ .kernel ∧ next.base.state ≠ .established := by
    constructor
    · intro reliable
      obtain ⟨consistent, unready⟩ := reliable result next connected survived
      refine ⟨consistent, fun fault threw => ?_⟩
      exact (unready_iff next).mp (unready host port calls fault rfl threw)
    · rintro ⟨consistent, unready⟩ other after performed _
      cases connected.symm.trans performed
      exact ⟨consistent, fun _ _ _ fault _ threw => (unready_iff next).mpr (unready fault threw)⟩
  rw [asked, Fair, bears_iff numbering inetPton connected survived]
  cases connect_effect numbering inetPton connected survived with
  | early same =>
      rw [same]
      constructor
      · rintro ⟨_, unready⟩
        obtain ⟨asks, unestablished⟩ := unready _ rfl
        exact ⟨unestablished, .inl asks⟩
      · rintro ⟨unestablished, bears⟩
        exact ⟨settled.consistent, fun _ _ => ⟨bears.resolve_right nofun, unestablished⟩⟩
  | made outcome =>
      generalize next.base = after at outcome ⊢
      cases id outcome with
      | aborted _ _ => exact absurd rfl survived
      | connected found _ =>
          constructor
          · rintro ⟨consistent, _⟩
            refine ⟨fun established => ?_, .inr rfl⟩
            exact not_consistent_of_reconnect numbering settled established found consistent
          · rintro ⟨unestablished, _⟩
            exact ⟨(outcome.settled numbering settled unestablished survived).consistent,
              nofun⟩
      | refused _ state _ =>
          constructor
          · rintro ⟨_, unready⟩
            obtain ⟨asks, unestablished⟩ := unready _ rfl
            exact ⟨state ▸ unestablished, .inl asks⟩
          · rintro ⟨unestablished, bears⟩
            refine ⟨(outcome.settled numbering settled unestablished survived).consistent, ?_⟩
            rintro _ -
            rw [state]
            exact ⟨bears.resolve_right nofun, unestablished⟩
  | late isKernel _ =>
      apply iff_of_false
      · rintro ⟨_, unready⟩
        exact (unready _ rfl).1 isKernel
      · rintro ⟨_, bears⟩
        exact bears.resolve_right nofun isKernel

/-- Every technique closes the base class. -/
theorem base_of_close
    {object closed : Object Address kind}
    (same : object.close = some closed) : closed.base = object.base.close := by
  cases kind with
  | cpu =>
      cases same
      rfl
  | kernel =>
      cases same
      rfl
  | pcap =>
      change PCAPTimingSocket.close object = some closed at same
      rw [PCAPTimingSocket.close] at same
      split at same
      · cases same
      · obtain ⟨_, _, rfl⟩ := Option.map_eq_some_iff.mp same
        rfl

/-- The other calls keep a socket settled. -/
theorem settled_of_perform
    {object next : Object Address kind} {call : VirtualCall Address kind}
    {result : Except Fault Unit}
    (settled : object.base.Settled)
    (other : ∀ host port calls, call ≠ .connect host port calls)
    (performed : object.perform numbering inetPton call = some (result, next)) :
    next.base.Settled := by
  cases call with
  | connect host port calls => exact absurd rfl (other host port calls)
  | close =>
      obtain ⟨closed, same, ended⟩ := Option.map_eq_some_iff.mp performed
      cases ended
      rw [base_of_close same]
      exact settled.close
  | read received =>
      obtain ⟨_, _, ended⟩ := Option.map_eq_some_iff.mp performed
      cases ended
      exact settled
  | write sent =>
      obtain ⟨_, _, ended⟩ := Option.map_eq_some_iff.mp performed
      cases ended
      exact settled

theorem reliable_of_ne_connect
    {object : Object Address kind} {call : VirtualCall Address kind}
    (settled : object.base.Settled)
    (other : ∀ host port calls, call ≠ .connect host port calls) :
    object.Reliable numbering inetPton call := by
  intro result next performed _
  refine ⟨(settled_of_perform numbering inetPton settled other performed).consistent, ?_⟩
  intro host port calls _ same
  exact absurd same (other host port calls)

/-- On a settled socket, every step is reliable if and only if it is fair. -/
theorem reliable_iff_fair
    {object next : Object Address kind} {call : VirtualCall Address kind}
    (settled : object.base.Settled)
    (stepped : object.step numbering inetPton call = some next) :
    object.Reliable numbering inetPton call ↔ object.Fair call := by
  obtain ⟨result, performed, survived⟩ := goesOn_eq_some_iff.mp stepped
  cases call with
  | connect host port calls =>
      exact reliable_connect_iff numbering inetPton settled performed survived
  | close => exact iff_of_true (reliable_of_ne_connect _ _ settled (by simp)) trivial
  | read received => exact iff_of_true (reliable_of_ne_connect _ _ settled (by simp)) trivial
  | write sent => exact iff_of_true (reliable_of_ne_connect _ _ settled (by simp)) trivial

/-- Fair steps keep a socket settled. -/
theorem settled_of_step
    {object next : Object Address kind} {call : VirtualCall Address kind}
    (settled : object.base.Settled)
    (fair : object.Fair call)
    (stepped : object.step numbering inetPton call = some next) : next.base.Settled := by
  obtain ⟨result, performed, survived⟩ := goesOn_eq_some_iff.mp stepped
  cases call with
  | connect host port calls =>
      have bears := (bears_iff numbering inetPton performed survived).mp fair.2
      cases connect_effect numbering inetPton performed survived with
      | early same =>
          rw [same]
          exact settled
      | made outcome => exact outcome.settled numbering settled fair.1 survived
      | late isKernel _ => exact absurd isKernel (bears.resolve_right nofun)
  | close => exact settled_of_perform numbering inetPton settled (by simp) performed
  | read received => exact settled_of_perform numbering inetPton settled (by simp) performed
  | write sent => exact settled_of_perform numbering inetPton settled (by simp) performed

/-- The invariant of runs. -/
def Settled (object : Object Address kind) : Prop := object.base.Settled

/-- In every run of a new socket, all calls are reliable if and only if all are fair. -/
theorem along_reliable_iff_fair
    {sock epfd port : Int}
    {object final : Object Address kind}
    (calls : List (VirtualCall Address kind))
    (new : object.base = .created sock epfd port)
    (reached : Machine.run (step numbering inetPton) object calls = some final) :
    Machine.Along (step numbering inetPton) (Reliable numbering inetPton) object calls ↔
      Machine.Along (step numbering inetPton) Fair object calls := by
  have initially : object.Settled := by
    rw [Settled, new]
    exact TimingSocket.settled_created sock epfd port
  refine Machine.along_congr initially ?_ ?_ reached
  · intro object call next settled fair stepped
    exact settled_of_step numbering inetPton settled fair stepped
  · intro object call next settled stepped
    exact reliable_iff_fair numbering inetPton settled stepped

/-- A call of `connect` for which the address 1 is reached with the first attempt. -/
def connects : VirtualCall Nat .cpu :=
  .connect "localhost" 80 (⟨some [⟨1, fun _ => ⟨true, true⟩⟩], .enabled⟩ : Network Nat)

/-- A call of `connect` for which there is nothing to connect to. -/
def failsToConnect : VirtualCall Nat .cpu :=
  .connect "localhost" 80 (⟨some [], .enabled⟩ : Network Nat)

/-- A socket that is connected twice, and not on the second time. -/
theorem not_along_reliable_reconnect :
    ¬Machine.Along (step .ascending fun _ _ => none) (Reliable .ascending fun _ _ => none)
      (TimingSocket.created 0 0 0 : Object Nat .cpu) [connects, failsToConnect] := by
  rw [Machine.along_cons]
  rintro ⟨_, rest⟩
  have second := rest _ rfl
  rw [Machine.along_cons] at second
  obtain ⟨_, unready⟩ := second.1 _ _ rfl (by simp)
  exact ((unready_iff _).mp (unready _ _ _ _ rfl rfl)).2 rfl

/-- A socket that is connected again behind a failure and behind being closed. -/
theorem along_reliable_reconnect :
    Machine.Along (step .ascending fun _ _ => none) (Reliable .ascending fun _ _ => none)
      (TimingSocket.created 0 0 0 : Object Nat .cpu)
      [failsToConnect, connects, .write (.ok ()), .close, connects] := by
  rw [along_reliable_iff_fair .ascending (fun _ _ => none) _ rfl rfl]
  have uninitialized : SockState.uninitialized ≠ .established := by decide
  have closed : SockState.closed ≠ .established := by decide
  rw [Machine.along_cons]
  refine ⟨⟨uninitialized, trivial⟩, fun next stepped => ?_⟩
  obtain rfl := Option.some.inj stepped
  rw [Machine.along_cons]
  refine ⟨⟨uninitialized, trivial⟩, fun next stepped => ?_⟩
  obtain rfl := Option.some.inj stepped
  rw [Machine.along_cons]
  refine ⟨trivial, fun next stepped => ?_⟩
  obtain rfl := Option.some.inj stepped
  rw [Machine.along_cons]
  refine ⟨trivial, fun next stepped => ?_⟩
  obtain rfl := Option.some.inj stepped
  rw [Machine.along_cons]
  exact ⟨⟨closed, trivial⟩, fun next _ => Machine.along_nil next⟩

end Object

end Socket

end NetworkTiming
