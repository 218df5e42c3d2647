import NetworkTiming.TimingProxy.PeerClosed

/-!
# Exceptions that leave `handleClient`

Only the two forwarding calls of the session loop are within its `try` block, and only
`std::runtime_error` is caught.  An exception from anywhere else ends the service, with
the sockets of the session open.  So does a connection whose peer takes no more bytes, as
`send` raises `SIGPIPE`; and so does, in its way, a control connection that is closed in
front of its second line, which `getline` reads for ever.
-/

namespace NetworkTiming

open TimingProxy

variable {kind : KindOfSocket}

/-- The exceptions that the session loop catches. -/
def Fault.Caught : Fault → Prop
  | .runtimeError _ => True
  | _ => False

namespace Config

/-- The answer makes no call of the session loop raise an exception that is not caught. -/
def Calm (config : Config kind) (answer : Answer kind) : Prop :=
  match config.stage, answer with
  | .timing _ _ _, .thrown fault => fault.Caught
  | .readServer, .failed (.other _) => kind ≠ .kernel
  | .stampRead _, .thrown _ => False
  | .sendClient data, .accepted count =>
      count = data.length → ∀ fault,
        kind.difference config.proxy.tstampPrecision config.proxy.txTimestamp
          config.proxy.rxTimestamp = .error fault → fault.Caught
  | .poll _ _, .failed _ => False
  | _, _ => True

end Config

namespace Config

end Config

namespace Service

variable {inetPton : InetPton}

/-- If the line of the port is complete, it is accepted. -/
def PortAccepted (str : List UInt8) : Prop :=
  newline ∈ str → ∃ port, stoi (line str) = .ok port

/-- If the lines of the host and the port are complete, the port is accepted. -/
def HostAccepted (str : List UInt8) : Prop :=
  newline ∈ str → PortAccepted (tail str)

/-- There is no attempt behind the one for a candidate. -/
def LastAttempt (more : Nat) (retries : Option Nat) : Prop :=
  more = 0 ∧ retries = some 0

/-- The answer makes the call of a stage raise no exception that is not caught, and no
signal, and does not end the stream of the control connection in front of its second
line. -/
def CalmAt (inetPton : InetPton) (service : Service kind) :
    ServiceStage kind → ServiceAnswer kind → Prop
  | .accept _, .failed _ | .createEpoll _, .failed _ | .addEpoll _ _, .failed _ => False
  | .addEpoll .client _, .done => service.refusal inetPton = none
  | .readHost str, .received bytes => HostAccepted (str ++ cString bytes)
  | .readPort str, .received bytes => PortAccepted (str ++ cString bytes)
  | .readHost _, .closed | .readPort _, .closed | .readNothing, .closed => False
  | .readHost _, .failed _ | .readPort _, .failed _ => False
  | .setFilter, .failed _ | .startLoop, .thrown _ | .resolve, .failed _ => False
  | .resolve, .resolved candidates => candidates ≠ 0
  | .openSocket more retries, .failed _ =>
      -- without a socket, the first attempt for a candidate is the only one
      if retries = none then more ≠ 0 else ¬LastAttempt more retries
  | .connectSocket more retries _, .failed _ => ¬LastAttempt more retries
  | .setSoftware, .failed _ => False
  | .session _, .brokenPipe => False
  | .session stage, answer =>
      ∀ given, service.sessionAnswer stage answer = some given →
        Config.Calm ⟨stage, service.proxy⟩ given
  | _, _ => True

/-- The answer to the call that the service waits for is calm. -/
def Calm (inetPton : InetPton) (service : Service kind) (answer : ServiceAnswer kind) :
    Prop :=
  service.CalmAt inetPton service.stage answer

/-- The service goes on to its next client no more: an exception has left `handleClient`, a
signal has ended the process, or `getline` reads the end of a stream for ever. -/
def Broken (service : Service kind) : Prop :=
  match service.stage with
  | .raised _ | .killed _ | .readNothing => True
  | _ => False

/-- A broken service stays broken. -/
theorem Broken.step
    {service next : Service kind} {answer : ServiceAnswer kind}
    (broken : service.Broken) (stepped : service.step inetPton answer = some next) :
    next.Broken := by
  have moves := moves_of_stepAt stepped
  unfold Broken at broken
  generalize service.stage = stage at broken moves
  cases moves with
  | controlClosed => exact trivial
  | controlFailed reading =>
      rcases reading with ⟨str, rfl | rfl⟩ <;> exact broken.elim
  | configured configuring => rcases configuring with rfl | rfl <;> exact broken.elim
  | noHardware trying => rcases trying with rfl | rfl <;> exact broken.elim
  | optionSet setting => rcases setting with rfl | rfl <;> exact broken.elim
  | _ => exact broken.elim

/-! ## What is closed -/

/-- The descriptors that a session may have opened in front of a stage. -/
def owned (service : Service kind) : ServiceStage kind → List Nat
  | .accept .control => []
  | .createEpoll .control => [service.control.sock]
  | .addEpoll .control epfd => [service.control.sock, epfd]
  | .readHost _ | .readPort _ | .readNothing | .accept .client =>
      service.control.descriptors
  | .createEpoll .client => service.control.descriptors ++ [service.proxyInput.sock]
  | .addEpoll .client epfd =>
      service.control.descriptors ++ [service.proxyInput.sock, epfd]
  | .setFilter | .startLoop | .resolve | .openSocket _ _ | .accept .server =>
      service.control.descriptors ++ service.proxyInput.descriptors
  | .connectSocket _ _ fd =>
      service.control.descriptors ++ service.proxyInput.descriptors ++ [fd]
  | .createEpoll .server =>
      service.control.descriptors ++ service.proxyInput.descriptors ++
        [service.proxyOutput.sock]
  | .addEpoll .server epfd =>
      service.control.descriptors ++ service.proxyInput.descriptors ++
        [service.proxyOutput.sock, epfd]
  | .getConfig | .setConfig | .setHardware | .setSoftware | .session _ =>
      service.control.descriptors ++ service.proxyInput.descriptors ++
        service.proxyOutput.descriptors
  | .raised _ | .killed _ => service.opened

/-- The target `a:80` is read and connected to, and the server closes its connection. -/
def closedByServer : List (ServiceAnswer .cpu) :=
  [.descriptor 5, .descriptor 6, .done, .received [97, 10, 56, 48, 10],
    .descriptor 7, .descriptor 8, .done, .resolved 1, .descriptor 9, .done,
    .descriptor 10, .done, .returns (.failed .again), .returns .closed,
    .pending [], .pending [], .pending []]

/-- A server that has gone when the request is sent takes the service with it. -/
example : ∃ final, Machine.run (step noAddress) listeningService
      (closedByServer.take 12 ++ [.returns (.received [71]), .brokenPipe]) = some final ∧
    final.stage = .killed (.sendServer [71] []) :=
  ⟨_, rfl, rfl⟩

end Service

end NetworkTiming
