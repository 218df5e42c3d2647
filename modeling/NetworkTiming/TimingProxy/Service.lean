import NetworkTiming.Socket.RemoteAddress
import NetworkTiming.TimingProxy.ProxyTarget
import NetworkTiming.TimingProxy.Stages

/-!
# The service

`TimingProxy::run` serves one client after another.  A session is set up by accepting
two connections, reading the target from one of them, and connecting to it; each
connection has an epoll descriptor of its own, which is asked behind each iteration of
the session loop.  As in `Stages`, the calls are answered one by one.
-/

namespace NetworkTiming

open TimingProxy

/-- An epoll descriptor with the one descriptor that `epoll_ctl` has registered on it. -/
structure Watch where
  epfd : Nat
  /-- The descriptor that is watched. -/
  watched : Nat
  /-- `event.data.fd`. -/
  data : Nat
  deriving DecidableEq, Repr

/-- `epoll_wait` reports an error or a hang-up of what is registered, while some
descriptors have one pending. -/
def Watch.reports (watch : Watch) (descriptors : List Nat) : Bool :=
  watch.watched ∈ descriptors

/-- A connection of a session. -/
structure Connection where
  /-- The descriptor of the connection. -/
  sock : Nat
  /-- The epoll descriptor of the connection, once it has one. -/
  watch : Option Watch
  deriving DecidableEq, Repr

/-- `socketPeerClosed`, while some descriptors have an error or a hang-up pending. -/
def Connection.socketPeerClosed
    (connection : Connection) (descriptors : List Nat) : Bool :=
  connection.watch.any fun watch => watch.reports descriptors

/-- The descriptors that closing a connection closes. -/
def Connection.descriptors (connection : Connection) : List Nat :=
  connection.sock :: connection.watch.toList.map Watch.epfd

/-- What the service waits for. -/
inductive ServiceStage (kind : KindOfSocket)
  /-- `accept` of the control connection, or of that of the client. -/
  | accept (peer : Peer)
  /-- `epoll_create1` for a connection. -/
  | createEpoll (peer : Peer)
  /-- `epoll_ctl` for a connection. -/
  | addEpoll (peer : Peer) (epfd : Nat)
  /-- `recv` in the first `getline`. -/
  | readHost (str : List UInt8)
  /-- `recv` in the second `getline`. -/
  | readPort (str : List UInt8)
  /-- `recv` in `getline` at the end of the stream, which returns 0 again and again. -/
  | readNothing
  /-- `pcap_compile` and `pcap_setfilter`. -/
  | setFilter
  /-- The start of the thread that captures. -/
  | startLoop
  /-- `getaddrinfo`. -/
  | resolve
  /-- `socket` for a candidate.  There are `more` candidates behind it, and `retries`
  attempts behind this one, once the first one has failed. -/
  | openSocket (more : Nat) (retries : Option Nat)
  /-- `::connect` to a candidate. -/
  | connectSocket (more : Nat) (retries : Option Nat) (sock : Nat)
  /-- `ioctl` that reads the configuration of the device. -/
  | getConfig
  /-- `ioctl` that enables hardware timestamping. -/
  | setConfig
  /-- `setsockopt` for hardware timestamps. -/
  | setHardware
  /-- `setsockopt` for software timestamps. -/
  | setSoftware
  /-- A stage of the session loop. -/
  | session (stage : Stage kind)
  /-- An exception has left `handleClient`. -/
  | raised (fault : Fault)
  /-- A signal has ended the process, at a stage of the session loop. -/
  | killed (stage : Stage kind)
  deriving DecidableEq

/-- What the environment answers. -/
inductive ServiceAnswer (kind : KindOfSocket)
  /-- A call returns a descriptor. -/
  | descriptor (fd : Nat)
  /-- A call succeeds; `getConfig` also finds that timestamping is enabled already. -/
  | done
  /-- A call fails. -/
  | failed (errno : Errno)
  /-- `recv` on the control connection delivers some bytes. -/
  | received (bytes : List UInt8)
  /-- `recv` on the control connection finds the end of the stream. -/
  | closed
  /-- `getaddrinfo` yields a number of candidates. -/
  | resolved (candidates : Nat)
  /-- A library call throws. -/
  | thrown (fault : Fault)
  /-- A call of the `try` block returns. -/
  | returns (answer : Answer kind)
  /-- `epoll_wait` is called while these descriptors have an error or a hang-up
  pending. -/
  | pending (descriptors : List Nat)
  /-- `send` finds that its peer takes no more bytes.  It is called without `MSG_NOSIGNAL`,
  and nothing handles `SIGPIPE`. -/
  | brokenPipe

/-- The service. -/
structure Service (kind : KindOfSocket) where
  stage : ServiceStage kind
  /-- The descriptors that listen. -/
  listening : Peer → Nat
  control : Connection
  proxyInput : Connection
  proxyOutput : Connection
  connectHost : List UInt8
  connectPort : Int
  proxy : TimingProxy kind
  /-- The descriptors that sessions have opened and not closed. -/
  opened : List Nat

/-- The stage waits for `send`. -/
def Stage.sends {kind : KindOfSocket} : Stage kind → Bool
  | .sendServer _ _ | .sendClient _ | .sendControl _ => true
  | _ => false

/-- The number of attempts that `TimingSocket::connect` makes behind a failed one. -/
def CONNECT_ATTEMPTS : Nat := 100

/-- The characters of a text. -/
def text (bytes : List UInt8) : String :=
  String.ofList (bytes.map fun byte => Char.ofNat byte.toNat)

namespace Service

variable {kind : KindOfSocket} (service : Service kind)

/-- The connection to a peer. -/
def connection : Peer → Connection
  | .client => service.proxyInput
  | .server => service.proxyOutput
  | .control => service.control

/-- The service with another connection to a peer. -/
def withConnection (connection : Connection) : Peer → Service kind
  | .client => { service with proxyInput := connection }
  | .server => { service with proxyOutput := connection }
  | .control => { service with control := connection }

/-- The service at another stage. -/
def enter (stage : ServiceStage kind) : Service kind :=
  { service with stage := stage }

/-- An exception leaves `handleClient`. -/
def raise (fault : Fault) : Service kind := service.enter (.raised fault)

/-- A descriptor has been opened. -/
def opening (fd : Nat) : Service kind :=
  { service with opened := service.opened ++ [fd] }

/-- A descriptor is closed. -/
def closing (fd : Nat) : Service kind :=
  { service with opened := service.opened.filter (· ≠ fd) }

/-- A connection has been accepted. -/
def accepted (peer : Peer) (fd : Nat) : Service kind :=
  ((service.opening fd).withConnection
    { service.connection peer with sock := fd } peer).enter (.createEpoll peer)

/-! ## The control parser -/

/-- The line at the front of what has been read. -/
def line (str : List UInt8) : List UInt8 := str.take (str.idxOf newline)

/-- What has been read behind the first line. -/
def tail (str : List UInt8) : List UInt8 := str.drop (str.idxOf newline + 1)

/-- The second `getline` of `getProxyTarget`, and what follows it. -/
def getPort (str : List UInt8) : Service kind :=
  if newline ∈ str then
    match stoi (line str) with
    | .ok port => { service with stage := .accept .client, connectPort := port }
    | .error fault => service.raise fault
  else service.enter (.readPort str)

/-- The first `getline` of `getProxyTarget`, and what follows it. -/
def getHost (str : List UInt8) : Service kind :=
  if newline ∈ str then
    { service with connectHost := line str }.getPort (tail str)
  else service.enter (.readHost str)

/-! ## `TimingSocket::connect` -/

/-- `connect_host` as a text. -/
def host : String := text service.connectHost

/-- `connect_port` as the argument of `connect`. -/
def port : UInt16 := UInt16.ofInt service.connectPort

/-- The technique refuses the target before it connects to it. -/
def refusal (inetPton : InetPton) : Option Fault :=
  match kind with
  | .cpu => none
  | .kernel =>
      if service.host = "127.0.0.1" ∨ service.host = "::1" ∨ service.proxy.device = "lo" then
        some (.invalidArgument "kernel timestamping on loopback does not work")
      else none
  | .pcap =>
      if !isValidIpv4Address inetPton service.host &&
          !isValidIpv6Address inetPton service.host then
        some (.invalidArgument
          "Current pcap implementation needs an ip address in order to correlate packets.")
      else none

/-- The first call of the virtual `connect`. -/
def firstCall : (kind : KindOfSocket) → ServiceStage kind
  | .cpu | .kernel => .resolve
  | .pcap => .setFilter

/-- The virtual `connect`, up to its first call. -/
def connect (inetPton : InetPton) : Service kind :=
  match service.refusal inetPton with
  | some fault => service.raise fault
  | none => service.enter (firstCall kind)

/-- The next candidate. -/
def tryCandidates : (candidates : Nat) → Service kind
  | 0 => service.raise (.runtimeError
      ("Unable to open socket for host \"" ++ service.host ++ ":" ++
        toString service.port.toNat ++ "\""))
  | more + 1 => service.enter (.openSocket more none)

/-- An attempt to connect to a candidate has failed. -/
def tryAgain (more : Nat) : (retries : Option Nat) → Service kind
  | none => service.enter (.openSocket more (some (CONNECT_ATTEMPTS - 1)))
  | some 0 => service.tryCandidates more
  | some (retries + 1) => service.enter (.openSocket more (some retries))

/-- A candidate has been connected to. -/
def socketOpened (fd : Nat) : Service kind :=
  { service with
    stage := .createEpoll .server
    proxy := { service.proxy with established := true }
    proxyOutput := { service.proxyOutput with sock := fd } }

/-- The session loop is entered. -/
def enterSession : Service kind := service.enter (.session .readClient)

/-- What follows the connection to the server. -/
def connected : Service kind :=
  match kind with
  | .cpu | .pcap => service.enterSession
  | .kernel => service.enter .getConfig

/-! ## The epoll descriptors -/

/-- `event.data.fd` for a connection: `ServerSocket::accept` passes the descriptor that
listens. -/
def eventData : Peer → Nat
  | .server => service.proxyOutput.sock
  | peer => service.listening peer

/-- What follows `enableEpollWithEvents` for a connection. -/
def enabled (inetPton : InetPton) : Peer → Service kind
  | .control => service.getHost []
  | .client => service.connect inetPton
  | .server => service.connected

/-- A descriptor has been registered on the epoll descriptor of a connection. -/
def registered (peer : Peer) (epfd : Nat) : Service kind :=
  service.withConnection
    { sock := (service.connection peer).sock
      -- `epoll_ctl` is given the descriptor 0
      watch := some ⟨epfd, 0, service.eventData peer⟩ } peer

/-! ## The session -/

/-- What follows the session loop. -/
def closeAll : Service kind :=
  { service with
    stage := .accept .control
    proxy := { service.proxy with established := false }
    opened := service.opened.filter fun fd =>
      fd ∉ service.proxyInput.descriptors ++ service.control.descriptors ++
        service.proxyOutput.descriptors }

/-- A step of the session loop. -/
def proceed (config : Config kind) : Service kind :=
  let service := { service with proxy := config.proxy }
  match config.stage with
  | .ended => service.closeAll
  | .raised fault => service.raise fault
  | stage => service.enter (.session stage)

/-- An answer of the session loop. -/
def sessionAnswer (stage : Stage kind) : ServiceAnswer kind → Option (Answer kind)
  | .returns answer =>
      match stage with
      | .poll _ _ => none
      | _ => some answer
  | .pending descriptors =>
      match stage with
      | .poll _ peer =>
          if (service.connection peer).watch.isSome then
            some (.hangup ((service.connection peer).socketPeerClosed descriptors))
          else none
      | _ => none
  | .failed errno =>
      match stage with
      | .poll _ _ => some (.failed errno)
      | _ => none
  | _ => none

/-- The call of a stage returns. -/
def stepAt (inetPton : InetPton) :
    ServiceStage kind → ServiceAnswer kind → Option (Service kind)
  | .accept peer, .descriptor fd => some (service.accepted peer fd)
  | .accept _, .failed errno =>
      some (service.raise (.runtimeError
        ("ServerSocket: Unable to accept client socket. Reason: " ++ strerror errno)))
  | .createEpoll peer, .descriptor epfd =>
      some ((service.opening epfd).enter (.addEpoll peer epfd))
  | .createEpoll _, .failed _ => some (service.raise .terminate)
  | .addEpoll peer epfd, .done => some ((service.registered peer epfd).enabled inetPton peer)
  | .addEpoll _ epfd, .failed _ => some ((service.closing epfd).raise .terminate)
  | .readHost str, .received bytes =>
      if bytes ≠ [] ∧ bytes.length ≤ 1024 then
        some (service.getHost (str ++ cString bytes))
      else none
  | .readPort str, .received bytes =>
      if bytes ≠ [] ∧ bytes.length ≤ 1024 then
        some (service.getPort (str ++ cString bytes))
      else none
  | .readHost _, .closed | .readPort _, .closed | .readNothing, .closed =>
      some (service.enter .readNothing)
  | .readHost _, .failed errno | .readPort _, .failed errno =>
      some (service.raise (.runtimeError
        ("Unable to recieve data. Reason: " ++ strerror errno)))
  | .setFilter, .done => some (service.enter .startLoop)
  | .setFilter, .failed _ => some (service.raise .terminate)
  | .startLoop, .done => some (service.enter .resolve)
  | .startLoop, .thrown fault => some (service.raise fault)
  | .resolve, .resolved candidates => some (service.tryCandidates candidates)
  | .resolve, .failed _ =>
      some (service.raise (.runtimeError
        ("Unable retrieve connection candidates for host \"" ++ service.host ++ "\"")))
  | .openSocket more retries, .descriptor fd =>
      some ((service.opening fd).enter (.connectSocket more retries fd))
  | .openSocket more none, .failed _ => some (service.tryCandidates more)
  | .openSocket more (some retries), .failed _ =>
      -- `::connect` and `::close` fail for the descriptor -1
      some (service.tryAgain more (some retries))
  | .connectSocket _ _ fd, .done => some (service.socketOpened fd)
  | .connectSocket more retries fd, .failed _ =>
      some ((service.closing fd).tryAgain more retries)
  | .getConfig, .done => some (service.enter .setHardware)
  | .getConfig, .failed _ => some (service.enter .setConfig)
  | .setConfig, .done => some (service.enter .setHardware)
  | .setConfig, .failed _ => some (service.enter .setSoftware)
  | .setHardware, .done => some service.enterSession
  | .setHardware, .failed _ => some (service.enter .setSoftware)
  | .setSoftware, .done => some service.enterSession
  | .setSoftware, .failed _ =>
      some (service.raise (.runtimeError "Unable to enable timestamping on the socket"))
  -- no exception is raised that could be caught
  | .session stage, .brokenPipe =>
      if stage.sends then some (service.enter (.killed stage)) else none
  | .session stage, answer =>
      (service.sessionAnswer stage answer).bind fun answer =>
        (Config.step ⟨stage, service.proxy⟩ answer).map service.proceed
  | _, _ => none

/-- A call returns. -/
def step (inetPton : InetPton) (service : Service kind) (answer : ServiceAnswer kind) :
    Option (Service kind) :=
  service.stepAt inetPton service.stage answer

/-! ## The connections -/

@[simp] theorem connection_enter (stage : ServiceStage kind) :
    (service.enter stage).connection = service.connection := rfl

@[simp] theorem connection_raise (fault : Fault) :
    (service.raise fault).connection = service.connection := rfl

@[simp] theorem connection_opening (fd : Nat) :
    (service.opening fd).connection = service.connection := rfl

@[simp] theorem connection_closing (fd : Nat) :
    (service.closing fd).connection = service.connection := rfl

@[simp] theorem connection_closeAll :
    service.closeAll.connection = service.connection := rfl

@[simp] theorem connection_getPort (str : List UInt8) :
    (service.getPort str).connection = service.connection := by
  unfold getPort
  split
  · split <;> rfl
  · rfl

@[simp] theorem connection_getHost (str : List UInt8) :
    (service.getHost str).connection = service.connection := by
  unfold getHost
  split
  · exact connection_getPort _ _
  · rfl

@[simp] theorem connection_connect :
    (service.connect inetPton).connection = service.connection := by
  unfold connect
  split <;> rfl

@[simp] theorem connection_connected :
    service.connected.connection = service.connection := by
  cases kind <;> rfl

@[simp] theorem connection_enabled (peer : Peer) :
    (service.enabled inetPton peer).connection = service.connection := by
  cases peer with
  | control => exact connection_getHost service []
  | client => exact connection_connect service
  | server => exact connection_connected service

@[simp] theorem connection_tryCandidates (candidates : Nat) :
    (service.tryCandidates candidates).connection = service.connection := by
  cases candidates <;> rfl

@[simp] theorem connection_tryAgain
    (more : Nat) (retries : Option Nat) :
    (service.tryAgain more retries).connection = service.connection := by
  rcases retries with _ | (_ | retries)
  · rfl
  · exact connection_tryCandidates service more
  · rfl

@[simp] theorem connection_proceed (config : Config kind) :
    (service.proceed config).connection = service.connection := by
  unfold proceed
  dsimp only
  split <;> rfl

theorem connection_withConnection
    (connection : Connection) (peer other : Peer) :
    (service.withConnection connection peer).connection other =
      if other = peer then connection else service.connection other := by
  cases peer <;> cases other <;> rfl

/-! ## What a step can do -/

/-- The steps of the service, one by one. -/
inductive Moves (inetPton : InetPton) (service : Service kind) :
    ServiceStage kind → ServiceAnswer kind → Service kind → Prop
  | accepted {peer fd} :
      Moves inetPton service (.accept peer) (.descriptor fd) (service.accepted peer fd)
  | acceptFailed {peer errno} :
      Moves inetPton service (.accept peer) (.failed errno)
        (service.raise (.runtimeError
          ("ServerSocket: Unable to accept client socket. Reason: " ++ strerror errno)))
  | epollCreated {peer epfd} :
      Moves inetPton service (.createEpoll peer) (.descriptor epfd)
        ((service.opening epfd).enter (.addEpoll peer epfd))
  | createFailed {peer errno} :
      Moves inetPton service (.createEpoll peer) (.failed errno) (service.raise .terminate)
  | epollAdded {peer epfd} :
      Moves inetPton service (.addEpoll peer epfd) .done
        ((service.registered peer epfd).enabled inetPton peer)
  | addFailed {peer epfd errno} :
      Moves inetPton service (.addEpoll peer epfd) (.failed errno)
        ((service.closing epfd).raise .terminate)
  | hostRead {str bytes} (nonempty : bytes ≠ []) (fits : bytes.length ≤ 1024) :
      Moves inetPton service (.readHost str) (.received bytes)
        (service.getHost (str ++ cString bytes))
  | portRead {str bytes} (nonempty : bytes ≠ []) (fits : bytes.length ≤ 1024) :
      Moves inetPton service (.readPort str) (.received bytes)
        (service.getPort (str ++ cString bytes))
  | controlClosed {stage}
      (reading : (∃ str, stage = .readHost str ∨ stage = .readPort str) ∨
        stage = .readNothing) :
      Moves inetPton service stage .closed (service.enter .readNothing)
  | controlFailed {stage errno}
      (reading : ∃ str, stage = .readHost str ∨ stage = .readPort str) :
      Moves inetPton service stage (.failed errno)
        (service.raise (.runtimeError
          ("Unable to recieve data. Reason: " ++ strerror errno)))
  | filterSet : Moves inetPton service .setFilter .done (service.enter .startLoop)
  | filterFailed {errno} :
      Moves inetPton service .setFilter (.failed errno) (service.raise .terminate)
  | loopStarted : Moves inetPton service .startLoop .done (service.enter .resolve)
  | loopFailed {fault} :
      Moves inetPton service .startLoop (.thrown fault) (service.raise fault)
  | resolved {candidates} :
      Moves inetPton service .resolve (.resolved candidates)
        (service.tryCandidates candidates)
  | unresolved {errno} :
      Moves inetPton service .resolve (.failed errno)
        (service.raise (.runtimeError
          ("Unable retrieve connection candidates for host \"" ++ service.host ++ "\"")))
  | socketCreated {more retries fd} :
      Moves inetPton service (.openSocket more retries) (.descriptor fd)
        ((service.opening fd).enter (.connectSocket more retries fd))
  | socketSkipped {more errno} :
      Moves inetPton service (.openSocket more none) (.failed errno)
        (service.tryCandidates more)
  | socketFailed {more retries errno} :
      Moves inetPton service (.openSocket more (some retries)) (.failed errno)
        (service.tryAgain more (some retries))
  | socketConnected {more retries fd} :
      Moves inetPton service (.connectSocket more retries fd) .done
        (service.socketOpened fd)
  | connectFailed {more retries fd errno} :
      Moves inetPton service (.connectSocket more retries fd) (.failed errno)
        ((service.closing fd).tryAgain more retries)
  /-- Hardware timestamping is enabled, or has been before. -/
  | configured {stage} (configuring : stage = .getConfig ∨ stage = .setConfig) :
      Moves inetPton service stage .done (service.enter .setHardware)
  | notConfigured {errno} :
      Moves inetPton service .getConfig (.failed errno) (service.enter .setConfig)
  | noHardware {stage errno} (trying : stage = .setConfig ∨ stage = .setHardware) :
      Moves inetPton service stage (.failed errno) (service.enter .setSoftware)
  | optionSet {stage} (setting : stage = .setHardware ∨ stage = .setSoftware) :
      Moves inetPton service stage .done service.enterSession
  | noSoftware {errno} :
      Moves inetPton service .setSoftware (.failed errno)
        (service.raise (.runtimeError "Unable to enable timestamping on the socket"))
  | proceeds {stage answer given config} (gives : service.sessionAnswer stage answer = some given)
      (moves : Config.Moves ⟨stage, service.proxy⟩ given config) :
      Moves inetPton service (.session stage) answer (service.proceed config)
  | pipeBroken {stage} (sends : stage.sends = true) :
      Moves inetPton service (.session stage) .brokenPipe (service.enter (.killed stage))

variable {service} {inetPton : InetPton} {stage : ServiceStage kind}
  {answer : ServiceAnswer kind} {next : Service kind}

/-- The step function takes no step but these. -/
theorem moves_of_stepAt (stepped : service.stepAt inetPton stage answer = some next) :
    Moves inetPton service stage answer next := by
  cases stage with
  | accept peer =>
      cases answer <;> cases stepped
      · exact .accepted
      · exact .acceptFailed
  | createEpoll peer =>
      cases answer <;> cases stepped
      · exact .epollCreated
      · exact .createFailed
  | addEpoll peer epfd =>
      cases answer <;> cases stepped
      · exact .epollAdded
      · exact .addFailed
  | readHost str =>
      cases answer with
      | received bytes =>
          rw [stepAt, Option.ite_none_right_eq_some] at stepped
          obtain ⟨⟨nonempty, fits⟩, ⟨⟩⟩ := stepped
          exact .hostRead nonempty fits
      | failed errno =>
          cases stepped
          exact .controlFailed ⟨str, .inl rfl⟩
      | closed =>
          cases stepped
          exact .controlClosed (.inl ⟨str, .inl rfl⟩)
      | descriptor | done | resolved | thrown | returns | pending | brokenPipe => cases stepped
  | readPort str =>
      cases answer with
      | received bytes =>
          rw [stepAt, Option.ite_none_right_eq_some] at stepped
          obtain ⟨⟨nonempty, fits⟩, ⟨⟩⟩ := stepped
          exact .portRead nonempty fits
      | failed errno =>
          cases stepped
          exact .controlFailed ⟨str, .inr rfl⟩
      | closed =>
          cases stepped
          exact .controlClosed (.inl ⟨str, .inr rfl⟩)
      | descriptor | done | resolved | thrown | returns | pending | brokenPipe => cases stepped
  | readNothing =>
      cases answer <;> cases stepped
      exact .controlClosed (.inr rfl)
  | setFilter =>
      cases answer <;> cases stepped
      · exact .filterSet
      · exact .filterFailed
  | startLoop =>
      cases answer <;> cases stepped
      · exact .loopStarted
      · exact .loopFailed
  | resolve =>
      cases answer <;> cases stepped
      · exact .unresolved
      · exact .resolved
  | openSocket more retries =>
      cases retries <;> cases answer <;> cases stepped
      · exact .socketCreated
      · exact .socketSkipped
      · exact .socketCreated
      · exact .socketFailed
  | connectSocket more retries fd =>
      cases answer <;> cases stepped
      · exact .socketConnected
      · exact .connectFailed
  | getConfig =>
      cases answer <;> cases stepped
      · exact .configured (.inl rfl)
      · exact .notConfigured
  | setConfig =>
      cases answer <;> cases stepped
      · exact .configured (.inr rfl)
      · exact .noHardware (.inl rfl)
  | setHardware =>
      cases answer <;> cases stepped
      · exact .optionSet (.inl rfl)
      · exact .noHardware (.inr rfl)
  | setSoftware =>
      cases answer <;> cases stepped
      · exact .optionSet (.inr rfl)
      · exact .noSoftware
  | session stage =>
      cases answer with
      | brokenPipe =>
          rw [stepAt, Option.ite_none_right_eq_some] at stepped
          obtain ⟨sends, ⟨⟩⟩ := stepped
          exact .pipeBroken sends
      | descriptor | done | failed | received | closed | resolved | thrown | returns
      | pending =>
          rw [stepAt, Option.bind_eq_some_iff] at stepped
          · obtain ⟨given, gives, bound⟩ := stepped
            rw [Option.map_eq_some_iff] at bound
            obtain ⟨config, moved, rfl⟩ := bound
            exact .proceeds gives (Config.moves_of_step moved)
          · rintro ⟨⟩
  | raised fault => cases answer <;> cases stepped
  | killed stage => cases answer <;> cases stepped

end Service

end NetworkTiming
