import NetworkTiming.TimingProxy.PeerClosed
import NetworkTiming.TimingProxy.SessionLoop

/-!
# How far a session is

A session is set up in a fixed order: the control connection, the connection of the
client, the capture thread, and the connection to the server.  Where the service stands
in this order tells what the session has acquired; a step goes one place on, ends the
session, or ends the program.
-/

namespace NetworkTiming

open TimingProxy

variable {kind : KindOfSocket}

/-- What a session has acquired. -/
inductive Progress
  | idle
  /-- The control connection is watched. -/
  | controlled
  /-- The connection of the client is watched, too. -/
  | accepted
  /-- The capture thread has been started, if the technique has one. -/
  | capturing
  /-- There is a connection to the server. -/
  | established
  deriving DecidableEq

namespace ServiceStage

/-- How far a session is at a stage. -/
def progress : ServiceStage kind → Progress
  | .accept .control | .createEpoll .control | .addEpoll .control _ | .raised _
  | .killed _ => .idle
  | .readHost _ | .readPort _ | .readNothing | .accept .client | .createEpoll .client
  | .addEpoll .client _ => .controlled
  | .setFilter | .startLoop => .accepted
  | .resolve | .openSocket _ _ | .connectSocket _ _ _ => .capturing
  | .accept .server | .createEpoll .server | .addEpoll .server _ | .getConfig | .setConfig
  | .setHardware | .setSoftware | .session _ => .established

/-- A signal has ended the process. -/
def isKilled : ServiceStage kind → Bool
  | .killed _ => true
  | _ => false

/-- The answer is that of the server that accepts the connection. -/
def connects : ServiceStage kind → ServiceAnswer kind → Bool
  | .connectSocket _ _ _, .done => true
  | _, _ => false

/-- How far the session is behind an answer, if it goes on. -/
def progressBehind : ServiceStage kind → ServiceAnswer kind → Progress
  | .addEpoll .control _, .done => .controlled
  | .addEpoll .client _, .done => (Service.firstCall kind).progress
  | .startLoop, .done => .capturing
  | .connectSocket _ _ _, .done => .established
  | stage, _ => stage.progress

theorem progressBehind_session (stage : Stage kind) (answer : ServiceAnswer kind) :
    (ServiceStage.session stage).progressBehind answer = .established := by
  cases answer <;> rfl

theorem progressBehind_eq_established_iff
    (stage : ServiceStage kind) (answer : ServiceAnswer kind) :
    stage.progressBehind answer = .established ↔
      stage.connects answer = true ∨ stage.progress = .established := by
  unfold progressBehind connects
  split
  · simp [progress]
  · cases kind <;> simp [progress, Service.firstCall]
  · simp [progress]
  · simp
  case h_5 other =>
      split
      · exact absurd rfl (other _ _ _ rfl)
      · simp

end ServiceStage

namespace Service

variable {service next : Service kind} {inetPton : InetPton} {stage : ServiceStage kind}
  {answer : ServiceAnswer kind}

/-- The program is over: an exception has left `handleClient`, or a signal has ended the
process. -/
def Over (service : Service kind) : Prop :=
  (∃ fault, service.stage = .raised fault) ∨ ∃ stage, service.stage = .killed stage

theorem not_over_of_accept {peer : Peer} (atStage : service.stage = .accept peer) :
    ¬service.Over := by
  rintro (⟨fault, raised⟩ | ⟨stage, killed⟩)
  · cases atStage.symm.trans raised
  · cases atStage.symm.trans killed

/-- What the session loop does with an answer. -/
def sessionStep (service : Service kind) (stage : Stage kind) (answer : ServiceAnswer kind) :
    Option (Config kind) :=
  (service.sessionAnswer stage answer).bind (Config.step ⟨stage, service.proxy⟩)

/-- The session loop ends with the answer, and the sockets are closed. -/
def finishes (service : Service kind) (answer : ServiceAnswer kind) : Bool :=
  match service.stage with
  | .session stage =>
      (service.sessionStep stage answer).any fun config => config.stage = .ended
  | _ => false

/-- Nothing but the session loop ends a session. -/
theorem exists_session_of_finishes (finishes : service.finishes answer = true) :
    ∃ stage, service.stage = .session stage := by
  unfold Service.finishes at finishes
  split at finishes
  case h_1 stage atStage => exact ⟨stage, atStage⟩
  case h_2 => cases finishes

/-- An answer is one of the session loop, or a signal ends the process. -/
theorem stepAt_session
    {stage : Stage kind} (stepped : service.stepAt inetPton (.session stage) answer = some next) :
    (∃ config, service.sessionStep stage answer = some config ∧
        next = service.proceed config) ∨
      (service.sessionStep stage answer = none ∧ answer = .brokenPipe ∧
        stage.sends = true ∧ next = service.enter (.killed stage)) := by
  cases moves_of_stepAt stepped with
  | @proceeds _ _ given config gives moves =>
      refine .inl ⟨config, ?_, rfl⟩
      rw [sessionStep, gives]
      exact Config.step_of_moves moves
  | pipeBroken sends => exact .inr ⟨rfl, rfl, sends, rfl⟩
  | controlClosed reading => rcases reading with ⟨str, same | same⟩ | same <;> cases same
  | controlFailed reading => rcases reading with ⟨str, same | same⟩ <;> cases same
  | configured trying | noHardware trying | optionSet trying =>
      rcases trying with same | same <;> cases same

theorem over_raise (fault : Fault) : (service.raise fault).Over := .inl ⟨fault, rfl⟩

/-- When the program is over, there is no step. -/
theorem not_over_of_step (stepped : service.step inetPton answer = some next) :
    ¬service.Over := by
  rintro (⟨fault, raised⟩ | ⟨stage, killed⟩)
  · rw [step, raised] at stepped
    cases answer <;> cases stepped
  · rw [step, killed] at stepped
    cases answer <;> cases stepped

/-! ## What a step leads to -/

/-- An exception, or the place of a stage. -/
def Reaches (service : Service kind) (progress : Progress) : Prop :=
  (∃ fault, service.stage = .raised fault) ∨
    service.stage.progress = progress ∧ service.stage.isKilled = false

theorem reaches_raise (fault : Fault) (progress : Progress) :
    (service.raise fault).Reaches progress :=
  .inl ⟨fault, rfl⟩

theorem reaches_getPort (str : List UInt8) : (service.getPort str).Reaches .controlled := by
  unfold getPort
  split
  · split
    · exact .inr ⟨rfl, rfl⟩
    · exact reaches_raise _ _
  · exact .inr ⟨rfl, rfl⟩

theorem reaches_getHost (str : List UInt8) : (service.getHost str).Reaches .controlled := by
  unfold getHost
  split
  · exact reaches_getPort _
  · exact .inr ⟨rfl, rfl⟩

theorem reaches_connect :
    (service.connect inetPton).Reaches (firstCall kind).progress := by
  unfold connect
  split
  · exact reaches_raise _ _
  · cases kind <;> exact .inr ⟨rfl, rfl⟩

theorem reaches_connected : service.connected.Reaches .established := by
  cases kind <;> exact .inr ⟨rfl, rfl⟩

theorem reaches_tryCandidates (candidates : Nat) :
    (service.tryCandidates candidates).Reaches .capturing := by
  cases candidates with
  | zero => exact reaches_raise _ _
  | succ more => exact .inr ⟨rfl, rfl⟩

theorem reaches_tryAgain (more : Nat) (retries : Option Nat) :
    (service.tryAgain more retries).Reaches .capturing := by
  rcases retries with _ | (_ | retries)
  · exact .inr ⟨rfl, rfl⟩
  · exact reaches_tryCandidates more
  · exact .inr ⟨rfl, rfl⟩

theorem reaches_enabled (peer : Peer) (epfd : Nat) :
    (service.enabled inetPton peer).Reaches
      ((ServiceStage.addEpoll peer epfd : ServiceStage kind).progressBehind .done) := by
  cases peer with
  | control => exact reaches_getHost []
  | client => exact reaches_connect
  | server => exact reaches_connected

/-- Setting up a session goes one place on, or raises an exception. -/
theorem Moves.reaches
    (moves : Moves inetPton service stage answer next)
    (setup : ∀ inner, stage ≠ .session inner) :
    next.Reaches (stage.progressBehind answer) := by
  cases moves with
  | @accepted peer | @epollCreated peer => cases peer <;> exact .inr ⟨rfl, rfl⟩
  | @epollAdded peer epfd => exact reaches_enabled peer epfd
  | hostRead => exact reaches_getHost _
  | portRead => exact reaches_getPort _
  | controlClosed reading =>
      rcases reading with ⟨str, rfl | rfl⟩ | rfl <;> exact .inr ⟨rfl, rfl⟩
  | resolved | socketSkipped => exact reaches_tryCandidates _
  | socketFailed | connectFailed => exact reaches_tryAgain _ _
  | configured configuring => rcases configuring with rfl | rfl <;> exact .inr ⟨rfl, rfl⟩
  | noHardware trying => rcases trying with rfl | rfl <;> exact .inr ⟨rfl, rfl⟩
  | optionSet setting => rcases setting with rfl | rfl <;> exact .inr ⟨rfl, rfl⟩
  | proceeds | pipeBroken => exact absurd rfl (setup _)
  | filterSet | loopStarted | socketCreated | socketConnected | notConfigured =>
      exact .inr ⟨rfl, rfl⟩
  | acceptFailed | createFailed | addFailed | controlFailed | filterFailed | loopFailed
  | unresolved | noSoftware => exact reaches_raise _ _

/-- What a step does to the session. -/
inductive Advances (service : Service kind) (answer : ServiceAnswer kind)
    (next : Service kind) : Prop
  | gone : service.finishes answer = false → next.Over → Advances service answer next
  /-- The session has ended. -/
  | finished : service.finishes answer = true → next.stage = .accept .control →
      Advances service answer next
  | goesOn : service.finishes answer = false →
      next.stage.progress = service.stage.progressBehind answer →
      Advances service answer next

theorem advances_of_step (stepped : service.step inetPton answer = some next) :
    service.Advances answer next := by
  by_cases setup : ∀ inner, service.stage ≠ .session inner
  · have unfinished : service.finishes answer = false := by
      rw [Bool.eq_false_iff]
      intro finishes
      obtain ⟨inner, looping⟩ := exists_session_of_finishes finishes
      exact setup inner looping
    rcases (moves_of_stepAt stepped).reaches setup with raised | ⟨reached, _alive⟩
    · exact .gone unfinished (.inl raised)
    · exact .goesOn unfinished reached
  · push Not at setup
    obtain ⟨stage, atStage⟩ := setup
    have finishes : service.finishes answer =
        (service.sessionStep stage answer).any fun config => config.stage = .ended := by
      rw [Service.finishes, atStage]
    rw [step, atStage] at stepped
    rcases stepAt_session stepped with ⟨config, moved, rfl⟩ | ⟨stuck, rfl, _sends, rfl⟩
    · rw [moved, Option.any_some] at finishes
      have behind : service.stage.progressBehind answer = .established := by
        rw [atStage, ServiceStage.progressBehind_session]
      obtain ⟨inner, proxy⟩ := config
      cases inner with
      | ended => exact .finished finishes rfl
      | raised fault => exact .gone finishes (.inl ⟨fault, rfl⟩)
      | readClient | sendServer | timing | readServer | stampRead | sendClient
      | sendControl | poll => exact .goesOn finishes behind.symm
    · rw [stuck, Option.any_none] at finishes
      exact .gone finishes (.inr ⟨stage, rfl⟩)

/-! ## The measurements -/

@[simp] theorem proxy_enter (stage : ServiceStage kind) :
    (service.enter stage).proxy = service.proxy := rfl

@[simp] theorem proxy_raise (fault : Fault) : (service.raise fault).proxy = service.proxy := rfl

@[simp] theorem proxy_opening (fd : Nat) : (service.opening fd).proxy = service.proxy := rfl

@[simp] theorem proxy_closing (fd : Nat) : (service.closing fd).proxy = service.proxy := rfl

@[simp] theorem proxy_withConnection (connection : Connection) (peer : Peer) :
    (service.withConnection connection peer).proxy = service.proxy := by
  cases peer <;> rfl

@[simp] theorem proxy_getPort (str : List UInt8) : (service.getPort str).proxy = service.proxy := by
  unfold getPort
  split
  · split <;> rfl
  · rfl

@[simp] theorem proxy_getHost (str : List UInt8) : (service.getHost str).proxy = service.proxy := by
  unfold getHost
  split
  · exact proxy_getPort _
  · rfl

@[simp] theorem proxy_connect : (service.connect inetPton).proxy = service.proxy := by
  unfold connect
  split <;> rfl

@[simp] theorem proxy_enabled (peer : Peer) :
    (service.enabled inetPton peer).proxy = service.proxy := by
  cases peer with
  | control => exact proxy_getHost []
  | client => exact proxy_connect
  | server => cases kind <;> rfl

@[simp] theorem proxy_tryCandidates (candidates : Nat) :
    (service.tryCandidates candidates).proxy = service.proxy := by
  cases candidates <;> rfl

@[simp] theorem proxy_tryAgain (more : Nat) (retries : Option Nat) :
    (service.tryAgain more retries).proxy = service.proxy := by
  rcases retries with _ | (_ | retries)
  · rfl
  · exact proxy_tryCandidates more
  · rfl

/-- Setting up a session leaves the measurements as they are: of the socket to the server,
it changes no more than the state. -/
theorem Moves.proxy
    (moves : Moves inetPton service stage answer next)
    (setup : ∀ inner, stage ≠ .session inner) :
    next.proxy = { service.proxy with
      established := service.proxy.established || stage.connects answer } := by
  cases moves with
  | socketConnected => rw [ServiceStage.connects, Bool.or_true, socketOpened]
  | proceeds | pipeBroken => exact absurd rfl (setup _)
  | configured configuring => rcases configuring with rfl | rfl <;> simp [ServiceStage.connects]
  | noHardware trying => rcases trying with rfl | rfl <;> simp [ServiceStage.connects]
  | optionSet setting =>
      rcases setting with rfl | rfl <;> simp [ServiceStage.connects, enterSession]
  | controlClosed reading =>
      rcases reading with ⟨str, rfl | rfl⟩ | rfl <;> simp [ServiceStage.connects]
  | controlFailed reading =>
      rcases reading with ⟨str, rfl | rfl⟩ <;> simp [ServiceStage.connects]
  | _ => simp [Service.accepted, registered, ServiceStage.connects]

/-- The socket to the server is established exactly where the session has come as far. -/
def Tells (service : Service kind) : Prop :=
  service.Over ∨
    (service.proxy.established = true ↔ service.stage.progress = .established)

theorem tells_of_step
    (tells : service.Tells)
    (stepped : service.step inetPton answer = some next) : next.Tells := by
  have here := tells.resolve_left (not_over_of_step stepped)
  by_cases setup : ∀ inner, service.stage ≠ .session inner
  · have moves := moves_of_stepAt stepped
    rcases moves.reaches setup with raised | ⟨reached, _alive⟩
    · exact .inl (.inl raised)
    · right
      rw [moves.proxy setup, reached, ServiceStage.progressBehind_eq_established_iff,
        Bool.or_eq_true, ← here, or_comm]
  · push Not at setup
    obtain ⟨stage, atStage⟩ := setup
    have established : service.proxy.established = true := here.mpr (by rw [atStage]; rfl)
    rw [step, atStage] at stepped
    rcases stepAt_session stepped with ⟨config, moved, rfl⟩ | ⟨_stuck, _same, _sends, rfl⟩
    · rw [sessionStep, Option.bind_eq_some_iff] at moved
      obtain ⟨given, _gives, moved⟩ := moved
      have kept : config.proxy.established = true :=
        (Config.moves_of_step moved).established.trans established
      obtain ⟨inner, proxy⟩ := config
      cases inner with
      | ended =>
          right
          exact iff_of_false (by simp [proceed, closeAll])
            (by simp [proceed, closeAll, ServiceStage.progress])
      | raised fault => exact .inl (.inl ⟨fault, rfl⟩)
      | readClient | sendServer | timing | readServer | stampRead | sendClient
      | sendControl | poll => exact .inr (iff_of_true kept rfl)
    · exact .inl (.inr ⟨stage, rfl⟩)

end Service

end NetworkTiming
