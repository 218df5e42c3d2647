import NetworkTiming.Library.Simulation
import NetworkTiming.Socket.CaptureThread
import NetworkTiming.Socket.ServerDescriptors
import NetworkTiming.TimingProxy.Exceptions
import NetworkTiming.TimingProxy.Progress

/-!
# The calls on the sockets

The classes of the sockets close every descriptor once, and join every thread that they
start, if their calls come in the right order.  The service makes its calls in this
order, whatever its environment answers.
-/

namespace NetworkTiming

open TimingProxy

namespace Socket

namespace Holdings

variable {Address : Type} {holdings final : Holdings} {calls : List (ServerCall Address)}

/-- A call that is allowed. -/
def step (holdings : Holdings) (call : ServerCall Address) : Option Holdings :=
  if holdings.Allows call then some (holdings.after call) else none

/-- Calls that are allowed one after the other are well ordered. -/
theorem wellOrdered_of_run
    (reached : Machine.run step holdings calls = some final)
    (closable : final.listener.Closable) : holdings.WellOrdered calls := by
  induction calls generalizing holdings with
  | nil =>
      cases reached
      exact closable
  | cons call calls inductionHypothesis =>
      rw [Machine.run_cons, Option.bind_eq_some_iff] at reached
      obtain ⟨next, stepped, reached⟩ := reached
      rw [step, Option.ite_none_right_eq_some] at stepped
      obtain ⟨allowed, ⟨⟩⟩ := stepped
      exact ⟨allowed, inductionHypothesis reached⟩

end Holdings

/-- What happens to the thread of a `PcapWrapper`. -/
inductive LoopCall
  | startLoop (starts : Bool)
  | stopLoop
  /-- `pcap_loop` returns by itself, if the thread is running. -/
  | loopReturns
  deriving DecidableEq

namespace PcapWrapper

/-- There is a thread that has been started and not been joined. -/
def HasThread (wrapper : PcapWrapper) : Prop :=
  wrapper.loopThread = .running ∨ wrapper.loopThread = .finished

instance (wrapper : PcapWrapper) : Decidable wrapper.HasThread :=
  inferInstanceAs (Decidable (_ ∨ _))

/-- A call that neither loses a thread nor misses one. -/
def handle (wrapper : PcapWrapper) : LoopCall → Option PcapWrapper
  | .startLoop starts =>
      if wrapper.HasThread then none
      else
        match wrapper.startLoop starts with
        | .ok started => some started
        | .error _ => some wrapper
  | .stopLoop => wrapper.stopLoop
  | .loopReturns =>
      some (if wrapper.Capturing then { wrapper with loopThread := .finished } else wrapper)

/-- A thread that has not been joined is joined. -/
theorem stopLoop_of_hasThread {wrapper : PcapWrapper} (thread : wrapper.HasThread) :
    wrapper.stopLoop = some ⟨.deleted⟩ := by
  obtain ⟨loopThread⟩ := wrapper
  rcases thread with running | finished
  · cases running
    rfl
  · cases finished
    rfl

/-- That `pcap_loop` returns joins no thread. -/
theorem handle_loopReturns (wrapper : PcapWrapper) :
    ∃ after, wrapper.handle .loopReturns = some after ∧
      (after.HasThread ↔ wrapper.HasThread) := by
  obtain ⟨loopThread⟩ := wrapper
  cases loopThread with
  | null | running | finished | deleted => exact ⟨_, rfl, by decide⟩

/-- In these calls, `pcap_loop` returns by itself behind the last start of a thread. -/
def ReturnsLast (calls : List LoopCall) : Prop :=
  ∃ earlier later, calls = earlier ++ .loopReturns :: later ∧
    ∀ starts, .startLoop starts ∉ later

theorem ReturnsLast.cons {calls : List LoopCall} (returns : ReturnsLast calls)
    (call : LoopCall) : ReturnsLast (call :: calls) := by
  obtain ⟨earlier, later, rfl, unstarted⟩ := returns
  exact ⟨call :: earlier, later, rfl, unstarted⟩

/-- A thread finishes by itself or not at all. -/
theorem returnsLast_of_finished
    {wrapper final : PcapWrapper} {calls : List LoopCall}
    (handled : Machine.run handle wrapper calls = some final)
    (finished : final.loopThread = .finished) :
    wrapper.loopThread = .finished ∧ (∀ starts, .startLoop starts ∉ calls) ∨
      ReturnsLast calls := by
  induction calls generalizing wrapper with
  | nil =>
      cases handled
      exact .inl ⟨finished, fun _ => List.not_mem_nil⟩
  | cons call calls inductionHypothesis =>
      rw [Machine.run_cons, Option.bind_eq_some_iff] at handled
      obtain ⟨next, called, handled⟩ := handled
      rcases inductionHypothesis handled with ⟨already, unstarted⟩ | returns
      · cases call with
        | loopReturns => exact .inr ⟨[], calls, rfl, unstarted⟩
        | startLoop starts =>
            rw [handle, Option.ite_none_left_eq_some] at called
            obtain ⟨free, called⟩ := called
            cases starts with
            | true =>
                cases called
                cases already
            | false =>
                cases called
                exact absurd (.inr already) free
        | stopLoop =>
            obtain ⟨loopThread⟩ := wrapper
            cases loopThread <;> cases called <;> cases already
      · exact .inr (returns.cons call)

end PcapWrapper

end Socket

variable {kind : KindOfSocket}

/-- Whether the socket of a peer has a client. -/
def Progress.serves (peer : Peer) : Progress → Bool
  | .idle => false
  | .controlled => peer = .control
  | .accepted | .capturing | .established => true

/-- There is to be a capture thread. -/
def Progress.Captures (progress : Progress) : Prop :=
  progress = .capturing ∨ progress = .established

/-- What a call of `ServerSocket::accept` comes to, when the last of its system calls
returns. -/
def ServiceStage.acceptResult :
    ServiceStage kind → ServiceAnswer kind → Option (Peer × Socket.AcceptResult Unit)
  | .accept peer, .failed errno => some (peer, .unaccepted errno)
  | .createEpoll peer, .failed _ => some (peer, .accepted () .createFails)
  | .addEpoll peer _, .done => some (peer, .accepted () .enabled)
  | .addEpoll peer _, .failed _ => some (peer, .accepted () .addFails)
  | _, _ => none

namespace Service

variable {service next : Service kind} {inetPton : InetPton} {stage : ServiceStage kind}
  {answer : ServiceAnswer kind} {peer other : Peer} {result : Socket.AcceptResult Unit}

/-- The calls of `accept` on the socket of a peer. -/
def acceptCalls (peer : Peer) (service : Service kind) (answer : ServiceAnswer kind) :
    List (Socket.ServerCall Unit) :=
  ((service.stage.acceptResult answer).filter fun accepted => accepted.1 = peer).toList.map
    fun accepted => .accept accepted.2

/-- The calls on the socket of a peer. -/
def serverCalls (peer : Peer) (service : Service kind) (answer : ServiceAnswer kind) :
    List (Socket.ServerCall Unit) :=
  service.acceptCalls peer answer ++ if service.finishes answer then [.closeClient] else []

/-- The calls on the wrapper of the capture device. -/
def loopCalls (service : Service .pcap) (answer : ServiceAnswer .pcap) :
    List Socket.LoopCall :=
  match service.stage, answer with
  | .startLoop, .done => [.startLoop true]
  | .startLoop, .thrown _ => [.startLoop false]
  | _, _ => if service.finishes answer then [.stopLoop] else []

/-! ## The sockets that listen -/

/-- A call of `accept` comes to a result while its socket has no client, and the session
goes on if and only if the client can be watched. -/
theorem acceptResult_cases
    (accepted : stage.acceptResult answer = some (other, result))
    (stepped : service.stepAt inetPton stage answer = some next) :
    stage.progress = (ServiceStage.accept other : ServiceStage kind).progress ∧
      (next.Over ∨ result = .accepted () .enabled ∧
        ∃ epfd, stage = .addEpoll other epfd ∧ answer = .done) := by
  unfold ServiceStage.acceptResult at accepted
  split at accepted
  case h_5 => cases accepted
  all_goals
    cases accepted
    cases stepped
  case h_3 epfd => cases other <;> exact ⟨rfl, .inr ⟨rfl, epfd, rfl, rfl⟩⟩
  all_goals cases other <;> exact ⟨rfl, .inl (over_raise _)⟩

/-- As long as nothing is accepted, the same sockets have clients. -/
theorem serves_progressBehind
    (accepted : stage.acceptResult answer = none) :
    (stage.progressBehind answer).serves peer = stage.progress.serves peer := by
  unfold ServiceStage.progressBehind
  split
  · cases accepted
  · cases accepted
  · rfl
  · rfl
  · rfl

theorem acceptCalls_of_none (accepted : service.stage.acceptResult answer = none) :
    service.acceptCalls peer answer = [] := by
  rw [acceptCalls, accepted]
  rfl

theorem acceptCalls_of_some
    (accepted : service.stage.acceptResult answer = some (other, result)) :
    service.acceptCalls peer answer = if other = peer then [.accept result] else [] := by
  rw [acceptCalls, accepted, Option.filter_some]
  by_cases same : other = peer
  · rw [if_pos (decide_eq_true same), if_pos same]
    rfl
  · rw [if_neg (by simp [same]), if_neg same]
    rfl

/-- The calls of `accept` are made while their socket has no client, and behind them it
has one if and only if the session needs it. -/
theorem run_acceptCalls
    (listening : peer ≠ .server)
    (stepped : service.step inetPton answer = some next) :
    ∃ client, Machine.run Socket.Holdings.step
        ⟨.opened, service.stage.progress.serves peer⟩ (service.acceptCalls peer answer) =
          some ⟨.opened, client⟩ ∧
      (next.Over ∨ client = (service.stage.progressBehind answer).serves peer) := by
  rw [step] at stepped
  cases accepted : service.stage.acceptResult answer with
  | none =>
      rw [acceptCalls_of_none accepted]
      exact ⟨_, rfl, .inr (serves_progressBehind accepted).symm⟩
  | some call =>
      obtain ⟨other, result⟩ := call
      obtain ⟨place, behind⟩ := acceptResult_cases accepted stepped
      rw [acceptCalls_of_some accepted]
      by_cases same : other = peer
      · subst same
        have free : service.stage.progress.serves other = false := by
          rw [place]
          cases other with
          | server => exact absurd rfl listening
          | client | control => rfl
        rw [free, if_pos rfl, Machine.run_singleton]
        cases result with
        | unaccepted errno =>
            refine ⟨false, rfl, .inl ?_⟩
            rcases behind with raised | ⟨⟨⟩, _⟩
            exact raised
        | accepted address epoll =>
            refine ⟨true, rfl, behind.imp_right ?_⟩
            rintro ⟨_, epfd, atStage, rfl⟩
            rw [atStage]
            cases other with
            | server => exact absurd rfl listening
            | client => cases kind <;> rfl
            | control => rfl
      · rw [if_neg same]
        refine ⟨_, rfl, behind.imp_right ?_⟩
        rintro ⟨_, epfd, atStage, rfl⟩
        rw [atStage]
        cases peer with
        | server => exact absurd rfl listening
        | client =>
            cases other with
            | client => exact absurd rfl same
            | server | control => rfl
        | control =>
            cases other with
            | control => exact absurd rfl same
            | client => cases kind <;> rfl
            | server => rfl

/-- A server socket listens, and it has a client exactly while the session needs one. -/
def Attends (peer : Peer) (service : Service kind) (holdings : Socket.Holdings) : Prop :=
  holdings.listener = .opened ∧
    (service.Over ∨ holdings.client = service.stage.progress.serves peer)

/-- Every step of the service makes calls that its server sockets allow. -/
theorem serverCalls_allowed
    (listening : peer ≠ .server) {holdings : Socket.Holdings}
    (attends : service.Attends peer holdings)
    (stepped : service.step inetPton answer = some next) :
    ∃ after, Machine.run Socket.Holdings.step holdings (service.serverCalls peer answer) =
        some after ∧ next.Attends peer after := by
  obtain ⟨listener, client⟩ := holdings
  obtain ⟨listens, clients⟩ := attends
  dsimp only at listens clients
  obtain ⟨behindAccept, accepted, behind⟩ := run_acceptCalls listening stepped
  rw [serverCalls, Machine.run_append, listens,
    clients.resolve_left (not_over_of_step stepped), accepted, Option.bind_some]
  cases advances_of_step stepped with
  | gone unfinished gone =>
      rw [unfinished]
      exact ⟨_, rfl, rfl, .inl gone⟩
  | finished finishes atStage =>
      obtain ⟨inner, looping⟩ := exists_session_of_finishes finishes
      have client : behindAccept = true := by
        rw [behind.resolve_left (not_over_of_accept atStage), looping,
          ServiceStage.progressBehind_session]
        rfl
      rw [finishes, client]
      refine ⟨⟨.opened, false⟩, rfl, rfl, .inr ?_⟩
      rw [atStage]
      rfl
  | goesOn unfinished progress =>
      rw [unfinished]
      refine ⟨_, rfl, rfl, behind.imp_right ?_⟩
      intro same
      rw [progress]
      exact same

/-- The service makes the calls on its two server sockets in an order in which each
descriptor is closed once, whatever its environment answers. -/
theorem serverCalls_closesOnce
    (inetPton : InetPton)
    (peer : Peer) (listening : peer ≠ .server) (port : Int)
    (service final : Service kind)
    (answers : List (ServiceAnswer kind))
    (starting : service.Starting)
    (reached : Machine.run (step inetPton) service answers = some final) :
    Socket.ServerSocket.ClosesOnce
      (.bind port .bound :: .listen (.ok ()) ::
        Machine.trace (step inetPton) (serverCalls peer) service answers) := by
  have attends : service.Attends peer ⟨.opened, false⟩ := by
    refine ⟨rfl, .inr ?_⟩
    rw [starting.stage]
    rfl
  obtain ⟨after, accepted, listens, _clients⟩ := Machine.run_calls
    (fun _state _answer _next _holdings => serverCalls_allowed listening) attends reached
  have ordered : (⟨.opened, false⟩ : Socket.Holdings).WellOrdered
      (Machine.trace (step inetPton) (serverCalls peer) service answers) :=
    Socket.Holdings.wellOrdered_of_run accepted (.inl listens)
  have allOrdered : Socket.Holdings.initial.WellOrdered
      (.bind port .bound :: .listen (.ok ()) ::
        Machine.trace (step inetPton) (serverCalls peer) service answers) :=
    ⟨Socket.Listener.noConfusion, trivial, ordered⟩
  intro numbering port sock clientSock epfd socket ran
  exact Socket.ServerSocket.balanced_of_wellOrdered
    (Socket.ServerSocket.tracks_created port sock clientSock epfd) allOrdered ran

/-- A session that the server closes is one call of `accept`, and one that closes the
client. -/
theorem serverCalls_closesOnce_closed_by_server :
    Socket.ServerSocket.ClosesOnce
      ([.bind 5555 .bound, .listen (.ok ()), .accept (.accepted () .enabled), .closeClient] :
        List (Socket.ServerCall Unit)) :=
  serverCalls_closesOnce noAddress .control (by decide) 5555 listeningService _ closedByServer
    ⟨rfl, rfl, fun peer => by cases peer <;> rfl⟩ rfl

/-! ## The capture thread -/

/-- There is a capture thread exactly while the session needs one. -/
def Watches (service : Service .pcap) (wrapper : Socket.PcapWrapper) : Prop :=
  service.Over ∨ (wrapper.HasThread ↔ service.stage.progress.Captures)

/-- The thread is started by the step behind which the session captures. -/
theorem captures_progressBehind {stage : ServiceStage .pcap} {answer : ServiceAnswer .pcap}
    (other : stage ≠ .startLoop) :
    (stage.progressBehind answer).Captures ↔ stage.progress.Captures := by
  unfold ServiceStage.progressBehind
  split
  · simp [Progress.Captures, ServiceStage.progress]
  · simp [Progress.Captures, ServiceStage.progress, firstCall]
  · exact absurd rfl other
  · simp [Progress.Captures, ServiceStage.progress]
  · rfl

theorem loopCalls_of_ne {service : Service .pcap} (other : service.stage ≠ .startLoop)
    (answer : ServiceAnswer .pcap) :
    service.loopCalls answer = if service.finishes answer then [.stopLoop] else [] := by
  unfold loopCalls
  split
  case h_1 atStage => exact absurd atStage other
  case h_2 atStage => exact absurd atStage other
  case h_3 => rfl

/-- Every step of the service makes calls on the wrapper that neither lose a thread nor
miss one. -/
theorem loopCalls_handled
    {service next : Service .pcap} {answer : ServiceAnswer .pcap} {wrapper : Socket.PcapWrapper}
    (watches : service.Watches wrapper)
    (stepped : service.step inetPton answer = some next) :
    ∃ after, Machine.run Socket.PcapWrapper.handle wrapper (service.loopCalls answer) =
        some after ∧ next.Watches after := by
  have here := watches.resolve_left (not_over_of_step stepped)
  by_cases starting : service.stage = .startLoop
  · have idle : ¬wrapper.HasThread := by
      rw [here, starting]
      simp [Progress.Captures, ServiceStage.progress]
    rw [step, starting] at stepped
    unfold loopCalls
    rw [starting]
    cases answer with
    | done =>
        cases stepped
        refine ⟨⟨.running⟩, ?_, .inr (iff_of_true (.inl rfl) (.inl rfl))⟩
        rw [Machine.run_singleton, Socket.PcapWrapper.handle, if_neg idle]
        rfl
    | thrown fault =>
        cases stepped
        refine ⟨wrapper, ?_, .inl (over_raise fault)⟩
        rw [Machine.run_singleton, Socket.PcapWrapper.handle, if_neg idle]
        rfl
    | descriptor | failed | received | closed | resolved | returns | pending | brokenPipe =>
        cases stepped
  · rw [loopCalls_of_ne starting]
    cases advances_of_step stepped with
    | gone unfinished gone =>
        rw [unfinished]
        exact ⟨wrapper, rfl, .inl gone⟩
    | finished finishes atStage =>
        obtain ⟨inner, looping⟩ := exists_session_of_finishes finishes
        have thread : wrapper.HasThread := by
          rw [here, looping]
          exact .inr rfl
        refine ⟨⟨.deleted⟩, ?_, .inr ?_⟩
        · rw [finishes, if_pos rfl, Machine.run_singleton]
          exact Socket.PcapWrapper.stopLoop_of_hasThread thread
        · rw [atStage]
          simp [Socket.PcapWrapper.HasThread, Progress.Captures, ServiceStage.progress]
    | goesOn unfinished progress =>
        rw [unfinished]
        refine ⟨wrapper, rfl, .inr ?_⟩
        rw [progress, captures_progressBehind starting]
        exact here

end Service

/-- What happens to a service that captures packets: a call returns, or `pcap_loop` does, on
the capture thread. -/
inductive CaptureEvent
  | returns (answer : ServiceAnswer .pcap)
  | loopReturns

namespace Service

variable {inetPton : InetPton}

/-- The service does not notice that `pcap_loop` returns. -/
def captureStep (inetPton : InetPton) (service : Service .pcap) :
    CaptureEvent → Option (Service .pcap)
  | .returns answer => service.step inetPton answer
  | .loopReturns => some service

/-- What an event is to the wrapper of the capture device. -/
def captureCalls (service : Service .pcap) : CaptureEvent → List Socket.LoopCall
  | .returns answer => service.loopCalls answer
  | .loopReturns => [.loopReturns]

/-- What the session loop relies on: the thread that captures its packets has been started
and not been joined, and the socket to the server takes calls. -/
structure Equipped (service : Service .pcap) (wrapper : Socket.PcapWrapper) : Prop where
  captures : service.Watches wrapper
  established : service.Tells

theorem equipped_start
    {service : Service .pcap}
    (starting : service.Starting) (unestablished : service.proxy.established = false) :
    service.Equipped .opened where
  captures := by
    right
    rw [starting.stage]
    simp [Socket.PcapWrapper.HasThread, Socket.PcapWrapper.opened, Progress.Captures,
      ServiceStage.progress]
  established := by
    right
    rw [starting.stage, unestablished]
    simp [ServiceStage.progress]

/-- Whatever happens, the service and the thread stay in agreement. -/
theorem captureCalls_handled
    {service next : Service .pcap} {event : CaptureEvent} {wrapper : Socket.PcapWrapper}
    (equipped : service.Equipped wrapper)
    (stepped : service.captureStep inetPton event = some next) :
    ∃ after, Machine.run Socket.PcapWrapper.handle wrapper (service.captureCalls event) =
        some after ∧ next.Equipped after := by
  cases event with
  | returns answer =>
      obtain ⟨after, handled, watches⟩ := loopCalls_handled equipped.captures stepped
      exact ⟨after, handled, watches, tells_of_step equipped.established stepped⟩
  | loopReturns =>
      cases stepped
      obtain ⟨after, handled, same⟩ := wrapper.handle_loopReturns
      refine ⟨after, ?_, ?_, equipped.established⟩
      · rw [captureCalls, Machine.run_singleton, handled]
      · exact equipped.captures.imp_right fun watches => same.trans watches

/-- With the technique that captures packets, and wherever `pcap_loop` returns by itself, the
service starts a thread only when there is none that has not been joined and stops one only
when there is one, and in every session there is one from before the connection to the
server is opened until it is closed.  It runs unless `pcap_loop` has returned by itself since it has
been started. -/
theorem loopCalls_equipped
    (inetPton : InetPton)
    (service final : Service .pcap)
    (events : List CaptureEvent)
    (starting : service.Starting)
    (unestablished : service.proxy.established = false)
    (reached : Machine.run (captureStep inetPton) service events = some final) :
    ∃ wrapper, Machine.run Socket.PcapWrapper.handle .opened
        (Machine.trace (captureStep inetPton) captureCalls service events) = some wrapper ∧
      final.Equipped wrapper ∧
      (wrapper.loopThread = .finished → Socket.PcapWrapper.ReturnsLast
        (Machine.trace (captureStep inetPton) captureCalls service events)) := by
  obtain ⟨wrapper, handled, equipped⟩ := Machine.run_calls
    (fun _service _event _next _wrapper => captureCalls_handled)
    (equipped_start starting unestablished) reached
  refine ⟨wrapper, handled, equipped, fun finished => ?_⟩
  rcases Socket.PcapWrapper.returnsLast_of_finished handled finished with ⟨already, _⟩ | returns
  · cases already
  · exact returns

/-- The service in front of its first client, when it captures packets. -/
def capturingService : Service .pcap where
  stage := .accept .control
  listening
    | .client => 3
    | _ => 4
  control := ⟨0, none⟩
  proxyInput := ⟨0, none⟩
  proxyOutput := ⟨0, none⟩
  connectHost := []
  connectPort := 0
  proxy := ⟨[], false, "eth0", PCAP_TSTAMP_PRECISION_MICRO, ⟨0, 0⟩, ⟨0, 0⟩, []⟩
  opened := []

/-- The target is an address, and the server closes the connection to it. -/
def capturedSession : List (ServiceAnswer .pcap) :=
  [.descriptor 5, .descriptor 6, .done,
    .received [50, 48, 48, 49, 58, 100, 98, 56, 58, 58, 49, 10, 56, 48, 10],
    .descriptor 7, .descriptor 8, .done, .done, .done, .resolved 1, .descriptor 9, .done,
    .descriptor 10, .done, .returns (.failed .again), .returns .closed,
    .pending [], .pending [], .pending []]

/-- What happens in such a session, while the capture device fails behind the first call of
the session loop. -/
def capturedEvents : List CaptureEvent :=
  (capturedSession.take 15).map .returns ++ .loopReturns ::
    (capturedSession.drop 15).map .returns

/-- Behind such a session, the thread has been joined. -/
theorem loopCalls_equipped_closed_by_server :
    ∃ final wrapper,
      Machine.run (captureStep PCAPTimingSocket.documentationPton) capturingService
          capturedEvents = some final ∧
      Machine.run Socket.PcapWrapper.handle .opened
          [.startLoop true, .loopReturns, .stopLoop] = some wrapper ∧
      final.Equipped wrapper := by
  have ran : (Machine.run (captureStep PCAPTimingSocket.documentationPton) capturingService
      capturedEvents).isSome = true := by
    decide +kernel
  have calls : Machine.trace (captureStep PCAPTimingSocket.documentationPton) captureCalls
      capturingService capturedEvents = [.startLoop true, .loopReturns, .stopLoop] := by
    decide +kernel
  obtain ⟨final, reached⟩ := Option.isSome_iff_exists.mp ran
  obtain ⟨wrapper, handled, equipped, _finished⟩ := loopCalls_equipped
    PCAPTimingSocket.documentationPton capturingService final capturedEvents
    ⟨rfl, rfl, fun peer => by cases peer <;> rfl⟩ rfl reached
  rw [calls] at handled
  exact ⟨final, wrapper, reached, handled, equipped⟩

end Service

end NetworkTiming
