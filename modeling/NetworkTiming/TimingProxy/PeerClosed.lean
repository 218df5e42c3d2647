import NetworkTiming.TimingProxy.Service

/-!
# Which descriptor is watched

The checks behind each iteration ask the epoll descriptor of a connection.  What has
been registered on it is the descriptor 0, whatever the connection: a check tells of
standard input.
-/

namespace NetworkTiming

namespace Service

variable {kind : KindOfSocket} {inetPton : InetPton}

/-- The service in front of its first client. -/
structure Starting (service : Service kind) : Prop where
  stage : service.stage = .accept .control
  opened : service.opened = []
  unwatched : ∀ peer, (service.connection peer).watch = none

/-- If the check of a connection finds an error or a hang-up, it is one of the descriptor
of this connection. -/
def ReportsOwn (service : Service kind) (answer : ServiceAnswer kind) : Prop :=
  match service.stage, answer with
  | .session (.poll _ peer), .pending descriptors =>
      (service.connection peer).socketPeerClosed descriptors = true →
        (service.connection peer).sock ∈ descriptors
  | _, _ => True

instance (service : Service kind) (answer : ServiceAnswer kind) :
    Decidable (service.ReportsOwn answer) := by
  unfold ReportsOwn
  split <;> infer_instance

/-- If standard input has an error or a hang-up pending when a connection is checked, the
descriptor of this connection has one, too. -/
def InputPendsWithOwn (service : Service kind) (answer : ServiceAnswer kind) : Prop :=
  match service.stage, answer with
  | .session (.poll _ peer), .pending descriptors =>
      0 ∈ descriptors → (service.connection peer).sock ∈ descriptors
  | _, _ => True

instance (service : Service kind) (answer : ServiceAnswer kind) :
    Decidable (service.InputPendsWithOwn answer) := by
  unfold InputPendsWithOwn
  split <;> infer_instance

/-- Every epoll descriptor watches standard input. -/
def WatchesInput (service : Service kind) : Prop :=
  ∀ peer watch, (service.connection peer).watch = some watch → watch.watched = 0

theorem WatchesInput.congr
    {service next : Service kind}
    (watches : service.WatchesInput)
    (same : next.connection = service.connection) : next.WatchesInput := by
  intro peer
  rw [same]
  exact watches peer

theorem Moves.watchesInput
    {service next : Service kind} {stage : ServiceStage kind} {answer : ServiceAnswer kind}
    (moves : Moves inetPton service stage answer next)
    (watches : service.WatchesInput) : next.WatchesInput := by
  cases moves with
  | @accepted peer fd =>
      intro other watch watched
      rw [Service.accepted, connection_enter, connection_withConnection] at watched
      split at watched
      case isTrue same => exact watches peer watch watched
      case isFalse => exact watches other watch watched
  | @epollAdded peer epfd =>
      apply WatchesInput.congr _ (connection_enabled _ peer)
      intro other watch watched
      rw [registered, connection_withConnection] at watched
      split at watched
      case isTrue same =>
          cases watched
          rfl
      case isFalse => exact watches other watch watched
  | socketConnected =>
      intro other watch watched
      cases other with
      | client => exact watches .client watch watched
      | server => exact watches .server watch watched
      | control => exact watches .control watch watched
  | _ => exact watches.congr (by simp [enterSession])

/-- A connection that is checked has an epoll descriptor. -/
theorem exists_watch_of_checked
    {service next : Service kind} {reason : Option String} {peer : Peer}
    {descriptors : List Nat}
    (stepped : service.stepAt inetPton (.session (.poll reason peer))
      (.pending descriptors) = some next) :
    ∃ watch, (service.connection peer).watch = some watch := by
  cases watched : (service.connection peer).watch with
  | some watch => exact ⟨watch, rfl⟩
  | none =>
      simp [stepAt, sessionAnswer, watched] at stepped

/-- The check of a connection is right if standard input has nothing pending that the
connection has not, and only then. -/
theorem reportsOwn_iff
    {service next : Service kind} {answer : ServiceAnswer kind}
    (watches : service.WatchesInput)
    (stepped : service.step inetPton answer = some next) :
    service.ReportsOwn answer ↔ service.InputPendsWithOwn answer := by
  rw [step] at stepped
  unfold ReportsOwn InputPendsWithOwn
  split
  case h_1 reason peer descriptors atPoll =>
      rw [atPoll] at stepped
      obtain ⟨watch, watched⟩ := exists_watch_of_checked stepped
      have reports : (service.connection peer).socketPeerClosed descriptors = true ↔
          0 ∈ descriptors := by
        rw [Connection.socketPeerClosed, watched, Option.any_some, Watch.reports,
          decide_eq_true_iff, watches peer watch watched]
      rw [reports]
  case h_2 => exact Iff.rfl

/-- In every run, each check that finds an error or a hang-up finds one of its own
connection, exactly if standard input never has one pending that the connection that is
checked has not. -/
theorem reportsOwn_along_iff
    (inetPton : InetPton)
    (service final : Service kind)
    (answers : List (ServiceAnswer kind))
    (starting : service.Starting)
    (reached : Machine.run (step inetPton) service answers = some final) :
    Machine.Along (step inetPton) ReportsOwn service answers ↔
      Machine.Along (step inetPton) InputPendsWithOwn service answers := by
  have initially : service.WatchesInput := by
    intro peer watch watched
    rw [starting.unwatched peer] at watched
    cases watched
  refine Machine.along_congr initially ?_ ?_ reached
  · intro service answer next watches _ stepped
    exact (moves_of_stepAt stepped).watchesInput watches
  · intro service answer next watches stepped
    exact reportsOwn_iff watches stepped

/-- A proxy that listens, and measures with the CPU. -/
def listeningService : Service .cpu where
  stage := .accept .control
  listening
    | .client => 3
    | _ => 4
  control := ⟨0, none⟩
  proxyInput := ⟨0, none⟩
  proxyOutput := ⟨0, none⟩
  connectHost := []
  connectPort := 0
  proxy := ⟨[], false, "", 0, 0, 0, []⟩
  opened := []

/-- The target `a:80` is read and connected to, and nothing is there to forward. -/
def idleSession : List (ServiceAnswer .cpu) :=
  [.descriptor 5, .descriptor 6, .done, .received [97, 10, 56, 48, 10],
    .descriptor 7, .descriptor 8, .done, .resolved 1, .descriptor 9, .done,
    .descriptor 10, .done, .returns (.failed .again), .returns (.failed .again)]

/-- No address can be parsed. -/
def noAddress : InetPton := fun _ _ => none

/-- While nothing is pending, the checks find nothing. -/
theorem reportsOwn_along_quiet :
    (∃ final, Machine.run (step noAddress) listeningService
        (idleSession ++ [.pending [], .pending [9], .pending []]) = some final) ∧
      Machine.Along (step noAddress) ReportsOwn listeningService
        (idleSession ++ [.pending [], .pending [9], .pending []]) :=
  ⟨⟨_, rfl⟩, (reportsOwn_along_iff noAddress listeningService _ _
    ⟨rfl, rfl, fun peer => by cases peer <;> rfl⟩ rfl).mpr (by decide +kernel)⟩

/-- A hang-up of standard input ends a session whose three peers are all there. -/
theorem not_reportsOwn_along_input_closed :
    (∃ final, Machine.run (step noAddress) listeningService
        (idleSession ++ [.pending [0]]) = some final ∧
        final.stage = .accept .control) ∧
      ¬Machine.Along (step noAddress) ReportsOwn listeningService
        (idleSession ++ [.pending [0]]) :=
  ⟨⟨_, rfl, rfl⟩, by decide +kernel⟩

end Service

end NetworkTiming
