import NetworkTiming.TimingProxy.ControlStream
import NetworkTiming.TimingProxy.Exceptions
import NetworkTiming.TimingProxy.SocketCalls

/-!
# The targets of sessions

What a session connects to is what its own control connection has spelled: nothing of an
earlier session, and nothing behind the two lines, has a part in it.
-/

namespace NetworkTiming

open TimingProxy

variable {kind : KindOfSocket}

/-- The characters of the control connection that an answer adds. -/
def ServiceAnswer.heard : ServiceAnswer kind → List UInt8
  | .received bytes => cString bytes
  | _ => []

namespace Service

/-- The characters of the control connection that some answers add. -/
def heard (answers : List (ServiceAnswer kind)) : List UInt8 :=
  answers.flatMap ServiceAnswer.heard

theorem heard_concat (answers : List (ServiceAnswer kind)) (answer : ServiceAnswer kind) :
    heard (answers ++ [answer]) = heard answers ++ answer.heard := by
  rw [heard, List.flatMap_append, ← heard, List.flatMap_singleton]

/-- What has been read of a text at a stage. -/
def Spells (text : List UInt8) (service : Service kind) : Prop :=
  match service.stage with
  | .accept .control | .createEpoll .control | .addEpoll .control _ => text = []
  | .readHost str => newline ∉ text ∧ str = text
  | .readPort str =>
      newline ∈ text ∧ newline ∉ tail text ∧ str = tail text ∧ service.connectHost = line text
  | .readNothing | .raised _ | .killed _ => True
  | _ => targetOf text = some (.ok (service.connectHost, service.connectPort))

variable {service next : Service kind} {inetPton : InetPton} {stage : ServiceStage kind}
  {answer : ServiceAnswer kind} {text : List UInt8}

theorem spells_raise (fault : Fault) : (service.raise fault).Spells text := trivial

/-- The second line is looked for behind the first one. -/
theorem spells_getPort
    (first : newline ∈ text) (host : service.connectHost = line text) :
    (service.getPort (tail text)).Spells text := by
  unfold getPort
  split
  case isTrue complete =>
      cases spelled : stoi (line (tail text)) with
      | ok port =>
          change targetOf text = some (.ok (service.connectHost, port))
          rw [targetOf, if_pos ⟨first, complete⟩, spelled, host]
          rfl
      | error fault => exact spells_raise fault
  case isFalse incomplete => exact ⟨first, incomplete, rfl, host⟩

theorem spells_getHost : (service.getHost text).Spells text := by
  unfold getHost
  split
  case isTrue complete => exact spells_getPort complete rfl
  case isFalse incomplete => exact ⟨incomplete, rfl⟩

/-- The target is there. -/
def Targets (text : List UInt8) (service : Service kind) : Prop :=
  targetOf text = some (.ok (service.connectHost, service.connectPort))

theorem spells_connect (targets : service.Targets text) :
    (service.connect inetPton).Spells text := by
  unfold connect
  split
  · exact spells_raise _
  · cases kind <;> exact targets

theorem spells_tryCandidates (targets : service.Targets text) (candidates : Nat) :
    (service.tryCandidates candidates).Spells text := by
  cases candidates with
  | zero => exact spells_raise _
  | succ more => exact targets

theorem spells_tryAgain (targets : service.Targets text) (more : Nat) (retries : Option Nat) :
    (service.tryAgain more retries).Spells text := by
  rcases retries with _ | (_ | retries)
  · exact targets
  · exact spells_tryCandidates targets more
  · exact targets

/-- What is read goes on to spell the target, and the target stays what has been spelled. -/
theorem Moves.spells
    (moves : Moves inetPton service stage answer next)
    (atStage : service.stage = stage) (spells : service.Spells text)
    (goesOn : next.stage ≠ .accept .control) : next.Spells (text ++ answer.heard) := by
  unfold Spells at spells
  rw [atStage] at spells
  have quiet (silent : answer.heard = []) (same : next.Spells text) :
      next.Spells (text ++ answer.heard) := by
    rw [silent, List.append_nil]
    exact same
  cases moves with
  | @accepted peer fd => exact quiet rfl (by cases peer <;> exact spells)
  | @epollCreated peer epfd => exact quiet rfl (by cases peer <;> exact spells)
  | @epollAdded peer epfd =>
      apply quiet rfl
      cases peer with
      | control =>
          rw [show text = [] from spells]
          exact spells_getHost
      | client => exact spells_connect spells
      | server => cases kind <;> exact spells
  | hostRead =>
      obtain ⟨_incomplete, rfl⟩ := spells
      exact spells_getHost
  | @portRead str bytes =>
      obtain ⟨first, _incomplete, rfl, host⟩ := spells
      rw [← tail_append first]
      exact spells_getPort (List.mem_append_left _ first) (host.trans (line_append first _).symm)
  | resolved | socketSkipped => exact quiet rfl (spells_tryCandidates spells _)
  | socketFailed => exact quiet rfl (spells_tryAgain spells _ _)
  | @connectFailed more retries fd =>
      exact quiet rfl (@spells_tryAgain _ (service.closing fd) text spells more retries)
  | configured configuring =>
      exact quiet rfl (by rcases configuring with rfl | rfl <;> exact spells)
  | noHardware trying => exact quiet rfl (by rcases trying with rfl | rfl <;> exact spells)
  | optionSet setting => exact quiet rfl (by rcases setting with rfl | rfl <;> exact spells)
  | @proceeds inner answer given config gives =>
      have silent : answer.heard = [] := by
        cases answer with
        | received => cases gives
        | _ => rfl
      apply quiet silent
      obtain ⟨inner, proxy⟩ := config
      cases inner with
      | ended => exact absurd rfl goesOn
      | raised fault => exact spells_raise fault
      | readClient | sendServer | timing | readServer | stampRead | sendClient | sendControl
      | poll => exact spells
  | filterSet | loopStarted | socketCreated | socketConnected | notConfigured =>
      exact quiet rfl spells
  | controlClosed | pipeBroken => exact trivial
  | acceptFailed | createFailed | addFailed | controlFailed | filterFailed | loopFailed
  | unresolved | noSoftware => exact spells_raise _

/-- With a client, both lines have been read. -/
theorem Spells.targets (spells : service.Spells text)
    (served : service.stage.progress.serves .client = true) : service.Targets text := by
  unfold Spells at spells
  split at spells
  case h_9 => exact spells
  all_goals
    rename_i atStage
    rw [atStage] at served
    cases served

/-- The answers of a run since the service has last waited for a control connection. -/
def LatestSession (inetPton : InetPton) (service : Service kind)
    (answers during : List (ServiceAnswer kind)) : Prop :=
  ∃ before idle, answers = before ++ during ∧
    Machine.run (step inetPton) service before = some idle ∧
    idle.stage = .accept .control ∧
    ∀ part next, part ≠ [] → part <+: during →
      Machine.run (step inetPton) idle part = some next → next.stage ≠ .accept .control

/-- Another answer starts a session, or belongs to the latest one. -/
theorem LatestSession.concat
    {service middle next : Service kind} {history during : List (ServiceAnswer kind)}
    (latest : LatestSession inetPton service history during)
    (reached : Machine.run (step inetPton) service history = some middle)
    (stepped : middle.step inetPton answer = some next) :
    LatestSession inetPton service (history ++ [answer])
      (if next.stage = .accept .control then [] else during ++ [answer]) := by
  split
  case isTrue waits =>
      refine ⟨history ++ [answer], next, (List.append_nil _).symm,
        Machine.run_concat_eq_some.mpr ⟨middle, reached, stepped⟩, waits, ?_⟩
      rintro part later nonempty inside
      exact absurd (List.prefix_nil.mp inside) nonempty
  case isFalse goesOn =>
      obtain ⟨before, idle, rfl, waited, atStage, since⟩ := latest
      refine ⟨before, idle, List.append_assoc _ _ _, waited, atStage, ?_⟩
      intro part later nonempty inside reachedLater
      rcases List.prefix_concat_iff.mp inside with rfl | earlier
      · rw [Machine.run_append, waited, Option.bind_some] at reached
        rw [Machine.run_append, reached, Option.bind_some, Machine.run_singleton,
          stepped] at reachedLater
        cases reachedLater
        exact goesOn
      · exact since part later nonempty earlier reachedLater

/-- As soon as a session has its client, its target is what its own control connection has
spelled. -/
theorem targets_spelled
    (inetPton : InetPton)
    (service final : Service kind)
    (answers : List (ServiceAnswer kind))
    (waiting : service.stage = .accept .control)
    (reached : Machine.run (step inetPton) service answers = some final)
    (served : final.stage.progress.serves .client = true) :
    ∃ during, LatestSession inetPton service answers during ∧
      final.Targets (heard during) := by
  have spelled : ∃ during, LatestSession inetPton service answers during ∧
      final.Spells (heard during) := by
    refine @Machine.run_invariant _ _ (step inetPton) service final answers
      (fun history service' => ∃ during, LatestSession inetPton service history during ∧
        service'.Spells (heard during)) ?_ ?_ reached
    · refine ⟨[], ⟨[], service, rfl, rfl, waiting, ?_⟩, ?_⟩
      · rintro part later nonempty inside
        exact absurd (List.prefix_nil.mp inside) nonempty
      · unfold Spells
        rw [waiting]
        rfl
    · rintro history middle answer next before ⟨during, latest, spells⟩ stepped
      refine ⟨_, latest.concat before stepped, ?_⟩
      split
      case isTrue waits =>
          unfold Spells
          rw [waits]
          rfl
      case isFalse goesOn =>
          rw [heard_concat]
          exact (moves_of_stepAt stepped).spells rfl spells goesOn
  obtain ⟨during, latest, spells⟩ := spelled
  exact ⟨during, latest, spells.targets served⟩

/-- The session behind one with the target `a:80` spells `b:81`, in three reads. -/
def secondSession : List (ServiceAnswer .cpu) :=
  [.descriptor 5, .descriptor 6, .done, .received [98], .received [10, 56], .received [49, 10],
    .descriptor 7, .descriptor 8, .done]

/-- Its target is its own. -/
theorem targets_spelled_second_session :
    ∃ final during,
      Machine.run (step noAddress) listeningService (closedByServer ++ secondSession) =
        some final ∧
      LatestSession noAddress listeningService (closedByServer ++ secondSession) during ∧
      final.Targets (heard during) ∧ (final.connectHost, final.connectPort) = ([98], 81) := by
  obtain ⟨during, latest, targets⟩ := targets_spelled noAddress listeningService _
    (closedByServer ++ secondSession) rfl rfl rfl
  exact ⟨_, during, rfl, latest, targets, rfl⟩

end Service

end NetworkTiming
