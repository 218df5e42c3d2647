import NetworkTiming.Library.Simulation
import NetworkTiming.TimingProxy.Exceptions
import NetworkTiming.TimingProxy.Progress

/-!
# The service and the program

`TimingProxy.run` is the program of the source with one answer for the setting up of a
session.  The service is a machine that makes every call.  Whatever run the machine
takes, the program takes it, too, with the same measurements and the same end.
-/

namespace NetworkTiming

open Interactive TimingProxy

variable {kind : KindOfSocket}

/-- A session starts. -/
def Event.isConnected : Event kind → Bool
  | .connected => true
  | _ => false

namespace TimingProxy

/-- What has been seen of the sessions, but for their starts. -/
def seen (proxy : TimingProxy kind) : List (Event kind) :=
  proxy.log.filter fun event => !event.isConnected

/-- Two proxies have measured the same and have been seen to do the same. -/
structure Alike (one other : TimingProxy kind) : Prop where
  device : other.device = one.device
  tstampPrecision : other.tstampPrecision = one.tstampPrecision
  txTimestamp : other.txTimestamp = one.txTimestamp
  rxTimestamp : other.rxTimestamp = one.rxTimestamp
  seen : other.seen = one.seen

namespace Alike

variable {one other : TimingProxy kind}

theorem refl (proxy : TimingProxy kind) : Alike proxy proxy := ⟨rfl, rfl, rfl, rfl, rfl⟩

theorem observing (alike : Alike one other) (event : Event kind) :
    Alike (one.observing event) (other.observing event) where
  __ := alike
  seen := by
    change (other.log ++ [event]).filter _ = (one.log ++ [event]).filter _
    rw [List.filter_append, List.filter_append]
    exact congrArg (· ++ _) alike.seen

theorem stampedTx (alike : Alike one other) (stamp : kind.Stamp) :
    Alike (one.stampedTx stamp) (other.stampedTx stamp) := by
  have same : Alike { one with txTimestamp := stamp } { other with txTimestamp := stamp } :=
    { alike with txTimestamp := rfl, seen := alike.seen }
  exact same.observing _

theorem stampedRx (alike : Alike one other) (stamp : kind.Stamp) :
    Alike (one.stampedRx stamp) (other.stampedRx stamp) := by
  have same : Alike { one with rxTimestamp := stamp } { other with rxTimestamp := stamp } :=
    { alike with rxTimestamp := rfl, seen := alike.seen }
  exact same.observing _

/-- That a session starts makes no difference. -/
theorem starting (alike : Alike one other) : Alike one (other.observing .connected) where
  __ := alike
  seen := by
    change (other.log ++ [Event.connected]).filter _ = _
    rw [List.filter_append, ← alike.seen]
    exact List.append_nil _

/-- The same is measured. -/
theorem measure (alike : Alike one other) :
    ∃ later, Config.measure other = ⟨(Config.measure one).stage, later⟩ ∧
      Alike (Config.measure one).proxy later := by
  simp only [Config.measure, alike.tstampPrecision, alike.txTimestamp, alike.rxTimestamp]
  exact ⟨_, rfl, alike.observing _⟩

/-- A `write` returns to the same place. -/
theorem written (alike : Alike one other) (enclosing : List (List UInt8)) :
    ∃ later, Config.written other enclosing = ⟨(Config.written one enclosing).stage, later⟩ ∧
      Alike (Config.written one enclosing).proxy later := by
  cases enclosing with
  | nil => exact ⟨_, rfl, alike.observing _⟩
  | cons => exact ⟨_, rfl, alike⟩

end Alike

end TimingProxy

namespace Config

variable {config next : Config kind} {answer : Answer kind}

/-- Proxies that are alike take the same steps and stay alike. -/
theorem Moves.alike
    {stage : Stage kind} {one other : TimingProxy kind}
    (moves : Moves ⟨stage, one⟩ answer next) (alike : Alike one other) :
    ∃ later, Moves ⟨stage, other⟩ answer ⟨next.stage, later⟩ ∧ Alike next.proxy later := by
  cases moves with
  | received nonempty fits => exact ⟨_, .received nonempty fits, alike.observing _⟩
  | clientClosed => exact ⟨_, .clientClosed, alike⟩
  | nothingReceived => exact ⟨_, .nothingReceived, alike.observing _⟩
  | partSent accepts rest => exact ⟨_, .partSent accepts rest, alike.observing _⟩
  | allSent => exact ⟨_, .allSent, alike.observing _⟩
  | sendingFailed => exact ⟨_, .sendingFailed, alike⟩
  | writeTime => exact ⟨_, .writeTime, alike.stampedTx _⟩
  | peeked returns => exact ⟨_, .peeked returns, alike⟩
  | @readTime _ _ enclosing stamp =>
      obtain ⟨later, same, alike⟩ := (alike.stampedRx stamp).written enclosing
      exact ⟨later, same ▸ .readTime, alike⟩
  | @messageFound _ _ enclosing _ stamp =>
      obtain ⟨later, same, alike⟩ := (alike.stampedTx stamp).written enclosing
      exact ⟨later, same ▸ .messageFound, alike⟩
  | searchedOn => exact ⟨_, .searchedOn, alike⟩
  | searchExhausted =>
      refine ⟨other, ?_, alike⟩
      rw [← alike.device]
      exact .searchExhausted
  | searchFailed => exact ⟨_, .searchFailed, alike⟩
  | @lookedUp _ _ enclosing stamp =>
      obtain ⟨later, same, alike⟩ := (alike.stampedTx stamp).written enclosing
      exact ⟨later, same ▸ .lookedUp, alike⟩
  | responded nonempty fits => exact ⟨_, .responded nonempty fits, alike.observing _⟩
  | serverClosed => exact ⟨_, .serverClosed, alike⟩
  | noResponse quiet => exact ⟨_, .noResponse quiet, alike.observing _⟩
  | serverReset => exact ⟨_, .serverReset, alike⟩
  | readingFailed => exact ⟨_, .readingFailed, alike⟩
  | readStamped stamped => exact ⟨_, .readStamped stamped, alike.stampedRx _⟩
  | unstamped => exact ⟨_, .unstamped, alike.observing _⟩
  | misstamped => exact ⟨_, .misstamped, alike⟩
  | partForwarded accepts rest => exact ⟨_, .partForwarded accepts rest, alike.observing _⟩
  | allForwarded =>
      obtain ⟨later, same, alike⟩ := (alike.observing _).measure
      exact ⟨later, same ▸ .allForwarded, alike⟩
  | forwardingFailed => exact ⟨_, .forwardingFailed, alike⟩
  | partReported accepts rest => exact ⟨_, .partReported accepts rest, alike.observing _⟩
  | allReported => exact ⟨_, .allReported, (alike.observing _).observing _⟩
  | reportingFailed => exact ⟨_, .reportingFailed, alike⟩
  | hungUp => exact ⟨_, .hungUp, alike⟩
  | clientThere => exact ⟨_, .clientThere, alike⟩
  | controlThere => exact ⟨_, .controlThere, alike⟩
  | serverThere => exact ⟨_, .serverThere, alike.observing _⟩
  | caught => exact ⟨_, .caught, alike⟩
  | pollingFailed => exact ⟨_, .pollingFailed, alike⟩

/-- Proxies that are alike take the same steps. -/
theorem step_alike
    {stage : Stage kind} {one other : TimingProxy kind}
    (alike : Alike one other) (stepped : step ⟨stage, one⟩ answer = some next) :
    ∃ later, step ⟨stage, other⟩ answer = some ⟨next.stage, later⟩ ∧ Alike next.proxy later := by
  obtain ⟨later, moves, alike⟩ := (moves_of_step stepped).alike alike
  exact ⟨later, step_of_moves moves, alike⟩

end Config

namespace Service

variable {service next final : Service kind} {inetPton : InetPton} {answer : ServiceAnswer kind}
  {later : TimingProxy kind} {iterations sessions left : Nat}

/-- What the program is answered: the calls of the session loop as they are, and for the
setting up of a session what it comes to. -/
def programAnswers (inetPton : InetPton) (service : Service kind)
    (answer : ServiceAnswer kind) : List (Answer kind) :=
  match service.stage with
  | .session stage => (service.sessionAnswer stage answer).toList
  | _ =>
      match (service.step inetPton answer).map Service.stage with
      | some (.session _) => [.connected]
      | some (.raised fault) => [.thrown fault]
      | _ => []

/-- How the observation of the program ends where the service is.  A signal ends the process
while the program waits for `send`. -/
def stop (service : Service kind) : Except Stop Unit :=
  match service.stage with
  | .raised fault => .error (.exception fault)
  | _ => .error .waiting

/-- The end of `handleClient`. -/
def disconnect : Session kind Unit :=
  modify fun proxy => { proxy with established := false }

/-- What is left of the program at a stage, with the iterations of the session loop and the
sessions that are left. -/
def continuation (iterations sessions left : Nat) : ServiceStage kind → Session kind Unit
  | .session stage | .killed stage => do
      Stage.resume left stage
      disconnect
      run iterations sessions
  | .raised fault => throw (.exception fault)
  | _ => run iterations sessions

/-- In a session, the socket to the server is established, and the loop goes on. -/
def Ready (service : Service kind) (later : TimingProxy kind) : Prop :=
  ∀ stage, service.stage = .session stage ∨ service.stage = .killed stage →
    later.established = true ∧ stage.Proper ∧ stage.stop = .error .waiting

/-- A session is entered at the beginning of the loop. -/
theorem Moves.enters
    {stage : ServiceStage kind} {inner : Stage kind}
    (moves : Moves inetPton service stage answer next)
    (setup : ∀ other, stage ≠ .session other)
    (entered : next.stage = .session inner) : inner = .readClient := by
  have place : stage.progressBehind answer = .established := by
    rcases moves.reaches setup with ⟨fault, raised⟩ | ⟨reached, _alive⟩
    · cases raised.symm.trans entered
    · rw [← reached, entered]
      rfl
  cases moves with
  | @epollAdded peer epfd =>
      cases peer with
      | control => cases place
      | client => cases kind <;> cases place
      | server => cases kind <;> cases entered <;> rfl
  | optionSet =>
      cases entered
      rfl
  | proceeds | pipeBroken => exact absurd rfl (setup _)
  | controlClosed reading => cases entered
  | configured configuring | noHardware configuring => cases entered
  | hostRead | portRead | resolved | socketSkipped | socketFailed | connectFailed => cases place
  | accepted | acceptFailed | epollCreated | createFailed | addFailed | controlFailed
  | filterSet | filterFailed | loopStarted | loopFailed | unresolved | socketCreated
  | socketConnected | notConfigured | noSoftware => cases entered

theorem alike_established {one other : TimingProxy kind} (alike : Alike one other)
    (before behind : Bool) :
    Alike { one with established := before } { other with established := behind } :=
  { alike with seen := alike.seen }

/-- Where the service stands behind a call, the program stands behind its answer. -/
def Follows (iterations : Nat) (next : Service kind) (rest : List (Answer kind))
    (count : Nat) (outcome : Except Stop Unit × TimingProxy kind) : Prop :=
  ∃ later left sessions,
    Alike next.proxy later ∧ next.Ready later ∧ rest.length ≤ left ∧ count < sessions ∧
      outcome = Interactive.outcome (continuation iterations sessions left next.stage)
        (later.facing rest)

/-- A call of the session loop is one of the program. -/
theorem continuation_session
    {stage : Stage kind} {given : Answer kind} {config : Config kind}
    {rest : List (Answer kind)} {count : Nat}
    (alike : Alike service.proxy later)
    (established : later.established = true) (proper : stage.Proper)
    (stepped : Config.step ⟨stage, service.proxy⟩ given = some config)
    (fits : rest.length < left) (many : count < sessions) :
    Follows iterations (service.proceed config) rest count
      (outcome (continuation iterations sessions left (.session stage))
        (later.facing (given :: rest))) := by
  obtain ⟨after, moved, alike⟩ := Config.step_alike alike stepped
  have moves := Config.moves_of_step moved
  have kept : after.established = true := moves.established.trans established
  have stillProper := moves.proper proper
  obtain ⟨left', fits, same⟩ := Config.resume_step proper established moved fits
  dsimp only at same stillProper
  have goesOn : outcome (continuation iterations sessions left (.session stage))
      (later.facing (given :: rest)) =
        outcome (continuation iterations sessions left' (.session config.stage))
          (after.facing rest) := by
    rw [continuation, outcome_bind, same, ← outcome_bind]
    rfl
  obtain ⟨inner, proxy⟩ := config
  cases inner with
  | ended =>
      exact ⟨{ after with established := false }, left', sessions,
        alike_established alike false false, nofun, fits, many, goesOn⟩
  | raised fault => exact ⟨after, left', sessions, alike, nofun, fits, many, goesOn⟩
  | readClient | sendServer | timing | readServer | stampRead | sendClient | sendControl
  | poll =>
      refine ⟨after, left', sessions, alike, ?_, fits, many, goesOn⟩
      rintro _ (same | same) <;> cases same
      exact ⟨kept, stillProper, rfl⟩

theorem continuation_of_setup
    {stage : ServiceStage kind}
    (setup : ∀ inner, stage ≠ .session inner) (intact : ∀ fault, stage ≠ .raised fault)
    (alive : ∀ inner, stage ≠ .killed inner) :
    continuation iterations sessions left stage = run iterations sessions := by
  cases stage with
  | session inner => exact absurd rfl (setup inner)
  | raised fault => exact absurd rfl (intact fault)
  | killed inner => exact absurd rfl (alive inner)
  | _ => rfl

theorem programAnswers_of_setup
    (setup : ∀ inner, service.stage ≠ .session inner)
    (stepped : service.step inetPton answer = some next) :
    service.programAnswers inetPton answer =
      match next.stage with
      | .session _ => [.connected]
      | .raised fault => [.thrown fault]
      | _ => [] := by
  unfold programAnswers
  split
  case h_1 inner atStage => exact absurd atStage (setup inner)
  case h_2 =>
      rw [stepped, Option.map_some]
      cases next.stage <;> rfl

/-- The connections of a session have been set up. -/
theorem run_connected (rest : List (Answer kind)) :
    outcome (run (left + 1) (sessions + 1)) (later.facing (.connected :: rest)) =
      outcome (continuation (left + 1) sessions left (.session .readClient))
        (({ later with established := true }.observing .connected).facing rest) := by
  have client : outcome (handleClient (left + 1)) (later.facing (.connected :: rest)) =
      outcome (do
          Stage.resume left .readClient
          disconnect)
        (({ later with established := true }.observing .connected).facing rest) := rfl
  rw [run, outcome_bind, client, ← outcome_bind, bind_assoc]
  rfl

/-- A session is set up, or is not. -/
theorem continuation_setup
    {rest : List (Answer kind)} {count : Nat}
    (setup : ∀ inner, service.stage ≠ .session inner)
    (alike : Alike service.proxy later)
    (stepped : service.step inetPton answer = some next)
    (fits : (service.programAnswers inetPton answer ++ rest).length ≤ iterations)
    (many : count + 1 < sessions) :
    Follows iterations next rest count
      (outcome (continuation iterations sessions left service.stage)
        (later.facing (service.programAnswers inetPton answer ++ rest))) := by
  have moves := moves_of_stepAt stepped
  have intact : ∀ fault, service.stage ≠ .raised fault :=
    fun fault raised => not_over_of_step stepped (.inl ⟨fault, raised⟩)
  have alive : ∀ inner, service.stage ≠ .killed inner :=
    fun inner killed => not_over_of_step stepped (.inr ⟨inner, killed⟩)
  have same : Alike next.proxy later := by
    rw [moves.proxy setup]
    exact alike_established alike _ _
  rw [programAnswers_of_setup setup stepped] at fits ⊢
  rw [continuation_of_setup setup intact alive]
  obtain ⟨sessions, rfl⟩ := Nat.exists_eq_add_one_of_ne_zero (by omega : sessions ≠ 0)
  cases atStage : next.stage with
  | session inner =>
      cases moves.enters setup atStage
      rw [atStage] at fits
      dsimp only at fits ⊢
      have some : rest.length + 1 ≤ iterations := by
        rw [← List.length_cons, ← List.singleton_append]
        exact fits
      obtain ⟨iterations, rfl⟩ := Nat.exists_eq_add_one_of_ne_zero (by omega : iterations ≠ 0)
      refine ⟨{ later with established := true }.observing .connected, iterations, sessions,
        ?_, ?_, Nat.le_of_succ_le_succ some, by omega, ?_⟩
      · exact (alike_established same _ true).starting
      · rintro _ (entered | killed)
        · cases atStage.symm.trans entered
          exact ⟨rfl, trivial, rfl⟩
        · cases atStage.symm.trans killed
      · rw [atStage]
        exact run_connected rest
  | raised fault =>
      rw [atStage] at fits
      dsimp only at fits ⊢
      refine ⟨later, rest.length, count + 1, same, ?_, Nat.le_refl _, Nat.lt_succ_self _, ?_⟩
      · rintro _ (entered | killed)
        · cases atStage.symm.trans entered
        · cases atStage.symm.trans killed
      · rw [atStage]
        rfl
  | killed inner =>
      rcases moves.reaches setup with ⟨fault, raised⟩ | ⟨_reached, alive⟩
      · cases atStage.symm.trans raised
      · rw [atStage] at alive
        cases alive
  | _ =>
      rw [atStage] at fits
      dsimp only at fits ⊢
      refine ⟨later, rest.length, sessions + 1, same, ?_, Nat.le_refl _, by omega, ?_⟩
      · rintro _ (entered | killed)
        · cases atStage.symm.trans entered
        · cases atStage.symm.trans killed
      · rw [atStage]
        rfl

/-- A call of the service is one of the program, or a part of what is one of its. -/
theorem continuation_step
    {rest : List (Answer kind)} {count : Nat}
    (alike : Alike service.proxy later) (ready : service.Ready later)
    (stepped : service.step inetPton answer = some next)
    (fits : (service.programAnswers inetPton answer ++ rest).length ≤ left)
    (fitsLater : (service.programAnswers inetPton answer ++ rest).length ≤ iterations)
    (many : count + 1 < sessions) :
    Follows iterations next rest count
      (outcome (continuation iterations sessions left service.stage)
        (later.facing (service.programAnswers inetPton answer ++ rest))) := by
  by_cases setup : ∀ inner, service.stage ≠ .session inner
  · exact continuation_setup setup alike stepped fitsLater many
  · push Not at setup
    obtain ⟨stage, atStage⟩ := setup
    obtain ⟨established, proper, going⟩ := ready stage (.inl atStage)
    have asked : service.programAnswers inetPton answer =
        (service.sessionAnswer stage answer).toList := by
      rw [programAnswers, atStage]
    rw [step, atStage] at stepped
    rcases stepAt_session stepped with ⟨config, moved, rfl⟩ | ⟨_stuck, rfl, _sends, rfl⟩
    · rw [sessionStep, Option.bind_eq_some_iff] at moved
      obtain ⟨given, gives, moved⟩ := moved
      rw [gives] at asked
      rw [asked] at fits ⊢
      rw [atStage]
      exact continuation_session alike established proper moved fits (by omega)
    · -- the program is left where it waits for `send`
      rw [asked] at fits ⊢
      rw [atStage]
      refine ⟨later, left, sessions, alike, ?_, fits, by omega, rfl⟩
      rintro _ (same | same) <;> cases same
      exact ⟨established, proper, going⟩

/-- Where the service waits, the program waits, too. -/
theorem continuation_stuck
    (alike : Alike service.proxy later) (ready : service.Ready later) (some : 0 < sessions) :
    ∃ last, outcome (continuation iterations sessions left service.stage) (later.facing []) =
        (service.stop, last) ∧ last.seen = service.proxy.seen := by
  obtain ⟨sessions, rfl⟩ := Nat.exists_eq_add_one_of_ne_zero some.ne'
  unfold stop
  cases atStage : service.stage with
  | session stage | killed stage =>
      obtain ⟨established, proper, going⟩ := ready stage (by simp [atStage])
      obtain ⟨last, sameLog, ends⟩ := @Config.resume_stuck _ ⟨stage, later⟩ proper established
        [] (by simp) left
      refine ⟨last, ?_, ?_⟩
      · rw [continuation, outcome_bind, ends, going]
      · rw [TimingProxy.seen, sameLog]
        exact alike.seen
  | _ => exact ⟨later.facing [], rfl, alike.seen⟩

theorem run_continues
    {answers : List (ServiceAnswer kind)}
    (reached : Machine.run (step inetPton) service answers = some final)
    (alike : Alike service.proxy later) (ready : service.Ready later)
    (fits : (Machine.trace (step inetPton) (programAnswers inetPton) service answers).length ≤
      left)
    (fitsLater : (Machine.trace (step inetPton) (programAnswers inetPton) service
      answers).length ≤ iterations)
    (many : answers.length < sessions) :
    ∃ last, outcome (continuation iterations sessions left service.stage)
        (later.facing
          (Machine.trace (step inetPton) (programAnswers inetPton) service answers)) =
        (final.stop, last) ∧ last.seen = final.proxy.seen := by
  induction answers generalizing service later left sessions with
  | nil =>
      cases reached
      exact continuation_stuck alike ready many
  | cons answer answers inductionHypothesis =>
      rw [Machine.run_cons, Option.bind_eq_some_iff] at reached
      obtain ⟨next, stepped, reached⟩ := reached
      rw [Machine.trace_cons_of_eq_some stepped] at fits fitsLater ⊢
      obtain ⟨after, leftThen, sessionsThen, alike, ready, fitsThen, many, same⟩ :=
        continuation_step alike ready stepped fits fitsLater many
      rw [same]
      refine inductionHypothesis reached alike ready fitsThen ?_ many
      rw [List.length_append] at fitsLater
      omega

/-- A call of the service is at most one of the program. -/
theorem length_programAnswers_le (inetPton : InetPton) (service : Service kind)
    (answer : ServiceAnswer kind) : (service.programAnswers inetPton answer).length ≤ 1 := by
  unfold programAnswers
  split
  case h_1 stage atStage => cases service.sessionAnswer stage answer <;> simp
  case h_2 =>
      split
      · exact Nat.le_refl 1
      · exact Nat.le_refl 1
      · exact Nat.zero_le 1

/-- The service refines the program: with what its calls come to, the program measures and
forwards the same, and it ends for the same reason. -/
theorem run_refines
    (inetPton : InetPton)
    (service final : Service kind)
    (answers : List (ServiceAnswer kind))
    (waiting : service.stage = .accept .control)
    (reached : Machine.run (step inetPton) service answers = some final)
    (iterations sessions : Nat)
    (enough : answers.length < iterations) (many : answers.length < sessions) :
    ∃ last, outcome (run iterations sessions)
        (service.proxy.facing
          (Machine.trace (step inetPton) (programAnswers inetPton) service answers)) =
        (final.stop, last) ∧ last.seen = final.proxy.seen := by
  have fits : (Machine.trace (step inetPton) (programAnswers inetPton) service
      answers).length ≤ answers.length :=
    Machine.length_trace_le (length_programAnswers_le inetPton) answers service
  have ready : service.Ready service.proxy := by
    rintro _ (entered | killed)
    · cases waiting.symm.trans entered
    · cases waiting.symm.trans killed
  have continues := @run_continues kind service final inetPton service.proxy iterations
    sessions iterations answers reached (.refl _) ready (by omega) (by omega) many
  rw [waiting] at continues
  exact continues

/-- A session that the server closes, as the program sees it. -/
theorem run_refines_closed_by_server :
    ∃ last, outcome (run 18 18) (listeningService.proxy.facing
        [.connected, .failed .again, .closed, .hangup false, .hangup false, .hangup false]) =
        (.error .waiting, last) ∧
      last.seen = [.inputForwarded] :=
  run_refines noAddress listeningService _ closedByServer rfl rfl 18 18 (by decide) (by decide)

end Service

end NetworkTiming
