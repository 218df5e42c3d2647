import NetworkTiming.TimingProxy.Resumption

/-!
# The session loop and its stages

A stage stands for the rest of the session loop: the rest of the `try` block, the
checks behind it, and the iterations that follow.  The loop with the answers of its
environment ends where the machine of the stages ends with them, for the same reason
and with the same observations.
-/

namespace NetworkTiming

open Interactive TimingProxy

variable {kind : KindOfSocket}

namespace Stage

/-- The stages of the `try` block. -/
def InTry : Stage kind → Prop
  | .poll _ _ | .ended | .raised _ => False
  | _ => True

/-- What holds of the stages that are reached: no call sends an empty buffer, only
some techniques stamp reads, and a `std::runtime_error` does not leave the loop. -/
def Proper : Stage kind → Prop
  | .sendServer data _ | .sendClient data | .sendControl data => data ≠ []
  | .stampRead data => kind ≠ .cpu ∧ data ≠ []
  | .raised (.runtimeError _) => False
  | _ => True

/-- What is left of the checks behind the `try` block. -/
def pollFrom : Peer → Session kind Bool
  | .client => anyPeerClosed
  | .control => do
      if ← socketPeerClosed then pure true
      else socketPeerClosed
  | .server => socketPeerClosed

/-- What is left of the session loop behind the `try` block. -/
def checking (iterations : Nat) (established : Bool) (peer : Peer) :
    Session kind Unit := do
  let closed ← pollFrom peer
  if established && !closed then do
    emit .iterationEnded
    sessionLoop iterations
  else pure ()

/-- The handler of the session loop. -/
def catching (program : Session kind Bool) : Session kind Bool :=
  tryCatch program fun stop =>
    match stop with
    | .exception (.runtimeError _) => pure false
    | _ => throw stop

/-- What is left of an iteration within the `try` block. -/
def trying (iterations : Nat) (program : Session kind Bool) : Session kind Unit := do
  let established ← catching program
  checking iterations established .client

/-- What is left of the session loop, with the iterations behind the current one. -/
def resume (iterations : Nat) : Stage kind → Session kind Unit
  | .poll reason peer => checking iterations reason.isNone peer
  | .ended => pure ()
  | .raised fault => throw (.exception fault)
  | stage => trying iterations stage.body

/-- How the observation ends at a stage. -/
def stop : Stage kind → Except Stop Unit
  | .ended => .ok ()
  | .raised fault => .error (.exception fault)
  | _ => .error .waiting

theorem resume_inTry (iterations : Nat) {stage : Stage kind} (inTry : stage.InTry) :
    resume iterations stage = trying iterations stage.body := by
  cases stage with
  | poll | ended | raised => exact inTry.elim
  | readClient | sendServer | timing | readServer | stampRead | sendClient
  | sendControl => rfl

/-- What is left behind the `try` block or an exception, in terms of its body. -/
theorem resume_afterTry (iterations : Nat) (proxy : TimingProxy kind)
    {stage : Stage kind} (proper : stage.Proper)
    (left : stage.InTry ∨ (∃ reason, stage = .poll reason .client) ∨
      ∃ fault, stage = .raised fault) :
    outcome (resume iterations stage) proxy =
      outcome (trying iterations stage.body) proxy := by
  rcases left with inTry | ⟨reason, rfl⟩ | ⟨fault, rfl⟩
  · rw [resume_inTry iterations inTry]
  · cases reason with
    | none => rfl
    | some what => rfl
  · cases fault with
    | runtimeError => exact proper.elim
    | invalidArgument | outOfRange | terminate | outOfBounds => rfl

theorem raise_proper (fault : Fault) : (raise fault : Stage kind).Proper := by
  cases fault <;> trivial

theorem raise_afterTry (fault : Fault) :
    (∃ reason, (raise fault : Stage kind) = .poll reason .client) ∨
      ∃ other, (raise fault : Stage kind) = .raised other := by
  cases fault with
  | runtimeError what => exact .inl ⟨some what, rfl⟩
  | invalidArgument | outOfRange | terminate | outOfBounds => exact .inr ⟨_, rfl⟩

/-- The rest of an iteration depends on the rest of the `try` block only through its
outcome. -/
theorem trying_congr
    (iterations : Nat) {program other : Session kind Bool}
    {proxy later : TimingProxy kind}
    (same : outcome program proxy = outcome other later) :
    outcome (trying iterations program) proxy = outcome (trying iterations other) later := by
  rw [trying, trying, outcome_bind, outcome_bind, catching, catching, outcome_tryCatch,
    outcome_tryCatch, same]

/-- The loop waits where its body waits. -/
theorem trying_waiting
    (iterations : Nat) {program : Session kind Bool} {proxy later : TimingProxy kind}
    (waits : outcome program proxy = (.error .waiting, later)) :
    outcome (trying iterations program) proxy = (.error .waiting, later) := by
  rw [trying, outcome_bind, catching, outcome_tryCatch, waits]
  rfl

end Stage

namespace Config

variable {proxy : TimingProxy kind} {answer : Answer kind} {config next : Config kind}

theorem arrived_proper {data : List UInt8} (kind : KindOfSocket) (nonempty : data ≠ []) :
    (arrived data kind).Proper := by
  cases kind with
  | cpu => exact nonempty
  | kernel | pcap => exact ⟨KindOfSocket.noConfusion, nonempty⟩

theorem written_proper (enclosing : List (List UInt8)) :
    (written proxy enclosing).stage.Proper := by
  cases enclosing <;> trivial

theorem measure_proper (proxy : TimingProxy kind) : (measure proxy).stage.Proper := by
  rw [measure]
  cases kind.difference proxy.tstampPrecision proxy.txTimestamp proxy.rxTimestamp with
  | ok value =>
      apply List.ne_nil_of_length_pos
      rw [networkByteOrder, BigEndian.length_encode]
      decide
  | error fault => exact Stage.raise_proper fault

theorem Moves.proper (moves : Moves config answer next) (proper : config.stage.Proper) :
    next.stage.Proper := by
  cases moves with
  | received nonempty => exact nonempty
  | partSent accepts rest | partForwarded accepts rest | partReported accepts rest =>
      exact List.ne_nil_of_length_pos (by rw [List.length_drop]; omega)
  | responded nonempty => exact arrived_proper kind nonempty
  | readTime | messageFound | lookedUp => exact written_proper _
  | readStamped => exact proper.2
  | allForwarded => exact measure_proper _
  | searchFailed => exact Stage.raise_proper _
  | clientClosed | sendingFailed | searchExhausted | serverClosed | serverReset
  | readingFailed | misstamped | forwardingFailed | reportingFailed | pollingFailed
  | nothingReceived | allSent | writeTime | peeked | searchedOn | noResponse | unstamped
  | allReported | hungUp | clientThere | controlThere | serverThere | caught => trivial

theorem Moves.established (moves : Moves config answer next) :
    next.proxy.established = config.proxy.established := by
  cases moves with
  | @readTime _ _ enclosing | @messageFound _ _ enclosing | @lookedUp _ _ enclosing =>
      cases enclosing <;> rfl
  | received | clientClosed | nothingReceived | partSent | allSent | sendingFailed
  | writeTime | peeked | searchedOn | searchExhausted | searchFailed | responded
  | serverClosed | noResponse | serverReset | readingFailed | readStamped | unstamped
  | misstamped | partForwarded | allForwarded | forwardingFailed | partReported
  | allReported | reportingFailed | hungUp | clientThere | controlThere | serverThere
  | caught | pollingFailed => rfl

/-- What is left of the `try` block when an answer is given. -/
theorem body_answered
    {stage : Stage kind} (proper : stage.Proper) (inTry : stage.InTry)
    (established : proxy.established = true) (answer : Answer kind) :
    Answered answer proxy stage.body ((step ⟨stage, proxy⟩ answer).map left) := by
  cases stage with
  | readClient => exact readClient_answered answer
  | sendServer data enclosing =>
      exact sendServer_answered established proper enclosing answer
  | timing call data enclosing => exact timing_answered call data enclosing answer
  | readServer => exact readServer_answered established answer
  | stampRead data => exact stampRead_answered proper.1 data answer
  | sendClient => exact sendClient_answered proper answer
  | sendControl => exact sendControl_answered proper answer
  | poll | ended | raised => exact inTry.elim

theorem written_afterTry (enclosing : List (List UInt8)) :
    (written proxy enclosing).stage.InTry := by
  cases enclosing <;> trivial

theorem arrived_inTry (data : List UInt8) (kind : KindOfSocket) :
    (arrived data kind).InTry := by
  cases kind <;> trivial

/-- The `try` block is left for the checks behind it or by an exception. -/
theorem Moves.afterTry (moves : Moves config answer next) (inTry : config.stage.InTry) :
    next.stage.InTry ∨ (∃ reason, next.stage = .poll reason .client) ∨
      ∃ fault, next.stage = .raised fault := by
  cases moves with
  | readTime | messageFound | lookedUp => exact .inl (written_afterTry _)
  | responded => exact .inl (arrived_inTry _ kind)
  | searchFailed => exact .inr (Stage.raise_afterTry _)
  | allForwarded =>
      rw [measure]
      cases kind.difference _ _ _ with
      | ok value => exact .inl trivial
      | error fault => exact .inr (Stage.raise_afterTry fault)
  | clientClosed | sendingFailed | searchExhausted | serverClosed | serverReset
  | forwardingFailed | reportingFailed => exact .inr (.inl ⟨some _, rfl⟩)
  | readingFailed | misstamped => exact .inr (.inr ⟨.terminate, rfl⟩)
  | noResponse | unstamped | allReported => exact .inr (.inl ⟨none, rfl⟩)
  | received | nothingReceived | partSent | allSent | writeTime | peeked | searchedOn
  | readStamped | partForwarded | partReported => exact .inl trivial
  | hungUp | clientThere | controlThere | serverThere | caught | pollingFailed =>
      exact inTry.elim

/-- A check that is given an answer. -/
theorem poll_resume
    {reason : Option String} {peer : Peer}
    (moves : Moves ⟨.poll reason peer, proxy⟩ answer next)
    (iterations : Nat) (answers : List (Answer kind)) :
    ∃ left, iterations ≤ left ∧
      outcome (Stage.resume (iterations + 1) (.poll reason peer))
          (proxy.facing (answer :: answers)) =
        outcome (Stage.resume left next.stage) (next.proxy.facing answers) := by
  cases moves with
  | hungUp =>
      refine ⟨iterations, le_rfl, ?_⟩
      cases peer <;> cases reason <;> rfl
  | clientThere | controlThere | caught => exact ⟨iterations + 1, by omega, rfl⟩
  | serverThere => exact ⟨iterations, le_rfl, rfl⟩
  | pollingFailed =>
      refine ⟨iterations, le_rfl, ?_⟩
      cases peer <;> rfl

/-- What is left of the session loop when an answer is given. -/
theorem resume_step
    (proper : config.stage.Proper) (established : config.proxy.established = true)
    (stepped : step config answer = some next)
    {iterations : Nat} {answers : List (Answer kind)}
    (enough : answers.length < iterations) :
    ∃ left, answers.length ≤ left ∧
      outcome (Stage.resume iterations config.stage)
          (config.proxy.facing (answer :: answers)) =
        outcome (Stage.resume left next.stage) (next.proxy.facing answers) := by
  obtain ⟨stage, proxy⟩ := config
  have moves := moves_of_step stepped
  have inTry (inTry : stage.InTry) :
      outcome (Stage.resume iterations stage) (proxy.facing (answer :: answers)) =
        outcome (Stage.resume iterations next.stage) (next.proxy.facing answers) := by
    have answered := body_answered proper inTry established answer answers
    rw [stepped] at answered
    rw [Stage.resume_inTry iterations inTry,
      Stage.resume_afterTry iterations _ (moves.proper proper) (moves.afterTry inTry)]
    exact Stage.trying_congr iterations answered
  cases stage with
  | poll reason peer =>
      cases iterations with
      | zero => omega
      | succ iterations =>
          obtain ⟨left, fewer, same⟩ := poll_resume moves iterations answers
          exact ⟨left, by omega, same⟩
  | ended | raised => cases stepped
  | readClient | sendServer | timing | readServer | stampRead | sendClient
  | sendControl => exact ⟨iterations, by omega, inTry trivial⟩

/-- Without an answer, the rest of the `try` block waits. -/
theorem body_waiting
    {stage : Stage kind} (proper : stage.Proper) (inTry : stage.InTry)
    (established : proxy.established = true) :
    outcome stage.body (proxy.facing []) = (.error .waiting, proxy.facing []) := by
  obtain ⟨answers, ready, device, precision, tx, rx, log⟩ := proxy
  cases established
  cases stage with
  | readClient => rfl
  | sendServer data enclosing =>
      rw [Stage.body, TimingSocket.write]
      rfl
  | timing call data enclosing => cases call <;> rfl
  | readServer => cases kind <;> rfl
  | stampRead data =>
      cases kind with
      | cpu => exact absurd rfl proper.1
      | kernel | pcap => rfl
  | sendClient data =>
      rw [Stage.body, ServerSocket.write]
      rfl
  | sendControl data =>
      rw [Stage.body, ServerSocket.write]
      rfl
  | poll | ended | raised => exact inTry.elim

/-- Without an answer, or with one that the environment cannot give, the session loop
waits. -/
theorem resume_waiting
    (proper : config.stage.Proper) (established : config.proxy.established = true)
    (live : config.stage.stop = .error .waiting)
    {answers : List (Answer kind)}
    (stuck : ∀ answer rest, answers = answer :: rest → step config answer = none)
    (iterations : Nat) :
    ∃ later, later.log = config.proxy.log ∧
      outcome (Stage.resume iterations config.stage) (config.proxy.facing answers) =
        (.error .waiting, later) := by
  obtain ⟨stage, proxy⟩ := config
  have inTry (inTry : stage.InTry) :
      ∃ later, later.log = proxy.log ∧
        outcome (Stage.resume iterations stage) (proxy.facing answers) =
          (.error .waiting, later) := by
    rw [Stage.resume_inTry iterations inTry]
    cases answers with
    | nil =>
        exact ⟨proxy.facing [], rfl,
          Stage.trying_waiting iterations (body_waiting proper inTry established)⟩
    | cons answer answers =>
        have answered := body_answered proper inTry established answer answers
        rw [stuck answer answers rfl] at answered
        exact ⟨proxy.facing answers, rfl, Stage.trying_waiting iterations answered⟩
  cases stage with
  | poll reason peer =>
      cases answers with
      | nil => exact ⟨proxy.facing [], rfl, by cases peer <;> rfl⟩
      | cons answer answers =>
          have refused := stuck answer answers rfl
          refine ⟨proxy.facing answers, rfl, ?_⟩
          cases answer with
          | hangup closed => cases closed <;> cases peer <;> cases reason <;> cases refused
          | failed errno => cases peer <;> cases refused
          | connected | received | closed | accepted | peeked | time | noTime | thrown =>
              cases peer <;> rfl
  | ended | raised => cases live
  | readClient | sendServer | timing | readServer | stampRead | sendClient
  | sendControl => exact inTry trivial

/-- What is left of the session loop behind a run of the machine. -/
theorem resume_run
    {answers rest : List (Answer kind)} {final : Config kind}
    (proper : config.stage.Proper) (established : config.proxy.established = true)
    (reached : Machine.run step config answers = some final)
    {iterations : Nat} (enough : (answers ++ rest).length ≤ iterations) :
    final.stage.Proper ∧ final.proxy.established = true ∧
      ∃ left, outcome (Stage.resume iterations config.stage)
          (config.proxy.facing (answers ++ rest)) =
        outcome (Stage.resume left final.stage) (final.proxy.facing rest) := by
  induction answers generalizing config iterations with
  | nil =>
      cases reached
      exact ⟨proper, established, iterations, rfl⟩
  | cons answer answers inductionHypothesis =>
      rw [Machine.run_cons, Option.bind_eq_some_iff] at reached
      obtain ⟨next, stepped, reached⟩ := reached
      have moves := moves_of_step stepped
      have enoughBehind : (answers ++ rest).length < iterations := Nat.lt_of_succ_le enough
      obtain ⟨fewer, stillEnough, stepwise⟩ :=
        resume_step proper established stepped enoughBehind
      obtain ⟨finalProper, finalEstablished, left, rest⟩ :=
        inductionHypothesis (moves.proper proper)
          (moves.established.trans established) reached stillEnough
      exact ⟨finalProper, finalEstablished, left, stepwise.trans rest⟩

/-- Where no step is left, the session loop ends as the stage says. -/
theorem resume_stuck
    (proper : config.stage.Proper) (established : config.proxy.established = true)
    {answers : List (Answer kind)}
    (stuck : ∀ answer rest, answers = answer :: rest → step config answer = none)
    (iterations : Nat) :
    ∃ later, later.log = config.proxy.log ∧
      outcome (Stage.resume iterations config.stage) (config.proxy.facing answers) =
        (config.stage.stop, later) := by
  obtain ⟨stage, proxy⟩ := config
  cases stage with
  | ended | raised => exact ⟨proxy.facing answers, rfl, rfl⟩
  | readClient | sendServer | timing | readServer | stampRead | sendClient | sendControl
  | poll => exact resume_waiting proper established rfl stuck iterations

/-- A run of the machine is a run of the session loop. -/
theorem sessionLoop_of_run
    {answers : List (Answer kind)} {final : Config kind}
    (established : proxy.established = true)
    (reached : Machine.run step ⟨.readClient, proxy⟩ answers = some final)
    {iterations : Nat} (enough : answers.length < iterations) :
    ∃ later, later.log = final.proxy.log ∧
      outcome (sessionLoop iterations) (proxy.facing answers) =
        (final.stage.stop, later) := by
  obtain ⟨iterations, rfl⟩ := Nat.exists_eq_add_one_of_ne_zero (by omega : iterations ≠ 0)
  have enoughHere : (answers ++ []).length ≤ iterations := by
    rw [List.append_nil]
    omega
  have proper : (Config.mk .readClient proxy).stage.Proper := trivial
  obtain ⟨finalProper, finalEstablished, left, same⟩ :=
    resume_run proper established reached enoughHere
  obtain ⟨later, sameLog, ends⟩ :=
    @resume_stuck kind final finalProper finalEstablished [] (by simp) left
  refine ⟨later, sameLog, ?_⟩
  rw [List.append_nil] at same
  exact same.trans ends

/-- A run of the session loop is a run of the machine: the loop ends where the machine
ends, for the same reason and with the same observations. -/
theorem exists_run_sessionLoop
    (established : proxy.established = true)
    (answers : List (Answer kind))
    {iterations : Nat} (enough : answers.length < iterations) :
    ∃ used final later, used <+: answers ∧
      Machine.run step ⟨.readClient, proxy⟩ used = some final ∧
      later.log = final.proxy.log ∧
      outcome (sessionLoop iterations) (proxy.facing answers) =
        (final.stage.stop, later) := by
  obtain ⟨iterations, rfl⟩ := Nat.exists_eq_add_one_of_ne_zero (by omega : iterations ≠ 0)
  have proper : (Config.mk .readClient proxy).stage.Proper := trivial
  obtain ⟨used, rest, final, rfl, reached, stuck⟩ :=
    @Machine.exists_longest_run _ _ step (Config.mk .readClient proxy) answers
  obtain ⟨finalProper, finalEstablished, left, same⟩ :=
    resume_run proper established reached (Nat.le_of_lt_succ enough)
  obtain ⟨later, sameLog, ends⟩ :=
    resume_stuck finalProper finalEstablished stuck left
  exact ⟨used, final, later, List.prefix_append used rest, reached, sameLog,
    same.trans ends⟩

end Config

end NetworkTiming
