import NetworkTiming.Library.Potential
import NetworkTiming.TimingProxy.Shutdown
import NetworkTiming.TimingProxy.Writes

/-!
# How long sessions go on

An iteration of the session loop makes a bounded number of calls, however small the
parts are that `send` accepts and however often the timing code searches.  Once the
stream of the client or of the server is at its end, the loop makes no more calls than
two iterations do.
-/

namespace NetworkTiming

open TimingProxy Config

variable {kind : KindOfSocket}

/-! ## What an iteration can cost -/

/-- The calls of the timing code behind a `write`. -/
def timingCalls (kind : KindOfSocket) : Nat :=
  (TimingCall.start kind).remaining + 1

/-- The calls from reading a response to the end of the iteration: a byte in each call
of `send`, the word of the measurement, and the checks. -/
def outputCalls : Nat := BUFSIZE + 15

/-- The calls of an iteration.  Each byte of a request may take a `write` of its own,
with the timing code behind it. -/
def iterationCalls (kind : KindOfSocket) : Nat :=
  BUFSIZE * (timingCalls kind + 1) + timingCalls kind + outputCalls + 2

/-- The checks that are still to be made. -/
def Peer.checks : Peer → Nat
  | .client => 3
  | .control => 2
  | .server => 1

namespace Stage

/-- How many calls there are at most before the iteration has ended. -/
def remaining : Stage kind → Nat
  | .readClient => iterationCalls kind
  | .sendServer data enclosing =>
      data.length * (timingCalls kind + 1) + (enclosing.length + 1) * timingCalls kind +
        outputCalls + 1
  | .timing call _ enclosing =>
      call.remaining + 1 + enclosing.length * timingCalls kind + outputCalls
  | .readServer => outputCalls
  | .stampRead data => data.length + 14
  | .sendClient data => data.length + 13
  | .sendControl data => data.length + 4
  | .poll _ peer => peer.checks
  | .ended | .raised _ => 0

/-- The iteration ends and another one follows. -/
def restarts : Stage kind → Answer kind → Nat
  | .poll none .server, .hangup false => 1
  | _, _ => 0

theorem remaining_raise (fault : Fault) :
    (Stage.raise fault : Stage kind).remaining ≤ 3 := by
  cases fault <;> simp [raise, remaining, Peer.checks]

theorem remaining_written (proxy : TimingProxy kind) (enclosing : List (List UInt8)) :
    (written proxy enclosing).stage.remaining =
      enclosing.length * timingCalls kind + outputCalls := by
  cases enclosing with
  | nil => exact (congrArg (· + outputCalls) (Nat.zero_mul _)).trans (Nat.zero_add _) |>.symm
  | cons data enclosing =>
      change timingCalls kind + enclosing.length * timingCalls kind + outputCalls = _
      rw [List.length_cons, Nat.add_one_mul]
      omega

theorem remaining_arrived (data : List UInt8) :
    (arrived data kind).remaining ≤ data.length + 14 := by
  cases kind with
  | cpu => exact Nat.add_le_add_left (by decide) _
  | kernel | pcap => exact Nat.le_refl _

theorem remaining_measure (proxy : TimingProxy kind) :
    (Config.measure proxy).stage.remaining ≤ 12 := by
  rw [Config.measure]
  cases kind.difference proxy.tstampPrecision proxy.txTimestamp proxy.rxTimestamp with
  | ok value =>
      change (networkByteOrder value).length + 4 ≤ 12
      rw [networkByteOrder, BigEndian.length_encode]
  | error fault => exact (remaining_raise fault).trans (by decide)

/-- A part that has been accepted costs no more than the `write` that follows it. -/
theorem remaining_part
    {data : List UInt8} {enclosing : List (List UInt8)} {count : Nat}
    (accepts : Accepts data count) (rest : count < data.length) :
    (Stage.sendServer (data.drop count) (data :: enclosing) : Stage kind).remaining + 1 ≤
      (Stage.sendServer data enclosing : Stage kind).remaining := by
  have some : 1 ≤ count := accepts.2 (List.ne_nil_of_length_pos (by omega))
  obtain ⟨left, split⟩ := Nat.exists_eq_add_of_le accepts.1
  have dropped : (data.drop count).length = left := by
    rw [List.length_drop]
    omega
  have spent : 1 * (timingCalls kind + 1) ≤ count * (timingCalls kind + 1) :=
    Nat.mul_le_mul_right _ some
  simp only [remaining, dropped, split, List.length_cons, Nat.add_mul]
  omega

end Stage

/-- A call brings the end of the iteration nearer, or it is the last one and another
iteration follows. -/
theorem remaining_of_moves
    {config next : Config kind} {answer : Answer kind}
    (moves : Moves config answer next) :
    next.stage.remaining + 1 ≤ config.stage.remaining ∨
      config.stage = .poll none .server ∧ next.stage = .readClient ∧
        config.stage.restarts answer = 1 := by
  cases moves with
  | @received _ _ bytes nonempty fits =>
      have whole := Nat.mul_le_mul_right (timingCalls kind + 1) fits
      simp only [Stage.remaining, iterationCalls, List.length_nil]
      omega
  | clientClosed | nothingReceived =>
      simp only [Stage.raise, Stage.remaining, Peer.checks, iterationCalls, outputCalls]
      omega
  | @partSent _ _ data enclosing count accepts rest =>
      exact .inl (Stage.remaining_part accepts rest)
  | @allSent _ _ data enclosing =>
      left
      change timingCalls kind + enclosing.length * timingCalls kind + outputCalls + 1 ≤
        data.length * (timingCalls kind + 1) + (enclosing.length + 1) * timingCalls kind +
          outputCalls + 1
      rw [Nat.add_one_mul]
      omega
  | sendingFailed =>
      simp only [Stage.raise, Stage.remaining, Peer.checks, outputCalls]
      omega
  | @readTime _ _ enclosing _ | @lookedUp _ _ enclosing _ =>
      left
      rw [Stage.remaining_written, Stage.remaining, TimingCall.remaining]
      omega
  | @messageFound _ _ enclosing retries _ =>
      left
      rw [Stage.remaining_written, Stage.remaining, TimingCall.remaining]
      omega
  | @searchFailed _ _ enclosing retries fault =>
      left
      have few : (Stage.raise fault : Stage .kernel).remaining ≤ 3 := Stage.remaining_raise fault
      change (Stage.raise fault).remaining + 1 ≤
        retries + 1 + enclosing.length * timingCalls .kernel + (BUFSIZE + 15)
      omega
  | writeTime | peeked | searchedOn | searchExhausted =>
      simp only [Stage.raise, Stage.remaining, TimingCall.remaining, Peer.checks, outputCalls]
      omega
  | @responded _ _ bytes nonempty fits =>
      left
      have few : (arrived bytes kind).remaining ≤ bytes.length + 14 :=
        Stage.remaining_arrived bytes
      change (arrived bytes kind).remaining + 1 ≤ BUFSIZE + 15
      omega
  | serverClosed | noResponse | serverReset | readingFailed =>
      simp only [Stage.raise, outputForwarded, Stage.remaining, Peer.checks, outputCalls]
      omega
  | readStamped | unstamped | misstamped =>
      simp only [Stage.raise, outputForwarded, Stage.remaining, Peer.checks]
      omega
  | partForwarded accepts rest | partReported accepts rest =>
      left
      have some := accepts.2 (List.ne_nil_of_length_pos (by omega))
      simp only [Stage.remaining, List.length_drop]
      omega
  | @allForwarded _ proxy data =>
      left
      have few := Stage.remaining_measure (proxy.observing (.handed .client data))
      rw [Stage.remaining]
      omega
  | forwardingFailed | allReported | reportingFailed =>
      simp only [Stage.raise, outputForwarded, Stage.remaining, Peer.checks]
      omega
  | @hungUp _ _ _ peer | @pollingFailed _ _ _ peer _ =>
      left
      cases peer <;> simp [Stage.raise, Stage.remaining, Peer.checks]
  | clientThere | controlThere | caught => exact .inl (Nat.le_refl _)
  | serverThere => exact .inr ⟨rfl, rfl, rfl⟩

namespace Network

/-- How many calls of the proxy return in an event. -/
def calls (_network : Network kind) : NetworkEvent kind → Nat
  | .returns _ => 1
  | _ => 0

/-- How many iterations an event completes. -/
def iterations (network : Network kind) : NetworkEvent kind → Nat
  | .returns answer => network.config.stage.restarts answer
  | _ => 0

/-- A call is paid by the calls that its iteration may still make, and the last one by
the iteration that follows. -/
theorem calls_paid
    {network next : Network kind} {event : NetworkEvent kind}
    (stepped : network.step event = some next) :
    network.calls event + next.config.stage.remaining ≤
      network.config.stage.remaining + iterationCalls kind * network.iterations event := by
  by_cases other : ∀ answer, event ≠ .returns answer
  · obtain ⟨config, _⟩ := step_of_others other stepped
    have free : network.calls event = 0 := by
      cases event with
      | returns answer => exact absurd rfl (other answer)
      | _ => rfl
    rw [config, free]
    omega
  · push Not at other
    obtain ⟨answer, rfl⟩ := other
    rw [step, Option.ite_none_right_eq_some, Option.map_eq_some_iff] at stepped
    obtain ⟨possible, config, moved, rfl⟩ := stepped
    change 1 + config.stage.remaining ≤
      network.config.stage.remaining + iterationCalls kind * network.config.stage.restarts answer
    rcases remaining_of_moves (moves_of_step moved) with nearer | ⟨last, again, restarted⟩
    · omega
    · rw [restarted, last, again, Nat.mul_one]
      exact Nat.le_refl _

/-- A session makes no more calls than its iterations can make: the completed ones and
the one that it is in. -/
theorem calls_le_iterations
    (proxy : TimingProxy kind)
    (events : List (NetworkEvent kind)) (final : Network kind)
    (reached : Machine.run step (start proxy) events = some final) :
    Machine.cost step calls (start proxy) events ≤
      iterationCalls kind * (Machine.cost step iterations (start proxy) events + 1) := by
  have always : Machine.Along step (fun _network _event => True) (start proxy) events :=
    fun _ _ _ _ _ => trivial
  have bound := @Machine.cost_add_potential_le _ _ step calls
    (fun network event => iterationCalls kind * network.iterations event)
    (fun network => network.config.stage.remaining) _ (fun _network => True) (start proxy)
    final events trivial (fun _ _ _ _ _ _ => trivial)
    (fun _network _event _next _ _ stepped => calls_paid stepped) always reached
  rw [Machine.cost_mul] at bound
  have first : (start proxy).config.stage.remaining = iterationCalls kind := rfl
  rw [Nat.mul_add_one]
  omega

/-- Three calls bring a request to the server, and four more end the iteration. -/
theorem calls_le_iterations_forwarded :
    Machine.cost step calls (start pcapSocket)
        (requestForwarded ++ .returns (.failed .again) :: nobodyHungUp) = 7 ∧
      7 ≤ iterationCalls .pcap * (1 + 1) :=
  ⟨rfl, calls_le_iterations pcapSocket
    (requestForwarded ++ .returns (.failed .again) :: nobodyHungUp) _ rfl⟩

/-! ## The end of a stream -/

end Network

/-- The call reports the end of the stream. -/
def Answer.isClosed : Answer kind → Bool
  | .closed => true
  | _ => false

namespace Stage

/-- The loop reads the stream of a peer. -/
def reads : Peer → Stage kind → Bool
  | .client, .readClient => true
  | .server, .readServer => true
  | _, _ => false

/-- The loop reads the stream of a peer again only behind another restart. -/
def readsNextTime : Peer → Stage kind → Bool
  | _, .stampRead _ | _, .sendClient _ | _, .sendControl _ | _, .poll none _ => true
  | .client, .sendServer _ _ | .client, .timing _ _ _ | .client, .readServer => true
  | _, _ => false

/-- The calls that may follow: those of the iteration, and those of another one if the
stream is read only there. -/
def budget (peer : Peer) (stage : Stage kind) : Nat :=
  stage.remaining + if stage.readsNextTime peer then iterationCalls kind else 0

theorem readsNextTime_raise (peer : Peer) (fault : Fault) :
    (Stage.raise fault : Stage kind).readsNextTime peer = false := by
  cases fault <;> cases peer <;> rfl

theorem readsNextTime_written (proxy : TimingProxy kind) (enclosing : List (List UInt8)) :
    (written proxy enclosing).stage.readsNextTime .server = false := by
  cases enclosing <;> rfl

/-- A stage is behind reading the stream only if the one before was, once reading finds the
end of the stream. -/
theorem readsNextTime_of_moves
    {config next : Config kind} {answer : Answer kind} {peer : Peer}
    (moves : Moves config answer next)
    (reported : config.stage.reads peer = true → answer.isClosed = true)
    (known : peer ≠ .control)
    (behind : next.stage.readsNextTime peer = true) :
    config.stage.readsNextTime peer = true := by
  cases moves with
  | clientClosed | sendingFailed | searchExhausted | searchFailed | serverClosed
  | serverReset | readingFailed | misstamped | forwardingFailed | reportingFailed
  | pollingFailed =>
      rw [readsNextTime_raise] at behind
      cases behind
  | received | nothingReceived =>
      cases peer with
      | client => cases reported rfl
      | server => cases behind
      | control => exact absurd rfl known
  | readTime | messageFound | lookedUp =>
      cases peer with
      | client => rfl
      | server =>
          rw [readsNextTime_written] at behind
          cases behind
      | control => exact absurd rfl known
  | responded | noResponse =>
      cases peer with
      | client => rfl
      | server => cases reported rfl
      | control => exact absurd rfl known
  | partSent | allSent | writeTime | peeked | searchedOn =>
      cases peer with
      | client => rfl
      | server => cases behind
      | control => exact absurd rfl known
  | readStamped | unstamped | partForwarded | allForwarded | partReported | allReported
  | serverThere => rfl
  | @clientThere _ _ reason | @controlThere _ _ reason =>
      cases reason with
      | none => rfl
      | some what => cases behind
  | hungUp | caught => cases behind

/-- A call is paid by the calls that may follow. -/
theorem budget_of_moves
    {config next : Config kind} {answer : Answer kind} {peer : Peer}
    (moves : Moves config answer next)
    (reported : config.stage.reads peer = true → answer.isClosed = true)
    (known : peer ≠ .control) :
    1 + next.stage.budget peer ≤ config.stage.budget peer := by
  have behind := readsNextTime_of_moves moves reported known
  rcases remaining_of_moves moves with nearer | ⟨last, again, _restarted⟩
  · rw [budget, budget]
    by_cases later : next.stage.readsNextTime peer = true
    · rw [if_pos later, if_pos (behind later)]
      omega
    · rw [if_neg later]
      omega
  · have fresh : (Stage.readClient : Stage kind).readsNextTime peer = false := by
      cases peer <;> rfl
    have old : (Stage.poll none .server : Stage kind).readsNextTime peer = true := by
      cases peer <;> rfl
    rw [budget, budget, last, again, fresh, old]
    exact Nat.le_refl _

end Stage

namespace Network

/-- A stream that the proxy reads. -/
def stream (network : Network kind) : Peer → Channel UInt8
  | .client => network.toInput
  | .server | .control => network.toOutput

/-- Reading a stream at its end reports the end. -/
def ReportsEnd (peer : Peer) (network : Network kind) : NetworkEvent kind → Prop
  | .returns answer => network.config.stage.reads peer = true →
      (network.stream peer).AtEnd → answer.isClosed = true
  | _ => True

instance (peer : Peer) (network : Network kind) :
    (event : NetworkEvent kind) → Decidable (network.ReportsEnd peer event)
  | .returns answer => inferInstanceAs (Decidable (_ → _ → answer.isClosed = true))
  | .clientSends _ | .clientCloses | .clientTakes _ | .serverSends _ | .serverCloses
  | .serverTakes _ | .arrives _ _ => isTrue trivial

theorem atEnd_effect
    {network : Network kind} {peer : Peer}
    (atEnd : (network.stream peer).AtEnd) (answer : Answer kind) :
    ((network.effect answer).stream peer).AtEnd := by
  unfold effect
  split
  · cases peer with
    | client => exact atEnd.pull _
    | server | control => exact atEnd
  · cases peer <;> exact atEnd
  · cases peer with
    | client => exact atEnd
    | server | control => exact atEnd.pull _
  · cases peer <;> exact atEnd
  · exact atEnd

/-- A stream at its end stays there, whatever the parties and the proxy do. -/
theorem atEnd_step
    {network next : Network kind} {event : NetworkEvent kind} {peer : Peer}
    (atEnd : (network.stream peer).AtEnd)
    (stepped : network.step event = some next) :
    (next.stream peer).AtEnd := by
  cases event with
  | clientSends bytes =>
      rw [step, Option.ite_none_left_eq_some] at stepped
      obtain ⟨clientOpen, ⟨⟩⟩ := stepped
      cases peer with
      | client => exact absurd atEnd.1 clientOpen
      | server | control => exact atEnd
  | serverSends bytes =>
      rw [step, Option.ite_none_left_eq_some] at stepped
      obtain ⟨serverOpen, ⟨⟩⟩ := stepped
      cases peer with
      | client => exact atEnd
      | server | control => exact absurd atEnd.1 serverOpen
  | clientCloses =>
      cases stepped
      cases peer with
      | client => exact atEnd.close
      | server | control => exact atEnd
  | serverCloses =>
      cases stepped
      cases peer with
      | client => exact atEnd
      | server | control => exact atEnd.close
  | clientTakes | serverTakes =>
      cases stepped
      cases peer <;> exact atEnd
  | arrives link count =>
      cases stepped
      cases link with
      | clientToProxy =>
          cases peer with
          | client => exact atEnd.deliver count
          | server | control => exact atEnd
      | serverToProxy =>
          cases peer with
          | client => exact atEnd
          | server | control => exact atEnd.deliver count
      | proxyToServer | proxyToClient => cases peer <;> exact atEnd
  | returns answer =>
      rw [step, Option.ite_none_right_eq_some, Option.map_eq_some_iff] at stepped
      obtain ⟨_possible, config, _moved, rfl⟩ := stepped
      have kept := atEnd_effect atEnd answer
      cases peer <;> exact kept

/-- No stage that a session reaches can make more calls than an iteration. -/
theorem remaining_le_iterationCalls
    {proxy : TimingProxy kind} {events : List (NetworkEvent kind)} {network : Network kind}
    (reached : Machine.run step (start proxy) events = some network) :
    network.config.stage.remaining ≤ iterationCalls kind := by
  refine @Machine.run_invariant _ _ step (start proxy) network events
    (fun _history network => network.config.stage.remaining ≤ iterationCalls kind)
    (Nat.le_refl _) ?_ reached
  intro _history network event next _before bounded stepped
  by_cases other : ∀ answer, event ≠ .returns answer
  · rw [(step_of_others other stepped).1]
    exact bounded
  · push Not at other
    obtain ⟨answer, rfl⟩ := other
    rw [step, Option.ite_none_right_eq_some, Option.map_eq_some_iff] at stepped
    obtain ⟨_possible, config, moved, rfl⟩ := stepped
    rcases remaining_of_moves (moves_of_step moved) with nearer | ⟨_last, again, _restarted⟩
    · exact (Nat.le_of_succ_le nearer).trans bounded
    · exact Nat.le_of_eq (congrArg Stage.remaining again)

/-- Behind the end of a stream, a call is paid by the calls that may follow. -/
theorem calls_paid_atEnd
    {network next : Network kind} {event : NetworkEvent kind} {peer : Peer}
    (known : peer ≠ .control)
    (atEnd : (network.stream peer).AtEnd)
    (reported : network.ReportsEnd peer event)
    (stepped : network.step event = some next) :
    network.calls event + next.config.stage.budget peer ≤
      network.config.stage.budget peer := by
  by_cases other : ∀ answer, event ≠ .returns answer
  · have free : network.calls event = 0 := by
      cases event with
      | returns answer => exact absurd rfl (other answer)
      | _ => rfl
    rw [(step_of_others other stepped).1, free, Nat.zero_add]
  · push Not at other
    obtain ⟨answer, rfl⟩ := other
    rw [step, Option.ite_none_right_eq_some, Option.map_eq_some_iff] at stepped
    obtain ⟨_possible, config, moved, rfl⟩ := stepped
    exact Stage.budget_of_moves (moves_of_step moved) (fun reads => reported reads atEnd) known

/-- Once the stream of the client or of the server is at its end, the session makes no
more calls than two iterations do. -/
theorem calls_after_end
    (proxy : TimingProxy kind)
    (history : List (NetworkEvent kind)) (network : Network kind)
    (reached : Machine.run step (start proxy) history = some network)
    (peer : Peer) (known : peer ≠ .control)
    (atEnd : (network.stream peer).AtEnd)
    (events : List (NetworkEvent kind)) (final : Network kind)
    (continued : Machine.run step network events = some final)
    (reported : Machine.Along step (ReportsEnd peer) network events) :
    Machine.cost step calls network events ≤ 2 * iterationCalls kind := by
  have paid : Machine.cost step calls network events ≤ network.config.stage.budget peer := by
    refine @Machine.cost_le_potential _ _ step calls
      (fun network => network.config.stage.budget peer) (ReportsEnd peer)
      (fun network => (network.stream peer).AtEnd) network final events atEnd ?_ ?_
      reported continued
    · exact fun _network _event _next ends _here stepped => atEnd_step ends stepped
    · exact fun _network _event _next ends here stepped =>
        calls_paid_atEnd known ends here stepped
  have inside := remaining_le_iterationCalls reached
  rw [Stage.budget] at paid
  split at paid <;> omega

/-- Behind its request, the client closes its side. -/
theorem calls_after_end_of_client :
    ∃ network final,
      Machine.run step (start pcapSocket) (requestForwarded ++ [.clientCloses]) = some network ∧
      Machine.run step network
        (.returns (.failed .again) :: nobodyHungUp ++ .returns .closed :: nobodyHungUp) =
          some final ∧
      final.config.stage = .ended ∧
      Machine.cost step calls network
        (.returns (.failed .again) :: nobodyHungUp ++ .returns .closed :: nobodyHungUp) ≤
          2 * iterationCalls .pcap :=
  ⟨_, _, rfl, rfl, rfl, calls_after_end pcapSocket (requestForwarded ++ [.clientCloses]) _ rfl
    .client (by decide) (by decide +kernel) _ _ rfl (by decide +kernel)⟩

end Network

end NetworkTiming
