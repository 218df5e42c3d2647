import NetworkTiming.TimingProxy.Network

/-!
# What is left unread when a session ends

The session loop ends as soon as any side has closed its connection, whatever is
pending in the other direction.  What it has read from the server it hands to the
client before; what it has not read is lost, unless the session ends because the
server's stream has ended.
-/

namespace NetworkTiming

open TimingProxy Config

variable {kind : KindOfSocket}

namespace Stage

/-- What has been read from the server and is still to be handed to the client. -/
def unforwarded : Stage kind → List UInt8
  | .stampRead data | .sendClient data => data
  | _ => []

/-- The session ends behind the checks, or has ended. -/
def isFinishing : Stage kind → Bool
  | .poll (some _) _ | .ended => true
  | _ => false

/-- An exception has just been raised. -/
def isException : Stage kind → Bool
  | .poll (some _) .client | .raised _ => true
  | _ => false

end Stage

namespace Network

/-- A write to the client fails. -/
def clientWriteFails (network : Network kind) (event : NetworkEvent kind) : Bool :=
  match network.config.stage, event with
  | .sendClient _, .returns (.failed _) => true
  | _, _ => false

/-- `KernelTimingSocket::read` receives bytes without their timestamp. -/
def readsUnstamped (network : Network kind) (event : NetworkEvent kind) : Bool :=
  match network.config.stage, event with
  | .stampRead _, .returns .noTime => true
  | _, _ => false

/-- The session is shut down for another reason than the end of the server's stream: a
check behind a whole iteration finds a connection closed by its peer, or a call raises an
exception, as reading does at the end of the client's stream. -/
def interrupts (network : Network kind) (event : NetworkEvent kind) : Bool :=
  match network.config.stage, event with
  | .poll none _, .returns (.hangup closed) => closed
  | .readServer, .returns .closed => false
  | _, .returns answer =>
      match network.config.step answer with
      | some next => next.stage.isException
      | none => false
  | _, _ => false

/-! ## What has been read -/

/-- The client has been handed what has been read from the server, but for what is still
to be handed. -/
def Forwards (network : Network kind) : Prop :=
  network.config.stage.isRaised = false →
    network.toClient.sent ++ network.config.stage.unforwarded = network.toOutput.taken

theorem unforwarded_raise (fault : Fault) :
    (Stage.raise fault : Stage kind).unforwarded = [] := by
  cases fault <;> rfl

theorem unforwarded_written (proxy : TimingProxy kind) (enclosing : List (List UInt8)) :
    (written proxy enclosing).stage.unforwarded = [] := by
  cases enclosing <;> rfl

theorem unforwarded_arrived (data : List UInt8) (kind : KindOfSocket) :
    (arrived data kind).unforwarded = data := by
  cases kind <;> rfl

theorem unforwarded_measure (proxy : TimingProxy kind) :
    (Config.measure proxy).stage.unforwarded = [] := by
  rw [Config.measure]
  cases kind.difference proxy.tstampPrecision proxy.txTimestamp proxy.rxTimestamp with
  | ok value => rfl
  | error fault => exact unforwarded_raise fault

theorem Forwards.returns
    {network : Network kind} {answer : Answer kind} {next : Config kind}
    (forwards : network.Forwards)
    (delivering : network.clientWriteFails (.returns answer) = false)
    (stamped : network.readsUnstamped (.returns answer) = false)
    (possible : network.CanReturn answer network.config.stage)
    (moves : Moves network.config answer next) :
    Network.Forwards { network.effect answer with config := next } := by
  obtain ⟨toInput, toServer, toOutput, toClient, config⟩ := network
  intro alive
  cases moves with
  | @responded _ _ bytes nonempty fits =>
      have before : toClient.sent ++ [] = toOutput.taken := forwards rfl
      change toClient.sent ++ (arrived bytes kind).unforwarded =
        (toOutput.pull bytes.length).taken
      rw [unforwarded_arrived, Channel.taken_pull _ possible, ← before, List.append_nil]
  | @partForwarded _ _ data count accepts rest =>
      have before : toClient.sent ++ data = toOutput.taken := forwards rfl
      change (toClient.push (data.take count)).sent ++ data.drop count = toOutput.taken
      rw [Channel.sent_push, List.append_assoc, List.take_append_drop, before]
  | @allForwarded _ _ data =>
      have before : toClient.sent ++ data = toOutput.taken := forwards rfl
      change (toClient.push (data.take data.length)).sent ++ (Config.measure _).stage.unforwarded =
        toOutput.taken
      rw [unforwarded_measure, List.append_nil, Channel.sent_push, List.take_length, before]
  | readTime | messageFound | lookedUp =>
      change toClient.sent ++ (written _ _).stage.unforwarded = toOutput.taken
      rw [unforwarded_written]
      exact forwards rfl
  | searchFailed =>
      change toClient.sent ++ (Stage.raise _).unforwarded = toOutput.taken
      rw [unforwarded_raise]
      exact forwards rfl
  | forwardingFailed => cases delivering
  | unstamped => cases stamped
  | misstamped => cases alive
  | readStamped | received | clientClosed | nothingReceived | partSent | allSent
  | sendingFailed | writeTime | peeked | searchedOn | searchExhausted | serverClosed
  | noResponse | serverReset | readingFailed | partReported | allReported
  | reportingFailed | hungUp | clientThere | controlThere | serverThere | caught
  | pollingFailed => exact forwards rfl

/-! ## What has not been read -/

/-- Once the session ends, the server's stream is at its end. -/
def EndsWithStream (network : Network kind) : Prop :=
  network.config.stage.isFinishing = true → network.toOutput.AtEnd

theorem isFinishing_written (proxy : TimingProxy kind) (enclosing : List (List UInt8)) :
    (written proxy enclosing).stage.isFinishing = false := by
  cases enclosing <;> rfl

theorem isFinishing_arrived (data : List UInt8) (kind : KindOfSocket) :
    (arrived data kind).isFinishing = false := by
  cases kind <;> rfl

theorem isException_raise (fault : Fault) :
    (Stage.raise fault : Stage kind).isException = true := by
  cases fault <;> rfl

/-- A session ends behind a measurement only by an exception. -/
theorem isException_measure
    {proxy : TimingProxy kind}
    (finishing : (Config.measure proxy).stage.isFinishing = true) :
    (Config.measure proxy).stage.isException = true := by
  revert finishing
  rw [Config.measure]
  cases kind.difference proxy.tstampPrecision proxy.txTimestamp proxy.rxTimestamp with
  | ok value => exact nofun
  | error fault => exact fun _ => isException_raise fault

theorem EndsWithStream.returns
    {network : Network kind} {answer : Answer kind} {next : Config kind}
    (ends : network.EndsWithStream)
    (undisturbed : network.interrupts (.returns answer) = false)
    (possible : network.CanReturn answer network.config.stage)
    (moved : network.config.step answer = some next) :
    Network.EndsWithStream { network.effect answer with config := next } := by
  obtain ⟨toInput, toServer, toOutput, toClient, config⟩ := network
  intro finishing
  have moves := moves_of_step moved
  cases moves with
  | serverClosed => exact possible
  | @hungUp _ _ reason =>
      cases reason with
      | none => cases undisturbed
      | some what => exact ends rfl
  | @clientThere _ _ reason | @controlThere _ _ reason =>
      cases reason with
      | none => cases finishing
      | some what => exact ends rfl
  | caught => exact ends rfl
  | readTime | messageFound | lookedUp =>
      exact absurd finishing (by simp [isFinishing_written])
  | responded => exact absurd finishing (by simp [isFinishing_arrived])
  | allForwarded =>
      simp only [interrupts, moved, isException_measure finishing] at undisturbed
      cases undisturbed
  | searchFailed =>
      simp only [interrupts, moved, isException_raise] at undisturbed
      cases undisturbed
  | clientClosed | sendingFailed | searchExhausted | serverReset | readingFailed
  | misstamped | forwardingFailed | reportingFailed | pollingFailed =>
      simp only [interrupts, moved] at undisturbed
      cases undisturbed
  | received | nothingReceived | partSent | allSent | writeTime | peeked | searchedOn
  | noResponse | readStamped | unstamped | partForwarded | partReported | allReported
  | serverThere => cases finishing

/-! ## Sessions -/

/-- What the other parties do leaves what the proxy has forwarded, and a stream at its
end. -/
theorem step_of_others
    {network next : Network kind} {event : NetworkEvent kind}
    (other : ∀ answer, event ≠ .returns answer)
    (stepped : network.step event = some next) :
    next.config = network.config ∧
      next.toClient.sent = network.toClient.sent ∧
      next.toOutput.taken = network.toOutput.taken ∧
      (network.toOutput.AtEnd → next.toOutput.AtEnd) := by
  cases event with
  | clientSends bytes =>
      rw [step, Option.ite_none_left_eq_some] at stepped
      obtain ⟨_, ⟨⟩⟩ := stepped
      exact ⟨rfl, rfl, rfl, id⟩
  | serverSends bytes =>
      rw [step, Option.ite_none_left_eq_some] at stepped
      obtain ⟨serverOpen, ⟨⟩⟩ := stepped
      exact ⟨rfl, rfl, rfl, fun atEnd => absurd atEnd.1 serverOpen⟩
  | clientCloses | serverTakes =>
      cases stepped
      exact ⟨rfl, rfl, rfl, id⟩
  | clientTakes count =>
      cases stepped
      exact ⟨rfl, Channel.sent_pull _ count, rfl, id⟩
  | serverCloses =>
      cases stepped
      exact ⟨rfl, rfl, rfl, Channel.AtEnd.close⟩
  | arrives link count =>
      cases stepped
      cases link with
      | clientToProxy | proxyToServer => exact ⟨rfl, rfl, rfl, id⟩
      | serverToProxy => exact ⟨rfl, rfl, rfl, fun atEnd => atEnd.deliver count⟩
      | proxyToClient => exact ⟨rfl, Channel.sent_deliver _ count, rfl, id⟩
  | returns answer => exact absurd rfl (other answer)

theorem Forwards.step
    {network next : Network kind} {event : NetworkEvent kind}
    (forwards : network.Forwards)
    (delivering : network.clientWriteFails event = false)
    (stamped : network.readsUnstamped event = false)
    (stepped : network.step event = some next) :
    next.Forwards := by
  by_cases other : ∀ answer, event ≠ .returns answer
  · obtain ⟨config, sent, taken, _⟩ := step_of_others other stepped
    intro alive
    rw [config] at alive
    rw [config, sent, taken]
    exact forwards alive
  · push Not at other
    obtain ⟨answer, rfl⟩ := other
    rw [Network.step, Option.ite_none_right_eq_some, Option.map_eq_some_iff] at stepped
    obtain ⟨possible, later, moved, rfl⟩ := stepped
    exact forwards.returns delivering stamped possible (moves_of_step moved)

theorem EndsWithStream.step
    {network next : Network kind} {event : NetworkEvent kind}
    (ends : network.EndsWithStream)
    (undisturbed : network.interrupts event = false)
    (stepped : network.step event = some next) :
    next.EndsWithStream := by
  by_cases other : ∀ answer, event ≠ .returns answer
  · obtain ⟨config, _, _, atEnd⟩ := step_of_others other stepped
    intro finishing
    rw [config] at finishing
    exact atEnd (ends finishing)
  · push Not at other
    obtain ⟨answer, rfl⟩ := other
    rw [Network.step, Option.ite_none_right_eq_some, Option.map_eq_some_iff] at stepped
    obtain ⟨possible, later, moved, rfl⟩ := stepped
    exact ends.returns undisturbed possible moved

/-- A session that ends has handed to the client everything that it has read from the
server; and everything that the server has sent, unless it has been interrupted. -/
theorem ended_forwards
    (proxy : TimingProxy kind)
    (events : List (NetworkEvent kind)) (final : Network kind)
    (reached : Machine.run step (start proxy) events = some final)
    (delivering : Machine.Along step (fun network event =>
        network.clientWriteFails event = false)
      (start proxy) events)
    (stamped : Machine.Along step (fun network event =>
        network.readsUnstamped event = false)
      (start proxy) events)
    (ended : final.config.stage = .ended) :
    final.toClient.sent = final.toOutput.taken ∧
      (Machine.Along step (fun network event => network.interrupts event = false)
          (start proxy) events →
        final.toClient.sent = final.toOutput.sent) := by
  have forwards : final.Forwards := by
    refine @Machine.run_invariant_along _ _ step (start proxy) final events
      (fun network event => network.clientWriteFails event = false ∧
        network.readsUnstamped event = false) Forwards (fun _ => rfl) ?_ ?_ reached
    · intro network event next forwards condition stepped
      exact forwards.step condition.1 condition.2 stepped
    · intro history event network before here
      exact ⟨delivering history event network before here,
        stamped history event network before here⟩
  have forwarded : final.toClient.sent = final.toOutput.taken := by
    have all := forwards (by rw [ended]; rfl)
    rw [ended] at all
    exact (List.append_nil _).symm.trans all
  refine ⟨forwarded, fun undisturbed => ?_⟩
  have initially : (start proxy).EndsWithStream := by
    rintro ⟨⟩
  have ends : final.EndsWithStream :=
    Machine.run_invariant_along initially
      (fun _network _event _next ends condition stepped => ends.step condition stepped)
      undisturbed reached
  rw [forwarded, Channel.sent, (ends (by rw [ended]; rfl)).2, List.append_nil]

/-- A connected socket that looks up the packets it has sent and received. -/
def pcapSocket : TimingProxy .pcap where
  answers := []
  established := true
  device := "eth0"
  tstampPrecision := PCAP_TSTAMP_PRECISION_MICRO
  txTimestamp := ⟨0, 0⟩
  rxTimestamp := ⟨0, 0⟩
  log := []

/-- A request of a byte is forwarded to the server. -/
def requestForwarded : List (NetworkEvent .pcap) :=
  [.clientSends [1], .arrives .clientToProxy 1, .returns (.received [1]),
    .returns (.accepted 1), .returns (.time ⟨1, 0⟩), .arrives .proxyToServer 1,
    .serverTakes 1]

/-- No connection has been shut down by its peer. -/
def nobodyHungUp : List (NetworkEvent .pcap) :=
  [.returns (.hangup false), .returns (.hangup false), .returns (.hangup false)]

/-- The server responds and closes its side. -/
def serverEnds : List (NetworkEvent .pcap) :=
  requestForwarded ++ [.serverSends [2], .arrives .serverToProxy 1,
    .returns (.received [2]), .returns (.time ⟨2, 0⟩), .returns (.accepted 1),
    .returns (.accepted 8)] ++ nobodyHungUp ++ [.returns (.failed .again),
    .serverCloses, .returns .closed] ++ nobodyHungUp

/-- The client closes its side behind its request, and the server responds. -/
def clientEnds : List (NetworkEvent .pcap) :=
  requestForwarded ++ [.clientCloses, .returns (.failed .again)] ++ nobodyHungUp ++
    [.serverSends [2], .arrives .serverToProxy 1, .returns .closed] ++ nobodyHungUp

/-- A session that ends behind a whole response has forwarded it. -/
theorem ended_forwards_response :
    ∃ final, Machine.run step (start pcapSocket) serverEnds = some final ∧
      final.config.stage = .ended ∧ final.toClient.sent = final.toOutput.sent :=
  ⟨_, rfl, rfl, (ended_forwards pcapSocket serverEnds _ rfl (by decide +kernel)
    (by decide +kernel) rfl).2 (by decide +kernel)⟩

/-- A session ends with a response unread, because the client has closed its side. -/
theorem response_unread_when_client_ends :
    ∃ final, Machine.run step (start pcapSocket) clientEnds = some final ∧
      Machine.Along step (fun network event => network.clientWriteFails event = false)
        (start pcapSocket) clientEnds ∧
      final.config.stage = .ended ∧ final.toOutput.arrived = [2] ∧
      final.toClient.sent = [] :=
  ⟨_, rfl, by decide +kernel, rfl, rfl, rfl⟩

end Network

end NetworkTiming
