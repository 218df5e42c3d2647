import NetworkTiming.TimingProxy.Termination
import NetworkTiming.TimingProxy.Transparency

/-!
# How soon bytes are passed on

Every iteration reads both streams once and passes on what it reads before it ends.  An
iteration makes a bounded number of calls, and so bytes that have arrived do not wait:
behind a number of calls that depends only on how many bytes there are, they have been
passed on, however little each call carries and whatever else happens in between.
-/

namespace NetworkTiming

open TimingProxy Config

variable {kind : KindOfSocket}

/-- The call delivers bytes. -/
def Answer.isReceived : Answer kind → Bool
  | .received _ => true
  | _ => false

namespace Stage

/-- What has been read from a peer and is still to be passed on. -/
def inHand : Peer → Stage kind → List UInt8
  | .client, stage => stage.unsent
  | .server, stage | .control, stage => stage.unforwarded

/-- The stream of a peer is still to be read in the iteration. -/
def awaits : Peer → Stage kind → Bool
  | _, .readClient => true
  | .server, .sendServer _ _ | .server, .timing _ _ _ | .server, .readServer => true
  | _, _ => false

/-- A loop that does not go on starts no other iteration. -/
theorem restarts_of_isStopped
    {stage : Stage kind} (stopped : stage.isStopped = true) (answer : Answer kind) :
    stage.restarts answer = 0 := by
  cases stage with
  | readClient | sendServer | timing | readServer | stampRead | sendClient | sendControl =>
      cases stopped
  | poll reason peer =>
      cases reason with
      | none => cases stopped
      | some what => rfl
  | ended | raised => rfl

theorem inHand_of_awaits {peer : Peer} {stage : Stage kind} (known : peer ≠ .control)
    (awaiting : stage.awaits peer = true) : stage.inHand peer = [] := by
  cases peer with
  | control => exact absurd rfl known
  | client | server =>
      cases stage with
      | readClient | sendServer | timing | readServer => first | rfl | cases awaiting
      | stampRead | sendClient | sendControl | poll | ended | raised => cases awaiting

end Stage

namespace Network

/-- The stream on which the bytes of a peer are passed on. -/
def onward (network : Network kind) : Peer → Channel UInt8
  | .client => network.toServer
  | .server | .control => network.toClient

/-- A read of the stream of a peer delivers bytes when some have arrived, and none of them
is thrown away. -/
def Delivers (peer : Peer) (network : Network kind) : NetworkEvent kind → Prop
  | .returns answer =>
      (network.config.stage.reads peer = true → (network.stream peer).arrived ≠ [] →
        answer.isReceived = true) ∧
      (peer = .server → network.readsUnstamped (.returns answer) = false)
  | _ => True

instance (peer : Peer) (network : Network kind) :
    (event : NetworkEvent kind) → Decidable (network.Delivers peer event)
  | .returns _ => inferInstanceAs (Decidable (_ ∧ _))
  | .clientSends _ | .clientCloses | .clientTakes _ | .serverSends _ | .serverCloses
  | .serverTakes _ | .arrives _ _ => isTrue trivial

/-- What a call does for the bytes of a peer. -/
inductive Carries (peer : Peer) (network : Network kind) (answer : Answer kind)
    (next : Config kind) : Prop
  /-- The loop does not go on. -/
  | stops (part rest : List UInt8) :
      next.stage.isStopped = true →
      network.config.stage.inHand peer = part ++ rest →
      network.config.stage.restarts answer = 0 →
      (network.effect answer).stream peer = network.stream peer →
      (network.effect answer).onward peer = (network.onward peer).push part →
      Carries peer network answer next
  /-- Another iteration starts. -/
  | restarts :
      network.config.stage.inHand peer = [] → next.stage = .readClient →
      network.config.stage.awaits peer = false →
      network.config.stage.restarts answer = 1 →
      network.effect answer = network →
      Carries peer network answer next
  /-- Bytes are read. -/
  | reads (bytes : List UInt8) :
      bytes ≠ [] → network.config.stage.awaits peer = true →
      next.stage.awaits peer = false → next.stage.inHand peer = bytes →
      network.config.stage.restarts answer = 0 →
      bytes <+: (network.stream peer).arrived →
      (network.effect answer).stream peer = (network.stream peer).pull bytes.length →
      (network.effect answer).onward peer = network.onward peer →
      Carries peer network answer next
  /-- There is nothing to read. -/
  | misses :
      (network.stream peer).arrived = [] → network.config.stage.awaits peer = true →
      next.stage.inHand peer = [] → network.config.stage.restarts answer = 0 →
      network.effect answer = network →
      Carries peer network answer next
  /-- A part of what has been read is passed on, or something else happens. -/
  | passes (part : List UInt8) :
      next.stage.awaits peer = network.config.stage.awaits peer →
      network.config.stage.inHand peer = part ++ next.stage.inHand peer →
      network.config.stage.restarts answer = 0 →
      (network.effect answer).stream peer = network.stream peer →
      (network.effect answer).onward peer = (network.onward peer).push part →
      Carries peer network answer next

variable {peer : Peer} {network : Network kind} {answer : Answer kind} {next : Config kind}

/-- A call that carries no bytes of a peer. -/
theorem Carries.goesOn
    (awaits : next.stage.awaits peer = network.config.stage.awaits peer)
    (inHand : next.stage.inHand peer = network.config.stage.inHand peer)
    (restarts : network.config.stage.restarts answer = 0)
    (stream : (network.effect answer).stream peer = network.stream peer)
    (onward : (network.effect answer).onward peer = network.onward peer) :
    Carries peer network answer next := by
  refine .passes [] awaits ?_ restarts stream ?_
  · rw [List.nil_append, inHand]
  · rw [onward, Channel.push_nil]

/-- A call that ends the loop or throws. -/
theorem Carries.breaksOff
    (stopped : next.stage.isStopped = true)
    (restarts : network.config.stage.restarts answer = 0)
    (unchanged : network.effect answer = network) :
    Carries peer network answer next := by
  refine .stops [] _ stopped rfl restarts ?_ ?_
  · rw [unchanged]
  · rw [unchanged, Channel.push_nil]

theorem inHand_written (peer : Peer) (proxy : TimingProxy kind)
    (enclosing : List (List UInt8)) {call : TimingCall kind} {data : List UInt8} :
    (written proxy enclosing).stage.inHand peer =
      (Stage.timing call data enclosing).inHand peer := by
  cases peer with
  | client => exact unsent_written proxy enclosing
  | server | control => exact unforwarded_written proxy enclosing

theorem awaits_written (proxy : TimingProxy kind) (enclosing : List (List UInt8))
    {call : TimingCall kind} {data : List UInt8} :
    (written proxy enclosing).stage.awaits peer =
      (Stage.timing call data enclosing).awaits peer := by
  cases enclosing <;> cases peer <;> rfl

theorem inHand_measure (peer : Peer) (proxy : TimingProxy kind) :
    (Config.measure proxy).stage.inHand peer = [] := by
  cases peer with
  | client => exact unsent_measure proxy
  | server | control => exact unforwarded_measure proxy

theorem awaits_measure (peer : Peer) (proxy : TimingProxy kind) :
    (Config.measure proxy).stage.awaits peer = false := by
  rw [Config.measure]
  cases kind.difference proxy.tstampPrecision proxy.txTimestamp proxy.rxTimestamp with
  | ok value => cases peer <;> rfl
  | error fault => cases fault <;> cases peer <;> rfl

/-- Every call carries the bytes of a peer a step further, or leaves them where they are,
or is one of the last. -/
theorem carries_of_moves
    (known : peer ≠ .control)
    (delivers : network.Delivers peer (.returns answer))
    (possible : network.CanReturn answer network.config.stage)
    (moves : Moves network.config answer next) :
    Carries peer network answer next := by
  obtain ⟨toInput, toServer, toOutput, toClient, config⟩ := network
  cases moves with
  | @received _ _ bytes nonempty fits =>
      cases peer with
      | client => exact .reads bytes nonempty rfl rfl rfl rfl possible rfl rfl
      | server => exact .goesOn rfl rfl rfl rfl rfl
      | control => exact absurd rfl known
  | nothingReceived =>
      cases peer with
      | client =>
          have none : toInput.arrived = [] := by
            by_contra some
            cases delivers.1 rfl some
          exact .misses none rfl rfl rfl rfl
      | server => exact .goesOn rfl rfl rfl rfl rfl
      | control => exact absurd rfl known
  | @partSent _ _ data enclosing count accepts rest =>
      cases peer with
      | client =>
          exact .passes (data.take count) rfl (List.take_append_drop count data).symm rfl rfl rfl
      | server => exact .goesOn rfl rfl rfl rfl rfl
      | control => exact absurd rfl known
  | @allSent _ _ data enclosing =>
      cases peer with
      | client =>
          refine .passes data rfl (List.append_nil data).symm rfl rfl ?_
          exact congrArg toServer.push List.take_length
      | server => exact .goesOn rfl rfl rfl rfl rfl
      | control => exact absurd rfl known
  | readTime | messageFound | lookedUp =>
      exact .goesOn (awaits_written _ _) (inHand_written peer _ _) rfl rfl rfl
  | @responded _ _ bytes nonempty fits =>
      cases peer with
      | client =>
          refine .goesOn ?_ (Stage.unsent_arrived bytes kind) rfl rfl rfl
          cases kind <;> rfl
      | server =>
          refine .reads bytes nonempty rfl ?_ (unforwarded_arrived bytes kind) rfl possible rfl rfl
          cases kind <;> rfl
      | control => exact absurd rfl known
  | noResponse =>
      cases peer with
      | client => exact .goesOn rfl rfl rfl rfl rfl
      | server =>
          have none : toOutput.arrived = [] := by
            by_contra some
            cases delivers.1 rfl some
          exact .misses none rfl rfl rfl rfl
      | control => exact absurd rfl known
  | unstamped =>
      cases peer with
      | client => exact .goesOn rfl rfl rfl rfl rfl
      | server => cases delivers.2 rfl
      | control => exact absurd rfl known
  | @partForwarded _ _ data count accepts rest =>
      cases peer with
      | client => exact .goesOn rfl rfl rfl rfl rfl
      | server =>
          exact .passes (data.take count) rfl (List.take_append_drop count data).symm rfl rfl rfl
      | control => exact absurd rfl known
  | @allForwarded _ proxy data =>
      cases peer with
      | client => exact .goesOn (awaits_measure _ _) (inHand_measure .client _) rfl rfl rfl
      | server =>
          refine .passes data (awaits_measure _ _) ?_ rfl rfl ?_
          · rw [inHand_measure, List.append_nil]
            rfl
          · exact congrArg toClient.push List.take_length
      | control => exact absurd rfl known
  | serverThere => exact .restarts (by cases peer <;> rfl) rfl (by cases peer <;> rfl) rfl rfl
  | @clientThere _ _ reason | @controlThere _ _ reason =>
      refine .goesOn (by cases peer <;> rfl) (by cases peer <;> rfl) ?_ rfl rfl
      cases reason <;> rfl
  | searchFailed => exact .breaksOff (Stage.isStopped_raise _) rfl rfl
  | @hungUp _ _ reason peer | @pollingFailed _ _ reason peer _ =>
      refine .breaksOff rfl ?_ rfl
      cases reason <;> cases peer <;> rfl
  | clientClosed | sendingFailed | searchExhausted | serverClosed | serverReset
  | readingFailed | misstamped | forwardingFailed | reportingFailed | caught =>
      exact .breaksOff rfl rfl rfl
  | writeTime | peeked | searchedOn | readStamped | partReported | allReported =>
      cases peer with
      | client | server => exact .goesOn rfl rfl rfl rfl rfl
      | control => exact absurd rfl known

/-- A loop that does not go on goes on no more. -/
theorem isStopped_of_moves
    {config : Config kind} (moves : Moves config answer next)
    (stopped : config.stage.isStopped = true) : next.stage.isStopped = true := by
  cases moves with
  | @clientThere _ _ reason | @controlThere _ _ reason =>
      cases reason with
      | none => cases stopped
      | some what => rfl
  | hungUp | pollingFailed | caught => rfl
  | received | clientClosed | nothingReceived | partSent | allSent | sendingFailed | writeTime
  | peeked | readTime | messageFound | searchedOn | searchExhausted | searchFailed | lookedUp
  | responded | serverClosed | noResponse | serverReset | readingFailed | readStamped
  | unstamped | misstamped | partForwarded | allForwarded | forwardingFailed | partReported
  | allReported | reportingFailed | serverThere => cases stopped

/-! ## How far the bytes of a peer have come -/

/-- What the parties and the network do leaves the loop where it is and what it has passed
on, and a stream that it reads only gains. -/
theorem gains_of_others
    {next : Network kind} {event : NetworkEvent kind} (peer : Peer)
    (other : ∀ answer, event ≠ .returns answer)
    (stepped : network.step event = some next) :
    (network.stream peer).Gains (next.stream peer) ∧
      (next.onward peer).sent = (network.onward peer).sent := by
  cases event with
  | clientSends bytes =>
      rw [step, Option.ite_none_left_eq_some] at stepped
      obtain ⟨_clientOpen, ⟨⟩⟩ := stepped
      cases peer with
      | client => exact ⟨.push _ bytes, rfl⟩
      | server | control => exact ⟨.refl _, rfl⟩
  | serverSends bytes =>
      rw [step, Option.ite_none_left_eq_some] at stepped
      obtain ⟨_serverOpen, ⟨⟩⟩ := stepped
      cases peer with
      | client => exact ⟨.refl _, rfl⟩
      | server | control => exact ⟨.push _ bytes, rfl⟩
  | clientCloses =>
      cases stepped
      cases peer with
      | client => exact ⟨.close _, rfl⟩
      | server | control => exact ⟨.refl _, rfl⟩
  | serverCloses =>
      cases stepped
      cases peer with
      | client => exact ⟨.refl _, rfl⟩
      | server | control => exact ⟨.close _, rfl⟩
  | clientTakes count =>
      cases stepped
      cases peer with
      | client => exact ⟨.refl _, rfl⟩
      | server | control => exact ⟨.refl _, Channel.sent_pull _ count⟩
  | serverTakes count =>
      cases stepped
      cases peer with
      | client => exact ⟨.refl _, Channel.sent_pull _ count⟩
      | server | control => exact ⟨.refl _, rfl⟩
  | arrives link count =>
      cases stepped
      cases link with
      | clientToProxy =>
          cases peer with
          | client => exact ⟨.deliver _ count, rfl⟩
          | server | control => exact ⟨.refl _, rfl⟩
      | proxyToServer =>
          cases peer with
          | client => exact ⟨.refl _, Channel.sent_deliver _ count⟩
          | server | control => exact ⟨.refl _, rfl⟩
      | serverToProxy =>
          cases peer with
          | client => exact ⟨.refl _, rfl⟩
          | server | control => exact ⟨.deliver _ count, rfl⟩
      | proxyToClient =>
          cases peer with
          | client => exact ⟨.refl _, rfl⟩
          | server | control => exact ⟨.refl _, Channel.sent_deliver _ count⟩
  | returns answer => exact absurd rfl (other answer)

theorem sent_stream_effect (network : Network kind) (peer : Peer) (answer : Answer kind) :
    ((network.effect answer).stream peer).sent = (network.stream peer).sent := by
  unfold effect
  split <;> cases peer <;> first | rfl | exact Channel.sent_pull _ _

theorem sent_onward_effect (network : Network kind) (peer : Peer) (answer : Answer kind) :
    (network.onward peer).sent <+: ((network.effect answer).onward peer).sent := by
  unfold effect
  split <;> cases peer <;> simp [onward]

/-- What has been sent over a stream, and what has been passed on of it, stays a part of
what will have been. -/
theorem grows_of_step
    {next : Network kind} {event : NetworkEvent kind} (peer : Peer)
    (stepped : network.step event = some next) :
    (network.stream peer).sent <+: (next.stream peer).sent ∧
      (network.onward peer).sent <+: (next.onward peer).sent := by
  by_cases other : ∀ answer, event ≠ .returns answer
  · obtain ⟨gains, same⟩ := gains_of_others peer other stepped
    exact ⟨gains.sent, same ▸ List.prefix_refl _⟩
  · push Not at other
    obtain ⟨answer, rfl⟩ := other
    rw [step, Option.ite_none_right_eq_some, Option.map_eq_some_iff] at stepped
    obtain ⟨_possible, config, _moved, rfl⟩ := stepped
    have near := sent_stream_effect network peer answer
    have far := sent_onward_effect network peer answer
    cases peer <;> exact ⟨near ▸ List.prefix_refl _, far⟩

theorem grows_of_run
    {final : Network kind} {events : List (NetworkEvent kind)} (peer : Peer)
    (reached : Machine.run step network events = some final) :
    (network.stream peer).sent <+: (final.stream peer).sent ∧
      (network.onward peer).sent <+: (final.onward peer).sent := by
  refine @Machine.run_invariant _ _ step network final events
    (fun _history later => (network.stream peer).sent <+: (later.stream peer).sent ∧
      (network.onward peer).sent <+: (later.onward peer).sent)
    ⟨List.prefix_refl _, List.prefix_refl _⟩ ?_ reached
  intro _history middle event next _before grown stepped
  obtain ⟨near, far⟩ := grows_of_step peer stepped
  exact ⟨grown.1.trans near, grown.2.trans far⟩

/-- What has been read from a peer has been passed on or is in hand, and the first `goal`
bytes have at least arrived, unless the loop has stopped. -/
structure Holds (peer : Peer) (goal : Nat) (network : Network kind) : Prop where
  passedOn : (network.onward peer).sent <+: (network.stream peer).taken
  inHand : network.config.stage.isStopped = false →
    (network.stream peer).taken =
      (network.onward peer).sent ++ network.config.stage.inHand peer
  there : network.config.stage.isStopped = false →
    goal ≤ (network.stream peer).taken.length + (network.stream peer).arrived.length

/-- How many iterations there are at most before the first `goal` bytes of a peer have been
passed on: one for each that is still to be read, and the one in which the stream has
already been read. -/
def due (peer : Peer) (goal : Nat) (network : Network kind) : Nat :=
  if network.config.stage.isStopped then 0
  else goal - (network.stream peer).taken.length +
    if network.config.stage.awaits peer then 0 else 1

theorem due_of_isStopped {goal : Nat} (stopped : network.config.stage.isStopped = true) :
    network.due peer goal = 0 :=
  if_pos stopped

theorem holds_start (proxy : TimingProxy kind) (peer : Peer) : (start proxy).Holds peer 0 := by
  cases peer <;>
    exact ⟨List.prefix_refl _, fun _ => rfl, fun _ => Nat.zero_le _⟩

/-- A call leaves the bytes of a peer passed on or in hand. -/
theorem Holds.carries
    {goal : Nat} {after : Network kind}
    (holds : network.Holds peer goal)
    (running : network.config.stage.isStopped = false)
    (carries : Carries peer network answer next)
    (config : after.config = next)
    (stream : after.stream peer = (network.effect answer).stream peer)
    (onward : after.onward peer = (network.effect answer).onward peer)
    (known : peer ≠ .control) :
    after.Holds peer goal := by
  have inHand := holds.inHand running
  have there := holds.there running
  rw [← config] at carries
  cases carries with
  | stops part rest stopped split _restarts nearSame farPushed =>
      rw [nearSame] at stream
      rw [farPushed] at onward
      refine ⟨?_, ?_, ?_⟩
      · rw [onward, stream, Channel.sent_push, inHand, split, ← List.append_assoc]
        exact List.prefix_append _ _
      · rw [stopped]
        rintro ⟨⟩
      · rw [stopped]
        rintro ⟨⟩
  | restarts nothing again _behind _restarts unchanged =>
      rw [unchanged] at stream onward
      rw [nothing, List.append_nil] at inHand
      have nothing : after.config.stage.inHand peer = [] := by
        rw [again]
        cases peer <;> rfl
      refine ⟨?_, fun _ => ?_, fun _ => ?_⟩
      · rw [stream, onward]
        exact holds.passedOn
      · rw [stream, onward, nothing, List.append_nil]
        exact inHand
      · rw [stream]
        exact there
  | reads bytes _nonempty awaiting _behind fresh _restarts first nearPulled farSame =>
      rw [Stage.inHand_of_awaits known awaiting, List.append_nil] at inHand
      rw [nearPulled] at stream
      rw [farSame] at onward
      have taken : (after.stream peer).taken = (network.onward peer).sent ++ bytes := by
        rw [stream, Channel.taken_pull _ first, inHand]
      have left := congrArg List.length (Channel.append_arrived_pull first)
      rw [List.length_append, ← stream] at left
      refine ⟨?_, fun _ => ?_, fun _ => ?_⟩
      · rw [taken, onward]
        exact List.prefix_append _ _
      · rw [taken, onward, fresh]
      · rw [taken, List.length_append, ← inHand]
        omega
  | misses _nothing awaiting fresh _restarts unchanged =>
      rw [unchanged] at stream onward
      rw [Stage.inHand_of_awaits known awaiting, List.append_nil] at inHand
      refine ⟨?_, fun _ => ?_, fun _ => ?_⟩
      · rw [stream, onward]
        exact holds.passedOn
      · rw [stream, onward, fresh, List.append_nil]
        exact inHand
      · rw [stream]
        exact there
  | passes part _awaits split _restarts nearSame farPushed =>
      rw [nearSame] at stream
      rw [farPushed] at onward
      have taken : (after.stream peer).taken =
          (after.onward peer).sent ++ after.config.stage.inHand peer := by
        rw [stream, onward, Channel.sent_push, inHand, split, List.append_assoc]
      refine ⟨?_, fun _ => taken, fun _ => ?_⟩
      · rw [taken]
        exact List.prefix_append _ _
      · rw [stream]
        exact there

theorem due_le (peer : Peer) (goal : Nat) (network : Network kind) :
    network.due peer goal ≤ goal - (network.stream peer).taken.length +
      if network.config.stage.awaits peer then 0 else 1 := by
  unfold due
  split
  · exact Nat.zero_le _
  · exact Nat.le_refl _

/-- An iteration that has been completed is one of those that were due. -/
theorem Holds.due_add_restarts_le
    {goal : Nat} {after : Network kind}
    (holds : network.Holds peer goal)
    (running : network.config.stage.isStopped = false)
    (pending : (network.onward peer).sent.length < goal)
    (carries : Carries peer network answer next)
    (config : after.config = next)
    (stream : after.stream peer = (network.effect answer).stream peer)
    (known : peer ≠ .control) :
    after.due peer goal + network.config.stage.restarts answer ≤ network.due peer goal := by
  have inHand := holds.inHand running
  have there := holds.there running
  have later := due_le peer goal after
  have now : network.due peer goal = goal - (network.stream peer).taken.length +
      if network.config.stage.awaits peer then 0 else 1 := by
    rw [due, running, if_neg Bool.false_ne_true]
  rw [← config] at carries
  cases carries with
  | stops part rest stopped _split restarts _nearSame _farPushed =>
      rw [due, if_pos stopped, restarts]
      exact Nat.zero_le _
  | restarts _nothing again behind restarts unchanged =>
      have awaiting : after.config.stage.awaits peer = true := by
        rw [again]
        cases peer <;> rfl
      rw [awaiting, if_pos rfl, stream, unchanged] at later
      rw [behind, if_neg Bool.false_ne_true] at now
      omega
  | reads bytes nonempty awaiting behind _fresh restarts first nearPulled _farSame =>
      rw [Stage.inHand_of_awaits known awaiting, List.append_nil] at inHand
      have some := List.length_pos_iff.mpr nonempty
      rw [behind, if_neg Bool.false_ne_true, stream, nearPulled, Channel.taken_pull _ first,
        List.length_append] at later
      rw [awaiting, if_pos rfl, inHand] at now
      rw [inHand] at later
      omega
  | misses nothing awaiting _fresh _restarts _unchanged =>
      rw [Stage.inHand_of_awaits known awaiting, List.append_nil] at inHand
      rw [nothing, inHand, List.length_nil] at there
      omega
  | passes part awaits _split restarts nearSame _farPushed =>
      rw [awaits, stream, nearSame] at later
      omega

/-- The calls that may still be made before the first `goal` bytes of a peer have been passed
on. -/
def outstanding (peer : Peer) (goal : Nat) (network : Network kind) : Nat :=
  network.config.stage.remaining + iterationCalls kind * network.due peer goal

/-- A loop that does not go on carries nothing. -/
theorem effect_of_isStopped (stopped : network.config.stage.isStopped = true) :
    network.effect answer = network := by
  obtain ⟨toInput, toServer, toOutput, toClient, stage, proxy⟩ := network
  cases stage with
  | readClient | sendServer | timing | readServer | stampRead | sendClient | sendControl =>
      cases stopped
  | poll | ended | raised => rfl

/-- Every step leaves the bytes of a peer passed on or in hand. -/
theorem Holds.step
    {goal : Nat} {after : Network kind} {event : NetworkEvent kind}
    (holds : network.Holds peer goal) (known : peer ≠ .control)
    (delivers : network.Delivers peer event)
    (stepped : network.step event = some after) :
    after.Holds peer goal := by
  by_cases other : ∀ answer, event ≠ .returns answer
  · obtain ⟨config, _⟩ := step_of_others other stepped
    obtain ⟨gains, sent⟩ := gains_of_others peer other stepped
    have arrived := gains.arrived.length_le
    refine ⟨?_, ?_, ?_⟩
    · rw [sent, gains.taken]
      exact holds.passedOn
    · rw [sent, gains.taken, config]
      exact holds.inHand
    · rw [gains.taken, config]
      exact fun running => (holds.there running).trans (Nat.add_le_add_left arrived _)
  · push Not at other
    obtain ⟨answer, rfl⟩ := other
    rw [Network.step, Option.ite_none_right_eq_some, Option.map_eq_some_iff] at stepped
    obtain ⟨possible, config, moved, rfl⟩ := stepped
    have moves := moves_of_step moved
    have carries := carries_of_moves known delivers possible moves
    by_cases stopped : network.config.stage.isStopped = true
    · have later := isStopped_of_moves moves stopped
      have passedOn : ((network.effect answer).onward peer).sent <+:
          ((network.effect answer).stream peer).taken := by
        rw [effect_of_isStopped stopped]
        exact holds.passedOn
      exact ⟨by cases peer <;> exact passedOn,
        fun running => absurd (running.symm.trans later) (by decide),
        fun running => absurd (running.symm.trans later) (by decide)⟩
    · exact holds.carries (Bool.eq_false_of_not_eq_true stopped) carries rfl
        (by cases peer <;> rfl) (by cases peer <;> rfl) known

/-- As long as the first `goal` bytes of a peer have not been passed on, a call is paid by
the calls that are outstanding. -/
theorem Holds.calls_paid
    {goal : Nat} {after : Network kind} {event : NetworkEvent kind}
    (holds : network.Holds peer goal) (known : peer ≠ .control)
    (delivers : network.Delivers peer event)
    (pending : (network.onward peer).sent.length < goal)
    (stepped : network.step event = some after) :
    network.calls event + after.outstanding peer goal ≤ network.outstanding peer goal := by
  have paid := Network.calls_paid stepped
  have due : after.due peer goal + network.iterations event ≤ network.due peer goal := by
    by_cases other : ∀ answer, event ≠ .returns answer
    · obtain ⟨config, _⟩ := step_of_others other stepped
      obtain ⟨gains, _sent⟩ := gains_of_others peer other stepped
      have none : network.iterations event = 0 := by
        cases event with
        | returns answer => exact absurd rfl (other answer)
        | _ => rfl
      rw [none, Network.due, Network.due, config, gains.taken]
      exact Nat.le_refl _
    · push Not at other
      obtain ⟨answer, rfl⟩ := other
      rw [Network.step, Option.ite_none_right_eq_some, Option.map_eq_some_iff] at stepped
      obtain ⟨possible, config, moved, rfl⟩ := stepped
      have moves := moves_of_step moved
      by_cases stopped : network.config.stage.isStopped = true
      · rw [due_of_isStopped (isStopped_of_moves moves stopped)]
        exact (Nat.zero_add _).trans_le
          ((Stage.restarts_of_isStopped stopped answer).trans_le (Nat.zero_le _))
      · exact holds.due_add_restarts_le (Bool.eq_false_of_not_eq_true stopped) pending
          (carries_of_moves known delivers possible moves) rfl (by cases peer <;> rfl) known
  have income := Nat.mul_le_mul_left (iterationCalls kind) due
  rw [Nat.mul_add] at income
  rw [outstanding, outstanding]
  omega

/-- How long bytes wait: as long as what has been read from a peer and the next `count` bytes
that have arrived from it have not all been passed on, in the order in which they have been
sent, no more calls have returned than `count` iterations and two more can make. -/
theorem calls_while_waiting
    (proxy : TimingProxy kind) (peer : Peer) (known : peer ≠ .control)
    (history : List (NetworkEvent kind)) (network : Network kind)
    (reached : Machine.run step (start proxy) history = some network)
    (before : Machine.Along step (Delivers peer) (start proxy) history)
    (events : List (NetworkEvent kind)) (final : Network kind)
    (continued : Machine.run step network events = some final)
    (delivers : Machine.Along step (Delivers peer) network events)
    (count : Nat)
    (waiting : ¬(network.stream peer).taken ++ (network.stream peer).arrived.take count <+:
      (final.onward peer).sent) :
    Machine.cost step calls network events ≤ (count + 2) * iterationCalls kind := by
  have initially : network.Holds peer 0 :=
    Machine.run_invariant_along (holds_start proxy peer)
      (fun _network _event _next holds here stepped => holds.step known here stepped)
      before reached
  generalize there : (network.stream peer).taken ++ (network.stream peer).arrived.take count =
    bytes at waiting
  have holds : network.Holds peer bytes.length := by
    refine ⟨initially.passedOn, initially.inHand, fun _ => ?_⟩
    rw [← there, List.length_append, List.length_take]
    omega
  have last : final.Holds peer bytes.length :=
    Machine.run_invariant_along holds
      (fun _network _event _next holds here stepped => holds.step known here stepped)
      delivers continued
  -- both are first parts of what the peer will have sent, and so the longer one begins
  -- with the other
  have sent : bytes <+: (final.stream peer).sent := by
    refine List.IsPrefix.trans ?_ (grows_of_run peer continued).1
    rw [← there, Channel.sent, Channel.unread, List.prefix_append_right_inj]
    exact (List.take_prefix _ _).trans (List.prefix_append _ _)
  have passed : (final.onward peer).sent <+: (final.stream peer).sent :=
    last.passedOn.trans (Channel.taken_prefix_sent _)
  have pending : (final.onward peer).sent.length < bytes.length := by
    by_contra enough
    exact waiting (List.prefix_of_prefix_length_le sent passed (Nat.le_of_not_lt enough))
  have along : Machine.Along step (fun network event => Delivers peer network event ∧
      (network.onward peer).sent.length < bytes.length) network events := by
    intro earlier event middle isPrefix passing
    obtain ⟨later, rfl⟩ := isPrefix
    rw [List.append_assoc, Machine.run_append, passing, Option.bind_some] at continued
    have grown := (grows_of_run peer continued).2.length_le
    exact ⟨delivers earlier event middle (by simp) passing, by omega⟩
  have paid := @Machine.cost_le_potential _ _ step calls (outstanding peer bytes.length)
    (fun network event => Delivers peer network event ∧
      (network.onward peer).sent.length < bytes.length)
    (Holds peer bytes.length) _ _ _ holds
    (fun _network _event _next holds here stepped => holds.step known here.1 stepped)
    (fun _network _event _next holds here stepped =>
      holds.calls_paid known here.1 here.2 stepped)
    along continued
  have inside := remaining_le_iterationCalls reached
  have few : network.due peer bytes.length ≤ count + 1 := by
    have some := due_le peer bytes.length network
    rw [← there, List.length_append, List.length_take] at some
    rw [← there, List.length_append, List.length_take]
    split at some <;> omega
  have all := Nat.mul_le_mul_left (iterationCalls kind) few
  rw [outstanding] at paid
  rw [Nat.mul_add] at all
  rw [Nat.add_mul, Nat.mul_comm count]
  omega

/-- Of a request of two bytes, one has been read and is still to be sent. -/
theorem calls_while_waiting_read :
    ∃ network final,
      Machine.run step (start pcapSocket) [.clientSends [1, 2], .arrives .clientToProxy 2] =
        some network ∧
      Machine.run step network [.returns (.received [1])] = some final ∧
      Machine.cost step calls network [.returns (.received [1])] ≤
        (2 + 2) * iterationCalls .pcap :=
  ⟨_, _, rfl, rfl, calls_while_waiting pcapSocket .client (by decide)
    [.clientSends [1, 2], .arrives .clientToProxy 2] _ rfl (by decide +kernel)
    [.returns (.received [1])] _ rfl (by decide +kernel) 2 (by decide +kernel)⟩

end Network

end NetworkTiming
