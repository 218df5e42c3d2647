import NetworkTiming.TimingProxy.Network
import NetworkTiming.TimingProxy.Writes

/-!
# Waiting for a response to a part of a request

`CPUTimingSocket::write` waits for the first byte of the response.  It is called for
each chunk of a request that `tryForwardInput` reads, so that a request that is read in
parts is waited for when the server has only its first part: the server waits for the
rest, which the proxy does not read.
-/

namespace NetworkTiming

open TimingProxy Config

namespace Network

/-- The client sends the request, in any pieces, and the server does not respond before
it has the whole of it. -/
def Disciplined (request : List UInt8) (network : Network .cpu) :
    NetworkEvent .cpu → Prop
  | .clientSends bytes => network.toInput.sent ++ bytes <+: request
  | .serverSends _ => network.toServer.taken = request
  | _ => True

instance (request : List UInt8) (network : Network .cpu) :
    (event : NetworkEvent .cpu) → Decidable (network.Disciplined request event)
  | .clientSends bytes =>
      inferInstanceAs (Decidable (network.toInput.sent ++ bytes <+: request))
  | .serverSends _ => inferInstanceAs (Decidable (network.toServer.taken = request))
  | .clientCloses | .clientTakes _ | .serverCloses | .serverTakes _ | .arrives _ _
  | .returns _ => isTrue trivial

/-- Bytes that `tryForwardInput` reads complete the request. -/
def ReadsWholeRequest (request : List UInt8) (network : Network .cpu) :
    NetworkEvent .cpu → Prop
  | .returns (.received bytes) =>
      network.config.stage = .readClient → network.toInput.taken ++ bytes = request
  | _ => True

instance (request : List UInt8) (network : Network .cpu) :
    (event : NetworkEvent .cpu) → Decidable (network.ReadsWholeRequest request event)
  | .returns (.received bytes) =>
      inferInstanceAs (Decidable (network.config.stage = .readClient →
        network.toInput.taken ++ bytes = request))
  | .returns .connected | .returns .closed | .returns (.failed _) | .returns (.accepted _)
  | .returns .peeked | .returns (.time _) | .returns .noTime | .returns (.thrown _)
  | .returns (.hangup _) | .clientSends _ | .clientCloses | .clientTakes _
  | .serverSends _ | .serverCloses | .serverTakes _ | .arrives _ _ => isTrue trivial

/-- The proxy waits for the response, the server for bytes of the request, and these
have not been read by the proxy. -/
structure Deadlock (request : List UInt8) (network : Network .cpu) : Prop where
  /-- The proxy is in the peeking call of `CPUTimingSocket::write`. -/
  peeking : ∃ data enclosing, network.config.stage = .timing .peek data enclosing
  /-- There is nothing to peek at, and nothing on its way. -/
  noResponse : network.toOutput.unread = []
  /-- The server has not closed its side, which would end the waiting, too. -/
  serverOpen : network.toOutput.closed = false
  /-- Bytes of the request are at `proxy_input`, or on their way to it. -/
  unread : network.toInput.unread ≠ []
  /-- The server is not given the whole request. -/
  incomplete : ¬request <+: network.toServer.sent

/-! ## Deadlocks persist -/

/-- The peeking call does not return. -/
theorem Deadlock.not_canReturn
    {request : List UInt8} {network : Network .cpu} {answer : Answer .cpu}
    {next : Config .cpu}
    (deadlock : network.Deadlock request)
    (working : ∀ errno, answer ≠ .failed errno)
    (moves : Moves network.config answer next) :
    ¬network.CanReturn answer network.config.stage := by
  obtain ⟨⟨data, enclosing, peeking⟩, noResponse, serverOpen, _, _⟩ := deadlock
  rw [Channel.unread, List.append_eq_nil_iff] at noResponse
  intro possible
  rw [peeking] at possible
  obtain ⟨toInput, toServer, toOutput, toClient, config⟩ := network
  cases moves with
  | peeked returns =>
      rcases returns with rfl | rfl | ⟨errno, rfl⟩
      · exact possible rfl noResponse.1
      · exact Bool.false_ne_true (serverOpen.symm.trans (possible rfl).1)
      · exact working errno rfl
  | _ => cases peeking

/-- A deadlock lasts for as long as the server keeps its side open and the peeking call
does not fail. -/
theorem Deadlock.persists
    {request : List UInt8} {network next : Network .cpu} {event : NetworkEvent .cpu}
    (deadlock : network.Deadlock request)
    (disciplined : network.Disciplined request event)
    (keepsOpen : event ≠ .serverCloses)
    (working : ∀ errno, event ≠ .returns (.failed errno))
    (stepped : network.step event = some next) :
    next.Deadlock request := by
  have stuck := deadlock
  obtain ⟨peeking, noResponse, serverOpen, unread, incomplete⟩ := deadlock
  cases event with
  | clientSends bytes =>
      rw [step, Option.ite_none_left_eq_some] at stepped
      obtain ⟨_, ⟨⟩⟩ := stepped
      exact ⟨peeking, noResponse, serverOpen, by simp [unread], incomplete⟩
  | clientCloses | clientTakes count =>
      cases stepped
      exact ⟨peeking, noResponse, serverOpen, unread, incomplete⟩
  | serverSends bytes =>
      refine absurd ?_ incomplete
      rw [← show network.toServer.taken = request from disciplined]
      exact network.toServer.taken_prefix_sent
  | serverCloses => exact absurd rfl keepsOpen
  | serverTakes count =>
      cases stepped
      exact ⟨peeking, noResponse, serverOpen, unread, by simpa using incomplete⟩
  | arrives link count =>
      cases stepped
      cases link with
      | clientToProxy =>
          exact ⟨peeking, noResponse, serverOpen, by simpa [deliver] using unread, incomplete⟩
      | proxyToServer =>
          exact ⟨peeking, noResponse, serverOpen, unread, by simpa [deliver] using incomplete⟩
      | serverToProxy =>
          exact ⟨peeking, by simpa [deliver] using noResponse, serverOpen, unread, incomplete⟩
      | proxyToClient => exact ⟨peeking, noResponse, serverOpen, unread, incomplete⟩
  | returns answer =>
      rw [step, Option.ite_none_right_eq_some, Option.map_eq_some_iff] at stepped
      obtain ⟨possible, later, moved, _⟩ := stepped
      refine absurd possible (stuck.not_canReturn ?_ (moves_of_step moved))
      rintro errno rfl
      exact working errno rfl

/-! ## Requests that are read at once -/

/-- While a request is written, it has been read completely. -/
structure ReadCompletely (request : List UInt8) (network : Network .cpu) : Prop where
  sends : network.toInput.sent <+: request
  writing : network.config.stage.isWriting = true → network.toInput.taken = request

theorem not_deadlock_of_readCompletely
    {request : List UInt8} {network : Network .cpu}
    (completely : network.ReadCompletely request) :
    ¬network.Deadlock request := by
  rintro ⟨⟨data, enclosing, peeking⟩, _, _, unread, _⟩
  have taken := completely.writing (by rw [peeking]; rfl)
  have sends := completely.sends
  rw [← network.toInput.taken_append_unread, taken] at sends
  apply unread
  simpa using sends.length_le

theorem ReadCompletely.returns
    {request : List UInt8} {network : Network .cpu} {answer : Answer .cpu}
    {next : Config .cpu}
    (completely : network.ReadCompletely request)
    (whole : network.ReadsWholeRequest request (.returns answer))
    (possible : network.CanReturn answer network.config.stage)
    (moves : Moves network.config answer next) :
    Network.ReadCompletely request { network.effect answer with config := next } := by
  obtain ⟨toInput, toServer, toOutput, toClient, config⟩ := network
  obtain ⟨sends, writing⟩ := completely
  cases moves with
  | received nonempty fits =>
      refine ⟨by simpa [effect] using sends, fun _ => ?_⟩
      exact (toInput.taken_pull possible).trans (whole rfl)
  | partSent | allSent | writeTime | peeked => exact ⟨sends, fun _ => writing rfl⟩
  | readTime => exact ⟨sends, fun _ => writing rfl⟩
  | responded nonempty => exact ⟨sends, nofun⟩
  | allForwarded => exact ⟨sends, nofun⟩
  | clientClosed | nothingReceived | sendingFailed | serverClosed | noResponse
  | readStamped | partForwarded | forwardingFailed | partReported | allReported
  | reportingFailed | hungUp | clientThere | controlThere | serverThere | caught
  | pollingFailed => exact ⟨sends, nofun⟩

theorem ReadCompletely.step
    {request : List UInt8} {network next : Network .cpu} {event : NetworkEvent .cpu}
    (completely : network.ReadCompletely request)
    (disciplined : network.Disciplined request event)
    (whole : network.ReadsWholeRequest request event)
    (stepped : network.step event = some next) :
    next.ReadCompletely request := by
  cases event with
  | clientSends bytes =>
      rw [Network.step, Option.ite_none_left_eq_some] at stepped
      obtain ⟨_, ⟨⟩⟩ := stepped
      refine ⟨?_, completely.writing⟩
      rw [Channel.sent_push]
      exact disciplined
  | serverSends bytes =>
      rw [Network.step, Option.ite_none_left_eq_some] at stepped
      obtain ⟨_, ⟨⟩⟩ := stepped
      exact ⟨completely.sends, completely.writing⟩
  | clientCloses | clientTakes | serverCloses | serverTakes =>
      cases stepped
      exact ⟨completely.sends, completely.writing⟩
  | arrives link count =>
      cases stepped
      cases link with
      | clientToProxy =>
          exact ⟨by simpa [deliver] using completely.sends, completely.writing⟩
      | proxyToServer | serverToProxy | proxyToClient =>
          exact ⟨completely.sends, completely.writing⟩
  | returns answer =>
      rw [Network.step, Option.ite_none_right_eq_some, Option.map_eq_some_iff] at stepped
      obtain ⟨possible, later, moved, rfl⟩ := stepped
      exact completely.returns whole possible (moves_of_step moved)

/-- If each read of request bytes completes the request, the session never deadlocks. -/
theorem never_deadlock_of_readsWholeRequest
    (request : List UInt8) (proxy : TimingProxy .cpu)
    (events : List (NetworkEvent .cpu)) (final : Network .cpu)
    (reached : Machine.run step (start proxy) events = some final)
    (disciplined : Machine.Along step (Disciplined request) (start proxy) events)
    (whole : Machine.Along step (ReadsWholeRequest request) (start proxy) events) :
    ¬final.Deadlock request := by
  apply not_deadlock_of_readCompletely
  refine @Machine.run_invariant_along _ _ step (start proxy) final events
    (fun network event => network.Disciplined request event ∧
      network.ReadsWholeRequest request event)
    (ReadCompletely request) ?_ ?_ ?_ reached
  · exact ⟨List.nil_prefix, nofun⟩
  · intro network event next completely condition stepped
    exact completely.step condition.1 condition.2 stepped
  · intro history event network before here
    exact ⟨disciplined history event network before here,
      whole history event network before here⟩

/-- A request of two bytes is read at once, and responded to. -/
def wholeRequest : List (NetworkEvent .cpu) :=
  [.clientSends [1], .clientSends [2], .arrives .clientToProxy 2,
    .returns (.received [1, 2]), .returns (.accepted 2), .returns (.time 10),
    .arrives .proxyToServer 2, .serverTakes 2, .serverSends [3],
    .arrives .serverToProxy 1, .returns .peeked]

/-- A request that is read at once does not lead into a deadlock. -/
theorem not_deadlock_whole_request :
    ∃ final, Machine.run step (start cpuSocket) wholeRequest = some final ∧
      ¬final.Deadlock [1, 2] :=
  ⟨_, rfl, never_deadlock_of_readsWholeRequest [1, 2] cpuSocket wholeRequest _ rfl
    (by decide +kernel) (by decide +kernel)⟩

/-- The second byte of a request is sent when the first one has been read. -/
def splitRequest : List (NetworkEvent .cpu) :=
  [.clientSends [1], .arrives .clientToProxy 1, .returns (.received [1]),
    .returns (.accepted 1), .returns (.time 10), .clientSends [2],
    .arrives .clientToProxy 1, .arrives .proxyToServer 1, .serverTakes 1]

/-- The proxy waits for the response to one byte, and the server for the other one. -/
theorem deadlock_split_request :
    ∃ final, Machine.run step (start cpuSocket) splitRequest = some final ∧
      Machine.Along step (Disciplined [1, 2]) (start cpuSocket) splitRequest ∧
      final.Deadlock [1, 2] :=
  ⟨_, rfl, by decide +kernel, ⟨⟨_, _, rfl⟩, rfl, rfl, by decide, by decide⟩⟩

end Network

end NetworkTiming
