import NetworkTiming.Library.Bridge
import NetworkTiming.Library.Simulation
import NetworkTiming.TimingProxy.Shutdown

/-!
# Transparency

What the proxy is to the client and the server: nothing.  Whatever they see of each
other through the proxy, over all that the network and the session loop can do, they
can see over a connection of their own, which carries requests one way and responses
the other.
-/

namespace NetworkTiming

open TimingProxy Config

/-! ## A connection without a proxy -/

/-- A client and a server that are connected to each other. -/
structure Direct where
  /-- What the client sends to the server. -/
  requests : Channel UInt8
  /-- What the server sends to the client. -/
  responses : Channel UInt8
  deriving DecidableEq

/-- What a party or the network between the parties does. -/
inductive DirectEvent
  | clientSends (bytes : List UInt8)
  | clientCloses
  | clientTakes (count : Nat)
  | serverSends (bytes : List UInt8)
  | serverCloses
  | serverTakes (count : Nat)
  | requestArrives (count : Nat)
  | responseArrives (count : Nat)

/-- What the parties do and see. -/
inductive Sight
  | clientSent (bytes : List UInt8)
  | clientClosed
  | clientTook (bytes : List UInt8)
  | serverSent (bytes : List UInt8)
  | serverClosed
  | serverTook (bytes : List UInt8)
  deriving DecidableEq

namespace Direct

/-- The connection has been established. -/
def start : Direct := ⟨.empty, .empty⟩

/-- A party or the network moves. -/
def step (direct : Direct) : DirectEvent → Option Direct
  | .clientSends bytes =>
      if direct.requests.closed then none
      else some { direct with requests := direct.requests.push bytes }
  | .clientCloses => some { direct with requests := direct.requests.close }
  | .clientTakes count => some { direct with responses := direct.responses.pull count }
  | .serverSends bytes =>
      if direct.responses.closed then none
      else some { direct with responses := direct.responses.push bytes }
  | .serverCloses => some { direct with responses := direct.responses.close }
  | .serverTakes count => some { direct with requests := direct.requests.pull count }
  | .requestArrives count => some { direct with requests := direct.requests.deliver count }
  | .responseArrives count => some { direct with responses := direct.responses.deliver count }

/-- What the parties see of an event. -/
def view (direct : Direct) : DirectEvent → List Sight
  | .clientSends bytes => [.clientSent bytes]
  | .clientCloses => [.clientClosed]
  | .clientTakes count => [.clientTook (direct.responses.arrived.take count)]
  | .serverSends bytes => [.serverSent bytes]
  | .serverCloses => [.serverClosed]
  | .serverTakes count => [.serverTook (direct.requests.arrived.take count)]
  | .requestArrives _ | .responseArrives _ => []

end Direct

variable {kind : KindOfSocket}

/-! ## What the proxy holds -/

namespace Stage

/-- The loop does not read again: an exception has been caught or has left it, or a
check has ended it. -/
def isStopped : Stage kind → Bool
  | .poll (some _) _ | .ended | .raised _ => true
  | _ => false

/-- What has been read from the client and has still to be sent to the server. -/
def unsent : Stage kind → List UInt8
  | .sendServer data _ => data
  | _ => []

/-- What the loop holds of a direction, as long as it goes on. -/
def holds (stage : Stage kind) (data : List UInt8) : Option (List UInt8) :=
  if stage.isStopped then none else some data

theorem isStopped_raise (fault : Fault) : (Stage.raise fault : Stage kind).isStopped = true := by
  cases fault <;> rfl

theorem unsent_arrived (data : List UInt8) (kind : KindOfSocket) :
    (arrived data kind).unsent = [] := by
  cases kind <;> rfl

end Stage

namespace Network

/-- What the parties see of an event. -/
def view (network : Network kind) : NetworkEvent kind → List Sight
  | .clientSends bytes => [.clientSent bytes]
  | .clientCloses => [.clientClosed]
  | .clientTakes count => [.clientTook (network.toClient.arrived.take count)]
  | .serverSends bytes => [.serverSent bytes]
  | .serverCloses => [.serverClosed]
  | .serverTakes count => [.serverTook (network.toServer.arrived.take count)]
  | .arrives _ _ | .returns _ => []

/-- A direct connection looks like the network with the proxy in it. -/
structure Resembles (network : Network kind) (direct : Direct) : Prop where
  requests : Channel.Bridges network.toInput
    (network.config.stage.holds network.config.stage.unsent) network.toServer
    direct.requests
  responses : Channel.Bridges network.toOutput
    (network.config.stage.holds network.config.stage.unforwarded) network.toClient
    direct.responses

theorem resembles_start (proxy : TimingProxy kind) : (start proxy).Resembles .start where
  requests := .empty
  responses := .empty

/-! ## The calls of the proxy -/

namespace Resembles

variable {network : Network kind} {direct : Direct}

/-- What the loop holds as long as it goes on, a stopped loop leaves behind. -/
theorem stops
    (resembles : network.Resembles direct) {config : Config kind}
    (stopped : config.stage.isStopped = true) :
    Network.Resembles { network with config := config } direct := by
  have requests := resembles.requests.stop
  have responses := resembles.responses.stop
  constructor
  · simpa only [Stage.holds, stopped, if_true] using requests
  · simpa only [Stage.holds, stopped, if_true] using responses

/-- A call that carries nothing is not seen, if the loop holds the same behind it or
stops. -/
theorem goesOn
    (resembles : network.Resembles direct) {config : Config kind}
    (running : network.config.stage.isStopped = false)
    (unsent : config.stage.unsent = network.config.stage.unsent)
    (unforwarded : config.stage.unforwarded = network.config.stage.unforwarded) :
    Network.Resembles { network with config := config } direct := by
  by_cases stopped : config.stage.isStopped = true
  · exact resembles.stops stopped
  · have same : ∀ data, config.stage.holds data = network.config.stage.holds data := by
      intro data
      rw [Stage.holds, Stage.holds, if_neg stopped, running, if_neg Bool.false_ne_true]
    constructor
    · change Channel.Bridges network.toInput (config.stage.holds config.stage.unsent) _ _
      rw [same, unsent]
      exact resembles.requests
    · change Channel.Bridges network.toOutput (config.stage.holds config.stage.unforwarded) _ _
      rw [same, unforwarded]
      exact resembles.responses

end Resembles

theorem unsent_written (proxy : TimingProxy kind) (enclosing : List (List UInt8)) :
    (written proxy enclosing).stage.unsent = [] := by
  cases enclosing <;> rfl

theorem unsent_measure (proxy : TimingProxy kind) :
    (Config.measure proxy).stage.unsent = [] := by
  rw [Config.measure]
  cases kind.difference proxy.tstampPrecision proxy.txTimestamp proxy.rxTimestamp with
  | ok value => rfl
  | error fault => cases fault <;> rfl

/-- A direct connection goes on looking like the network when a call of the proxy
returns. -/
theorem Resembles.returns
    {network : Network kind} {direct : Direct} {answer : Answer kind} {next : Config kind}
    (resembles : network.Resembles direct)
    (stamped : kind = .kernel → network.readsUnstamped (.returns answer) = false)
    (possible : network.CanReturn answer network.config.stage)
    (moves : Moves network.config answer next) :
    Network.Resembles { network.effect answer with config := next } direct := by
  obtain ⟨toInput, toServer, toOutput, toClient, config⟩ := network
  cases moves with
  | @received _ _ bytes nonempty fits =>
      exact ⟨resembles.requests.pull_near possible, resembles.responses⟩
  | @partSent _ _ data enclosing count accepts rest =>
      exact ⟨resembles.requests.push_far count, resembles.responses⟩
  | allSent => exact ⟨resembles.requests.push_far_all, resembles.responses⟩
  | @responded _ _ bytes nonempty fits =>
      have responses := resembles.responses.pull_near possible
      cases kind with
      | cpu | kernel | pcap => exact ⟨resembles.requests, responses⟩
  | @partForwarded _ _ data count accepts rest =>
      exact ⟨resembles.requests, resembles.responses.push_far count⟩
  | @allForwarded _ proxy data =>
      have forwarded : Network.Resembles
          ⟨toInput, toServer, toOutput, toClient.push (data.take data.length),
            ⟨.poll none .client, proxy⟩⟩ direct :=
        ⟨resembles.requests, resembles.responses.push_far_all⟩
      exact forwarded.goesOn rfl (unsent_measure _) (unforwarded_measure _)
  | readTime | messageFound | lookedUp =>
      exact resembles.goesOn rfl (unsent_written _ _) (unforwarded_written _ _)
  | searchFailed => exact resembles.stops (Stage.isStopped_raise _)
  | clientClosed | sendingFailed | searchExhausted | serverClosed | serverReset
  | readingFailed | misstamped | forwardingFailed | reportingFailed | hungUp | caught
  | pollingFailed => exact resembles.stops rfl
  | unstamped => cases stamped rfl
  | nothingReceived | writeTime | peeked | searchedOn | noResponse | readStamped
  | partReported | allReported | serverThere => exact resembles.goesOn rfl rfl rfl
  | @clientThere _ _ reason | @controlThere _ _ reason =>
      cases reason with
      | none => exact resembles.goesOn rfl rfl rfl
      | some what => exact resembles.stops rfl

/-! ## Sessions -/

/-- Whatever the proxy, the parties and the network between them do, a direct connection
can do with the same to be seen. -/
theorem resembles_simulates :
    Machine.Simulates (@step kind) view
      (fun network event => kind = .kernel → network.readsUnstamped event = false)
      Direct.step Direct.view Resembles := by
  intro network event next direct resembles stamped stepped
  cases event with
  | clientSends bytes =>
      rw [step, Option.ite_none_left_eq_some] at stepped
      obtain ⟨clientOpen, ⟨⟩⟩ := stepped
      have moved : direct.step (.clientSends bytes) =
          some { direct with requests := direct.requests.push bytes } := by
        rw [Direct.step, resembles.requests.closed, if_neg clientOpen]
      exact ⟨_, .single moved, resembles.requests.push bytes, resembles.responses⟩
  | serverSends bytes =>
      rw [step, Option.ite_none_left_eq_some] at stepped
      obtain ⟨serverOpen, ⟨⟩⟩ := stepped
      have moved : direct.step (.serverSends bytes) =
          some { direct with responses := direct.responses.push bytes } := by
        rw [Direct.step, resembles.responses.closed, if_neg serverOpen]
      exact ⟨_, .single moved, resembles.requests, resembles.responses.push bytes⟩
  | clientCloses =>
      cases stepped
      have moved : direct.step .clientCloses = some _ := rfl
      exact ⟨_, .single moved, resembles.requests.close, resembles.responses⟩
  | serverCloses =>
      cases stepped
      have moved : direct.step .serverCloses = some _ := rfl
      exact ⟨_, .single moved, resembles.requests, resembles.responses.close⟩
  | clientTakes count =>
      cases stepped
      have moved : direct.step (.clientTakes count) = some _ := rfl
      have same : direct.view (.clientTakes count) = network.view (.clientTakes count) := by
        rw [Direct.view, view, resembles.responses.arrived]
      rw [← same]
      exact ⟨_, .single moved, resembles.requests, resembles.responses.pull_far count⟩
  | serverTakes count =>
      cases stepped
      have moved : direct.step (.serverTakes count) = some _ := rfl
      have same : direct.view (.serverTakes count) = network.view (.serverTakes count) := by
        rw [Direct.view, view, resembles.requests.arrived]
      rw [← same]
      exact ⟨_, .single moved, resembles.requests.pull_far count, resembles.responses⟩
  | arrives link count =>
      cases stepped
      cases link with
      | clientToProxy =>
          exact ⟨direct, .refl direct, resembles.requests.deliver_near count,
            resembles.responses⟩
      | serverToProxy =>
          exact ⟨direct, .refl direct, resembles.requests,
            resembles.responses.deliver_near count⟩
      | proxyToServer =>
          have moved : direct.step (.requestArrives (min count network.toServer.flying.length)) =
            some _ := rfl
          exact ⟨_, .single moved, resembles.requests.deliver_far count, resembles.responses⟩
      | proxyToClient =>
          have moved : direct.step (.responseArrives (min count network.toClient.flying.length)) =
            some _ := rfl
          exact ⟨_, .single moved, resembles.requests, resembles.responses.deliver_far count⟩
  | returns answer =>
      rw [step, Option.ite_none_right_eq_some, Option.map_eq_some_iff] at stepped
      obtain ⟨possible, config, moved, rfl⟩ := stepped
      exact ⟨direct, .refl direct, resembles.returns stamped possible (moves_of_step moved)⟩

/-- What the client and the server see over a session, they can see over a connection of
their own, and at its end both have taken and can take the same. -/
theorem proxy_transparent
    (proxy : TimingProxy kind)
    (events : List (NetworkEvent kind)) (final : Network kind)
    (reached : Machine.run step (start proxy) events = some final)
    (stamped : kind = .kernel → Machine.Along step
      (fun network event => network.readsUnstamped event = false) (start proxy) events) :
    ∃ direct, Machine.Shows Direct.step Direct.view .start
        (Machine.trace step view (start proxy) events) direct ∧
      direct.requests.taken = final.toServer.taken ∧
      direct.requests.arrived = final.toServer.arrived ∧
      direct.responses.taken = final.toClient.taken ∧
      direct.responses.arrived = final.toClient.arrived := by
  have along : Machine.Along step
      (fun network event => kind = .kernel → network.readsUnstamped event = false)
      (start proxy) events :=
    fun history event network before here isKernel =>
      stamped isKernel history event network before here
  obtain ⟨direct, shows, requests, responses⟩ :=
    resembles_simulates.run (resembles_start proxy) along reached
  exact ⟨direct, shows, requests.taken, requests.arrived, responses.taken,
    responses.arrived⟩

/-- A connected socket that asks the kernel for the times. -/
def kernelSocket : TimingProxy .kernel where
  answers := []
  established := true
  device := "eth0"
  tstampPrecision := PCAP_TSTAMP_PRECISION_MICRO
  txTimestamp := ⟨0, 0⟩
  rxTimestamp := ⟨0, 0⟩
  log := []

/-- A request and a response of a byte each. -/
def exchange : List (NetworkEvent .kernel) :=
  [.clientSends [1], .arrives .clientToProxy 1, .returns (.received [1]),
    .returns (.accepted 1), .returns (.time ⟨1, 0⟩), .arrives .proxyToServer 1,
    .serverTakes 1, .serverSends [2], .arrives .serverToProxy 1, .returns (.received [2]),
    .returns (.time ⟨2, 0⟩), .returns (.accepted 1), .arrives .proxyToClient 1,
    .clientTakes 1]

theorem proxy_transparent_exchange :
    ∃ direct, Machine.Shows Direct.step Direct.view .start
        [.clientSent [1], .serverTook [1], .serverSent [2], .clientTook [2]] direct ∧
      direct.requests.taken = [1] ∧ direct.requests.arrived = [] ∧
      direct.responses.taken = [2] ∧ direct.responses.arrived = [] :=
  proxy_transparent kernelSocket exchange _ rfl fun _ => by decide +kernel

end Network

end NetworkTiming
