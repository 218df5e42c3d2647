import NetworkTiming.PcapWrapper.Timing
import NetworkTiming.TimingProxy.Transparency

/-!
# Passage

The proxy withholds nothing: whatever two parties that keep their connection open can
see of each other over a connection of their own, they can see through the proxy.  The
session loop brings each request to the server and each response to the client, one
buffer in an iteration, and comes back to where it waits.  The technique that waits for
a response behind every request is left out, since it does not come back without one.
-/

namespace NetworkTiming

open TimingProxy Config

variable {kind : KindOfSocket}

/-- `getLastMeasurement` does not refuse the precision of the capture device. -/
def TimingProxy.Measures (proxy : TimingProxy kind) : Prop :=
  kind = .pcap → proxy.tstampPrecision = PCAP_TSTAMP_PRECISION_MICRO ∨
    proxy.tstampPrecision = PCAP_TSTAMP_PRECISION_NANO

instance (proxy : TimingProxy kind) : Decidable proxy.Measures :=
  inferInstanceAs (Decidable (_ → _))

/-- A party closes its side. -/
def DirectEvent.closes : DirectEvent → Bool
  | .clientCloses | .serverCloses => true
  | _ => false

/-- No time has passed between two times that are the same. -/
theorem difference_self
    {tstampPrecision : Int}
    (known : kind = .pcap → tstampPrecision = PCAP_TSTAMP_PRECISION_MICRO ∨
      tstampPrecision = PCAP_TSTAMP_PRECISION_NANO)
    (stamp : kind.Stamp) :
    kind.difference tstampPrecision stamp stamp = .ok 0 := by
  cases kind with
  | cpu => simp [KindOfSocket.difference]
  | kernel =>
      simp only [KindOfSocket.difference, timespecDiff, Int64.lt_irrefl, and_false, or_false,
        if_false, Int64.sub_self]
      rfl
  | pcap =>
      rw [KindOfSocket.difference, timevalDeltaToNs_branches (known rfl),
        if_neg Int64.lt_irrefl, if_neg Int64.lt_irrefl, Int64.sub_self,
        UInt64.sub_self, UInt64.zero_mul]
      rfl

namespace Network

/-- The session loop gets from one state to another without anything to be seen. -/
abbrev Passes (network final : Network kind) : Prop :=
  Machine.Shows step view network [] final

/-- A call of the proxy returns. -/
theorem Passes.returns
    {network : Network kind} {next : Config kind} (answer : Answer kind)
    (possible : network.CanReturn answer network.config.stage)
    (moved : network.config.step answer = some next) :
    network.Passes { network.effect answer with config := next } := by
  have stepped : network.step (.returns answer) =
      some { network.effect answer with config := next } := by
    rw [step, if_pos possible, moved, Option.map_some]
  exact .single stepped

@[simp] theorem tstampPrecision_observing (proxy : TimingProxy kind) (event : Event kind) :
    (proxy.observing event).tstampPrecision = proxy.tstampPrecision := rfl

@[simp] theorem tstampPrecision_stampedTx (proxy : TimingProxy kind) (stamp : kind.Stamp) :
    (proxy.stampedTx stamp).tstampPrecision = proxy.tstampPrecision := rfl

section Iterations

variable {toInput toServer toOutput toClient : Channel UInt8} {proxy : TimingProxy kind}

/-- Nobody has hung up, and another iteration starts. -/
theorem passes_checks :
    Passes ⟨toInput, toServer, toOutput, toClient, ⟨.poll none .client, proxy⟩⟩
      ⟨toInput, toServer, toOutput, toClient,
        ⟨.readClient, proxy.observing .iterationEnded⟩⟩ := by
  have client : Passes ⟨toInput, toServer, toOutput, toClient, ⟨.poll none .client, proxy⟩⟩
      ⟨toInput, toServer, toOutput, toClient, ⟨.poll none .control, proxy⟩⟩ :=
    .returns (.hangup false) trivial rfl
  have control : Passes
      ⟨toInput, toServer, toOutput, toClient, ⟨.poll none .control, proxy⟩⟩
      ⟨toInput, toServer, toOutput, toClient, ⟨.poll none .server, proxy⟩⟩ :=
    .returns (.hangup false) trivial rfl
  exact (client.andThen control).andThen (Passes.returns (.hangup false) trivial rfl)

/-- A read from the server finds nothing, and another iteration starts. -/
theorem passes_quiet (quiet : toOutput.arrived = []) :
    Passes ⟨toInput, toServer, toOutput, toClient, ⟨.readServer, proxy⟩⟩
      ⟨toInput, toServer, toOutput, toClient,
        ⟨.readClient, (proxy.observing .outputForwarded).observing .iterationEnded⟩⟩ := by
  have moved : Config.step ⟨.readServer, proxy⟩ (.failed .again) =
      some ⟨.poll none .client, proxy.observing .outputForwarded⟩ := by
    cases kind <;> rfl
  have read : Passes ⟨toInput, toServer, toOutput, toClient, ⟨.readServer, proxy⟩⟩
      ⟨toInput, toServer, toOutput, toClient,
        ⟨.poll none .client, proxy.observing .outputForwarded⟩⟩ :=
    .returns (.failed .again) quiet moved
  exact read.andThen passes_checks

/-- An iteration brings a buffer of requests to the server. -/
theorem passes_request
    (technique : kind ≠ .cpu)
    {data : List UInt8}
    (nonempty : data ≠ []) (fits : data.length ≤ BUFSIZE)
    (arrived : data <+: toInput.arrived)
    (quiet : toOutput.arrived = []) :
    ∃ later : TimingProxy kind,
      Passes ⟨toInput, toServer, toOutput, toClient, ⟨.readClient, proxy⟩⟩
        ⟨toInput.pull data.length, toServer.push data, toOutput, toClient,
          ⟨.readClient, later⟩⟩ ∧
      later.tstampPrecision = proxy.tstampPrecision := by
  let asked := proxy.observing (.received .client data)
  let sent := asked.observing (.handed .server data)
  let stamped := sent.stampedTx sent.txTimestamp
  have read : Passes ⟨toInput, toServer, toOutput, toClient, ⟨.readClient, proxy⟩⟩
      ⟨toInput.pull data.length, toServer, toOutput, toClient, ⟨.sendServer data [], asked⟩⟩ :=
    .returns (.received data) arrived (if_pos ⟨nonempty, fits⟩)
  have accepted : Config.step ⟨.sendServer data [], asked⟩ (.accepted data.length) =
      some ⟨.timing (.start kind) data [], sent⟩ := by
    simp [Config.step, sendServer, Accepts, Nat.one_le_iff_ne_zero, sent]
  have write : Passes
      ⟨toInput.pull data.length, toServer, toOutput, toClient, ⟨.sendServer data [], asked⟩⟩
      ⟨toInput.pull data.length, toServer.push (data.take data.length), toOutput, toClient,
        ⟨.timing (.start kind) data [], sent⟩⟩ :=
    .returns (.accepted data.length) trivial accepted
  rw [List.take_length] at write
  have timed : Config.step ⟨.timing (.start kind) data [], sent⟩ (.time sent.txTimestamp) =
      some (written stamped []) := by
    cases kind with
    | cpu => exact absurd rfl technique
    | kernel | pcap => rfl
  have unpeeked : (TimingCall.start kind).isPeek = false := by
    cases kind <;> rfl
  have stamp : Passes
      ⟨toInput.pull data.length, toServer.push data, toOutput, toClient,
        ⟨.timing (.start kind) data [], sent⟩⟩
      ⟨toInput.pull data.length, toServer.push data, toOutput, toClient,
        ⟨.readServer, stamped.observing .inputForwarded⟩⟩ := by
    refine .returns (.time sent.txTimestamp) ?_ timed
    intro peeking
    rw [unpeeked] at peeking
    cases peeking
  have passed := (read.andThen write).andThen stamp
  refine ⟨_, passed.andThen (passes_quiet quiet), ?_⟩
  simp only [stamped, sent, asked, tstampPrecision_observing, tstampPrecision_stampedTx]

/-- A response that can be measured is forwarded and reported. -/
theorem passes_forwarding
    {data : List UInt8} (nonempty : data ≠ []) {value : UInt64}
    (measures : kind.difference proxy.tstampPrecision proxy.txTimestamp proxy.rxTimestamp =
      .ok value) :
    ∃ later : TimingProxy kind,
      Passes ⟨toInput, toServer, toOutput, toClient, ⟨.sendClient data, proxy⟩⟩
        ⟨toInput, toServer, toOutput, toClient.push data, ⟨.readClient, later⟩⟩ ∧
      later.tstampPrecision = proxy.tstampPrecision := by
  let handed := proxy.observing (.handed .client data)
  let measured := handed.observing
    (.measured proxy.txTimestamp proxy.rxTimestamp (.ok value))
  have reported : Config.measure handed = ⟨.sendControl (networkByteOrder value), measured⟩ := by
    have result : kind.difference handed.tstampPrecision handed.txTimestamp
        handed.rxTimestamp = .ok value := measures
    rw [Config.measure, result]
    rfl
  have accepted : Config.step ⟨.sendClient data, proxy⟩ (.accepted data.length) =
      some ⟨.sendControl (networkByteOrder value), measured⟩ := by
    rw [← reported]
    simp [Config.step, sendClient, Accepts, Nat.one_le_iff_ne_zero, nonempty, handed]
  have write : Passes
      ⟨toInput, toServer, toOutput, toClient, ⟨.sendClient data, proxy⟩⟩
      ⟨toInput, toServer, toOutput, toClient.push (data.take data.length),
        ⟨.sendControl (networkByteOrder value), measured⟩⟩ :=
    .returns (.accepted data.length) trivial accepted
  rw [List.take_length] at write
  have length : (networkByteOrder value).length = 8 := BigEndian.length_encode _ _
  have done : Config.step ⟨.sendControl (networkByteOrder value), measured⟩ (.accepted 8) =
      some (outputForwarded
        (measured.observing (.handed .control ((networkByteOrder value).take 8)))) := by
    simp [Config.step, sendControl, Accepts, length]
  have report : Passes
      ⟨toInput, toServer, toOutput, toClient.push data,
        ⟨.sendControl (networkByteOrder value), measured⟩⟩
      ⟨toInput, toServer, toOutput, toClient.push data, outputForwarded
        (measured.observing (.handed .control ((networkByteOrder value).take 8)))⟩ :=
    .returns (.accepted 8) trivial done
  refine ⟨_, (write.andThen report).andThen passes_checks, ?_⟩
  simp only [measured, handed, tstampPrecision_observing]

/-- An iteration brings a buffer of responses to the client. -/
theorem passes_response
    (technique : kind ≠ .cpu) (measures : proxy.Measures)
    {data : List UInt8}
    (nonempty : data ≠ []) (fits : data.length ≤ BUFSIZE)
    (arrived : data <+: toOutput.arrived)
    (quiet : toInput.arrived = []) :
    ∃ later : TimingProxy kind,
      Passes ⟨toInput, toServer, toOutput, toClient, ⟨.readClient, proxy⟩⟩
        ⟨toInput, toServer, toOutput.pull data.length, toClient.push data,
          ⟨.readClient, later⟩⟩ ∧
      later.tstampPrecision = proxy.tstampPrecision := by
  let idle := proxy.observing .inputForwarded
  let asked := idle.observing (.received .server data)
  let stamped := asked.stampedRx proxy.txTimestamp
  have skip : Passes ⟨toInput, toServer, toOutput, toClient, ⟨.readClient, proxy⟩⟩
      ⟨toInput, toServer, toOutput, toClient, ⟨.readServer, idle⟩⟩ :=
    .returns (.failed .again) quiet rfl
  have responded : Config.step ⟨.readServer, idle⟩ (.received data) =
      some ⟨.stampRead data, asked⟩ := by
    cases kind with
    | cpu => exact absurd rfl technique
    | kernel | pcap => exact if_pos ⟨nonempty, fits⟩
  have read : Passes ⟨toInput, toServer, toOutput, toClient, ⟨.readServer, idle⟩⟩
      ⟨toInput, toServer, toOutput.pull data.length, toClient, ⟨.stampRead data, asked⟩⟩ :=
    .returns (.received data) arrived responded
  have timed : Config.step ⟨.stampRead data, asked⟩ (.time proxy.txTimestamp) =
      some ⟨.sendClient data, stamped⟩ := by
    cases kind with
    | cpu => exact absurd rfl technique
    | kernel | pcap => rfl
  have stamp : Passes
      ⟨toInput, toServer, toOutput.pull data.length, toClient, ⟨.stampRead data, asked⟩⟩
      ⟨toInput, toServer, toOutput.pull data.length, toClient, ⟨.sendClient data, stamped⟩⟩ :=
    .returns (.time proxy.txTimestamp) trivial timed
  have same : kind.difference stamped.tstampPrecision stamped.txTimestamp
      stamped.rxTimestamp = .ok 0 := difference_self measures proxy.txTimestamp
  obtain ⟨later, forwarding, precision⟩ := passes_forwarding nonempty same
  exact ⟨later, ((skip.andThen read).andThen stamp).andThen forwarding, precision⟩

/-- Whatever has arrived from the client is brought to the server. -/
theorem passes_requests
    (technique : kind ≠ .cpu)
    (landed : toInput.flying = [])
    (quiet : toOutput.arrived = []) :
    ∃ rest later,
      Passes ⟨toInput, toServer, toOutput, toClient, ⟨.readClient, proxy⟩⟩
        ⟨rest, toServer.push toInput.arrived, toOutput, toClient, ⟨.readClient, later⟩⟩ ∧
      rest.unread = [] ∧ rest.closed = toInput.closed ∧
      later.tstampPrecision = proxy.tstampPrecision := by
  induction size : toInput.arrived.length using Nat.strong_induction_on
    generalizing toInput toServer proxy with
  | _ count inductionHypothesis =>
      by_cases nothing : toInput.arrived = []
      · rw [nothing, Channel.push_nil]
        exact ⟨toInput, proxy, .refl _, by rw [Channel.unread, nothing, landed]; rfl, rfl, rfl⟩
      · let data := toInput.arrived.take BUFSIZE
        have nonempty : data ≠ [] := by simp [data, nothing, BUFSIZE]
        have all : data ++ (toInput.pull data.length).arrived = toInput.arrived :=
          Channel.append_arrived_pull (List.take_prefix _ _)
        have shorter : (toInput.pull data.length).arrived.length < count := by
          have positive := List.length_pos_iff.mpr nonempty
          rw [← size, ← all, List.length_append]
          omega
        obtain ⟨middle, first, precision⟩ := passes_request technique nonempty
          (List.length_take_le _ _) (List.take_prefix _ _) quiet
        have landedOn : (toInput.pull data.length).flying = [] := landed
        obtain ⟨rest, later, others, drained, closed, precisionLater⟩ :=
          inductionHypothesis _ shorter landedOn rfl
        refine ⟨rest, later, ?_, drained, closed, precisionLater.trans precision⟩
        rw [Channel.push_push, all] at others
        exact first.andThen others

/-- Whatever has arrived from the server is brought to the client. -/
theorem passes_responses
    (technique : kind ≠ .cpu) (measures : proxy.Measures)
    (landed : toOutput.flying = [])
    (quiet : toInput.arrived = []) :
    ∃ rest later,
      Passes ⟨toInput, toServer, toOutput, toClient, ⟨.readClient, proxy⟩⟩
        ⟨toInput, toServer, rest, toClient.push toOutput.arrived, ⟨.readClient, later⟩⟩ ∧
      rest.unread = [] ∧ rest.closed = toOutput.closed ∧
      later.tstampPrecision = proxy.tstampPrecision := by
  induction size : toOutput.arrived.length using Nat.strong_induction_on
    generalizing toOutput toClient proxy with
  | _ count inductionHypothesis =>
      by_cases nothing : toOutput.arrived = []
      · rw [nothing, Channel.push_nil]
        exact ⟨toOutput, proxy, .refl _, by rw [Channel.unread, nothing, landed]; rfl, rfl,
          rfl⟩
      · let data := toOutput.arrived.take BUFSIZE
        have nonempty : data ≠ [] := by simp [data, nothing, BUFSIZE]
        have all : data ++ (toOutput.pull data.length).arrived = toOutput.arrived :=
          Channel.append_arrived_pull (List.take_prefix _ _)
        have shorter : (toOutput.pull data.length).arrived.length < count := by
          have positive := List.length_pos_iff.mpr nonempty
          rw [← size, ← all, List.length_append]
          omega
        obtain ⟨middle, first, precision⟩ := passes_response technique measures nonempty
          (List.length_take_le _ _) (List.take_prefix _ _) quiet
        have measuresOn : middle.Measures := by
          rw [TimingProxy.Measures, precision]
          exact measures
        have landedOn : (toOutput.pull data.length).flying = [] := landed
        obtain ⟨rest, later, others, drained, closed, precisionLater⟩ :=
          inductionHypothesis _ shorter measuresOn landedOn rfl
        refine ⟨rest, later, ?_, drained, closed, precisionLater.trans precision⟩
        rw [Channel.push_push, all] at others
        exact first.andThen others

end Iterations

/-! ## Sessions -/

/-- The session loop waits, everything that has been sent has been forwarded, and the
channels to the receivers are those of a direct connection. -/
structure Rests (direct : Direct) (network : Network kind) : Prop where
  waits : network.config.stage = .readClient
  measures : network.config.proxy.Measures
  clientOpen : network.toInput.closed = false
  serverOpen : network.toOutput.closed = false
  forwarded : network.toInput.unread = []
  responded : network.toOutput.unread = []
  requests : network.toServer = direct.requests
  responses : network.toClient = direct.responses

/-- What the client sends is brought to the server. -/
theorem Rests.clientSends
    {direct : Direct} {network : Network kind}
    (technique : kind ≠ .cpu)
    (rests : Rests direct network)
    (bytes : List UInt8) :
    ∃ after, Machine.Shows step view network [.clientSent bytes] after ∧
      Rests { direct with requests := direct.requests.push bytes } after := by
  obtain ⟨toInput, toServer, toOutput, toClient, stage, proxy⟩ := network
  obtain ⟨rfl, measures, clientOpen, serverOpen, forwarded, responded, rfl, rfl⟩ := rests
  obtain ⟨arrived, landed⟩ := Channel.arrived_deliver_push forwarded bytes
  have quiet : toOutput.arrived = [] := (List.append_eq_nil_iff.mp responded).1
  have sent : step ⟨toInput, direct.requests, toOutput, direct.responses, .readClient, proxy⟩
      (.clientSends bytes) = some ⟨toInput.push bytes, direct.requests, toOutput,
        direct.responses, .readClient, proxy⟩ :=
    if_neg (Bool.eq_false_iff.mp clientOpen)
  have delivered : step ⟨toInput.push bytes, direct.requests, toOutput, direct.responses,
      .readClient, proxy⟩ (.arrives .clientToProxy bytes.length) =
      some ⟨(toInput.push bytes).deliver bytes.length, direct.requests, toOutput,
        direct.responses, .readClient, proxy⟩ := rfl
  obtain ⟨rest, later, passes, drained, closed, precision⟩ :=
    passes_requests technique landed quiet
  rw [arrived] at passes
  refine ⟨_, ((Machine.Shows.single sent).andThen (.single delivered)).andThen passes, ?_⟩
  exact {
    waits := rfl
    measures := by
      rw [TimingProxy.Measures, precision]
      exact measures
    clientOpen := closed.trans clientOpen
    serverOpen := serverOpen
    forwarded := drained
    responded := responded
    requests := rfl
    responses := rfl }

/-- What the server sends is brought to the client. -/
theorem Rests.serverSends
    {direct : Direct} {network : Network kind}
    (technique : kind ≠ .cpu)
    (rests : Rests direct network)
    (bytes : List UInt8) :
    ∃ after, Machine.Shows step view network [.serverSent bytes] after ∧
      Rests { direct with responses := direct.responses.push bytes } after := by
  obtain ⟨toInput, toServer, toOutput, toClient, stage, proxy⟩ := network
  obtain ⟨rfl, measures, clientOpen, serverOpen, forwarded, responded, rfl, rfl⟩ := rests
  obtain ⟨arrived, landed⟩ := Channel.arrived_deliver_push responded bytes
  have quiet : toInput.arrived = [] := (List.append_eq_nil_iff.mp forwarded).1
  have sent : step ⟨toInput, direct.requests, toOutput, direct.responses, .readClient, proxy⟩
      (.serverSends bytes) = some ⟨toInput, direct.requests, toOutput.push bytes,
        direct.responses, .readClient, proxy⟩ :=
    if_neg (Bool.eq_false_iff.mp serverOpen)
  have delivered : step ⟨toInput, direct.requests, toOutput.push bytes, direct.responses,
      .readClient, proxy⟩ (.arrives .serverToProxy bytes.length) =
      some ⟨toInput, direct.requests, (toOutput.push bytes).deliver bytes.length,
        direct.responses, .readClient, proxy⟩ := rfl
  obtain ⟨rest, later, passes, drained, closed, precision⟩ :=
    passes_responses technique measures landed quiet
  rw [arrived] at passes
  refine ⟨_, ((Machine.Shows.single sent).andThen (.single delivered)).andThen passes, ?_⟩
  exact {
    waits := rfl
    measures := by
      rw [TimingProxy.Measures, precision]
      exact measures
    clientOpen := clientOpen
    serverOpen := closed.trans serverOpen
    forwarded := forwarded
    responded := drained
    requests := rfl
    responses := rfl }

/-- Whatever two parties that do not close their connection and the network between them
do, the proxy lets them do, with the same to be seen. -/
theorem rests_simulates (technique : kind ≠ .cpu) :
    Machine.Simulates Direct.step Direct.view (fun _direct event => event.closes = false)
      (@step kind) view Rests := by
  intro direct event next network rests opened stepped
  cases event with
  | clientSends bytes =>
      rw [Direct.step, Option.ite_none_left_eq_some] at stepped
      obtain ⟨_clientOpen, ⟨⟩⟩ := stepped
      exact rests.clientSends technique bytes
  | serverSends bytes =>
      rw [Direct.step, Option.ite_none_left_eq_some] at stepped
      obtain ⟨_serverOpen, ⟨⟩⟩ := stepped
      exact rests.serverSends technique bytes
  | clientCloses | serverCloses => cases opened
  | clientTakes count =>
      cases stepped
      have moved : network.step (.clientTakes count) = some _ := rfl
      have same : network.view (.clientTakes count) = direct.view (.clientTakes count) := by
        rw [Direct.view, view, rests.responses]
      rw [← same]
      exact ⟨_, .single moved, { rests with
        responses := congrArg (·.pull count) rests.responses }⟩
  | serverTakes count =>
      cases stepped
      have moved : network.step (.serverTakes count) = some _ := rfl
      have same : network.view (.serverTakes count) = direct.view (.serverTakes count) := by
        rw [Direct.view, view, rests.requests]
      rw [← same]
      exact ⟨_, .single moved, { rests with
        requests := congrArg (·.pull count) rests.requests }⟩
  | requestArrives count =>
      cases stepped
      have moved : network.step (.arrives .proxyToServer count) = some _ := rfl
      exact ⟨_, .single moved, { rests with
        requests := congrArg (·.deliver count) rests.requests }⟩
  | responseArrives count =>
      cases stepped
      have moved : network.step (.arrives .proxyToClient count) = some _ := rfl
      exact ⟨_, .single moved, { rests with
        responses := congrArg (·.deliver count) rests.responses }⟩

/-- What a client and a server that do not close their connection see of each other, they
can see through the proxy.  At the end both have taken and can take the same, and the
session loop is back where it waits. -/
theorem direct_through_proxy
    (technique : kind ≠ .cpu)
    (proxy : TimingProxy kind) (measures : proxy.Measures)
    (moves : List DirectEvent) (direct : Direct)
    (reached : Machine.run Direct.step .start moves = some direct)
    (opened : ∀ event ∈ moves, event.closes = false) :
    ∃ final, Machine.Shows step view (start proxy)
        (Machine.trace Direct.step Direct.view .start moves) final ∧
      final.toServer = direct.requests ∧ final.toClient = direct.responses ∧
      final.config.stage = .readClient := by
  have resting : Rests .start (start proxy) :=
    ⟨rfl, measures, rfl, rfl, rfl, rfl, rfl, rfl⟩
  have along : Machine.Along Direct.step (fun _direct event => event.closes = false)
      .start moves := by
    intro history event state isPrefix _reached
    exact opened event (isPrefix.subset (by simp))
  obtain ⟨final, shows, rests⟩ := (rests_simulates technique).run resting along reached
  exact ⟨final, shows, rests.requests, rests.responses, rests.waits⟩

theorem direct_through_proxy_exchange :
    ∃ final : Network .pcap, Machine.Shows step view (start pcapSocket)
        [.clientSent [1, 2, 3], .serverTook [1, 2], .serverSent [4], .clientTook [4]] final ∧
      final.toServer = ⟨[1, 2], [], [3], false⟩ ∧
      final.toClient = ⟨[4], [], [], false⟩ ∧ final.config.stage = .readClient :=
  direct_through_proxy (by decide) pcapSocket (by decide)
    [.clientSends [1, 2, 3], .requestArrives 2, .serverTakes 2, .serverSends [4],
      .responseArrives 1, .clientTakes 1]
    _ rfl (by decide)

end Network

end NetworkTiming
