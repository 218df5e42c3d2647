import NetworkTiming.Library.Channel
import NetworkTiming.TestClient.Sampling
import NetworkTiming.TestServer.TestServer

/-!
# The test client with the test server

The client asks, the server answers, and both take what a read delivers for a whole
message.  As long as every read does deliver one, the programs stay in step: never more
than one message is on its way, and every response that is timed is the response to the
request of its own sample.
-/

namespace NetworkTiming

open TestClient (SAMPLESIZE)
open TestServer (BUFSIZE chosenWriteBuf)

/-- The programs and the connection between them. -/
structure TestBed (kind : KindOfSocket) where
  /-- What the client sends to the server. -/
  requests : Channel UInt8
  /-- What the server sends to the client. -/
  responses : Channel UInt8
  client : Sampler kind
  server : TestServer

/-- What the programs or the network between them do. -/
inductive BedEvent (kind : KindOfSocket)
  /-- The client logs an event. -/
  | client (event : Event kind)
  /-- The client has taken all samples. -/
  | clientCloses
  /-- A call of the server returns. -/
  | server (answer : Answer kind)
  | requestArrives (count : Nat)
  | responseArrives (count : Nat)

variable {kind : KindOfSocket}

namespace TestBed

/-- The programs are connected; the client has not received anything. -/
def start (rx : kind.Stamp) (readBuf : Vector UInt8 BUFSIZE) : TestBed kind :=
  ⟨.empty, .empty, .begin [] rx, .accepted readBuf⟩

/-- What the client can receive. -/
def ClientCan (bed : TestBed kind) : Event kind → Prop
  | .received .server bytes => bytes <+: bed.responses.arrived
  | _ => True

/-- What a read of the server can return. -/
def ServerCan (bed : TestBed kind) : Answer kind → Prop
  | .received bytes => bytes <+: bed.requests.arrived
  | .closed => bed.requests.AtEnd
  | _ => True

instance (bed : TestBed kind) : (event : Event kind) → Decidable (bed.ClientCan event)
  | .received .server bytes => inferInstanceAs (Decidable (bytes <+: bed.responses.arrived))
  | .received .client _ | .received .control _ | .connected | .handed _ _ | .sentAt _
  | .receivedAt _ | .measured _ _ _ | .inputForwarded | .outputForwarded
  | .iterationEnded => isTrue trivial

instance (bed : TestBed kind) : (answer : Answer kind) → Decidable (bed.ServerCan answer)
  | .received bytes => inferInstanceAs (Decidable (bytes <+: bed.requests.arrived))
  | .closed => inferInstanceAs (Decidable bed.requests.AtEnd)
  | .connected | .failed _ | .accepted _ | .peeked | .time _ | .noTime | .thrown _
  | .hangup _ => isTrue trivial

/-- What an event of the client does to the connection. -/
def clientEffect (bed : TestBed kind) : Event kind → TestBed kind
  | .handed .server bytes => { bed with requests := bed.requests.push bytes }
  | .received .server bytes => { bed with responses := bed.responses.pull bytes.length }
  | _ => bed

/-- What a call of the server does to the connection. -/
def serverEffect (bed : TestBed kind) (answer : Answer kind) : TestBed kind :=
  match bed.server.stage, answer with
  | .reading, .received bytes => { bed with requests := bed.requests.pull bytes.length }
  | .writing rest, .accepted count =>
      { bed with responses := bed.responses.push (rest.take count) }
  | _, _ => bed

/-- A program or the network moves.  The client closes the connection between two
samples, and does nothing behind it. -/
def step (tstampPrecision : Int) (bed : TestBed kind) : BedEvent kind → Option (TestBed kind)
  | .client event =>
      if bed.requests.closed = false ∧ bed.ClientCan event then
        (bed.client.step tstampPrecision event).map fun next =>
          { bed.clientEffect event with client := next }
      else none
  | .clientCloses =>
      if bed.client = .begin bed.client.values bed.client.rx then
        some { bed with requests := bed.requests.close }
      else none
  | .server answer =>
      if bed.ServerCan answer then
        (bed.server.step answer).map fun next => { bed.serverEffect answer with server := next }
      else none
  | .requestArrives count => some { bed with requests := bed.requests.deliver count }
  | .responseArrives count => some { bed with responses := bed.responses.deliver count }

/-- A read delivers a whole message, and no sample is measured without a response. -/
def ReadsWhole (bed : TestBed kind) : BedEvent kind → Prop
  | .client (.received _ bytes) | .server (.received bytes) => bytes.length = BUFSIZE
  | .client (.measured _ _ _) => bed.client.heard = true
  | _ => True

instance (bed : TestBed kind) : (event : BedEvent kind) → Decidable (bed.ReadsWhole event)
  | .client (.received _ bytes) | .server (.received bytes) =>
      inferInstanceAs (Decidable (bytes.length = BUFSIZE))
  | .client (.measured _ _ _) => inferInstanceAs (Decidable (bed.client.heard = true))
  | .client .connected | .client (.handed _ _) | .client (.sentAt _)
  | .client (.receivedAt _) | .client .inputForwarded | .client .outputForwarded
  | .client .iterationEnded | .clientCloses | .server .connected | .server .closed
  | .server (.failed _) | .server (.accepted _) | .server .peeked | .server (.time _)
  | .server .noTime | .server (.thrown _) | .server (.hangup _) | .requestArrives _
  | .responseArrives _ => isTrue trivial

/-- The response to the request of the sample. -/
def response (bed : TestBed kind) : List UInt8 :=
  chosenWriteBuf (UInt8.ofNat (bed.client.values.length % SAMPLESIZE))

/-- The client receives nothing but the response to the request of the sample. -/
def ReceivesOwn (bed : TestBed kind) : BedEvent kind → Prop
  | .client (.received _ bytes) => bytes = bed.response
  | _ => True

instance (bed : TestBed kind) : (event : BedEvent kind) → Decidable (bed.ReceivesOwn event)
  | .client (.received _ bytes) => inferInstanceAs (Decidable (bytes = bed.response))
  | .client .connected | .client (.handed _ _) | .client (.sentAt _)
  | .client (.receivedAt _) | .client (.measured _ _ _) | .client .inputForwarded
  | .client .outputForwarded | .client .iterationEnded | .clientCloses | .server _
  | .requestArrives _ | .responseArrives _ => isTrue trivial

/-! ## In step -/

/-- Where the programs are: the client asks, the server answers, or the client has heard
the answer. -/
inductive InStep (bed : TestBed kind) : Prop
  | asking
      (idle : bed.server.stage = .reading ∨ bed.server.stage = .closed)
      (request : bed.requests.unread ++ bed.client.unsent =
        TestClient.writeBuf (bed.client.values.length % SAMPLESIZE))
      (silent : bed.responses.unread = [])
      (unheard : bed.client.heard = false)
  | answering
      (rest : List UInt8)
      (answers : bed.server.stage = .writing rest ∧ rest ≠ [] ∨
        bed.server.stage = .closed ∨ bed.server.stage = .reading ∧ rest = [])
      (asked : bed.client.unsent = [])
      (read : bed.requests.unread = [])
      (response : bed.responses.unread ++ rest = bed.response)
      (unheard : bed.client.heard = false)
  | answered
      (idle : bed.server.stage = .reading ∨ bed.server.stage = .closed)
      (asked : bed.client.unsent = [])
      (read : bed.requests.unread = [])
      (silent : bed.responses.unread = [])
      (heard : bed.client.heard = true)

theorem inStep_start (rx : kind.Stamp) (readBuf : Vector UInt8 BUFSIZE) :
    (start rx readBuf : TestBed kind).InStep :=
  .asking (.inl rfl) rfl rfl rfl

/-- What can be taken from a channel is a part of what has been sent and not been taken. -/
theorem length_le_unread
    {channel : Channel UInt8} {bytes : List UInt8} (arrived : bytes <+: channel.arrived) :
    bytes.length ≤ channel.unread.length := by
  rw [Channel.unread, List.length_append]
  exact arrived.length_le.trans (Nat.le_add_right _ _)

/-- A whole message is taken at once. -/
theorem eq_of_whole
    {channel : Channel UInt8} {bytes message : List UInt8}
    (arrived : bytes <+: channel.arrived)
    (waiting : channel.unread <+: message) (whole : bytes.length = message.length) :
    bytes = message ∧ channel.unread = message ∧ (channel.pull bytes.length).unread = [] := by
  have isPrefix : bytes <+: channel.unread := arrived.trans (List.prefix_append _ _)
  have same := (isPrefix.trans waiting).eq_of_length whole
  subst same
  have all := waiting.eq_of_length_le isPrefix.length_le
  refine ⟨rfl, all, ?_⟩
  rw [Channel.unread_pull _ arrived.length_le, all, List.drop_length]

section Steps

variable {tstampPrecision : Int} {bed : TestBed kind}

theorem length_response (bed : TestBed kind) : bed.response.length = BUFSIZE :=
  TestServer.length_chosenWriteBuf _

theorem length_request (kind : Nat) : (TestClient.writeBuf kind).length = BUFSIZE := by
  rw [TestClient.writeBuf, List.length_cons, List.length_replicate]
  rfl

/-- The times of a sample have no part in it. -/
theorem InStep.retime
    {client : Sampler kind} (inStep : bed.InStep)
    (values : client.values = bed.client.values)
    (unsent : client.unsent = bed.client.unsent)
    (heard : client.heard = bed.client.heard) :
    TestBed.InStep { bed with client := client } := by
  obtain ⟨requests, responses, ⟨_, _, _, sent, rx, timed⟩, server⟩ := bed
  obtain ⟨_, _, _, otherSent, otherRx, otherTimed⟩ := client
  cases values
  cases unsent
  cases heard
  cases inStep with
  | asking idle request silent unheard => exact .asking idle request silent unheard
  | answering rest answers asked read response unheard =>
      exact .answering rest answers asked read response unheard
  | answered idle asked read silent heard => exact .answered idle asked read silent heard

/-- The client sends a part of its request. -/
theorem InStep.hand
    (inStep : bed.InStep) {bytes : List UInt8} (isPrefix : bytes <+: bed.client.unsent) :
    TestBed.InStep { bed with
      requests := bed.requests.push bytes
      client := { bed.client with unsent := bed.client.unsent.drop bytes.length } } := by
  have nothing : bed.client.unsent = [] → bed.requests.unread = [] →
      bed.client.unsent.drop bytes.length = [] ∧ (bed.requests.push bytes).unread = [] := by
    intro asked read
    rw [asked, List.prefix_nil] at isPrefix
    rw [asked, isPrefix, Channel.unread_push, List.append_nil]
    exact ⟨rfl, read⟩
  cases inStep with
  | asking idle request silent unheard =>
      refine .asking idle ?_ silent unheard
      obtain ⟨rest, split⟩ := isPrefix
      change (bed.requests.push bytes).unread ++ bed.client.unsent.drop bytes.length = _
      rw [Channel.unread_push, ← split, List.drop_left, List.append_assoc, split]
      exact request
  | answering rest answers asked read response unheard =>
      obtain ⟨asked, read⟩ := nothing asked read
      exact .answering rest answers asked read response unheard
  | answered idle asked read silent heard =>
      obtain ⟨asked, read⟩ := nothing asked read
      exact .answered idle asked read silent heard

/-- The client receives a whole response. -/
theorem InStep.receive
    (inStep : bed.InStep) {bytes : List UInt8}
    (arrived : bytes <+: bed.responses.arrived) (whole : bytes.length = BUFSIZE)
    (asked : bed.client.unsent = []) (unheard : bed.client.heard = false) :
    bytes = bed.response ∧ TestBed.InStep { bed with
      responses := bed.responses.pull bytes.length
      client := { bed.client with heard := true } } := by
  have some := length_le_unread arrived
  cases inStep with
  | asking idle request silent _unheard =>
      rw [whole, silent] at some
      cases some
  | answering rest answers _asked read response _unheard =>
      have waiting : bed.responses.unread <+: bed.response :=
        response ▸ List.prefix_append _ _
      obtain ⟨same, all, taken⟩ :=
        eq_of_whole arrived waiting (whole.trans (length_response bed).symm)
      have nothing : rest = [] := by
        rw [all] at response
        exact List.append_right_eq_self.mp response
      refine ⟨same, .answered ?_ asked read taken rfl⟩
      rcases answers with ⟨_, more⟩ | closed | ⟨reading, _⟩
      · exact absurd nothing more
      · exact .inr closed
      · exact .inl reading
  | answered idle _asked read silent heard => cases heard.symm.trans unheard

/-- A sample has been measured, and the next one begins. -/
theorem InStep.measure
    (inStep : bed.InStep) (heard : bed.client.heard = true)
    (values : List UInt64) (rx : kind.Stamp) :
    TestBed.InStep { bed with client := (.begin values rx : Sampler kind) } := by
  cases inStep with
  | asking _idle _request _silent unheard => cases unheard.symm.trans heard
  | answering _rest _answers _asked _read _response unheard =>
      cases unheard.symm.trans heard
  | answered idle _asked read silent _heard =>
      refine .asking idle ?_ silent rfl
      change bed.requests.unread ++ _ = _
      rw [read]
      rfl

/-- The client goes on in step with the server, and receives the response to its own
request. -/
theorem InStep.client
    {event : Event kind} {next : Sampler kind}
    (inStep : bed.InStep) (can : bed.ClientCan event)
    (whole : bed.ReadsWhole (.client event))
    (moved : bed.client.step tstampPrecision event = some next) :
    bed.ReceivesOwn (.client event) ∧
      TestBed.InStep { bed.clientEffect event with client := next } := by
  cases event with
  | connected =>
      rw [Sampler.step, Option.ite_none_right_eq_some] at moved
      obtain ⟨_, ⟨⟩⟩ := moved
      exact ⟨trivial, inStep⟩
  | received peer bytes =>
      cases peer with
      | server =>
          rw [Sampler.step, Option.ite_none_right_eq_some] at moved
          obtain ⟨⟨asked, unheard⟩, ⟨⟩⟩ := moved
          exact inStep.receive can whole asked unheard
      | client | control => cases moved
  | handed peer bytes =>
      cases peer with
      | server =>
          rw [Sampler.step, Option.ite_none_right_eq_some] at moved
          obtain ⟨isPrefix, ⟨⟩⟩ := moved
          exact ⟨trivial, inStep.hand isPrefix⟩
      | client | control => cases moved
  | sentAt stamp | receivedAt stamp =>
      cases moved
      exact ⟨trivial, inStep.retime rfl rfl rfl⟩
  | measured tx rx result =>
      refine ⟨trivial, ?_⟩
      cases result with
      | ok value =>
          rw [Sampler.step, Option.ite_none_right_eq_some] at moved
          obtain ⟨_, ⟨⟩⟩ := moved
          exact inStep.measure whole _ _
      | error fault =>
          rw [Sampler.step, Option.ite_none_right_eq_some] at moved
          obtain ⟨_, ⟨⟩⟩ := moved
          exact inStep
  | inputForwarded | outputForwarded | iterationEnded => cases moved

/-- The server reads a whole request. -/
theorem InStep.read
    (inStep : bed.InStep) {bytes : List UInt8}
    (arrived : bytes <+: bed.requests.arrived) (whole : bytes.length = BUFSIZE) :
    TestBed.InStep { bed with
      requests := bed.requests.pull bytes.length
      server := TestServer.respond (overwrite bed.server.readBuf bytes) } := by
  have some := length_le_unread arrived
  have nothing : bed.requests.unread ≠ [] := by
    intro read
    rw [whole, read] at some
    cases some
  cases inStep with
  | asking idle request silent unheard =>
      have waiting : bed.requests.unread <+: TestClient.writeBuf _ :=
        request ▸ List.prefix_append _ _
      obtain ⟨same, all, taken⟩ :=
        eq_of_whole arrived waiting (whole.trans (length_request _).symm)
      have asked : bed.client.unsent = [] := by
        rw [all] at request
        exact List.append_right_eq_self.mp request
      have first : (overwrite bed.server.readBuf bytes)[0] =
          UInt8.ofNat (bed.client.values.length % SAMPLESIZE) := by
        rw [same, TestClient.writeBuf, TestServer.getElem_overwrite_cons, Nat.mod_eq_of_lt]
        exact (Nat.mod_lt _ (by decide)).trans (by decide)
      refine .answering bed.response (.inl ⟨?_, ?_⟩) asked taken ?_ unheard
      · change TestServer.Stage.writing (chosenWriteBuf _) = _
        rw [first]
        rfl
      · intro none
        have length := length_response bed
        rw [none] at length
        cases length
      · change bed.responses.unread ++ _ = _
        rw [silent]
        rfl
  | answering rest answers asked read response unheard => exact absurd read nothing
  | answered idle asked read silent heard => exact absurd read nothing

/-- The server sends a part of its response. -/
theorem InStep.send
    (inStep : bed.InStep) {rest : List UInt8} {count : Nat}
    (writing : bed.server.stage = .writing rest) (enough : count ≤ rest.length) :
    TestBed.InStep { bed with
      responses := bed.responses.push (rest.take count)
      server := { bed.server with stage :=
        if count ≠ rest.length then .writing (rest.drop count) else .reading } } := by
  cases inStep with
  | asking idle request silent unheard =>
      rcases idle with reading | closed
      · cases writing.symm.trans reading
      · cases writing.symm.trans closed
  | answering left answers asked read response unheard =>
      have same : left = rest := by
        rcases answers with ⟨also, _⟩ | closed | ⟨reading, _⟩
        · cases writing.symm.trans also
          rfl
        · cases writing.symm.trans closed
        · cases writing.symm.trans reading
      subst same
      refine .answering (left.drop count) ?_ asked read ?_ unheard
      · by_cases all : count = left.length
        · refine .inr (.inr ⟨if_neg (not_not.mpr all), ?_⟩)
          rw [all, List.drop_length]
        · refine .inl ⟨if_pos all, ?_⟩
          rw [Ne, List.drop_eq_nil_iff]
          omega
      · change (bed.responses.push (left.take count)).unread ++ _ = _
        rw [Channel.unread_push, List.append_assoc, List.take_append_drop]
        exact response
  | answered idle asked read silent heard =>
      rcases idle with reading | closed
      · cases writing.symm.trans reading
      · cases writing.symm.trans closed

/-- The server closes the connection, because a call has thrown. -/
theorem InStep.fail (inStep : bed.InStep) :
    TestBed.InStep { bed with server := { bed.server with stage := .closed } } := by
  cases inStep with
  | asking idle request silent unheard => exact .asking (.inr rfl) request silent unheard
  | answering rest answers asked read response unheard =>
      exact .answering rest (.inr (.inl rfl)) asked read response unheard
  | answered idle asked read silent heard => exact .answered (.inr rfl) asked read silent heard

/-- The server goes on in step with the client. -/
theorem InStep.server
    {answer : Answer kind} {next : TestServer}
    (inStep : bed.InStep) (can : bed.ServerCan answer)
    (running : bed.requests.closed = false)
    (whole : bed.ReadsWhole (.server answer))
    (moved : bed.server.step answer = some next) :
    TestBed.InStep { bed.serverEffect answer with server := next } := by
  obtain ⟨requests, responses, client, ⟨readBuf, stage⟩⟩ := bed
  cases stage with
  | reading =>
      cases answer with
      | received bytes =>
          simp only [TestServer.step, Option.ite_none_right_eq_some] at moved
          obtain ⟨_, moved⟩ := moved
          rw [← Option.some.inj moved]
          exact inStep.read can whole
      | closed =>
          have ended : requests.closed = true := can.1
          cases ended.symm.trans running
      | failed errno =>
          cases moved
          exact inStep.fail
      | connected | accepted | peeked | time | noTime | thrown | hangup => cases moved
  | writing rest =>
      cases answer with
      | accepted count =>
          simp only [TestServer.step, Option.ite_none_right_eq_some] at moved
          obtain ⟨accepts, moved⟩ := moved
          rw [← Option.some.inj moved]
          exact inStep.send rfl accepts.1
      | failed errno =>
          cases moved
          exact inStep.fail
      | connected | received | closed | peeked | time | noTime | thrown | hangup =>
          cases moved
  | closed => cases answer <;> cases moved

theorem closed_serverEffect (bed : TestBed kind) (answer : Answer kind) :
    (bed.serverEffect answer).requests.closed = bed.requests.closed := by
  unfold serverEffect
  split <;> rfl

/-- What is on its way may arrive. -/
theorem InStep.arrive
    {requests responses : Channel UInt8} (inStep : bed.InStep)
    (sameRequests : requests.unread = bed.requests.unread)
    (sameResponses : responses.unread = bed.responses.unread) :
    TestBed.InStep { bed with requests := requests, responses := responses } := by
  cases inStep with
  | asking idle request silent unheard =>
      exact .asking idle (sameRequests ▸ request) (sameResponses.trans silent) unheard
  | answering rest answers asked read response unheard =>
      exact .answering rest answers asked (sameRequests.trans read) (sameResponses ▸ response)
        unheard
  | answered idle asked read silent heard =>
      exact .answered idle asked (sameRequests.trans read) (sameResponses.trans silent) heard

/-- A step keeps the programs in step, as long as the client has not closed the
connection. -/
theorem inStep_of_step
    {event : BedEvent kind} {next : TestBed kind}
    (inStep : bed.requests.closed = false → bed.InStep)
    (whole : bed.ReadsWhole event)
    (stepped : bed.step tstampPrecision event = some next) :
    (next.requests.closed = false → next.InStep) ∧ bed.ReceivesOwn event := by
  cases event with
  | client event =>
      rw [step, Option.ite_none_right_eq_some, Option.map_eq_some_iff] at stepped
      obtain ⟨⟨running, can⟩, client, moved, rfl⟩ := stepped
      obtain ⟨own, later⟩ := (inStep running).client can whole moved
      exact ⟨fun _ => later, own⟩
  | clientCloses =>
      rw [step, Option.ite_none_right_eq_some] at stepped
      obtain ⟨_between, ⟨⟩⟩ := stepped
      exact ⟨nofun, trivial⟩
  | server answer =>
      rw [step, Option.ite_none_right_eq_some, Option.map_eq_some_iff] at stepped
      obtain ⟨can, server, moved, rfl⟩ := stepped
      refine ⟨fun running => ?_, trivial⟩
      change (bed.serverEffect answer).requests.closed = false at running
      rw [closed_serverEffect] at running
      exact (inStep running).server can running whole moved
  | requestArrives count =>
      cases stepped
      exact ⟨fun running => (inStep running).arrive (Channel.unread_deliver _ count) rfl,
        trivial⟩
  | responseArrives count =>
      cases stepped
      exact ⟨fun running => (inStep running).arrive rfl (Channel.unread_deliver _ count),
        trivial⟩

end Steps

/-- One message at most is on its way. -/
theorem InStep.length_le {bed : TestBed kind} (inStep : bed.InStep) :
    bed.requests.unread.length + bed.responses.unread.length ≤ BUFSIZE := by
  cases inStep with
  | asking _idle request silent _unheard =>
      have length := congrArg List.length request
      rw [List.length_append, length_request] at length
      rw [silent, List.length_nil]
      omega
  | answering rest _answers _asked read response _unheard =>
      have length := congrArg List.length response
      rw [List.length_append, length_response] at length
      rw [read, List.length_nil]
      omega
  | answered _idle _asked read silent _heard =>
      rw [read, silent]
      exact Nat.zero_le _

/-- In every run of the client and the server, if every read delivers a whole message and no
sample is measured without one, every response that the client receives is the response to
the request of its sample, and until the client closes the connection there is never more
than one message on its way. -/
theorem receivesOwn_of_readsWhole
    (tstampPrecision : Int) (rx : kind.Stamp) (readBuf : Vector UInt8 BUFSIZE)
    (events : List (BedEvent kind)) (final : TestBed kind)
    (reached : Machine.run (step tstampPrecision) (start rx readBuf) events = some final)
    (whole : Machine.Along (step tstampPrecision) ReadsWhole (start rx readBuf) events) :
    Machine.Along (step tstampPrecision) ReceivesOwn (start rx readBuf) events ∧
      (final.requests.closed = false →
        final.requests.unread.length + final.responses.unread.length ≤ BUFSIZE) := by
  have inStep : ∀ history bed, history <+: events →
      Machine.run (step tstampPrecision) (start rx readBuf) history = some bed →
      bed.requests.closed = false → bed.InStep := by
    intro history bed before passed
    refine @Machine.run_invariant_along _ _ (step tstampPrecision) (start rx readBuf) bed history
      ReadsWhole (fun bed => bed.requests.closed = false → bed.InStep)
      (fun _ => inStep_start rx readBuf) ?_ ?_ passed
    · intro bed event next inStep here stepped
      exact (inStep_of_step inStep here stepped).1
    · intro earlier other middle isPrefix
      exact whole earlier other middle (isPrefix.trans before)
  refine ⟨?_, fun running =>
    (inStep events final (List.prefix_refl _) reached running).length_le⟩
  intro history event bed before passed
  obtain ⟨later, enabled⟩ := Machine.run_prefix before reached
  obtain ⟨middle, same, stepped⟩ := Machine.run_concat_eq_some.mp enabled
  cases passed.symm.trans same
  exact (inStep_of_step
    (inStep history bed ((List.prefix_append _ _).trans before) passed)
    (whole history event bed before passed) stepped).2

/-- The programs with nothing but zeros in their memory. -/
def zeroed : TestBed .pcap :=
  start (⟨0, 0⟩ : Timeval) (Vector.replicate BUFSIZE 0)

/-- A request and its response. -/
def oneSample : List (BedEvent .pcap) :=
  [.client .connected, .client (.handed .server (TestClient.writeBuf 0)),
    .client (.sentAt ⟨1, 0⟩), .requestArrives BUFSIZE,
    .server (.received (TestClient.writeBuf 0)), .server (.accepted BUFSIZE),
    .responseArrives BUFSIZE, .client (.received .server (TestServer.writeBuf 97)),
    .client (.receivedAt ⟨2, 0⟩),
    .client (.measured ⟨1, 0⟩ ⟨2, 0⟩ (.ok 1000000000))]

theorem receivesOwn_oneSample :
    (Machine.run (step PCAP_TSTAMP_PRECISION_NANO) zeroed oneSample).isSome = true ∧
      Machine.Along (step PCAP_TSTAMP_PRECISION_NANO) ReceivesOwn zeroed oneSample := by
  have ran : (Machine.run (step PCAP_TSTAMP_PRECISION_NANO) zeroed oneSample).isSome =
      true := by decide +kernel
  have whole : Machine.Along (step PCAP_TSTAMP_PRECISION_NANO) ReadsWhole zeroed
      oneSample := by decide +kernel
  obtain ⟨final, reached⟩ := Option.isSome_iff_exists.mp ran
  exact ⟨ran, (receivesOwn_of_readsWhole _ _ _ oneSample final reached whole).1⟩

/-- A request that the server reads in two parts and answers twice. -/
def splitRequest : List (BedEvent .pcap) :=
  [.client .connected, .client (.handed .server (TestClient.writeBuf 0)),
    .client (.sentAt ⟨1, 0⟩), .requestArrives BUFSIZE, .server (.received [0]),
    .server (.accepted BUFSIZE), .server (.received (List.replicate (BUFSIZE - 1) 0)),
    .server (.accepted BUFSIZE), .responseArrives (2 * BUFSIZE),
    .client (.received .server (TestServer.writeBuf 97)), .client (.receivedAt ⟨2, 0⟩),
    .client (.measured ⟨1, 0⟩ ⟨2, 0⟩ (.ok 1000000000)),
    .client (.handed .server (TestClient.writeBuf 1)), .client (.sentAt ⟨3, 0⟩),
    .client (.received .server (TestServer.writeBuf 97))]

-- The client takes the second answer for the response to its next request, which is of the
-- other kind.
example : ¬Machine.Along (step PCAP_TSTAMP_PRECISION_NANO) ReceivesOwn zeroed splitRequest := by
  decide +kernel

end TestBed

end NetworkTiming
