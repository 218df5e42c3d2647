import NetworkTiming.PacketParser.Frame
import NetworkTiming.Socket.Lookup

/-!
# One queue of captured packets

The double buffer refines a first-in first-out queue under every interleaving of
the capture callback with the iterations of a search, and a search that has an
answer in the queue returns its time after a bounded number of iterations.
-/

namespace NetworkTiming

namespace Search

/-- Iterations that a search needs at most before it looks at a packet that has
`left` packets in front of it. -/
def distance (usrdata : UserData) (left : List Packet) : Nat :=
  2 * left.length +
    if usrdata.sharedBufferIndexConsumer = SHARED_BUFFER_SIZE then 1 else 0

theorem distance_le (usrdata : UserData) (left : List Packet) :
    distance usrdata left ≤ 2 * left.length + 1 := by
  unfold distance
  split <;> omega

/-- A search that has an answer in the queue comes closer to it with every
iteration, or finds it. -/
theorem Iteration.approaches
    {search later : Search} {usrdata next : UserData} {left : List Packet}
    (iteration : Iteration search usrdata next later)
    (unfound : search.found = none)
    (unread : usrdata.unread = left ++ packet :: after)
    (unanswered : ∀ other ∈ left, ¬search.toCall.AnsweredBy other)
    (answered : search.toCall.AnsweredBy packet) :
    later.toCall = search.toCall ∧
      ((later.found = none ∧ ∃ closer, next.unread = closer ++ packet :: after ∧
          (∀ other ∈ closer, other ∈ left) ∧
          distance next closer < distance usrdata left) ∨
        ∃ slot, later.found = some slot ∧ next.unread = after ∧
          Holding next slot packet.timing) := by
  cases iteration with
  | idle empty =>
      rw [empty] at unread
      exact absurd unread.symm (by simp)
  | turn drained position same =>
      refine ⟨rfl, Or.inl ⟨unfound, left, same.trans unread, fun _ member => member, ?_⟩⟩
      rw [distance, distance, if_pos drained, if_neg (by rw [position]; decide)]
      omega
  | skip head different =>
      cases left with
      | nil =>
          cases head.symm.trans unread
          exact absurd answered different
      | cons first closer =>
          obtain ⟨_, rest⟩ := List.cons.inj (head.symm.trans unread)
          refine ⟨rfl, Or.inl ⟨unfound, closer, rest,
            fun other member => List.mem_cons_of_mem _ member, ?_⟩⟩
          have bound := distance_le next closer
          rw [distance, distance, List.length_cons] at *
          omega
  | hit head answers behind timed =>
      cases left with
      | nil =>
          obtain ⟨rfl, rest⟩ := List.cons.inj (head.symm.trans unread)
          exact ⟨rfl, Or.inr ⟨_, rfl, rest, rfl, behind, timed⟩⟩
      | cons first closer =>
          obtain ⟨rfl, _⟩ := List.cons.inj (head.symm.trans unread)
          exact absurd answers (unanswered _ List.mem_cons_self)

/-- An iteration of a search that has no answer in the queue leaves the search as it
is. -/
theorem iterate_of_unanswered
    {search : Search} {usrdata : UserData}
    (sound : usrdata.Sound)
    (unanswered : ∀ packet ∈ usrdata.unread, ¬search.toCall.AnsweredBy packet) :
    ∃ next, search.iterate usrdata = .ok (next, search) ∧ next.Sound ∧
      ∀ packet ∈ next.unread, ¬search.toCall.AnsweredBy packet := by
  obtain ⟨next, later, iterated, stillSound, _connection, iteration⟩ :=
    search.iterate_cases sound
  cases iteration with
  | idle empty => exact ⟨usrdata, iterated, sound, unanswered⟩
  | turn drained position same =>
      exact ⟨next, iterated, stillSound, same ▸ unanswered⟩
  | skip head different =>
      refine ⟨next, iterated, stillSound, fun packet member => ?_⟩
      apply unanswered packet
      rw [head]
      exact List.mem_cons_of_mem _ member
  | hit head answers =>
      refine absurd answers (unanswered _ ?_)
      rw [head]
      exact List.mem_cons_self

end Search

/-- A call of `timingForPacket` with an answer in the queue returns the time of
the earliest one, and leaves the packets behind it. -/
theorem timingForPacket_of_answered
    {search : Search} {usrdata : UserData} {left : List Packet}
    (sound : usrdata.Sound)
    (unfound : search.found = none)
    (unread : usrdata.unread = left ++ packet :: after)
    (unanswered : ∀ other ∈ left, ¬search.toCall.AnsweredBy other)
    (answered : search.toCall.AnsweredBy packet)
    (enough : Search.distance usrdata left + 2 ≤ tests) :
    ∃ next, timingForPacket tests search usrdata = some (.ok (next, packet.timing)) ∧
      next.Sound ∧ UserData.SameConnection usrdata next ∧ next.unread = after := by
  induction tests generalizing search usrdata left with
  | zero => exact absurd enough (by omega)
  | succ tests inductionHypothesis =>
      obtain ⟨next, later, iterated, stillSound, connection, iteration⟩ :=
        search.iterate_cases sound
      obtain ⟨sameCall, looking | holding⟩ :=
        iteration.approaches unfound unread unanswered answered
      · obtain ⟨stillUnfound, closer, rest, members, nearer⟩ := looking
        obtain ⟨final, returned, finalSound, finalConnection, finalUnread⟩ :=
          inductionHypothesis stillSound stillUnfound rest
            (fun other member => by
              rw [sameCall]
              exact unanswered other (members other member))
            (by rwa [sameCall]) (by omega)
        refine ⟨final, ?_, finalSound, connection.trans finalConnection, finalUnread⟩
        simp only [timingForPacket, unfound, iterated]
        exact returned
      · obtain ⟨slot, found, rest, held⟩ := holding
        obtain ⟨tests, rfl⟩ : ∃ more, tests = more + 1 := ⟨tests - 1, by omega⟩
        refine ⟨next, ?_, stillSound, connection, rest⟩
        simp only [timingForPacket, unfound, iterated, found, held.timed]
        rfl

/-- A call of `timingForPacket` without an answer in the queue does not return. -/
theorem timingForPacket_of_unanswered
    {search : Search} {usrdata : UserData}
    (sound : usrdata.Sound)
    (unfound : search.found = none)
    (unanswered : ∀ packet ∈ usrdata.unread, ¬search.toCall.AnsweredBy packet)
    (tests : Nat) :
    timingForPacket tests search usrdata = none := by
  induction tests generalizing usrdata with
  | zero => rfl
  | succ tests inductionHypothesis =>
      obtain ⟨next, iterated, stillSound, still⟩ :=
        Search.iterate_of_unanswered sound unanswered
      simp only [timingForPacket, unfound, iterated]
      exact inductionHypothesis stillSound still

namespace PCAPTimingSocket

/-! ## A search beside the callback -/

/-- Where a search stands whose answer was in the queue when it started: it is
still on its way there, it has found it, or it has returned its time. -/
inductive Underway
    (call : Call) (before : List Packet) (packet : Packet) (rest : List Packet)
    (proceeds : Nat) (socket : PCAPTimingSocket) : Prop
  | looking {search : Search} {left : List Packet}
      (running : socket.search = some search)
      (unfound : search.found = none)
      (sameCall : search.toCall = call)
      (unread : socket.usrdata.unread = left ++ packet :: rest)
      (members : ∀ other ∈ left, other ∈ before)
      (budget : proceeds + Search.distance socket.usrdata left ≤ 2 * before.length + 1)
  | holding {search : Search} {slot : Bool × Nat}
      (running : socket.search = some search)
      (found : search.found = some slot)
      (sameCall : search.toCall = call)
      (unread : socket.usrdata.unread = rest)
      (held : Holding socket.usrdata slot packet.timing)
      (budget : proceeds ≤ 2 * before.length + 2)
  | returned
      (noSearch : socket.search = none)
      (unread : socket.usrdata.unread = rest)
      (recorded : socket.timestamp call.direction = packet.timing)

/-- What the callback stores comes last; the search goes on as before. -/
theorem Underway.capture
    (underway : Underway call before packet rest proceeds socket)
    {usrdata : UserData}
    (appended : UserData.Appended socket.usrdata usrdata stored) :
    Underway call before packet (rest ++ [stored]) proceeds
      { socket with usrdata := usrdata } := by
  have sameIndex : usrdata.sharedBufferIndexConsumer =
      socket.usrdata.sharedBufferIndexConsumer := appended.forConsumer.readIndex
  cases underway with
  | @looking search left running unfound sameCall unread members budget =>
      have appendedUnread : usrdata.unread = left ++ packet :: (rest ++ [stored]) := by
        rw [appended.unread, unread, List.append_assoc, List.cons_append]
      refine .looking running unfound sameCall appendedUnread members ?_
      rw [Search.distance, sameIndex]
      exact budget
  | holding running found sameCall unread held budget =>
      refine .holding running found sameCall ?_ (held.appended appended) budget
      rw [appended.unread, unread]
  | returned noSearch unread recorded =>
      refine .returned noSearch ?_ ?_
      · rw [appended.unread, unread]
      · cases direction : call.direction <;> rw [direction] at recorded <;> exact recorded

/-- An iteration brings the search closer to its answer. -/
theorem Underway.iterate
    (underway : Underway call before packet rest proceeds socket)
    (unanswered : ∀ other ∈ before, ¬call.AnsweredBy other)
    (answered : call.AnsweredBy packet)
    {search later : Search} {usrdata : UserData}
    (running : socket.search = some search)
    (searching : search.found = none)
    (iteration : search.Iteration socket.usrdata usrdata later) :
    Underway call before packet rest (proceeds + 1)
      { socket with usrdata := usrdata, search := some later } := by
  cases underway with
  | returned noSearch => simp [noSearch] at running
  | holding other found => simp_all
  | looking other unfound sameCall unread members budget =>
      cases other.symm.trans running
      obtain ⟨laterCall, looking | holding⟩ :=
        iteration.approaches searching unread
          (fun other member => sameCall ▸ unanswered other (members other member))
          (sameCall ▸ answered)
      · obtain ⟨stillUnfound, closer, closerUnread, closerMembers, nearer⟩ := looking
        refine .looking rfl stillUnfound (laterCall.trans sameCall) closerUnread
          (fun other member => members other (closerMembers other member)) ?_
        change proceeds + 1 + Search.distance usrdata closer ≤ _
        omega
      · obtain ⟨slot, found, restUnread, held⟩ := holding
        exact .holding rfl found (laterCall.trans sameCall) restUnread held (by omega)

/-- A search that returns has found its answer. -/
theorem Underway.finish
    (underway : Underway call before packet rest proceeds socket)
    {search : Search} {slot : Bool × Nat}
    (running : socket.search = some search)
    (found : search.found = some slot)
    (timed : Search.timing socket.usrdata slot = .ok time) :
    Underway call before packet rest (proceeds + 1)
      (socket.record search.direction time) := by
  cases underway with
  | returned noSearch => simp [noSearch] at running
  | looking other unfound =>
      cases other.symm.trans running
      simp [unfound] at found
  | holding other isFound sameCall unread held budget =>
      cases other.symm.trans running
      cases isFound.symm.trans found
      cases held.timed.symm.trans timed
      subst sameCall
      refine .returned search_record ?_ timestamp_record_same
      rw [usrdata_record]
      exact unread

/-- What holds during a search that had an answer in the queue when it started. -/
structure DuringSearch
    (inetNtop : InetNtop) (start : UserData)
    (call : Call) (before : List Packet) (packet : Packet) (after : List Packet)
    (history : List Event) (socket : PCAPTimingSocket) : Prop where
  sound : socket.usrdata.Sound
  connection : UserData.SameConnection start socket.usrdata
  underway : calls history = [] →
    Underway call before packet (after ++ captured inetNtop start history)
      (history.count .proceed) socket

/-- Every step of either thread keeps a search under way. -/
theorem DuringSearch.step
    (during : DuringSearch inetNtop start call before packet after history socket)
    (unanswered : ∀ other ∈ before, ¬call.AnsweredBy other)
    (answered : call.AnsweredBy packet)
    (stepped : Step inetNtop socket event next) :
    DuringSearch inetNtop start call before packet after (history ++ [event]) next := by
  refine ⟨stepped.sound during.sound, during.connection.trans stepped.connection, ?_⟩
  intro noCall
  rw [calls, List.filterMap_append, List.append_eq_nil_iff] at noCall
  obtain ⟨earlier, noCall⟩ := noCall
  have underway := during.underway earlier
  have stored : Event.stored inetNtop start event =
      Event.stored inetNtop socket.usrdata event :=
    (congrFun (stored_of_sameConnection during.connection) event).symm
  rw [captured, List.filterMap_append, List.filterMap_cons, stored, List.count_append,
    ← List.append_assoc]
  cases stepped with
  | drop receives => simpa [Event.stored, receives, captured] using underway
  | capture receives appended =>
      simpa [Event.stored, receives, captured] using underway.capture appended
  | call idle => simp [Event.asked] at noCall
  | iterate running searching stillSound same iteration =>
      simpa [Event.stored, captured] using
        underway.iterate unanswered answered running searching iteration
  | finish running found timed =>
      simpa [Event.stored, captured] using underway.finish running found timed

/-- A search with an answer in the queue, beside any activity of the callback. -/
theorem run_underway
    {socket later : PCAPTimingSocket}
    (sound : socket.usrdata.Sound)
    (unread : socket.usrdata.unread = before ++ packet :: after)
    (unanswered : ∀ other ∈ before, ¬call.AnsweredBy other)
    (answered : call.AnsweredBy packet)
    (noOtherCall : calls during = [])
    (reached : Machine.run (step inetNtop) socket (.timingForPacket call :: during) =
      some later) :
    Underway call before packet (after ++ captured inetNtop socket.usrdata during)
      (during.count .proceed) later := by
  rw [Machine.run_cons, Option.bind_eq_some_iff] at reached
  obtain ⟨started, starts, reached⟩ := reached
  have initially : DuringSearch inetNtop socket.usrdata call before packet after []
      started := by
    cases step_cases sound starts with
    | call idle =>
        refine ⟨sound, .refl _, fun _ => ?_⟩
        refine Underway.looking rfl rfl rfl ?_ (fun _ member => member) ?_
        · rw [unread, captured, List.filterMap_nil, List.append_nil]
        · rw [List.count_nil, Nat.zero_add]
          exact Search.distance_le _ before
  have atTheEnd : DuringSearch inetNtop socket.usrdata call before packet after during
      later :=
    Machine.run_invariant initially
      (fun history state event next _ invariant stepped =>
        invariant.step unanswered answered (step_cases invariant.sound stepped))
      reached
  exact atTheEnd.underway noOtherCall

/-- A search without an answer in the queue does not return while nothing is
captured. -/
theorem run_replicate_of_unanswered
    {socket : PCAPTimingSocket} {search : Search}
    (sound : socket.usrdata.Sound)
    (running : socket.search = some search)
    (unfound : search.found = none)
    (unanswered : ∀ packet ∈ socket.usrdata.unread, ¬search.toCall.AnsweredBy packet)
    (n : Nat) :
    ∃ final, Machine.run (step inetNtop) socket (List.replicate n .proceed) =
        some final ∧ final.search = some search := by
  induction n generalizing socket with
  | zero => exact ⟨socket, rfl, running⟩
  | succ n inductionHypothesis =>
      obtain ⟨usrdata, iterated, stillSound, still⟩ :=
        Search.iterate_of_unanswered sound unanswered
      have stepped : step inetNtop socket .proceed =
          some { socket with usrdata := usrdata, search := some search } := by
        simp only [step, running, unfound, iterated]
      rw [List.replicate_succ, Machine.run_cons, stepped, Option.bind_some]
      exact inductionHypothesis stillSound rfl still

/-! ## The refinement -/

/-- A running search can always iterate or return. -/
theorem exists_proceed
    (reached : Reached inetNtop start history socket)
    (busy : socket.search ≠ none) :
    ∃ next, step inetNtop socket .proceed = some next := by
  obtain ⟨sound, _connection, scan, _log, _asked, follows⟩ := reached
  cases follows.phase with
  | idle noSearch => exact absurd noSearch busy
  | @searching search running unfound =>
      obtain ⟨usrdata, later, iterated, _⟩ := search.iterate_cases sound
      exact ⟨_, by simp only [step, running, unfound, iterated]; rfl⟩
  | holding running found answered unrecorded asked isHit isPacket held =>
      exact ⟨_, by simp only [step, running, found, held.timed]; rfl⟩

/-- The shared buffers of a socket act as one queue of packets. -/
structure RefinesQueue (inetNtop : InetNtop) (socket : PCAPTimingSocket) : Prop where
  /-- The callback appends what it stores at the tail, and leaves every slot alone
  that holds an unread packet. -/
  handlePacket : ∀ header packet next,
    handlePacket inetNtop socket.usrdata header packet = .ok next →
    (received inetNtop socket.usrdata header packet = .ok none ∧
        next = socket.usrdata) ∨
      ∃ stored, received inetNtop socket.usrdata header packet = .ok (some stored) ∧
        next.unread = socket.usrdata.unread ++ [stored] ∧
        ∀ side index (inside : index < SHARED_BUFFER_SIZE),
          socket.usrdata.queue.Unread side index →
          (next.buffer side)[index] = (socket.usrdata.buffer side)[index]
  /-- An iteration of a search stays inside the buffers, and leaves the queue as it
  is or removes its head. -/
  iterate : ∀ search : Search, ∃ next later,
    search.iterate socket.usrdata = .ok (next, later) ∧
    (next.unread = socket.usrdata.unread ∧ later = search ∨
      ∃ head, socket.usrdata.unread = head :: next.unread)
  /-- A running search is never stuck. -/
  proceed : socket.search ≠ none → ∃ next, step inetNtop socket .proceed = some next
  /-- A call of `timingForPacket` with an answer among the unread packets returns
  the time of the earliest one and leaves the packets behind it, whatever is
  captured meanwhile. -/
  timingForPacket : ∀ call before packet after,
    socket.usrdata.unread = before ++ packet :: after →
    (∀ other ∈ before, ¬call.AnsweredBy other) → call.AnsweredBy packet →
    ∀ during later, calls during = [] →
    Machine.run (step inetNtop) socket (.timingForPacket call :: during) = some later →
    (later.search = none ∧ later.timestamp call.direction = packet.timing ∧
        later.usrdata.unread = after ++ captured inetNtop socket.usrdata during) ∨
      (later.search ≠ none ∧ during.count .proceed ≤ 2 * before.length + 2)

/-- In every state that an interleaving of the callback with searches reaches, the
double buffer acts as one queue of packets. -/
theorem run_refinesQueue
    (inetNtop : InetNtop)
    (socket : PCAPTimingSocket)
    (events : List Event)
    (final : PCAPTimingSocket)
    (reached : Machine.run (step inetNtop) socket.connect events = some final) :
    RefinesQueue inetNtop final := by
  have sound := (run_reached reached).sound
  constructor
  · intro header packet next handled
    obtain dropped | ⟨stored, receives, appended⟩ := handlePacket_cases sound handled
    · exact Or.inl dropped
    · exact Or.inr ⟨stored, receives, appended.unread, appended.forConsumer.unreadSlot⟩
  · intro search
    obtain ⟨next, later, iterated, _, _, iteration⟩ := search.iterate_cases sound
    refine ⟨next, later, iterated, ?_⟩
    cases iteration with
    | idle empty => exact Or.inl ⟨rfl, rfl⟩
    | turn drained position unread => exact Or.inl ⟨unread, rfl⟩
    | skip unread different => exact Or.inr ⟨_, unread⟩
    | hit unread answers behind timed => exact Or.inr ⟨_, unread⟩
  · exact exists_proceed (run_reached reached)
  · intro call before packet after unread unanswered answered during later noOtherCall
      searched
    cases run_underway sound unread unanswered answered noOtherCall searched with
    | looking running unfound sameCall unread members budget =>
        refine Or.inr ⟨by simp [running], ?_⟩
        omega
    | holding running found sameCall unread held budget =>
        exact Or.inr ⟨by simp [running], budget⟩
    | returned noSearch unread recorded => exact Or.inl ⟨noSearch, recorded, unread⟩

/-! ## A connection on fixed frames -/

/-- A TCP frame without options and padding that carries one byte. -/
def byteFrame
    (src dst : Vector UInt8 4) (sport dport : UInt16) (byte : UInt8) : Frame where
  destination := .replicate 6 0
  source := .replicate 6 0
  internet := .ipv4 {
    tos := 0, id := 0, off := 0x4000, ttl := 64, checksum := 0
    src := src, dst := dst, options := .none }
  transport := .tcp {
    sport := sport, dport := dport, seq := 0, ack := 0, reserved := 0
    flags := 0x18, window := 512, checksum := 0, urgent := 0, options := .none }
  payload := [byte]
  padding := []
  fits := by simp [InternetHeader.announced, Ipv4Header.length,
    TransportHeader.length, TcpHeader.length, Options.none]

/-- A request of one byte to port 80 of 10.0.0.2. -/
def request (byte : UInt8) : Frame :=
  byteFrame #v[10, 0, 0, 1] #v[10, 0, 0, 2] 4096 80 byte

/-- A response of one byte from port 80 of 10.0.0.2. -/
def response (byte : UInt8) : Frame :=
  byteFrame #v[10, 0, 0, 2] #v[10, 0, 0, 1] 80 4096 byte

/-- A frame is captured whole at some second. -/
def capture (second : Int64) (frame : Frame) : Event :=
  .handlePacket ⟨⟨second, 0⟩, frame.encode.length⟩ frame.encode

/-- A socket for port 80 of 10.0.0.2 before it is connected. -/
def portEighty : PCAPTimingSocket where
  usrdata := .unstarted "10.0.0.2" 80
  txTimestamp := ⟨0, 0⟩
  rxTimestamp := ⟨0, 0⟩
  search := none
  recorded := []

/-- A request and its response, with a search running into captures. -/
def exchange : List Event :=
  [write [1], .proceed, capture 5 (request 1), .proceed, capture 6 (response 2),
    .proceed, capture 7 (request 3), read [2], .proceed, .proceed]

/-- The shared buffers act as a queue after an exchange, with one packet left. -/
theorem run_refinesQueue_exchange :
    ∃ final, Machine.run (step (succeeding inetText)) portEighty.connect exchange =
        some final ∧
      final.usrdata.unread = [⟨[3], ⟨7, 0⟩, .destinationRemote⟩] ∧
      RefinesQueue (succeeding inetText) final := by
  have ran : ((Machine.run (step (succeeding inetText)) portEighty.connect
      exchange).map fun final => final.usrdata.unread) =
      some [⟨[3], ⟨7, 0⟩, .destinationRemote⟩] := by decide +kernel
  obtain ⟨final, reached, unread⟩ := Option.map_eq_some_iff.mp ran
  exact ⟨final, reached, unread, run_refinesQueue _ _ _ final reached⟩

end PCAPTimingSocket

end NetworkTiming
