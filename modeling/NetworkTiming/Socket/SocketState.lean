import NetworkTiming.Socket.TimingSocket

/-!
# The state of a socket

A socket remembers whether it has been established, and holds its descriptors.  These
agree as long as it is not connected twice.
-/

namespace NetworkTiming

namespace Socket

/-- What is left by a call, unless its behaviour is undefined or it ends the program. -/
def goesOn {State : Type} : Option (Except Fault Unit × State) → Option State
  | none => none
  | some (.error .terminate, _) => none
  | some (_, next) => some next

theorem goesOn_eq_some_iff
    {State : Type} {outcome : Option (Except Fault Unit × State)} {next : State} :
    goesOn outcome = some next ↔
      ∃ result, outcome = some (result, next) ∧ result ≠ .error .terminate := by
  unfold goesOn
  split
  case h_1 => simp
  case h_2 => simp
  case h_3 survived =>
      simp only [Option.some.injEq, Prod.mk.injEq]
      constructor
      · rintro rfl
        exact ⟨_, ⟨rfl, rfl⟩, fun ended => survived ended⟩
      · rintro ⟨_, ⟨_, same⟩, _⟩
        exact same

namespace TimingSocket

variable {Address : Type} (numbering : DescriptorNumbering)

/-- A socket right after its construction; most of its fields are indeterminate. -/
def created (sock epfd port : Int) : TimingSocket Address where
  state := .uninitialized
  sock := sock
  epfd := epfd
  host := ""
  port := port
  descriptors := {}

/-- `TimingSocket::write`, where `sent` is what `send` and the nested calls come to. -/
def write (socket : TimingSocket Address) (sent : Except Fault Unit) : Except Fault Unit :=
  if socket.state ≠ .established then
    .error (.runtimeError "Socket is not ready for sending")
  else sent

/-- `TimingSocket::read`, where `received` is what `recv` comes to. -/
def read
    (socket : TimingSocket Address)
    (received : Except Fault TimingProxy.Received) : Except Fault TimingProxy.Received :=
  if socket.state ≠ .established then
    .error (.runtimeError "Socket is not ready for recieving")
  else received

theorem write_of_established
    {socket : TimingSocket Address} (established : socket.state = .established)
    (sent : Except Fault Unit) : socket.write sent = sent :=
  if_neg (not_not_intro established)

theorem write_of_unestablished
    {socket : TimingSocket Address} (unestablished : socket.state ≠ .established)
    (sent : Except Fault Unit) :
    socket.write sent = .error (.runtimeError "Socket is not ready for sending") :=
  if_pos unestablished

theorem read_of_established
    {socket : TimingSocket Address} (established : socket.state = .established)
    (received : Except Fault TimingProxy.Received) : socket.read received = received :=
  if_neg (not_not_intro established)

theorem read_of_unestablished
    {socket : TimingSocket Address} (unestablished : socket.state ≠ .established)
    (received : Except Fault TimingProxy.Received) :
    socket.read received = .error (.runtimeError "Socket is not ready for recieving") :=
  if_pos unestablished

/-- `sock` is an open descriptor of a connected socket. -/
def Connected (socket : TimingSocket Address) : Prop :=
  ∃ address, socket.descriptors.lookup socket.sock = some (.socket (some address))

/-- The state of a socket tells whether it is connected, and whatever is open is held by
it. -/
structure Consistent (socket : TimingSocket Address) : Prop where
  ready : socket.state = .established ↔ socket.Connected
  held : ∀ number ∈ socket.descriptors.opened,
    socket.sock = number ∨ socket.epfd = number

/-- The descriptors of a socket agree with its state. -/
inductive Settled (socket : TimingSocket Address) : Prop
  /-- The socket is not established, and nothing is open. -/
  | idle :
      socket.state ≠ .established →
      socket.descriptors.opened = ∅ →
      Settled socket
  /-- The socket is established, and its two descriptors are open. -/
  | ready {sock epfd : Nat} {address : Address} :
      socket.state = .established →
      socket.sock = sock →
      socket.epfd = epfd →
      epfd ≠ sock →
      socket.descriptors.opened =
        (Finmap.insert sock (.socket (some address)) ∅).insert epfd .epoll →
      Settled socket

theorem settled_created (sock epfd port : Int) :
    (created sock epfd port : TimingSocket Address).Settled :=
  .idle (by simp [created]) rfl

namespace Settled

variable {socket : TimingSocket Address}

/-- The state tells whether the socket is connected. -/
theorem connected_iff (settled : socket.Settled) :
    socket.Connected ↔ socket.state = .established := by
  cases settled with
  | idle unestablished nothing =>
      apply iff_of_false _ unestablished
      rintro ⟨address, found⟩
      rcases lt_or_ge socket.sock 0 with negative | positive
      · rw [Descriptors.lookup_of_neg _ negative] at found
        cases found
      · obtain ⟨sock, same⟩ := Int.eq_ofNat_of_zero_le positive
        rw [same, Descriptors.lookup_natCast, nothing, Finmap.lookup_empty] at found
        cases found
  | @ready sock epfd address established isSock isEpfd different opened =>
      apply iff_of_true _ established
      refine ⟨address, ?_⟩
      rw [isSock, Descriptors.lookup_natCast, opened,
        Finmap.lookup_insert_of_ne _ different.symm, Finmap.lookup_insert]

/-- Whatever is open is held by the socket. -/
theorem held (settled : socket.Settled) :
    ∀ number ∈ socket.descriptors.opened,
      socket.sock = number ∨ socket.epfd = number := by
  intro number isOpen
  cases settled with
  | idle unestablished nothing =>
      rw [nothing] at isOpen
      exact absurd isOpen Finmap.notMem_empty
  | ready established isSock isEpfd different opened =>
      rw [opened, Finmap.mem_insert, Finmap.mem_insert] at isOpen
      rcases isOpen with rfl | rfl | none
      · exact Or.inr isEpfd
      · exact Or.inl isSock
      · exact absurd none Finmap.notMem_empty

theorem consistent (settled : socket.Settled) : socket.Consistent :=
  ⟨settled.connected_iff.symm, settled.held⟩

/-- Closing a socket closes its descriptors. -/
theorem close (settled : socket.Settled) : socket.close.Settled := by
  refine .idle (by simp [TimingSocket.close]) ?_
  apply Finmap.ext_lookup
  intro number
  rw [Finmap.lookup_empty, Finmap.lookup_eq_none]
  intro remains
  rw [TimingSocket.close, Descriptors.mem_opened_close, Descriptors.mem_opened_close]
    at remains
  obtain ⟨⟨isOpen, notSock⟩, notEpfd⟩ := remains
  rcases settled.held number isOpen with isSock | isEpfd
  · exact notSock isSock
  · exact notEpfd isEpfd

end Settled

/-- A call of `connect` on a socket that is not established leaves it settled. -/
theorem Outcome.settled
    {socket after : TimingSocket Address} {network : Network Address}
    {result : Except Fault Unit}
    (outcome : Outcome numbering socket network (result, after))
    (settled : socket.Settled)
    (unestablished : socket.state ≠ .established)
    (survived : result ≠ .error .terminate) : after.Settled := by
  have nothing : socket.descriptors.opened = ∅ := by
    cases settled with
    | idle _ nothing => exact nothing
    | ready established => exact absurd established unestablished
  cases outcome with
  | @connected middle found _ =>
      obtain ⟨_, candidate, _, _, _, _, established⟩ := found
      have isNew := middle.descriptors.next_notMem numbering
      rw [established.opened, nothing, Finmap.mem_insert, not_or] at isNew
      refine @Settled.ready Address _ _ _ candidate.address established.state
        (Int.toNat_of_nonneg established.sock).symm rfl isNew.1 ?_
      change middle.descriptors.opened.insert _ _ = _
      rw [established.opened, nothing]
  | aborted _ _ => exact absurd rfl survived
  | refused _ state opened => exact .idle (state ▸ unestablished) (opened.trans nothing)

end TimingSocket

end Socket

end NetworkTiming
