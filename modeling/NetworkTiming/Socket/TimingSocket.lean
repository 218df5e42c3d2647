import NetworkTiming.Library.Descriptors
import NetworkTiming.TimingProxy.TimingProxy

/-!
# Connecting

`TimingSocket::connect` goes through the candidates for an address.  One candidate is
tried again and again, with a new socket each time, until it has been reached or the
attempts are used up.  All of this happens in one variable, which holds the socket of the
attempt, or -1.
-/

namespace NetworkTiming

namespace Socket

/-- What descriptors are open for. -/
inductive Opened (Address : Type)
  /-- A socket, with the address that it has been connected to. -/
  | socket (connected : Option Address)
  /-- An epoll instance. -/
  | epoll
  deriving DecidableEq

/-- Outcomes of the calls of an attempt. -/
structure Attempt where
  /-- `socket` returns a descriptor. -/
  opens : Bool
  /-- `::connect` succeeds on it. -/
  connects : Bool

/-- The address of the candidate is reached by an attempt. -/
def Attempt.Reaches (attempt : Attempt) : Prop := attempt.opens ∧ attempt.connects

instance (attempt : Attempt) : Decidable attempt.Reaches :=
  inferInstanceAs (Decidable (_ ∧ _))

/-- One of the results of `getaddrinfo`, with the outcomes of all attempts on it. -/
structure Candidate (Address : Type) where
  address : Address
  /-- The first attempt has the number 0. -/
  attempt : Nat → Attempt

/-- Outcomes of the calls of `enableEpollWithEvents`. -/
inductive EpollSetup
  /-- `epoll_create1` fails. -/
  | createFails
  /-- `epoll_ctl` fails. -/
  | addFails
  | enabled
  deriving DecidableEq

/-- Outcomes of the calls of `connect`. -/
structure Network (Address : Type) where
  /-- What `getaddrinfo` yields, unless it fails. -/
  candidates : Option (List (Candidate Address))
  epoll : EpollSetup

/-- `Socket::enableEpollWithEvents`. -/
def enableEpollWithEvents
    {Address : Type}
    (numbering : DescriptorNumbering)
    (descriptors : Descriptors (Opened Address)) :
    EpollSetup → Except Fault Nat × Descriptors (Opened Address)
  | .createFails => (.error .terminate, descriptors)
  | .addFails =>
      (.error .terminate,
        (descriptors.give numbering .epoll).close (descriptors.next numbering))
  | .enabled => (.ok (descriptors.next numbering), descriptors.give numbering .epoll)

/-- `TimingSocket::sockState`. -/
inductive SockState
  | uninitialized
  | established
  | closed
  deriving DecidableEq

/-- A `TimingSocket` object, with the descriptors of its process. -/
structure TimingSocket (Address : Type) where
  state : SockState
  sock : Int
  epfd : Int
  host : String
  port : Int
  descriptors : Descriptors (Opened Address)

namespace TimingSocket

variable {Address : Type} (numbering : DescriptorNumbering)

/-- `sock = socket(..)`. -/
def openSocket (socket : TimingSocket Address) (opens : Bool) : TimingSocket Address :=
  if opens then
    { socket with
      sock := socket.descriptors.next numbering
      descriptors := socket.descriptors.give numbering (.socket none) }
  else { socket with sock := -1 }

/-- `::connect(sock, ..)`; a socket that it fails on is closed. -/
def connectSocket
    (socket : TimingSocket Address)
    (address : Address)
    (connects : Bool) : TimingSocket Address :=
  if 0 ≤ socket.sock ∧ connects then
    { socket with
      descriptors := socket.descriptors.update socket.sock (.socket (some address)) }
  else
    { socket with
      sock := -1
      descriptors := socket.descriptors.close socket.sock }

/-- The number of attempts that are made behind a failed one. -/
def MAX_ATTEMPTS : Nat := 100

/-- The `while` loop of `connect`, in which `left` more attempts can be made. -/
def retry (candidate : Candidate Address) :
    (attempts left : Nat) → TimingSocket Address → TimingSocket Address
  | _, 0, socket => socket
  | attempts, left + 1, socket =>
      if socket.sock < 0 then
        let attempt := candidate.attempt (attempts + 1)
        retry candidate (attempts + 1) left
          -- without a socket, both `::connect` and `::close` fail for the descriptor -1
          ((socket.openSocket numbering attempt.opens).connectSocket candidate.address
            attempt.connects)
      else socket

/-- The body of the `for` loop of `connect`. -/
def tryCandidate
    (candidate : Candidate Address)
    (socket : TimingSocket Address) : TimingSocket Address :=
  let socket := socket.openSocket numbering (candidate.attempt 0).opens
  if socket.sock < 0 then socket
  else
    let socket := retry numbering candidate 0 MAX_ATTEMPTS
      (socket.connectSocket candidate.address (candidate.attempt 0).connects)
    if socket.sock < 0 then socket
    else { socket with state := .established }

/-- The `for` loop of `connect`, which ends with the first socket that is opened. -/
def tryCandidates :
    List (Candidate Address) → TimingSocket Address → TimingSocket Address
  | [], socket => socket
  | candidate :: candidates, socket =>
      let socket := tryCandidate numbering candidate socket
      if socket.sock < 0 then tryCandidates candidates socket else socket

/-- The end of `connect`, for a socket that has been opened. -/
def watch
    (socket : TimingSocket Address)
    (epoll : EpollSetup) : Except Fault Unit × TimingSocket Address :=
  match enableEpollWithEvents numbering socket.descriptors epoll with
  | (.error fault, descriptors) =>
      (.error fault, { socket with descriptors := descriptors })
  | (.ok epfd, descriptors) =>
      (.ok (), { socket with epfd := epfd, descriptors := descriptors })

/-- `TimingSocket::connect`. -/
def connect
    (socket : TimingSocket Address)
    (host : String) (port : UInt16)
    (network : Network Address) : Except Fault Unit × TimingSocket Address :=
  let socket := { socket with host := host, port := port.toNat }
  match network.candidates with
  | none =>
      (.error (.runtimeError
        ("Unable retrieve connection candidates for host \"" ++ host ++ "\"")), socket)
  | some candidates =>
      let socket := tryCandidates numbering candidates { socket with sock := -1 }
      if socket.sock < 0 then
        (.error (.runtimeError
          ("Unable to open socket for host \"" ++ host ++ ":" ++
            toString port.toNat ++ "\"")), socket)
      else socket.watch numbering network.epoll

/-- `TimingSocket::close`. -/
def close (socket : TimingSocket Address) : TimingSocket Address :=
  { socket with
    descriptors := (socket.descriptors.close socket.sock).close socket.epfd
    state := .closed }

/-! ## Attempts -/

/-- The socket has no descriptor, and what is open has not changed. -/
structure Rests (before after : TimingSocket Address) : Prop where
  state : after.state = before.state
  sock : after.sock < 0
  descriptors : Descriptors.Same before.descriptors after.descriptors

/-- The socket has a new descriptor, which is connected to an address; nothing else that
is open has changed. -/
structure Connects
    (before : TimingSocket Address) (address : Address)
    (after : TimingSocket Address) : Prop where
  sock : 0 ≤ after.sock
  new : after.sock.toNat ∉ before.descriptors.opened
  opened : after.descriptors.opened =
    before.descriptors.opened.insert after.sock.toNat (.socket (some address))

/-- An attempt that fails leaves things as they were for the next one. -/
theorem Connects.of_rests
    {before middle after : TimingSocket Address} {address : Address}
    (rests : Rests before middle)
    (connects : Connects middle address after) : Connects before address after where
  sock := connects.sock
  new := by
    rw [← rests.descriptors.opened]
    exact connects.new
  opened := by
    rw [← rests.descriptors.opened]
    exact connects.opened

theorem Rests.trans
    {before middle after : TimingSocket Address}
    (first : Rests before middle)
    (second : Rests middle after) : Rests before after where
  state := second.state.trans first.state
  sock := second.sock
  descriptors := first.descriptors.trans second.descriptors

/-- What has happened after some attempts of which one may have reached an address. -/
def Tried
    (before : TimingSocket Address) (address : Address) (reached : Prop)
    (after : TimingSocket Address) : Prop :=
  reached ∧ Connects before address after ∨ ¬reached ∧ Rests before after

/-- A socket that has just been opened is closed again if it cannot be connected. -/
theorem connectSocket_of_opened
    (socket : TimingSocket Address) (address : Address) (connects : Bool) :
    Tried socket address connects
      ((socket.openSocket numbering true).connectSocket address connects) := by
  have isOpen : 0 ≤ (socket.openSocket numbering true).sock := Int.natCast_nonneg _
  unfold connectSocket
  cases connects with
  | false =>
      rw [if_neg (by simp)]
      exact Or.inr ⟨by simp, rfl, by simp,
        socket.descriptors.close_give numbering (.socket none)⟩
  | true =>
      rw [if_pos ⟨isOpen, rfl⟩]
      refine Or.inl ⟨rfl, isOpen, socket.descriptors.next_notMem numbering, ?_⟩
      exact congrArg Descriptors.opened
        (socket.descriptors.update_give numbering (.socket none) (.socket (some address)))

/-- Without a socket, connecting and closing have no effect. -/
theorem connectSocket_of_failed
    (socket : TimingSocket Address) (address : Address) (connects : Bool) :
    Rests socket
      ((socket.openSocket numbering false).connectSocket address connects) := by
  unfold connectSocket
  rw [if_neg (by simp [openSocket])]
  exact ⟨rfl, by simp, Descriptors.Same.refl _⟩

/-- An attempt either connects a new socket or leaves nothing open. -/
theorem attempt_tried
    (socket : TimingSocket Address)
    (address : Address)
    (attempt : Attempt) :
    Tried socket address attempt.Reaches
      ((socket.openSocket numbering attempt.opens).connectSocket address
        attempt.connects) := by
  unfold Attempt.Reaches
  cases attempt.opens with
  | false =>
      exact Or.inr ⟨by simp, connectSocket_of_failed numbering socket address _⟩
  | true =>
      simpa using connectSocket_of_opened numbering socket address attempt.connects

/-! ## Candidates -/

/-- One of the retries of a candidate, out of `left` ones behind some attempts, reaches
it. -/
def ReachesWithin (candidate : Candidate Address) (attempts left : Nat) : Prop :=
  ∃ number, attempts < number ∧ number ≤ attempts + left ∧
    (candidate.attempt number).Reaches

theorem reachesWithin_succ (candidate : Candidate Address) (attempts left : Nat) :
    ReachesWithin candidate attempts (left + 1) ↔
      (candidate.attempt (attempts + 1)).Reaches ∨
        ReachesWithin candidate (attempts + 1) left := by
  constructor
  · rintro ⟨number, behind, inside, reaches⟩
    rcases Nat.eq_or_lt_of_le behind with rfl | later
    · exact Or.inl reaches
    · exact Or.inr ⟨number, later, by omega, reaches⟩
  · rintro (reaches | ⟨number, behind, inside, reaches⟩)
    · exact ⟨attempts + 1, by omega, by omega, reaches⟩
    · exact ⟨number, by omega, by omega, reaches⟩

/-- A socket that is connected is not tried again. -/
theorem retry_of_sock
    {socket : TimingSocket Address}
    (candidate : Candidate Address)
    (connected : 0 ≤ socket.sock)
    (attempts left : Nat) :
    retry numbering candidate attempts left socket = socket := by
  cases left with
  | zero => rfl
  | succ left => rw [retry, if_neg (Int.not_lt.mpr connected)]

/-- The retries connect to the candidate with the first one that reaches it. -/
theorem retry_tried
    {socket : TimingSocket Address}
    (candidate : Candidate Address)
    (closed : socket.sock < 0)
    (attempts left : Nat) :
    Tried socket candidate.address (ReachesWithin candidate attempts left)
      (retry numbering candidate attempts left socket) := by
  induction left generalizing attempts socket with
  | zero =>
      refine Or.inr ⟨?_, rfl, closed, Descriptors.Same.refl _⟩
      rintro ⟨number, behind, inside, _⟩
      omega
  | succ left inductionHypothesis =>
      rw [retry, if_pos closed]
      rw [reachesWithin_succ]
      rcases attempt_tried numbering socket candidate.address
        (candidate.attempt (attempts + 1)) with ⟨reaches, connects⟩ | ⟨misses, rests⟩
      · rw [retry_of_sock numbering candidate connects.sock]
        exact Or.inl ⟨Or.inl reaches, connects⟩
      · rcases inductionHypothesis rests.sock (attempts + 1) with
          ⟨reaches, connects⟩ | ⟨miss, more⟩
        · exact Or.inl ⟨Or.inr reaches, connects.of_rests rests⟩
        · exact Or.inr ⟨not_or.mpr ⟨misses, miss⟩, rests.trans more⟩

end TimingSocket

/-- The first `socket` call for a candidate succeeds, and one of at most 101 attempts
reaches it. -/
def Candidate.Reachable (candidate : Candidate Address) : Prop :=
  (candidate.attempt 0).opens ∧
    ∃ number ≤ TimingSocket.MAX_ATTEMPTS, (candidate.attempt number).Reaches

/-- The attempt that reaches a candidate is the first one or one of the retries. -/
theorem Candidate.reachable_iff
    (candidate : Candidate Address)
    (opens : (candidate.attempt 0).opens) :
    candidate.Reachable ↔
      (candidate.attempt 0).connects ∨
        TimingSocket.ReachesWithin candidate 0 TimingSocket.MAX_ATTEMPTS := by
  unfold Reachable
  rw [and_iff_right opens]
  constructor
  · rintro ⟨number, inside, reaches⟩
    rcases Nat.eq_zero_or_pos number with rfl | behind
    · exact Or.inl reaches.2
    · exact Or.inr ⟨number, behind, by omega, reaches⟩
  · rintro (connects | ⟨number, _, inside, reaches⟩)
    · exact ⟨0, Nat.zero_le _, opens, connects⟩
    · exact ⟨number, by omega, reaches⟩

namespace TimingSocket

variable {Address : Type} (numbering : DescriptorNumbering)

/-- With a first socket, the attempts connect to the candidate if it is reachable. -/
theorem attempts_tried
    {candidate : Candidate Address}
    (opens : (candidate.attempt 0).opens)
    (socket : TimingSocket Address) :
    Tried socket candidate.address candidate.Reachable
      (retry numbering candidate 0 MAX_ATTEMPTS
        ((socket.openSocket numbering true).connectSocket candidate.address
          (candidate.attempt 0).connects)) := by
  rcases connectSocket_of_opened numbering socket candidate.address
    (candidate.attempt 0).connects with ⟨connects, reached⟩ | ⟨misses, rests⟩
  · rw [retry_of_sock numbering candidate reached.sock]
    exact Or.inl ⟨(candidate.reachable_iff opens).mpr (Or.inl connects), reached⟩
  · rcases retry_tried numbering candidate rests.sock 0 MAX_ATTEMPTS with
      ⟨reaches, reached⟩ | ⟨miss, more⟩
    · exact Or.inl ⟨(candidate.reachable_iff opens).mpr (Or.inr reaches),
        reached.of_rests rests⟩
    · refine Or.inr ⟨?_, rests.trans more⟩
      rw [candidate.reachable_iff opens]
      exact not_or.mpr ⟨misses, miss⟩

/-- A candidate that has been reached ends the `for` loop. -/
structure Establishes
    (before : TimingSocket Address) (address : Address)
    (after : TimingSocket Address) : Prop extends Connects before address after where
  state : after.state = .established

/-- The body of the `for` loop connects to the candidate if it is reachable. -/
theorem tryCandidate_cases (candidate : Candidate Address) (socket : TimingSocket Address) :
    candidate.Reachable ∧
        Establishes socket candidate.address (tryCandidate numbering candidate socket) ∨
      ¬candidate.Reachable ∧ Rests socket (tryCandidate numbering candidate socket) := by
  unfold tryCandidate
  cases opens : (candidate.attempt 0).opens with
  | false =>
      have rests : Rests socket (socket.openSocket numbering false) :=
        ⟨rfl, by simp [openSocket], Descriptors.Same.refl _⟩
      refine Or.inr ⟨?_, ?_⟩
      · rintro ⟨opened, _⟩
        simp [opens] at opened
      · simp only [rests.sock, if_true]
        exact rests
  | true =>
      have isOpen : 0 ≤ (socket.openSocket numbering true).sock := Int.natCast_nonneg _
      simp only [Int.not_lt.mpr isOpen, if_false]
      rcases attempts_tried numbering opens socket with
        ⟨reachable, connects⟩ | ⟨unreachable, rests⟩
      · simp only [Int.not_lt.mpr connects.sock, if_false]
        exact Or.inl ⟨reachable, ⟨connects.sock, connects.new, connects.opened⟩, rfl⟩
      · simp only [rests.sock, if_true]
        exact Or.inr ⟨unreachable, rests⟩

/-- The `for` loop connects to the first reachable candidate. -/
theorem tryCandidates_cases
    {socket : TimingSocket Address}
    (closed : socket.sock < 0)
    (candidates : List (Candidate Address)) :
    (∃ earlier candidate later, candidates = earlier ++ candidate :: later ∧
        (∀ other ∈ earlier, ¬other.Reachable) ∧ candidate.Reachable ∧
        Establishes socket candidate.address (tryCandidates numbering candidates socket)) ∨
      (∀ candidate ∈ candidates, ¬candidate.Reachable) ∧
        Rests socket (tryCandidates numbering candidates socket) := by
  induction candidates generalizing socket with
  | nil => exact Or.inr ⟨by simp, rfl, closed, Descriptors.Same.refl _⟩
  | cons candidate candidates inductionHypothesis =>
      unfold tryCandidates
      rcases tryCandidate_cases numbering candidate socket with
        ⟨reachable, established⟩ | ⟨unreachable, rests⟩
      · simp only [Int.not_lt.mpr established.sock, if_false]
        exact Or.inl ⟨[], candidate, candidates, rfl, by simp, reachable, established⟩
      · simp only [rests.sock, if_true]
        rcases inductionHypothesis rests.sock with
          ⟨earlier, found, later, rfl, skipped, reachable, established⟩ | ⟨none, more⟩
        · refine Or.inl ⟨candidate :: earlier, found, later, rfl, ?_, reachable,
            established.toConnects.of_rests rests, established.state⟩
          exact List.forall_mem_cons.mpr ⟨unreachable, skipped⟩
        · exact Or.inr ⟨List.forall_mem_cons.mpr ⟨unreachable, none⟩, rests.trans more⟩

/-! ## The whole call -/

end TimingSocket

/-- One of the candidates is reachable. -/
def Network.Reachable (network : Network Address) : Prop :=
  ∃ candidate ∈ network.candidates.getD [], candidate.Reachable

namespace TimingSocket

variable {Address : Type} (numbering : DescriptorNumbering)

/-- The first reachable candidate is connected to. -/
def Found
    (before : TimingSocket Address)
    (candidates : Option (List (Candidate Address)))
    (after : TimingSocket Address) : Prop :=
  ∃ earlier candidate later,
    candidates = some (earlier ++ candidate :: later) ∧
    (∀ other ∈ earlier, ¬other.Reachable) ∧ candidate.Reachable ∧
    Establishes before candidate.address after

theorem Found.reachable
    {before after : TimingSocket Address} {network : Network Address}
    (found : Found before network.candidates after) : network.Reachable := by
  obtain ⟨earlier, candidate, later, listed, _, reachable, _⟩ := found
  exact ⟨candidate, by simp [listed], reachable⟩

theorem Found.established
    {before after : TimingSocket Address} {candidates : Option (List (Candidate Address))}
    (found : Found before candidates after) : after.state = .established := by
  obtain ⟨_, _, _, _, _, _, establishes⟩ := found
  exact establishes.state

/-- The socket with its epoll instance. -/
def watched (socket : TimingSocket Address) : TimingSocket Address :=
  { socket with
    epfd := socket.descriptors.next numbering
    descriptors := socket.descriptors.give numbering .epoll }

/-- How a call of `connect` can end. -/
inductive Outcome
    (before : TimingSocket Address)
    (network : Network Address) : Except Fault Unit × TimingSocket Address → Prop
  /-- The first reachable candidate is connected to. -/
  | connected {middle : TimingSocket Address} :
      Found before network.candidates middle →
      network.epoll = .enabled →
      Outcome before network (.ok (), middle.watched numbering)
  /-- The socket cannot be watched, which ends the program. -/
  | aborted {after : TimingSocket Address} :
      network.Reachable →
      network.epoll ≠ .enabled →
      Outcome before network (.error .terminate, after)
  /-- No candidate is reachable, and nothing has changed. -/
  | refused {what : String} {after : TimingSocket Address} :
      ¬network.Reachable →
      after.state = before.state →
      after.descriptors.opened = before.descriptors.opened →
      Outcome before network (.error (.runtimeError what), after)

theorem watch_outcome
    {before middle : TimingSocket Address} {network : Network Address}
    (found : Found before network.candidates middle) :
    Outcome numbering before network (middle.watch numbering network.epoll) := by
  cases setup : network.epoll with
  | createFails => exact .aborted found.reachable (by simp [setup])
  | addFails => exact .aborted found.reachable (by simp [setup])
  | enabled => exact .connected found setup

/-- Every call of `connect` ends in one of these ways. -/
theorem connect_outcome
    (socket : TimingSocket Address)
    (host : String) (port : UInt16)
    (network : Network Address) :
    Outcome numbering socket network (socket.connect numbering host port network) := by
  unfold connect
  cases listed : network.candidates with
  | none => exact .refused (by simp [Network.Reachable, listed]) rfl rfl
  | some candidates =>
      have closed : TimingSocket.sock
          { socket with host := host, port := port.toNat, sock := -1 } < 0 :=
        Int.negSucc_lt_zero 0
      simp only
      rcases tryCandidates_cases numbering closed candidates with
        ⟨earlier, candidate, later, rfl, skipped, reachable, established⟩ |
          ⟨unreachable, rests⟩
      · rw [if_neg (Int.not_lt.mpr established.sock)]
        apply watch_outcome numbering
        refine ⟨earlier, candidate, later, listed, skipped, reachable, ?_⟩
        exact ⟨⟨established.sock, established.new, established.opened⟩, established.state⟩
      · rw [if_pos rests.sock]
        refine .refused ?_ rests.state rests.descriptors.opened
        rintro ⟨candidate, member, reachable⟩
        rw [listed] at member
        exact unreachable candidate member reachable

/-- What a call of `connect` comes to if the socket can be watched. -/
inductive Concludes
    (before : TimingSocket Address)
    (candidates : Option (List (Candidate Address))) :
    Except Fault Unit → TimingSocket Address → Prop
  /-- The call returns, with one more socket, which is connected to the first reachable
  candidate, and an epoll instance. -/
  | connected {earlier later : List (Candidate Address)} {candidate : Candidate Address}
      {after : TimingSocket Address} {sock epfd : Nat} :
      candidates = some (earlier ++ candidate :: later) →
      (∀ other ∈ earlier, ¬other.Reachable) →
      candidate.Reachable →
      after.state = .established →
      after.sock = sock →
      after.epfd = epfd →
      sock ∉ before.descriptors.opened →
      epfd ∉ before.descriptors.opened.insert sock (.socket (some candidate.address)) →
      after.descriptors.opened =
        (before.descriptors.opened.insert sock (.socket (some candidate.address))).insert
          epfd .epoll →
      Concludes before candidates (.ok ()) after
  /-- The call throws, and no candidate is reachable. -/
  | refused {after : TimingSocket Address} {what : String} :
      (∀ candidate ∈ candidates.getD [], ¬candidate.Reachable) →
      after.state = before.state →
      after.descriptors.opened = before.descriptors.opened →
      Concludes before candidates (.error (.runtimeError what)) after

/-- Where epoll works, `connect` connects to the first reachable candidate with one new
socket, or throws and leaves the state and the open descriptors as they were. -/
theorem connect_concludes
    (socket : TimingSocket Address)
    (host : String) (port : UInt16)
    (candidates : Option (List (Candidate Address))) :
    Concludes socket candidates
      (socket.connect numbering host port ⟨candidates, .enabled⟩).1
      (socket.connect numbering host port ⟨candidates, .enabled⟩).2 := by
  have outcome := connect_outcome numbering socket host port ⟨candidates, .enabled⟩
  generalize socket.connect numbering host port ⟨candidates, .enabled⟩ = call at outcome
  cases outcome with
  | @connected middle found _ =>
      obtain ⟨earlier, candidate, later, listed, skipped, reachable, established⟩ := found
      have isNew := middle.descriptors.next_notMem numbering
      rw [established.opened] at isNew
      refine .connected listed skipped reachable established.state
        (Int.toNat_of_nonneg established.sock).symm rfl established.new isNew ?_
      rw [← established.opened]
      rfl
  | aborted _ failed => exact absurd rfl failed
  | refused unreachable state opened =>
      refine .refused ?_ state opened
      intro candidate member reachable
      exact unreachable ⟨candidate, member, reachable⟩

end TimingSocket

end Socket
end NetworkTiming
