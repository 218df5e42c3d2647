import NetworkTiming.Library.Machine
import NetworkTiming.Socket.SocketState

/-!
# The descriptors of a server socket

A `ServerSocket` holds three descriptors, of which it remembers only whether there is a
client.  Its destructor closes what it takes to be open.  Whether every descriptor is
closed once is decided by the order of the calls.
-/

namespace NetworkTiming

namespace Socket

/-- A `ServerSocket` object, with the descriptors that it has obtained. -/
structure ServerSocket (Address : Type) where
  port : Int
  sock : Int
  clientSock : Int
  epfd : Int
  hasClient : Bool
  descriptors : Descriptors (Opened Address)

/-- What the calls of `ServerSocket::bind` come to. -/
inductive BindResult
  /-- `socket` fails. -/
  | unopened (errno : Errno)
  /-- `setsockopt` with `IPV6_V6ONLY` fails. -/
  | onlyIpv6 (errno : Errno)
  /-- `setsockopt` with `SO_REUSEADDR` fails. -/
  | unshared (errno : Errno)
  /-- `::bind` fails. -/
  | unbound (errno : Errno)
  | bound

/-- What the calls of `ServerSocket::accept` come to. -/
inductive AcceptResult (Address : Type)
  /-- `::accept` fails. -/
  | unaccepted (errno : Errno)
  | accepted (peer : Address) (epoll : EpollSetup)

/-- The calls that a `ServerSocket` receives, with what they come to. -/
inductive ServerCall (Address : Type)
  | bind (port : Int) (result : BindResult)
  /-- `::listen` may fail. -/
  | listen (result : Except Errno Unit)
  | accept (result : AcceptResult Address)
  | closeClient
  | close

namespace ServerSocket

variable {Address : Type} (numbering : DescriptorNumbering)

/-- A socket right after its construction; the descriptors are indeterminate. -/
def created (port sock clientSock epfd : Int) : ServerSocket Address where
  port := port
  sock := sock
  clientSock := clientSock
  epfd := epfd
  hasClient := false
  descriptors := {}

/-- `ServerSocket::bind`. -/
def bind (server : ServerSocket Address) (port : Int) :
    BindResult → Except Fault Unit × ServerSocket Address
  | .unopened errno =>
      (.error (.runtimeError
        ("ServerSocket: Unable to open socket. Reason: " ++ strerror errno)),
        { server with port := port, sock := -1 })
  | .onlyIpv6 errno =>
      (.error (.runtimeError
        ("ServerSocket: Can't listen on ipv4 and ipv6. Reason: " ++ strerror errno)),
        opening)
  | .unshared errno =>
      (.error (.runtimeError
        ("ServerSocket: Can't set SO_REUSEADDR. Reason: " ++ strerror errno)), opening)
  | .unbound errno =>
      (.error (.runtimeError
        ("ServerSocket: Unable to bind socket. Reason: " ++ strerror errno)), opening)
  | .bound => (.ok (), opening)
where
  opening : ServerSocket Address :=
    { server with
      port := port
      sock := server.descriptors.next numbering
      descriptors := server.descriptors.give numbering (.socket none) }

/-- `ServerSocket::listen`. -/
def listen : Except Errno Unit → Except Fault Unit
  | .error errno =>
      .error (.runtimeError
        ("ServerSocket: Unable to listen on socket. Reason: " ++ strerror errno))
  | .ok () => .ok ()

/-- `ServerSocket::accept`. -/
def accept (server : ServerSocket Address) :
    AcceptResult Address → Except Fault Unit × ServerSocket Address
  | .unaccepted errno =>
      (.error (.runtimeError
        ("ServerSocket: Unable to accept client socket. Reason: " ++ strerror errno)),
        { server with clientSock := -1 })
  | .accepted peer epoll =>
      let server := { server with
        clientSock := server.descriptors.next numbering
        descriptors := server.descriptors.give numbering (.socket (some peer)) }
      match enableEpollWithEvents numbering server.descriptors epoll with
      | (.error fault, descriptors) =>
          (.error fault, { server with descriptors := descriptors })
      | (.ok epfd, descriptors) =>
          (.ok (), { server with
            epfd := epfd
            hasClient := true
            descriptors := descriptors })

/-- `ServerSocket::close_client`. -/
def closeClient (server : ServerSocket Address) : ServerSocket Address :=
  { server with
    descriptors := (server.descriptors.close server.clientSock).close server.epfd
    hasClient := false }

/-- `ServerSocket::close`. -/
def close (server : ServerSocket Address) : ServerSocket Address :=
  { server with descriptors := server.descriptors.close server.sock }

/-- `ServerSocket::~ServerSocket`. -/
def destroy (server : ServerSocket Address) : ServerSocket Address :=
  if server.hasClient then server.closeClient.close else server.close

/-- Whether a call returns, and the socket behind it. -/
def perform (server : ServerSocket Address) :
    ServerCall Address → Except Fault Unit × ServerSocket Address
  | .bind port result => server.bind numbering port result
  | .listen result => (listen result, server)
  | .accept result => server.accept numbering result
  | .closeClient => (.ok (), server.closeClient)
  | .close => (.ok (), server.close)

/-- A call after which the program goes on. -/
def step (server : ServerSocket Address) (call : ServerCall Address) :
    Option (ServerSocket Address) :=
  goesOn (some (server.perform numbering call))

/-- Every descriptor has been closed, and no other number has. -/
structure Balanced (server : ServerSocket Address) : Prop where
  closed : server.descriptors.opened = ∅
  owned : server.descriptors.stray = []

/-- Whatever numbers are given, and whatever the fields hold at first, the socket closes
each of its descriptors once and nothing else, once it has been destroyed behind the
calls. -/
def ClosesOnce (calls : List (ServerCall Address)) : Prop :=
  ∀ numbering port sock clientSock epfd final,
    Machine.run (step numbering) (created port sock clientSock epfd) calls = some final →
    final.destroy.Balanced

end ServerSocket

/-- The call ends the program, because the events of the client cannot be watched. -/
def ServerCall.Ends {Address : Type} : ServerCall Address → Prop
  | .accept (.accepted _ .createFails) => True
  | .accept (.accepted _ .addFails) => True
  | _ => False

/-! ## The order of the calls -/

/-- What the field `sock` holds. -/
inductive Listener
  /-- What was there before the first `bind`. -/
  | indeterminate
  /-- The result of a `socket` call that has failed. -/
  | failed
  | opened
  /-- A descriptor that has been closed. -/
  | closed
  deriving DecidableEq

/-- What a server holds, as far as the order of the calls decides it. -/
structure Holdings where
  listener : Listener
  client : Bool
  deriving DecidableEq

/-- The socket of a `bind` call has been opened. -/
def BindResult.listener : BindResult → Listener
  | .unopened _ => .failed
  | .onlyIpv6 _ | .unshared _ | .unbound _ | .bound => .opened

/-- `close` closes nothing, or what is open. -/
def Listener.Closable (listener : Listener) : Prop :=
  listener = .opened ∨ listener = .failed

instance (listener : Listener) : Decidable listener.Closable :=
  inferInstanceAs (Decidable (_ ∨ _))

/-- `close` has been called. -/
def Listener.close : Listener → Listener
  | .opened => .closed
  | listener => listener

namespace Holdings

variable {Address : Type}

/-- The holdings of a new socket. -/
def initial : Holdings := ⟨.indeterminate, false⟩

/-- The holdings behind a call. -/
def after (holdings : Holdings) : ServerCall Address → Holdings
  | .bind _ result => { holdings with listener := result.listener }
  | .listen _ => holdings
  | .accept (.unaccepted _) => holdings
  | .accept (.accepted _ _) => { holdings with client := true }
  | .closeClient => { holdings with client := false }
  | .close => { holdings with listener := holdings.listener.close }

/-- A call neither loses a descriptor nor closes what is not held. -/
def Allows (holdings : Holdings) : ServerCall Address → Prop
  | .bind _ _ => holdings.listener ≠ .opened
  | .listen _ => True
  | .accept _ => holdings.client = false
  | .closeClient => holdings.client
  | .close => holdings.listener.Closable

instance (holdings : Holdings) : (call : ServerCall Address) → Decidable (holdings.Allows call)
  | .bind _ _ => inferInstanceAs (Decidable (_ ≠ _))
  | .listen _ => inferInstanceAs (Decidable True)
  | .accept _ => inferInstanceAs (Decidable (_ = _))
  | .closeClient => inferInstanceAs (Decidable (_ = _))
  | .close => inferInstanceAs (Decidable (Listener.Closable _))

/-- Every call is allowed, and so is the destruction behind them. -/
def WellOrdered (holdings : Holdings) : List (ServerCall Address) → Prop
  | [] => holdings.listener.Closable
  | call :: calls => holdings.Allows call ∧ (holdings.after call).WellOrdered calls

instance decidableWellOrdered (holdings : Holdings) :
    (calls : List (ServerCall Address)) → Decidable (holdings.WellOrdered calls)
  | [] => inferInstanceAs (Decidable (Listener.Closable _))
  | call :: calls =>
      have := decidableWellOrdered (holdings.after call) calls
      inferInstanceAs (Decidable (_ ∧ _))

end Holdings

namespace ServerSocket

variable {Address : Type} {numbering : DescriptorNumbering} {holdings : Holdings}
  {server next : ServerSocket Address} {call : ServerCall Address}

/-- Every call ends in one state, unless it ends the program. -/
theorem step_eq_some_iff :
    server.step numbering call = some next ↔
      (server.perform numbering call).1 ≠ .error .terminate ∧
        (server.perform numbering call).2 = next := by
  unfold step
  rw [goesOn_eq_some_iff]
  constructor
  · rintro ⟨result, performed, survived⟩
    rw [Option.some.inj performed]
    exact ⟨survived, rfl⟩
  · rintro ⟨survived, rfl⟩
    exact ⟨_, rfl, survived⟩

/-- What the calls do that do not end the program. -/
inductive Effect (numbering : DescriptorNumbering) (server : ServerSocket Address) :
    ServerCall Address → ServerSocket Address → Prop
  | opened {port : Int} {result : BindResult} :
      result.listener = .opened →
      Effect numbering server (.bind port result) (bind.opening numbering server port)
  | unopened {port : Int} {errno : Errno} :
      Effect numbering server (.bind port (.unopened errno))
        { server with port := port, sock := -1 }
  | listened {result : Except Errno Unit} : Effect numbering server (.listen result) server
  | unaccepted {errno : Errno} :
      Effect numbering server (.accept (.unaccepted errno)) { server with clientSock := -1 }
  | accepted {peer : Address} :
      Effect numbering server (.accept (.accepted peer .enabled))
        (server.accept numbering (.accepted peer .enabled)).2
  | clientClosed : Effect numbering server .closeClient server.closeClient
  | closed : Effect numbering server .close server.close

theorem step_effect (stepped : server.step numbering call = some next) :
    Effect numbering server call next := by
  obtain ⟨survived, ended⟩ := step_eq_some_iff.mp stepped
  subst ended
  cases call with
  | bind port result =>
      cases result with
      | unopened errno => exact .unopened
      | onlyIpv6 errno => exact .opened rfl
      | unshared errno => exact .opened rfl
      | unbound errno => exact .opened rfl
      | bound => exact .opened rfl
  | listen result => exact .listened
  | accept result =>
      cases result with
      | unaccepted errno => exact .unaccepted
      | accepted peer epoll =>
          cases epoll with
          | createFails => exact absurd rfl survived
          | addFails => exact absurd rfl survived
          | enabled => exact .accepted
  | closeClient => exact .clientClosed
  | close => exact .closed

theorem step_of_not_ends (survives : ¬call.Ends) :
    server.step numbering call = some (server.perform numbering call).2 := by
  rw [step_eq_some_iff, and_iff_left rfl]
  cases call with
  | bind port result => cases result <;> simp [perform, bind]
  | listen result => cases result <;> simp [perform, listen]
  | accept result =>
      cases result with
      | unaccepted errno => simp [perform, accept]
      | accepted peer epoll =>
          cases epoll with
          | createFails => exact absurd trivial survives
          | addFails => exact absurd trivial survives
          | enabled => simp [perform, accept, enableEpollWithEvents]
  | closeClient => simp [perform]
  | close => simp [perform]

/-- What is open is what the socket holds, under different numbers, and everything that
has been closed was open. -/
structure Tracks (holdings : Holdings) (server : ServerSocket Address) : Prop where
  stray : server.descriptors.stray = []
  client : server.hasClient = holdings.client
  failed : holdings.listener = .failed → server.sock = -1
  isOpen : ∀ fd, server.descriptors.IsOpen fd ↔
    holdings.listener = .opened ∧ fd = server.sock ∨
      holdings.client ∧ (fd = server.clientSock ∨ fd = server.epfd)
  apart : holdings.client → server.clientSock ≠ server.epfd
  listenerApart : holdings.listener = .opened → holdings.client →
    server.sock ≠ server.clientSock ∧ server.sock ≠ server.epfd

theorem tracks_created (port sock clientSock epfd : Int) :
    Tracks .initial (created port sock clientSock epfd : ServerSocket Address) where
  stray := rfl
  client := rfl
  failed := by simp [Holdings.initial]
  isOpen fd := by
    have nothing := (Descriptors.opened_eq_empty_iff
      (created port sock clientSock epfd : ServerSocket Address).descriptors).mp rfl fd
    simp [Holdings.initial, nothing]
  apart := by simp [Holdings.initial]
  listenerApart := by simp [Holdings.initial]

namespace Tracks

/-- A new number is none of those that are held. -/
theorem next_ne (tracks : Tracks holdings server) :
    (holdings.client → (server.descriptors.next numbering : Int) ≠ server.clientSock ∧
      (server.descriptors.next numbering : Int) ≠ server.epfd) ∧
    (holdings.listener = .opened →
      (server.descriptors.next numbering : Int) ≠ server.sock) := by
  have new := server.descriptors.not_isOpen_next numbering
  rw [tracks.isOpen] at new
  tauto

theorem opening (tracks : Tracks holdings server)
    (allowed : holdings.listener ≠ .opened) (port : Int) :
    Tracks { holdings with listener := .opened } (bind.opening numbering server port) where
  stray := tracks.stray
  client := tracks.client
  failed := by simp
  isOpen fd := by
    change (server.descriptors.give numbering (.socket none)).IsOpen fd ↔
      _ ∧ fd = server.descriptors.next numbering ∨ holdings.client ∧
        (fd = server.clientSock ∨ fd = server.epfd)
    rw [Descriptors.isOpen_give, tracks.isOpen]
    simp [allowed]
  apart := tracks.apart
  listenerApart _ client := (tracks.next_ne.1 client)

theorem unopened (tracks : Tracks holdings server)
    (allowed : holdings.listener ≠ .opened) (port : Int) :
    Tracks { holdings with listener := .failed }
      { server with port := port, sock := -1 } where
  stray := tracks.stray
  client := tracks.client
  failed _ := rfl
  isOpen fd := by
    change server.descriptors.IsOpen fd ↔ _
    rw [tracks.isOpen]
    simp [allowed]
  apart := tracks.apart
  listenerApart := by simp

theorem unaccepted (tracks : Tracks holdings server) (allowed : holdings.client = false) :
    Tracks holdings { server with clientSock := -1 } where
  stray := tracks.stray
  client := tracks.client
  failed := tracks.failed
  isOpen fd := by
    change server.descriptors.IsOpen fd ↔ _
    rw [tracks.isOpen]
    simp [allowed]
  apart := by simp [allowed]
  listenerApart := by simp [allowed]

theorem closeClient (tracks : Tracks holdings server) (client : holdings.client) :
    Tracks { holdings with client := false } server.closeClient where
  stray := by
    have clientOpen := (tracks.isOpen server.clientSock).mpr (Or.inr ⟨client, Or.inl rfl⟩)
    have epollOpen := (tracks.isOpen server.epfd).mpr (Or.inr ⟨client, Or.inr rfl⟩)
    change ((server.descriptors.close _).close _).stray = []
    rw [Descriptors.stray_close_of_isOpen, Descriptors.stray_close_of_isOpen, tracks.stray]
    · exact Or.inl clientOpen
    · rw [Descriptors.isOpen_close]
      exact Or.inl ⟨epollOpen, (tracks.apart client).symm⟩
  client := rfl
  failed := tracks.failed
  isOpen fd := by
    change ((server.descriptors.close _).close _).IsOpen fd ↔
      _ ∧ fd = server.sock ∨ _
    rw [Descriptors.isOpen_close, Descriptors.isOpen_close, tracks.isOpen]
    have listenerApart := tracks.listenerApart
    grind
  apart := by simp
  listenerApart := by simp

theorem close (tracks : Tracks holdings server) (closable : holdings.listener.Closable) :
    Tracks { holdings with listener := holdings.listener.close } server.close where
  stray := by
    change (server.descriptors.close _).stray = []
    rw [Descriptors.stray_close_of_isOpen, tracks.stray]
    rcases closable with opened | failed
    · exact Or.inl ((tracks.isOpen _).mpr (Or.inl ⟨opened, rfl⟩))
    · rw [tracks.failed failed]
      exact Or.inr (by decide)
  client := tracks.client
  failed := by
    rcases closable with opened | failed
    · simp [opened, Listener.close]
    · exact fun _ => tracks.failed failed
  isOpen fd := by
    change (server.descriptors.close _).IsOpen fd ↔
      holdings.listener.close = .opened ∧ fd = server.sock ∨
        holdings.client ∧ (fd = server.clientSock ∨ fd = server.epfd)
    rw [Descriptors.isOpen_close, tracks.isOpen]
    rcases closable with opened | failed
    · have apart := tracks.listenerApart opened
      simp only [opened, Listener.close]
      grind
    · have client (held : holdings.client) := (tracks.isOpen fd).mpr ∘ fun same =>
        Or.inr ⟨held, same⟩
      have nonneg (isOpen : server.descriptors.IsOpen fd) := isOpen.nonneg
      rw [tracks.failed failed]
      simp only [failed, Listener.close]
      grind
  apart := tracks.apart
  listenerApart opened := by
    rcases closable with isOpen | failed
    · simp [isOpen, Listener.close] at opened
    · simp [failed, Listener.close] at opened

/-- A server with a client that has just been accepted. -/
theorem accepted (tracks : Tracks holdings server)
    (allowed : holdings.client = false) (peer : Address) :
    Tracks { holdings with client := true }
      (server.accept numbering (.accepted peer .enabled)).2 := by
  have new := server.descriptors.not_isOpen_next numbering
  have isOpen (fd : Int) := (server.descriptors.isOpen_give numbering
    (.socket (some peer)) fd)
  have newEpoll := (server.descriptors.give numbering
    (.socket (some peer))).not_isOpen_next numbering
  have held (fd : Int) := tracks.isOpen fd
  simp only [allowed, Bool.false_eq_true, false_and, or_false] at held
  rw [isOpen, not_or] at newEpoll
  rw [held, not_and] at new
  exact {
    stray := tracks.stray
    client := rfl
    failed := tracks.failed
    isOpen := by
      intro fd
      change ((server.descriptors.give _ _).give _ .epoll).IsOpen fd ↔
        holdings.listener = .opened ∧ fd = server.sock ∨ true ∧
          (fd = server.descriptors.next numbering ∨
            fd = (server.descriptors.give numbering
              (.socket (some peer))).next numbering)
      rw [Descriptors.isOpen_give, isOpen, held]
      grind
    apart := fun _ => Ne.symm newEpoll.1
    listenerApart := by
      intro opened _
      refine ⟨Ne.symm (new opened), ?_⟩
      intro same
      exact newEpoll.2 ((held _).mpr ⟨opened, same.symm⟩) }

/-- Allowed calls keep track of the holdings. -/
theorem step (tracks : Tracks holdings server)
    (allowed : holdings.Allows call)
    (stepped : server.step numbering call = some next) :
    Tracks (holdings.after call) next := by
  cases step_effect stepped with
  | @opened port result isOpened =>
      rw [Holdings.after, isOpened]
      exact tracks.opening allowed port
  | @unopened port errno => exact tracks.unopened allowed port
  | listened => exact tracks
  | unaccepted => exact tracks.unaccepted allowed
  | @accepted peer => exact tracks.accepted allowed peer
  | clientClosed => exact tracks.closeClient allowed
  | closed => exact tracks.close allowed

/-- The destruction closes what is held. -/
theorem destroy (tracks : Tracks holdings server) (closable : holdings.listener.Closable) :
    server.destroy.Balanced := by
  have closed : ∃ last : Holdings, last.client = false ∧ last.listener ≠ .opened ∧
      Tracks last server.destroy := by
    have listener : holdings.listener.close ≠ .opened := by
      cases holdings.listener <;> simp [Listener.close]
    unfold ServerSocket.destroy
    rw [tracks.client]
    cases client : holdings.client with
    | false =>
        refine ⟨_, ?_, listener, tracks.close closable⟩
        exact client
    | true => exact ⟨_, rfl, listener, (tracks.closeClient client).close closable⟩
  obtain ⟨last, client, listener, tracks⟩ := closed
  refine ⟨?_, tracks.stray⟩
  rw [Descriptors.opened_eq_empty_iff]
  intro fd
  rw [tracks.isOpen]
  simp [client, listener]

end Tracks

/-- A well-ordered run ends with nothing open. -/
theorem balanced_of_wellOrdered
    {calls : List (ServerCall Address)} {final : ServerSocket Address}
    (tracks : Tracks holdings server)
    (ordered : holdings.WellOrdered calls)
    (reached : Machine.run (step numbering) server calls = some final) :
    final.destroy.Balanced := by
  induction calls generalizing server holdings with
  | nil =>
      cases reached
      exact tracks.destroy ordered
  | cons call calls inductionHypothesis =>
      rw [Machine.run_cons, Option.bind_eq_some_iff] at reached
      obtain ⟨next, stepped, reached⟩ := reached
      exact inductionHypothesis (tracks.step ordered.1 stepped) ordered.2 reached

/-! ## Calls that are not allowed -/

/-- What the socket holds does not suffice to close everything, or something has been
closed that was not open. -/
def Lost (server : ServerSocket Address) : Prop :=
  server.descriptors.Loses [server.sock, server.clientSock, server.epfd]

theorem not_isOpen_neg_one (descriptors : Descriptors (Opened Address)) :
    ¬descriptors.IsOpen (-1) :=
  fun isOpen => absurd isOpen.nonneg (by decide)

theorem lost_of_stray (strayed : server.descriptors.stray ≠ []) : server.Lost :=
  Or.inl strayed

/-- `bind` loses what neither of the other fields holds. -/
theorem lost_bind
    (loses : server.descriptors.Loses [server.clientSock, server.epfd])
    (port : Int) (result : BindResult) :
    (server.bind numbering port result).2.Lost := by
  have opening : (bind.opening numbering server port).Lost :=
    Descriptors.Loses.give numbering loses (.socket none)
  cases result with
  | unopened errno =>
      change server.descriptors.Loses [-1, server.clientSock, server.epfd]
      refine loses.mono ?_
      simp [not_isOpen_neg_one]
  | onlyIpv6 errno => exact opening
  | unshared errno => exact opening
  | unbound errno => exact opening
  | bound => exact opening

/-- `accept` loses what neither of the other fields holds. -/
theorem lost_accept
    (loses : server.descriptors.Loses [server.sock, server.epfd])
    (result : AcceptResult Address) :
    (server.accept numbering result).2.Lost := by
  cases result with
  | unaccepted errno =>
      change server.descriptors.Loses [server.sock, -1, server.epfd]
      refine loses.mono ?_
      simp [not_isOpen_neg_one]
  | accepted peer epoll =>
      have client := Descriptors.Loses.give numbering loses (.socket (some peer))
      have both := Descriptors.Loses.give numbering client .epoll
      cases epoll with
      | createFails =>
          change (server.descriptors.give _ _).Loses
            [server.sock, server.descriptors.next numbering, server.epfd]
          exact client.mono (by simp)
      | addFails =>
          change (((server.descriptors.give numbering _).give numbering _).close _).Loses
            [server.sock, server.descriptors.next numbering, server.epfd]
          refine (both.close (by simp)).mono ?_
          simp
      | enabled =>
          change ((server.descriptors.give numbering _).give numbering _).Loses
            [server.sock, server.descriptors.next numbering,
              (server.descriptors.give numbering _).next numbering]
          exact both.mono (by simp)

namespace Lost

theorem closeClient (lost : server.Lost) : server.closeClient.Lost :=
  (Descriptors.Loses.close lost (by simp)).close (by simp)

theorem close (lost : server.Lost) : server.close.Lost := by
  change (server.descriptors.close server.sock).Loses
    [server.sock, server.clientSock, server.epfd]
  exact Descriptors.Loses.close lost (by simp)

/-- No call makes a loss good. -/
theorem perform (lost : server.Lost) (call : ServerCall Address) :
    (server.perform numbering call).2.Lost := by
  cases call with
  | bind port result => exact lost_bind (Descriptors.Loses.mono lost (by simp)) port result
  | listen result => exact lost
  | accept result => exact lost_accept (Descriptors.Loses.mono lost (by simp)) result
  | closeClient => exact lost.closeClient
  | close => exact lost.close

theorem destroy (lost : server.Lost) : server.destroy.Lost := by
  unfold ServerSocket.destroy
  split
  · exact lost.closeClient.close
  · exact lost.close

theorem not_balanced (lost : server.Lost) : ¬server.Balanced := by
  rintro ⟨closed, owned⟩
  rw [Descriptors.opened_eq_empty_iff] at closed
  rcases lost with strayed | ⟨fd, isOpen, _⟩
  · exact strayed owned
  · exact closed fd isOpen

/-- A loss remains for the rest of a run. -/
theorem run
    {calls : List (ServerCall Address)} {final : ServerSocket Address}
    (lost : server.Lost)
    (reached : Machine.run (step numbering) server calls = some final) : final.Lost := by
  refine @Machine.run_invariant _ _ (step numbering) server final calls
    (fun _history state => state.Lost) lost ?_ reached
  intro history state call next before lost stepped
  rw [← (step_eq_some_iff.mp stepped).2]
  exact lost.perform call

end Lost

/-- With numbers that are given in their order, and fields that name nothing open at
first, a field that is not held names what is closed. -/
structure Stale (holdings : Holdings) (server : ServerSocket Address) : Prop where
  bounded : server.descriptors.Bounded [server.sock, server.clientSock, server.epfd]
  listenerShut : ¬holdings.listener.Closable →
    0 ≤ server.sock ∧ ¬server.descriptors.IsOpen server.sock
  clientShut : holdings.client = false →
    ¬server.descriptors.IsOpen server.clientSock ∧
      0 ≤ server.epfd ∧ ¬server.descriptors.IsOpen server.epfd

theorem stale_created (port : Int) :
    Stale .initial (created port 0 0 0 : ServerSocket Address) := by
  have nothing := (Descriptors.opened_eq_empty_iff
    (created port 0 0 0 : ServerSocket Address).descriptors).mp rfl
  exact {
    bounded := by
      rintro fd (isOpen | isHeld)
      · exact absurd isOpen (nothing fd)
      · have zero : fd = 0 := by simpa [created] using isHeld
        rw [zero]
        exact Int.add_pos_of_nonneg_of_pos (Int.natCast_nonneg _) (by decide)
    listenerShut := fun _ => ⟨le_refl 0, nothing 0⟩
    clientShut := fun _ => ⟨nothing 0, le_refl 0, nothing 0⟩ }

namespace Stale

theorem opening (stale : Stale holdings server) (port : Int) :
    Stale { holdings with listener := .opened }
      (bind.opening .ascending server port) where
  bounded := by
    change (server.descriptors.give .ascending _).Bounded
      [server.descriptors.next .ascending, server.clientSock, server.epfd]
    exact (stale.bounded.give _).mono (by simp)
  listenerShut notClosable := absurd (Or.inl rfl) notClosable
  clientShut client := by
    obtain ⟨clientClosed, nonneg, epollClosed⟩ := stale.clientShut client
    have new := stale.bounded.next_notMem
    simp only [List.mem_cons, List.not_mem_nil, or_false, not_or] at new
    change ¬(server.descriptors.give _ _).IsOpen server.clientSock ∧
      0 ≤ server.epfd ∧ ¬(server.descriptors.give _ _).IsOpen server.epfd
    rw [Descriptors.isOpen_give, Descriptors.isOpen_give]
    exact ⟨not_or.mpr ⟨Ne.symm new.2.1, clientClosed⟩, nonneg,
      not_or.mpr ⟨Ne.symm new.2.2, epollClosed⟩⟩

theorem unopened (stale : Stale holdings server) (port : Int) :
    Stale { holdings with listener := .failed } { server with port := port, sock := -1 } where
  bounded := by
    change server.descriptors.Bounded [-1, server.clientSock, server.epfd]
    exact stale.bounded.mono (by simp)
  listenerShut notClosable := absurd (Or.inr rfl) notClosable
  clientShut := stale.clientShut

theorem unaccepted (stale : Stale holdings server) :
    Stale holdings { server with clientSock := -1 } where
  bounded := by
    change server.descriptors.Bounded [server.sock, -1, server.epfd]
    exact stale.bounded.mono (by simp)
  listenerShut := stale.listenerShut
  clientShut client := ⟨not_isOpen_neg_one _, (stale.clientShut client).2⟩

theorem accepted (stale : Stale holdings server) (peer : Address) :
    Stale { holdings with client := true }
      (server.accept .ascending (.accepted peer .enabled)).2 := by
  have client := stale.bounded.give (.socket (some peer))
  exact {
    bounded := by
      change ((server.descriptors.give .ascending _).give .ascending _).Bounded
        [server.sock, server.descriptors.next .ascending,
          (server.descriptors.give .ascending _).next .ascending]
      exact (client.give .epoll).mono (by simp)
    listenerShut := by
      intro notClosable
      obtain ⟨nonneg, closed⟩ := stale.listenerShut notClosable
      have newClient := stale.bounded.next_notMem
      have newEpoll := client.next_notMem
      rw [List.mem_cons, not_or] at newClient newEpoll
      rw [List.mem_cons, not_or] at newEpoll
      refine ⟨nonneg, ?_⟩
      change ¬((server.descriptors.give _ _).give _ .epoll).IsOpen server.sock
      rw [Descriptors.isOpen_give, Descriptors.isOpen_give, not_or, not_or]
      exact ⟨Ne.symm newEpoll.2.1, Ne.symm newClient.1, closed⟩
    clientShut := by simp }

theorem closeClient
    (stale : Stale holdings server)
    (tracks : Tracks holdings server)
    (client : holdings.client) :
    Stale { holdings with client := false } server.closeClient := by
  have isOpen (fd : Int) : server.closeClient.descriptors.IsOpen fd ↔
      (server.descriptors.IsOpen fd ∧ fd ≠ server.clientSock) ∧ fd ≠ server.epfd := by
    change ((server.descriptors.close _).close _).IsOpen fd ↔ _
    rw [Descriptors.isOpen_close, Descriptors.isOpen_close]
  have epollOpen := (tracks.isOpen server.epfd).mpr (Or.inr ⟨client, Or.inr rfl⟩)
  exact {
    bounded := (stale.bounded.close _).close _
    listenerShut := by
      intro notClosable
      obtain ⟨nonneg, closed⟩ := stale.listenerShut notClosable
      exact ⟨nonneg, fun remains => closed ((isOpen _).mp remains).1.1⟩
    clientShut := by
      intro _
      refine ⟨?_, epollOpen.nonneg, ?_⟩
      · exact fun remains => ((isOpen _).mp remains).1.2 rfl
      · exact fun remains => ((isOpen _).mp remains).2 rfl }

theorem close
    (stale : Stale holdings server)
    (tracks : Tracks holdings server)
    (closable : holdings.listener.Closable) :
    Stale { holdings with listener := holdings.listener.close } server.close := by
  have isOpen (fd : Int) : server.close.descriptors.IsOpen fd ↔
      server.descriptors.IsOpen fd ∧ fd ≠ server.sock :=
    server.descriptors.isOpen_close server.sock fd
  exact {
    bounded := stale.bounded.close _
    listenerShut := by
      intro notClosable
      refine ⟨?_, fun remains => ((isOpen _).mp remains).2 rfl⟩
      rcases closable with opened | failed
      · exact ((tracks.isOpen server.sock).mpr (Or.inl ⟨opened, rfl⟩)).nonneg
      · exact absurd (Or.inr (by simp [failed, Listener.close])) notClosable
    clientShut := by
      intro client
      obtain ⟨clientClosed, nonneg, epollClosed⟩ := stale.clientShut client
      refine ⟨fun remains => clientClosed ((isOpen _).mp remains).1, nonneg, ?_⟩
      exact fun remains => epollClosed ((isOpen _).mp remains).1 }

/-- Allowed calls keep the fields that are not held stale. -/
theorem step
    (stale : Stale holdings server)
    (tracks : Tracks holdings server)
    (allowed : holdings.Allows call)
    (stepped : server.step .ascending call = some next) :
    Stale (holdings.after call) next := by
  cases step_effect stepped with
  | @opened port result isOpened =>
      rw [Holdings.after, isOpened]
      exact stale.opening port
  | @unopened port errno => exact stale.unopened port
  | listened => exact stale
  | unaccepted => exact stale.unaccepted
  | @accepted peer => exact stale.accepted peer
  | clientClosed => exact stale.closeClient tracks allowed
  | closed => exact stale.close tracks allowed

/-- `close` closes a descriptor that is not held. -/
theorem lost_close
    (stale : Stale holdings server)
    (notClosable : ¬holdings.listener.Closable) : server.close.Lost := by
  obtain ⟨nonneg, closed⟩ := stale.listenerShut notClosable
  exact lost_of_stray (server.descriptors.stray_close_of_not_isOpen nonneg closed)

/-- The destruction closes a descriptor that is not held. -/
theorem lost_destroy
    (stale : Stale holdings server)
    (tracks : Tracks holdings server)
    (notClosable : ¬holdings.listener.Closable) : server.destroy.Lost := by
  unfold ServerSocket.destroy
  rw [tracks.client]
  split
  case isTrue client => exact (stale.closeClient tracks client).lost_close notClosable
  case isFalse => exact stale.lost_close notClosable

/-- A call that is not allowed loses a descriptor, or closes one that is not held. -/
theorem lost_of_not_allows
    (stale : Stale holdings server)
    (tracks : Tracks holdings server)
    (forbidden : ¬holdings.Allows call) :
    (server.perform .ascending call).2.Lost := by
  cases call with
  | bind port result =>
      -- the listening socket, whose number is overwritten
      have opened : holdings.listener = .opened := not_not.mp forbidden
      have isOpen := (tracks.isOpen server.sock).mpr (Or.inl ⟨opened, rfl⟩)
      apply lost_bind
      refine Or.inr ⟨server.sock, isOpen, ?_⟩
      rw [List.mem_pair, not_or]
      cases client : holdings.client with
      | false =>
          obtain ⟨clientClosed, _, epollClosed⟩ := stale.clientShut client
          constructor
          · intro same
            exact clientClosed (same ▸ isOpen)
          · intro same
            exact epollClosed (same ▸ isOpen)
      | true => exact tracks.listenerApart opened client
  | listen result => exact absurd trivial forbidden
  | accept result =>
      -- the socket of the client, whose number is overwritten
      have client : holdings.client := Bool.not_eq_false _ ▸ forbidden
      have isOpen := (tracks.isOpen server.clientSock).mpr (Or.inr ⟨client, Or.inl rfl⟩)
      apply lost_accept
      refine Or.inr ⟨server.clientSock, isOpen, ?_⟩
      rw [List.mem_pair, not_or]
      refine ⟨?_, tracks.apart client⟩
      intro same
      by_cases closable : holdings.listener.Closable
      · rcases closable with opened | failed
        · exact (tracks.listenerApart opened client).1 same.symm
        · rw [same, tracks.failed failed] at isOpen
          exact not_isOpen_neg_one _ isOpen
      · exact (stale.listenerShut closable).2 (same ▸ isOpen)
  | closeClient =>
      obtain ⟨_, nonneg, closed⟩ := stale.clientShut (Bool.eq_false_of_not_eq_true forbidden)
      apply lost_of_stray
      apply Descriptors.stray_close_of_not_isOpen _ nonneg
      rw [Descriptors.isOpen_close]
      exact fun remains => closed remains.1
  | close => exact stale.lost_close forbidden

end Stale

/-- A run that is not well-ordered does not end in balance. -/
theorem not_balanced_of_not_wellOrdered
    {calls : List (ServerCall Address)} {final : ServerSocket Address}
    (stale : Stale holdings server)
    (tracks : Tracks holdings server)
    (disordered : ¬holdings.WellOrdered calls)
    (reached : Machine.run (step .ascending) server calls = some final) :
    ¬final.destroy.Balanced := by
  induction calls generalizing server holdings with
  | nil =>
      cases reached
      exact (stale.lost_destroy tracks disordered).not_balanced
  | cons call calls inductionHypothesis =>
      rw [Machine.run_cons, Option.bind_eq_some_iff] at reached
      obtain ⟨next, stepped, reached⟩ := reached
      by_cases allowed : holdings.Allows call
      · have later : ¬(holdings.after call).WellOrdered calls :=
          fun rest => disordered ⟨allowed, rest⟩
        exact inductionHypothesis (stale.step tracks allowed stepped)
          (tracks.step allowed stepped) later reached
      · have lost := stale.lost_of_not_allows tracks allowed
        rw [(step_eq_some_iff.mp stepped).2] at lost
        exact (lost.run reached).destroy.not_balanced

/-! ## Whole runs -/

/-- The calls go on unless one of them ends the program. -/
theorem exists_run
    {calls : List (ServerCall Address)}
    (survived : ∀ call ∈ calls, ¬call.Ends) :
    ∃ final, Machine.run (step numbering) server calls = some final := by
  induction calls generalizing server with
  | nil => exact ⟨server, rfl⟩
  | cons call calls inductionHypothesis =>
      rw [List.forall_mem_cons] at survived
      obtain ⟨final, reached⟩ :=
        @inductionHypothesis (server.perform numbering call).2 survived.2
      refine ⟨final, ?_⟩
      rw [Machine.run_cons, step_of_not_ends survived.1, Option.bind_some]
      exact reached

/-- A socket closes each of its descriptors once if and only if its calls are
well-ordered. -/
theorem closesOnce_iff_wellOrdered
    (calls : List (ServerCall Address))
    (survived : ∀ call ∈ calls, ¬call.Ends) :
    ClosesOnce calls ↔ Holdings.initial.WellOrdered calls := by
  constructor
  · intro closesOnce
    obtain ⟨final, reached⟩ := exists_run survived
    by_contra disordered
    exact not_balanced_of_not_wellOrdered (stale_created 0) (tracks_created 0 0 0 0)
      disordered reached (closesOnce .ascending 0 0 0 0 final reached)
  · intro ordered numbering port sock clientSock epfd final reached
    exact balanced_of_wellOrdered (tracks_created port sock clientSock epfd) ordered reached

/-- A server whose client is closed, and whose destructor closes the listening socket. -/
theorem closesOnce_serving :
    ClosesOnce [.bind 1337 .bound, .listen (.ok ()), .accept (.accepted 7 .enabled),
      (.closeClient : ServerCall Nat)] := by
  rw [closesOnce_iff_wellOrdered _ (by simp [ServerCall.Ends])]
  decide

/-- The test server also closes the listening socket, which its destructor closes again. -/
theorem not_closesOnce_cleanUp :
    ¬ClosesOnce [.bind 1337 .bound, .listen (.ok ()), .accept (.accepted 7 .enabled),
      .closeClient, (.close : ServerCall Nat)] := by
  intro closesOnce
  have balanced := closesOnce .ascending 1337 0 0 0 _ rfl
  exact absurd balanced.owned (by decide)

end ServerSocket

end Socket

end NetworkTiming
