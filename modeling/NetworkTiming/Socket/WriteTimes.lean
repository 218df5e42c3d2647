import Mathlib.Data.List.ReduceOption
import NetworkTiming.Library.Channel
import NetworkTiming.Library.Machine
import NetworkTiming.Socket.TxTimestamp

/-!
# The times of writes

All writes of a socket share its error queue.  A write searches there for its own frame,
behind frames that earlier writes have left and others that the network has had sent once
more, and takes the first one that carries the bytes it looks for.
-/

namespace NetworkTiming

namespace KernelTimingSocket

open TimingProxy (TIMESTAMPING_MESSAGE_MAX_RETRIES)

/-! ## The queue -/

/-- A write that looks for its timestamp. -/
structure Pending where
  /-- The frame in which the bytes have left. -/
  own : SentFrame
  /-- The number of this frame among all that have been put on the queue. -/
  place : Nat
  /-- What stood on the queue when the bytes were written. -/
  ahead : List SentFrame
  /-- What the retries have got so far. -/
  seen : List (Option SentFrame)

/-- A write that has found a timestamp. -/
structure Timed extends Pending where
  found : SentFrame
  /-- The number of the frame that has been found. -/
  foundPlace : Nat

/-- What `getTxTimestamp` does. -/
inductive Search
  | idle
  | searching (pending : Pending)
  | failed (pending : Pending) (fault : Fault)

/-- How many writes are not timed yet. -/
def Search.waiting : Search → Nat
  | .idle => 0
  | .searching _ | .failed _ _ => 1

/-- A socket with its error queue. -/
structure WriteTimes where
  messages : Channel SentFrame
  socket : KernelTimingSocket
  search : Search
  times : List Timed

/-- What happens to a socket and its error queue. -/
inductive QueueEvent
  /-- A write hands its bytes to the network, in one frame. -/
  | writes (own : SentFrame)
  /-- Another frame leaves, for a retransmission. -/
  | resent (sent : SentFrame)
  /-- The kernel reports frames that have left. -/
  | arrives (count : Nat)
  /-- `getTxTimestamp` looks at the queue. -/
  | retries

namespace WriteTimes

variable (text : AddressFamily → List UInt8 → String)

def start (socket : KernelTimingSocket) : WriteTimes := ⟨.empty, socket, .idle, []⟩

/-- A retry of `getTxTimestamp`, which takes a message from the queue if there is one. -/
def retried (state : WriteTimes) (pending : Pending) : WriteTimes :=
  match state.messages.arrived with
  | [] => { state with search := .searching { pending with seen := pending.seen ++ [none] } }
  | sent :: _ =>
      let looked : Pending := { pending with seen := pending.seen ++ [some sent] }
      let rest := state.messages.pull 1
      match (retry (succeeding text) pending.own.frame.payload
          (.received sent.message)).result with
      | .ok true =>
          { messages := rest
            socket := { state.socket with
              txTimestamp :=
                state.socket.tstampSource.select (timestampsOf (.received sent.message)) }
            search := .idle
            times := state.times ++ [⟨looked, sent, state.messages.taken.length⟩] }
      | .ok false => { state with messages := rest, search := .searching looked }
      | .error fault => { state with messages := rest, search := .failed looked fault }

/-- A write begins its search when its bytes have left, and the next write waits for its
end. -/
def step (state : WriteTimes) : QueueEvent → Option WriteTimes
  | .writes own =>
      match state.search with
      | .idle => some { state with
          messages := state.messages.push [own]
          search := .searching
            ⟨own, state.messages.sent.length, state.messages.unread, []⟩ }
      | .searching _ | .failed _ _ => none
  | .resent sent => some { state with messages := state.messages.push [sent] }
  | .arrives count => some { state with messages := state.messages.deliver count }
  | .retries =>
      match state.search with
      | .searching pending =>
          if pending.seen.length < TIMESTAMPING_MESSAGE_MAX_RETRIES then
            some (state.retried text pending)
          else
            some { state with search := .failed pending (.runtimeError
              ("Could not get TX timestamp from interface " ++ state.socket.device)) }
      | .idle | .failed _ _ => none

section Inversion

variable {text} {state next : WriteTimes}

theorem step_writes
    {own : SentFrame} (stepped : state.step text (.writes own) = some next) :
    state.search = .idle ∧ next = { state with
      messages := state.messages.push [own]
      search := .searching ⟨own, state.messages.sent.length, state.messages.unread, []⟩ } := by
  rw [step] at stepped
  split at stepped
  · exact ⟨‹_›, (Option.some.inj stepped).symm⟩
  · cases stepped
  · cases stepped

theorem step_retries (stepped : state.step text .retries = some next) :
    ∃ pending, state.search = .searching pending ∧
      (pending.seen.length < TIMESTAMPING_MESSAGE_MAX_RETRIES ∧
          next = state.retried text pending ∨
        TIMESTAMPING_MESSAGE_MAX_RETRIES ≤ pending.seen.length ∧
          next = { state with search := .failed pending (.runtimeError
            ("Could not get TX timestamp from interface " ++ state.socket.device)) }) := by
  rw [step] at stepped
  split at stepped
  · refine ⟨_, ‹_›, ?_⟩
    split at stepped
    · exact .inl ⟨‹_›, (Option.some.inj stepped).symm⟩
    · exact .inr ⟨Nat.le_of_not_lt ‹_›, (Option.some.inj stepped).symm⟩
  · cases stepped
  · cases stepped

end Inversion

/-! ## What a search finds -/

/-- A retry skips what it gets. -/
def Misses (data : List UInt8) (result : Option SentFrame) : Prop :=
  (retry (succeeding text) data (resultOf result)).result = .ok false

/-- The frame is taken for that of the bytes. -/
def Hits (data : List UInt8) (sent : SentFrame) : Prop :=
  (retry (succeeding text) data (.received sent.message)).result = .ok true

/-- The results that the retries have got, and anything behind them. -/
def Supplies
    (seen : List (Option SentFrame)) (queue : Nat → RecvmsgResult DATA_BUF_SIZE) : Prop :=
  ∀ index, (inside : index < seen.length) → queue index = resultOf seen[index]

section Searches

variable {text} {data : List UInt8} {seen : List (Option SentFrame)} {sent : SentFrame}
  {queue : Nat → RecvmsgResult DATA_BUF_SIZE}

theorem Supplies.front {last : Option SentFrame} (supplies : Supplies (seen ++ [last]) queue) :
    Supplies seen queue := by
  intro index inside
  rw [supplies index (by rw [List.length_append]; exact Nat.lt_add_right _ inside),
    List.getElem_append_left inside]

theorem Supplies.last (supplies : Supplies (seen ++ [some sent]) queue) :
    queue seen.length = .received sent.message := by
  rw [supplies seen.length (by simp), List.getElem_concat_length rfl]
  rfl

theorem Supplies.misses
    (supplies : Supplies seen queue) (missed : ∀ result ∈ seen, Misses text data result) :
    ∀ index < seen.length, (retry (succeeding text) data (queue index)).result = .ok false := by
  intro index inside
  rw [supplies index inside]
  exact missed _ (List.getElem_mem inside)

/-- A search that hits with its last result ends with the timestamp of its frame. -/
theorem Supplies.getTxTimestamp_of_hits
    (supplies : Supplies (seen ++ [some sent]) queue)
    (few : seen.length < TIMESTAMPING_MESSAGE_MAX_RETRIES)
    (missed : ∀ result ∈ seen, Misses text data result) (hits : Hits text data sent)
    (socket : KernelTimingSocket) :
    getTxTimestamp (succeeding text) socket data queue = (.ok (), { socket with
      txTimestamp := socket.tstampSource.select (timestampsOf (.received sent.message)) }) := by
  rw [← supplies.last]
  apply getTxTimestamp_of_some
  apply Retry.search_eq_some_of_first few (supplies.front.misses missed)
  rw [supplies.last]
  exact hits

/-- A search that cannot pass its last result ends with the fault. -/
theorem Supplies.getTxTimestamp_of_error
    {fault : Fault} (supplies : Supplies (seen ++ [some sent]) queue)
    (few : seen.length < TIMESTAMPING_MESSAGE_MAX_RETRIES)
    (missed : ∀ result ∈ seen, Misses text data result)
    (raised : (retry (succeeding text) data (.received sent.message)).result = .error fault)
    (socket : KernelTimingSocket) :
    getTxTimestamp (succeeding text) socket data queue = (.error fault, socket) := by
  have found : findMessage (succeeding text) data queue = .error fault := by
    apply Retry.search_eq_error_of_first few (supplies.front.misses missed)
    rw [supplies.last]
    exact raised
  rw [getTxTimestamp, found]

/-- A search that has missed as often as it may ends with an exception. -/
theorem Supplies.getTxTimestamp_of_misses
    (supplies : Supplies seen queue)
    (many : seen.length = TIMESTAMPING_MESSAGE_MAX_RETRIES)
    (missed : ∀ result ∈ seen, Misses text data result) (socket : KernelTimingSocket) :
    getTxTimestamp (succeeding text) socket data queue = (.error (.runtimeError
      ("Could not get TX timestamp from interface " ++ socket.device)), socket) := by
  apply getTxTimestamp_of_none
  apply Retry.search_eq_none_of_misses
  rw [← many]
  exact supplies.misses missed

end Searches

/-! ## The invariant -/

/-- The frames behind a retry that has been in front. -/
structure Sought (state : WriteTimes) (pending : Pending) : Prop where
  few : pending.seen.length ≤ TIMESTAMPING_MESSAGE_MAX_RETRIES
  missed : ∀ result ∈ pending.seen, Misses text pending.own.frame.payload result
  /-- The queue has been searched from the place of the write on. -/
  order : pending.ahead ++ [pending.own] <+:
    pending.seen.reduceOption ++ state.messages.unread
  count : state.messages.taken.length + pending.ahead.length =
    pending.place + pending.seen.reduceOption.length
  there : state.messages.sent[pending.place]? = some pending.own

/-- A write has been timed as `getTxTimestamp` does it, and by its own frame exactly if
this fits into the buffer and what has been in front of it is passed by. -/
structure Explained (sent : List SentFrame) (timed : Timed) : Prop where
  stores : ∀ socket queue, Supplies timed.seen queue →
    getTxTimestamp (succeeding text) socket timed.own.frame.payload queue =
      (.ok (), { socket with
        txTimestamp :=
          socket.tstampSource.select (timestampsOf (.received timed.found.message)) })
  found : sent[timed.foundPlace]? = some timed.found
  there : sent[timed.place]? = some timed.own
  own : timed.foundPlace = timed.place ↔
    timed.own.Whole ∧ ∀ earlier ∈ timed.ahead, PassedBy timed.own.frame.payload earlier

/-- What is known about a search. -/
def Known (state : WriteTimes) : Search → Prop
  | .idle => True
  | .searching pending => Sought text state pending
  | .failed pending fault => ∀ queue, Supplies pending.seen queue →
      getTxTimestamp (succeeding text) state.socket pending.own.frame.payload queue =
        (.error fault, state.socket)

structure Sound (state : WriteTimes) : Prop where
  times : ∀ timed ∈ state.times, Explained text state.messages.sent timed
  search : Known text state state.search

section Steps

variable {text} {state : WriteTimes} {pending : Pending}

/-- Frames that leave, and are reported, change nothing about those in front of them. -/
theorem Sound.grow
    {messages : Channel SentFrame} (sound : Sound text state)
    (taken : messages.taken = state.messages.taken)
    (unread : state.messages.unread <+: messages.unread) :
    Sound text { state with messages := messages } := by
  have sent : state.messages.sent <+: messages.sent := by
    rw [Channel.sent, Channel.sent, taken, List.prefix_append_right_inj]
    exact unread
  have stays {place : Nat} {frame : SentFrame}
      (there : state.messages.sent[place]? = some frame) :
      messages.sent[place]? = some frame := by
    obtain ⟨inside, same⟩ := List.getElem?_eq_some_iff.mp there
    rw [← same]
    exact List.prefix_iff_getElem?.mp sent place inside
  refine ⟨?_, ?_⟩
  · intro timed member
    obtain ⟨stores, found, there, own⟩ := sound.times timed member
    exact ⟨stores, stays found, stays there, own⟩
  · obtain ⟨_, known⟩ := sound
    change Known text _ state.search
    cases same : state.search with
    | idle => trivial
    | searching pending =>
        rw [same] at known
        obtain ⟨few, missed, order, count, there⟩ := known
        refine ⟨few, missed, order.trans ?_, taken ▸ count, stays there⟩
        rw [List.prefix_append_right_inj]
        exact unread
    | failed pending fault =>
        rw [same] at known
        exact known

theorem hits_own_iff (own : SentFrame) :
    Hits text own.frame.payload own ↔ own.Whole :=
  retry_own_iff text own

theorem misses_iff {data : List UInt8} {sent : SentFrame} :
    Misses text data (some sent) ↔ PassedBy data sent :=
  retry_misses_iff text data sent

/-- Where the queue is empty, a retry changes nothing about it. -/
theorem Sought.wait
    (sought : Sought text state pending)
    (few : pending.seen.length < TIMESTAMPING_MESSAGE_MAX_RETRIES) :
    Sought text { state with
      search := .searching { pending with seen := pending.seen ++ [none] } }
      { pending with seen := pending.seen ++ [none] } := by
  obtain ⟨_few, missed, order, count, there⟩ := sought
  have same : (pending.seen ++ [none]).reduceOption = pending.seen.reduceOption := by
    rw [List.reduceOption_append]
    exact List.append_nil _
  refine ⟨?_, ?_, same.symm ▸ order, same.symm ▸ count, there⟩
  · rw [List.length_append]
    exact few
  · intro result member
    rcases List.mem_append.mp member with earlier | last
    · exact missed result earlier
    · cases List.mem_singleton.mp last
      rfl

section Taken

variable {sent : SentFrame} {later : List SentFrame}

theorem reduceOption_concat_some (seen : List (Option SentFrame)) (sent : SentFrame) :
    (seen ++ [some sent]).reduceOption = seen.reduceOption ++ [sent] := by
  rw [List.reduceOption_append]
  rfl

/-- A retry skips the message that it takes. -/
theorem Sought.miss
    (sought : Sought text state pending) (arrived : state.messages.arrived = sent :: later)
    (few : pending.seen.length < TIMESTAMPING_MESSAGE_MAX_RETRIES)
    (misses : Misses text pending.own.frame.payload (some sent)) :
    Sought text { state with
      messages := state.messages.pull 1
      search := .searching { pending with seen := pending.seen ++ [some sent] } }
      { pending with seen := pending.seen ++ [some sent] } := by
  obtain ⟨_few, missed, order, count, there⟩ := sought
  rw [Channel.unread_of_arrived arrived] at order
  refine ⟨?_, ?_, ?_, ?_, ?_⟩
  · rw [List.length_append]
    exact few
  · intro result member
    rcases List.mem_append.mp member with earlier | last
    · exact missed result earlier
    · cases List.mem_singleton.mp last
      exact misses
  · rw [reduceOption_concat_some, List.append_assoc]
    exact order
  · rw [reduceOption_concat_some, Channel.taken_of_arrived arrived, List.length_append,
      List.length_append]
    change state.messages.taken.length + 1 + pending.ahead.length = pending.place + (_ + 1)
    omega
  · change (state.messages.pull 1).sent[_]? = _
    rw [Channel.sent_pull]
    exact there

/-- A retry finds a message, which is the next one of those that were in front of the
write, its own frame, or one behind it. -/
theorem Sought.hit
    (sought : Sought text state pending) (arrived : state.messages.arrived = sent :: later)
    (few : pending.seen.length < TIMESTAMPING_MESSAGE_MAX_RETRIES)
    (hits : Hits text pending.own.frame.payload sent) :
    Explained text state.messages.sent ⟨{ pending with seen := pending.seen ++ [some sent] },
      sent, state.messages.taken.length⟩ := by
  refine ⟨?_, Channel.sent_of_arrived arrived, sought.there, ?_⟩
  · intro socket queue supplies
    exact Supplies.getTxTimestamp_of_hits supplies few sought.missed hits socket
  · have exclusive : ∀ frame, Hits text pending.own.frame.payload frame →
        ¬Misses text pending.own.frame.payload (some frame) := by
      intro frame hits misses
      cases hits.symm.trans misses
    have missed : ∀ frame ∈ pending.seen.reduceOption,
        Misses text pending.own.frame.payload (some frame) := by
      intro frame member
      exact sought.missed _ (List.reduceOption_mem_iff.mp member)
    have first := Retry.length_eq_iff_of_first_hit exclusive
      (Channel.unread_of_arrived arrived ▸ sought.order) missed hits
    simp only [hits_own_iff, misses_iff] at first
    rw [← first]
    have count := sought.count
    change state.messages.taken.length = pending.place ↔ _
    omega

end Taken

theorem Sound.retried
    (sound : Sound text state) (searches : state.search = .searching pending)
    (few : pending.seen.length < TIMESTAMPING_MESSAGE_MAX_RETRIES) :
    Sound text (state.retried text pending) := by
  obtain ⟨times, known⟩ := sound
  rw [searches] at known
  have sought : Sought text state pending := known
  unfold WriteTimes.retried
  split
  · exact ⟨times, sought.wait few⟩
  · rename_i sent later arrived
    have timed : ∀ timed ∈ state.times, Explained text (state.messages.pull 1).sent timed := by
      rw [Channel.sent_pull]
      exact times
    split
    · rename_i hits
      refine ⟨?_, trivial⟩
      intro one member
      rcases List.mem_append.mp member with earlier | last
      · exact timed one earlier
      · cases List.mem_singleton.mp last
        change Explained text (state.messages.pull 1).sent _
        rw [Channel.sent_pull]
        exact sought.hit arrived few hits
    · rename_i misses
      exact ⟨timed, sought.miss arrived few misses⟩
    · rename_i fault raised
      refine ⟨timed, ?_⟩
      intro queue supplies
      exact Supplies.getTxTimestamp_of_error supplies few sought.missed raised _

theorem sound_of_step
    {event : QueueEvent} {next : WriteTimes}
    (sound : Sound text state) (stepped : state.step text event = some next) :
    Sound text next := by
  cases event with
  | writes own =>
      obtain ⟨_idle, rfl⟩ := step_writes stepped
      have grown : Sound text { state with messages := state.messages.push [own] } :=
        sound.grow rfl ((Channel.unread_push _ _).symm ▸ List.prefix_append _ _)
      refine ⟨grown.times, Nat.zero_le _, nofun, ?_, ?_, ?_⟩
      · rw [Channel.unread_push]
        exact List.prefix_refl _
      · change state.messages.taken.length + _ = state.messages.sent.length + 0
        rw [Channel.sent, List.length_append]
        rfl
      · rw [Channel.sent_push, List.getElem?_concat_length]
  | resent sent =>
      cases stepped
      exact sound.grow rfl ((Channel.unread_push _ _).symm ▸ List.prefix_append _ _)
  | arrives count =>
      cases stepped
      exact sound.grow rfl ((Channel.unread_deliver _ count).symm ▸ List.prefix_refl _)
  | retries =>
      obtain ⟨pending, searches, ⟨few, rfl⟩ | ⟨many, rfl⟩⟩ := step_retries stepped
      · exact sound.retried searches few
      · refine ⟨sound.times, ?_⟩
        obtain ⟨_, known⟩ := sound
        rw [searches] at known
        have sought : Sought text state pending := known
        intro queue supplies
        exact supplies.getTxTimestamp_of_misses (Nat.le_antisymm sought.few many)
          sought.missed _

end Steps

theorem sound_start (socket : KernelTimingSocket) : Sound text (start socket) := by
  refine ⟨?_, trivial⟩
  intro timed member
  cases member

/-- In every run of writes, retransmissions, reports and retries, a write is timed by the
frame whose timestamp `getTxTimestamp` stores on what the retries have got, and this is its
own frame exactly if it fits into the buffer and the frames that stood on the queue when
the bytes were written are passed by; and a search that fails has the fault of
`getTxTimestamp`. -/
theorem explained_of_run
    (socket : KernelTimingSocket) (events : List QueueEvent) (final : WriteTimes)
    (reached : Machine.run (step text) (start socket) events = some final) :
    (∀ timed ∈ final.times, Explained text final.messages.sent timed) ∧
      ∀ pending fault, final.search = .failed pending fault →
        ∀ queue, Supplies pending.seen queue →
          getTxTimestamp (succeeding text) final.socket pending.own.frame.payload queue =
            (.error fault, final.socket) := by
  have sound : Sound text final := by
    refine @Machine.run_invariant _ _ (step text) (start socket) final events
      (fun _history state => Sound text state) (sound_start text socket) ?_ reached
    intro _history state event next _before sound stepped
    exact sound_of_step sound stepped
  refine ⟨sound.times, ?_⟩
  intro pending fault failed
  have known := sound.search
  rw [failed] at known
  exact known

/-- A write of one byte, a retransmission of its frame, and a write of the same byte. -/
def resentOnce : List QueueEvent :=
  [.writes (.segment [65] (by decide)), .arrives 1, .retries,
    .resent (.segment [65] (by decide)), .writes (.segment [65] (by decide)), .arrives 2,
    .retries]

theorem timed_resentOnce :
    ∃ final timed, Machine.run (step inetText) (start ⟨.software, "eth0", ⟨0, 0⟩, ⟨0, 0⟩⟩)
      resentOnce = some final ∧ final.times[1]? = some timed := by
  have ran : ((Machine.run (step inetText) (start ⟨.software, "eth0", ⟨0, 0⟩, ⟨0, 0⟩⟩)
      resentOnce).bind fun final => final.times[1]?).isSome = true := by decide +kernel
  obtain ⟨timed, found⟩ := Option.isSome_iff_exists.mp ran
  obtain ⟨final, reached, there⟩ := Option.bind_eq_some_iff.mp found
  exact ⟨final, timed, reached, there⟩

theorem explained_of_run_resentOnce :
    ∃ final, Machine.run (step inetText) (start ⟨.software, "eth0", ⟨0, 0⟩, ⟨0, 0⟩⟩)
        resentOnce = some final ∧
      ∀ timed ∈ final.times, Explained inetText final.messages.sent timed := by
  obtain ⟨final, _timed, reached, _there⟩ := timed_resentOnce
  exact ⟨final, reached, (explained_of_run inetText _ resentOnce final reached).1⟩

/-! ## Writes of the same bytes -/

/-- The frames that leave fit into the buffer and carry the same bytes. -/
def Repeats (data : List UInt8) : QueueEvent → Prop
  | .writes sent | .resent sent => sent.Whole ∧ sent.frame.payload = data
  | .arrives _ | .retries => True

def isWrite : QueueEvent → Bool
  | .writes _ => true
  | _ => false

def isResent : QueueEvent → Bool
  | .resent _ => true
  | _ => false

/-- Every search takes one frame from the queue. -/
structure Lags (data : List UInt8) (state : WriteTimes) : Prop where
  frames : ∀ sent ∈ state.messages.sent, sent.Whole ∧ sent.frame.payload = data
  taken : state.messages.taken.length = state.times.length
  places : ∀ index (timed : Timed), state.times[index]? = some timed → timed.foundPlace = index
  looks : ∀ pending, state.search = .searching pending → pending.own.frame.payload = data

section Repeated

variable {text} {data : List UInt8} {state : WriteTimes} {pending : Pending}

theorem lags_start (data : List UInt8) (socket : KernelTimingSocket) :
    Lags data (start socket) := by
  refine ⟨?_, rfl, ?_, ?_⟩
  · intro sent member
    cases member
  · intro index timed member
    cases member
  · intro pending searches
    cases searches

theorem Lags.push
    (lags : Lags data state) {sent : SentFrame}
    (repeats : sent.Whole ∧ sent.frame.payload = data) :
    Lags data { state with messages := state.messages.push [sent] } := by
  refine ⟨?_, lags.taken, lags.places, lags.looks⟩
  intro frame member
  rw [Channel.sent_push] at member
  rcases List.mem_append.mp member with earlier | last
  · exact lags.frames frame earlier
  · cases List.mem_singleton.mp last
    exact repeats

theorem retried_of_hits
    {sent : SentFrame} {later : List SentFrame} (arrived : state.messages.arrived = sent :: later)
    (hits : Hits text pending.own.frame.payload sent) :
    state.retried text pending =
      { messages := state.messages.pull 1
        socket := { state.socket with
          txTimestamp :=
            state.socket.tstampSource.select (timestampsOf (.received sent.message)) }
        search := .idle
        times := state.times ++ [⟨{ pending with seen := pending.seen ++ [some sent] }, sent,
          state.messages.taken.length⟩] } := by
  have found : (retry (succeeding text) pending.own.frame.payload
    (.received sent.message)).result = .ok true := hits
  rw [WriteTimes.retried, arrived]
  simp only [found]

/-- A retry takes the first frame that has been reported, whichever it is. -/
theorem Lags.retried
    (lags : Lags data state) (searches : state.search = .searching pending) :
    Lags data (state.retried text pending) := by
  have looks := lags.looks pending searches
  cases arrived : state.messages.arrived with
  | nil =>
      rw [WriteTimes.retried, arrived]
      refine ⟨lags.frames, lags.taken, lags.places, ?_⟩
      rintro _ ⟨⟩
      exact looks
  | cons sent later =>
      have there := List.mem_of_getElem? (Channel.sent_of_arrived arrived)
      obtain ⟨whole, same⟩ := lags.frames sent there
      have hits : Hits text pending.own.frame.payload sent := by
        rw [looks, ← same]
        exact (hits_own_iff sent).mpr whole
      rw [retried_of_hits arrived hits]
      refine ⟨?_, ?_, ?_, nofun⟩
      · rw [Channel.sent_pull]
        exact lags.frames
      · rw [Channel.taken_of_arrived arrived, List.length_append, List.length_append, lags.taken]
        rfl
      · intro index timed member
        rw [List.getElem?_append] at member
        split at member
        · exact lags.places index timed member
        · obtain ⟨inside, same⟩ := List.getElem?_eq_some_iff.mp member
          rw [List.length_singleton, Nat.lt_one_iff] at inside
          rw [List.getElem_singleton] at same
          rw [← same]
          change state.messages.taken.length = index
          rw [lags.taken]
          omega

theorem lags_of_step
    {event : QueueEvent} {next : WriteTimes}
    (lags : Lags data state) (repeats : Repeats data event)
    (stepped : state.step text event = some next) :
    Lags data next := by
  cases event with
  | writes own =>
      obtain ⟨_idle, rfl⟩ := step_writes stepped
      obtain ⟨frames, taken, places, _⟩ := lags.push repeats
      refine ⟨frames, taken, places, ?_⟩
      rintro _ ⟨⟩
      exact repeats.2
  | resent sent =>
      cases stepped
      exact lags.push repeats
  | arrives count =>
      cases stepped
      refine ⟨?_, lags.taken, lags.places, lags.looks⟩
      rw [Channel.sent_deliver]
      exact lags.frames
  | retries =>
      obtain ⟨pending, searches, ⟨_few, rfl⟩ | ⟨_many, rfl⟩⟩ := step_retries stepped
      · exact lags.retried searches
      · exact ⟨lags.frames, lags.taken, lags.places, nofun⟩

/-- A retry ends the search with a frame, or its write is still not timed. -/
theorem retried_cases (state : WriteTimes) (pending : Pending) :
    (state.retried text pending).messages.sent = state.messages.sent ∧
      ∃ seen, (∃ sent place, (state.retried text pending).search = .idle ∧
          (state.retried text pending).times =
            state.times ++ [⟨{ pending with seen := seen }, sent, place⟩]) ∨
        (state.retried text pending).times = state.times ∧
          ((state.retried text pending).search = .searching { pending with seen := seen } ∨
            ∃ fault, (state.retried text pending).search =
              .failed { pending with seen := seen } fault) := by
  unfold WriteTimes.retried
  split
  · exact ⟨rfl, _, .inr ⟨rfl, .inl rfl⟩⟩
  · split
    · exact ⟨Channel.sent_pull _ 1, _, .inl ⟨_, _, rfl, rfl⟩⟩
    · exact ⟨Channel.sent_pull _ 1, _, .inr ⟨rfl, .inl rfl⟩⟩
    · exact ⟨Channel.sent_pull _ 1, _, .inr ⟨rfl, .inr ⟨_, rfl⟩⟩⟩

/-- How many writes and retransmissions there have been. -/
structure Counts (history : List QueueEvent) (state : WriteTimes) : Prop where
  sent : state.messages.sent.length = history.countP isWrite + history.countP isResent
  timed : state.times.length + state.search.waiting = history.countP isWrite

theorem countP_concat
    (counted : QueueEvent → Bool) (history : List QueueEvent) (event : QueueEvent) :
    (history ++ [event]).countP counted =
      history.countP counted + if counted event then 1 else 0 := by
  rw [List.countP_append, List.countP_singleton]

theorem counts_of_step
    {history : List QueueEvent} {event : QueueEvent} {next : WriteTimes}
    (counts : Counts history state) (stepped : state.step text event = some next) :
    Counts (history ++ [event]) next := by
  obtain ⟨sent, timed⟩ := counts
  refine ⟨?_, ?_⟩ <;> rw [countP_concat]
  · rw [countP_concat]
    cases event with
    | writes own =>
        obtain ⟨_idle, rfl⟩ := step_writes stepped
        rw [Channel.sent_push, List.length_append, sent]
        exact Nat.add_right_comm _ _ 1
    | resent frame =>
        cases stepped
        rw [Channel.sent_push, List.length_append, sent]
        rfl
    | arrives count =>
        cases stepped
        rw [Channel.sent_deliver]
        exact sent
    | retries =>
        obtain ⟨pending, _searches, ⟨_few, rfl⟩ | ⟨_many, rfl⟩⟩ := step_retries stepped
        · rw [(retried_cases state pending).1]
          exact sent
        · exact sent
  · cases event with
    | writes own =>
        obtain ⟨idle, rfl⟩ := step_writes stepped
        rw [idle] at timed
        exact congrArg (· + 1) timed
    | resent frame =>
        cases stepped
        exact timed
    | arrives count =>
        cases stepped
        exact timed
    | retries =>
        obtain ⟨pending, searches, ⟨_few, rfl⟩ | ⟨_many, rfl⟩⟩ := step_retries stepped
        · rw [searches] at timed
          obtain ⟨_, seen, ⟨sent, place, ended, times⟩ | ⟨times, goesOn | ⟨fault, fails⟩⟩⟩ :=
            @retried_cases text state pending
          · rw [ended, times, List.length_append]
            exact timed
          · rw [goesOn, times]
            exact timed
          · rw [fails, times]
            exact timed
        · rw [searches] at timed
          exact timed

/-- The write with some number is not timed yet, or it has been. -/
def Follows (own : SentFrame) (place number : Nat) (state : WriteTimes) : Prop :=
  (∃ pending, (state.search = .searching pending ∨
      ∃ fault, state.search = .failed pending fault) ∧
    pending.own = own ∧ pending.place = place ∧ state.times.length = number) ∨
  ∃ timed : Timed, state.times[number]? = some timed ∧ timed.own = own ∧ timed.place = place

theorem follows_of_step
    {own : SentFrame} {place number : Nat} {event : QueueEvent} {next : WriteTimes}
    (follows : Follows own place number state) (stepped : state.step text event = some next) :
    Follows own place number next := by
  cases event with
  | writes other =>
      obtain ⟨idle, rfl⟩ := step_writes stepped
      rcases follows with ⟨pending, searches | ⟨fault, failed⟩, _⟩ | timed
      · cases idle.symm.trans searches
      · cases idle.symm.trans failed
      · exact .inr timed
  | resent sent =>
      cases stepped
      exact follows
  | arrives count =>
      cases stepped
      exact follows
  | retries =>
      obtain ⟨pending, searches, ⟨_few, rfl⟩ | ⟨_many, rfl⟩⟩ := step_retries stepped
      · obtain ⟨_, seen, ⟨sent, found, ended, times⟩ | ⟨times, goesOn⟩⟩ :=
          @retried_cases text state pending
        · refine .inr ?_
          rw [times]
          rcases follows with ⟨other, same | ⟨fault, failed⟩, rfl, rfl, rfl⟩ |
            ⟨timed, there, same⟩
          · cases searches.symm.trans same
            exact ⟨_, List.getElem?_concat_length, rfl, rfl⟩
          · cases searches.symm.trans failed
          · refine ⟨timed, ?_, same⟩
            rw [List.getElem?_append_left (List.getElem?_eq_some_iff.mp there).1]
            exact there
        · rcases follows with ⟨other, same | ⟨fault, failed⟩, rfl, rfl, rfl⟩ | timed
          · cases searches.symm.trans same
            exact .inl ⟨_, goesOn, rfl, rfl, congrArg List.length times⟩
          · cases searches.symm.trans failed
          · exact .inr (times ▸ timed)
      · rcases follows with ⟨other, same | ⟨fault, failed⟩, own⟩ | timed
        · cases searches.symm.trans same
          exact .inl ⟨_, .inr ⟨_, rfl⟩, own⟩
        · cases searches.symm.trans failed
        · exact .inr timed

theorem lags_of_run
    {socket : KernelTimingSocket} {events : List QueueEvent}
    (reached : Machine.run (step text) (start socket) events = some state)
    (repeats : ∀ event ∈ events, Repeats data event) :
    Lags data state := by
  refine @Machine.run_invariant_along _ _ (step text) (start socket) state events
    (fun _state event => Repeats data event) (Lags data) (lags_start data socket)
    (fun _state _event _next lags here stepped => lags_of_step lags here stepped) ?_ reached
  intro earlier event _state isPrefix _passed
  exact repeats event (isPrefix.subset (by simp))

theorem counts_of_run
    {socket : KernelTimingSocket} {events : List QueueEvent}
    (reached : Machine.run (step text) (start socket) events = some state) :
    Counts events state := by
  refine @Machine.run_invariant _ _ (step text) (start socket) state events Counts
    ⟨rfl, rfl⟩ ?_ reached
  intro _history _state _event _next _before counts stepped
  exact counts_of_step counts stepped

theorem follows_of_run
    {own : SentFrame} {place number : Nat} {events : List QueueEvent} {final : WriteTimes}
    (follows : Follows own place number state)
    (reached : Machine.run (step text) state events = some final) :
    Follows own place number final := by
  refine @Machine.run_invariant _ _ (step text) state final events
    (fun _history state => Follows own place number state) follows ?_ reached
  intro _history _state _event _next _before follows stepped
  exact follows_of_step follows stepped

end Repeated

/-- In every run in which all frames fit into the buffer and carry the same bytes, a write
is timed by the frame that left as many places in front of its own one as frames had been
sent once more by then: a single retransmission shifts the times of all later writes. -/
theorem place_of_repeats
    (socket : KernelTimingSocket) (data : List UInt8)
    (history later : List QueueEvent) (own : SentFrame) (final : WriteTimes)
    (reached : Machine.run (step text) (start socket) (history ++ .writes own :: later) =
      some final)
    (repeats : ∀ event ∈ history ++ .writes own :: later, Repeats data event)
    (timed : Timed) (there : final.times[history.countP isWrite]? = some timed) :
    timed.own = own ∧ timed.place = timed.foundPlace + history.countP isResent := by
  have lags := lags_of_run reached repeats
  rw [Machine.run_append, Option.bind_eq_some_iff] at reached
  obtain ⟨before, passed, reached⟩ := reached
  have counts := counts_of_run passed
  rw [Machine.run_cons, Option.bind_eq_some_iff] at reached
  obtain ⟨middle, written, reached⟩ := reached
  obtain ⟨idle, same⟩ := step_writes written
  have number : before.times.length = history.countP isWrite := by
    have timed := counts.timed
    rw [idle] at timed
    exact timed
  have waits : Follows own before.messages.sent.length (history.countP isWrite) middle := by
    rw [same]
    exact .inl ⟨_, .inl rfl, rfl, rfl, number⟩
  rcases follows_of_run waits reached with ⟨_, _, _, _, length⟩ | ⟨_, found, rfl, place⟩
  · have inside := (List.getElem?_eq_some_iff.mp there).1
    omega
  · cases there.symm.trans found
    rw [place, counts.sent, lags.places _ timed there]
    exact ⟨rfl, rfl⟩

/-- The second write is timed by the frame that has been sent once more. -/
theorem place_of_repeats_resentOnce :
    ∃ final timed, Machine.run (step inetText) (start ⟨.software, "eth0", ⟨0, 0⟩, ⟨0, 0⟩⟩)
        resentOnce = some final ∧
      final.times[1]? = some timed ∧ timed.place = timed.foundPlace + 1 := by
  obtain ⟨final, timed, reached, there⟩ := timed_resentOnce
  have whole : (SentFrame.segment [65] (by decide)).Whole :=
    SentFrame.whole_segment _ (by decide)
  have repeats : ∀ event ∈ resentOnce, Repeats [65] event := by
    simp only [resentOnce, List.forall_mem_cons]
    exact ⟨⟨whole, rfl⟩, trivial, trivial, ⟨whole, rfl⟩, ⟨whole, rfl⟩, trivial, trivial,
      List.forall_mem_nil _⟩
  exact ⟨final, timed, reached, there,
    (place_of_repeats inetText _ [65] (resentOnce.take 4) (resentOnce.drop 5) _ final reached
      repeats timed there).2⟩

end WriteTimes

end KernelTimingSocket

end NetworkTiming
