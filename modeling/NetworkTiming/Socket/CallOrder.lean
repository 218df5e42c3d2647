import NetworkTiming.Socket.OwnPackets

/-!
# The order of calls and the order of packets

The packets of both directions share one queue, and a search discards everything
in front of its match.  The i-th write and the i-th outgoing packet, and likewise
the reads and the incoming packets, find each other as long as the calls are made
in the order in which their packets were captured.
-/

namespace NetworkTiming.PCAPTimingSocket

/-- The calls of each direction belong to the captured packets of that direction,
in order, and a call is only made when its own packet has been captured. -/
structure Matched
    (inetNtop : InetNtop) (start : UserData)
    (events : List Event) (own : Nat → Nat) : Prop where
  /-- The i-th call of a direction owns the i-th packet of that direction. -/
  ranked : Scan.OwnsByRank Call.direction Packet.direction (calls events)
    (captured inetNtop start events) own
  /-- The call was given the bytes of its own packet. -/
  payload : ∀ (k : Nat) call, (calls events)[k]? = some call →
    (captured inetNtop start events)[own k]?.map Packet.payload = some call.buf
  /-- The own packet is stored when the search starts. -/
  stored : ∀ n : Fin events.length, events[n].asked ≠ none →
    own (calls (events.take n)).length <
      (captured inetNtop start (events.take n)).length

/-- The same with bounded quantifiers. -/
theorem matched_iff :
    Matched inetNtop start events own ↔
      (∀ k : Fin (calls events).length,
        (captured inetNtop start events)[own k]?.map Packet.direction =
            some (calls events)[k].direction ∧
          ((captured inetNtop start events).take (own k)).countP
              (Packet.direction · = (calls events)[k].direction) =
            ((calls events).take k).countP
              (Call.direction · = (calls events)[k].direction) ∧
          (captured inetNtop start events)[own k]?.map Packet.payload =
            some (calls events)[k].buf) ∧
      ∀ n : Fin events.length, events[n].asked ≠ none →
        own (calls (events.take n)).length <
          (captured inetNtop start (events.take n)).length := by
  constructor
  · intro matched
    refine ⟨fun k => ?_, matched.stored⟩
    have isCall := List.getElem?_eq_getElem k.isLt
    exact ⟨matched.ranked.sameKind k _ isCall, matched.ranked.sameRank k _ isCall,
      matched.payload k _ isCall⟩
  · rintro ⟨each, stored⟩
    refine ⟨⟨?_, ?_⟩, ?_, stored⟩
    · intro k call isCall
      obtain ⟨bound, rfl⟩ := List.getElem?_eq_some_iff.mp isCall
      exact (each ⟨k, bound⟩).1
    · intro k call isCall
      obtain ⟨bound, rfl⟩ := List.getElem?_eq_some_iff.mp isCall
      exact (each ⟨k, bound⟩).2.1
    · intro k call isCall
      obtain ⟨bound, rfl⟩ := List.getElem?_eq_some_iff.mp isCall
      exact (each ⟨k, bound⟩).2.2

instance : Decidable (Matched inetNtop start events own) :=
  decidable_of_iff _ matched_iff.symm

/-- The own packet of each call was captured after that of the call before it. -/
def CallsInOrder (events : List Event) (own : Nat → Nat) : Prop :=
  ∀ k, k + 1 < (calls events).length → own k < own (k + 1)

/-- Every call finds its own packet. -/
structure FindsOwnPackets
    (inetNtop : InetNtop) (start : UserData)
    (events : List Event) (own : Nat → Nat)
    (socket : PCAPTimingSocket) : Prop where
  /-- A completed call has recorded the time of its own packet. -/
  recorded : ∀ k, k < socket.recorded.length →
    ∃ packet, (captured inetNtop start events)[own k]? = some packet ∧
      socket.recorded[k]? = some packet.timing
  /-- Between two calls, exactly the packets behind the last own one are left. -/
  left : socket.search = none →
    socket.recorded.length = (calls events).length ∧
      socket.usrdata.unread = (captured inetNtop start events).drop
        (Scan.behind own (calls events).length)
  /-- A running call can go on, and it returns after a bounded number of
  iterations. -/
  returns : ∀ history call during,
    events = history ++ .timingForPacket call :: during → calls during = [] →
    socket.search ≠ none →
    (∃ next, step inetNtop socket .proceed = some next) ∧
      during.count .proceed ≤ 2 * (captured inetNtop start history).length + 2

/-- Matched calls in order own their packets. -/
theorem Matched.owns
    (matched : Matched inetNtop start events own)
    (inOrder : CallsInOrder events own) :
    Scan.Owns Call.AnsweredBy (calls events) (captured inetNtop start events) own := by
  refine matched.ranked.owns inOrder ?_ ?_
  · intro call packet answered
    exact answered.1
  · intro k call packet isCall isPacket
    have sameKind := matched.ranked.sameKind k call isCall
    have payload := matched.payload k call isCall
    rw [isPacket] at sameKind payload
    exact ⟨Option.some.inj sameKind, Option.some.inj payload⟩

/-- In every run whose calls are made in the order of their own packets, every
call finds its own packet. -/
theorem run_findsOwnPackets
    (inetNtop : InetNtop)
    (socket : PCAPTimingSocket)
    (events : List Event)
    (own : Nat → Nat)
    (final : PCAPTimingSocket)
    (reached : Machine.run (step inetNtop) socket.connect events = some final)
    (matched : Matched inetNtop socket.connect.usrdata events own)
    (inOrder : CallsInOrder events own) :
    FindsOwnPackets inetNtop socket.connect.usrdata events own final := by
  have owns := matched.owns inOrder
  have atEnd := run_reached reached
  refine ⟨fun k => atEnd.exists_recorded owns, atEnd.unread_of_idle owns, ?_⟩
  rintro history call during rfl noOtherCall searching
  refine ⟨exists_proceed atEnd searching, ?_⟩
  have upToCall : history ++ [.timingForPacket call] <+:
      history ++ .timingForPacket call :: during := by simp
  have stored := matched.stored ⟨history.length, by simp⟩ (by simp [Event.asked])
  rw [List.take_left] at stored
  refine proceeds_le_of_searching reached (owns.restrict ?_ ?_) stored noOtherCall
    searching
  · exact upToCall.filterMap _
  · exact (List.prefix_append _ _).filterMap _

/-! ## Runs on fixed frames -/

/-- The response is read before the second request is captured and written. -/
def alternating : List Event :=
  [capture 5 (request 1), capture 6 (response 2),
    write [1], .proceed, .proceed, read [2], .proceed, .proceed,
    capture 7 (request 3), write [3], .proceed, .proceed]

/-- Every call of an alternating run finds its own packet. -/
theorem run_findsOwnPackets_alternating :
    ∃ final, Machine.run (step (succeeding inetText)) portEighty.connect alternating =
        some final ∧
      final.recorded = [⟨5, 0⟩, ⟨6, 0⟩, ⟨7, 0⟩] ∧
      FindsOwnPackets (succeeding inetText) portEighty.connect.usrdata alternating id
        final := by
  have ran : ((Machine.run (step (succeeding inetText)) portEighty.connect
      alternating).map recorded) = some [⟨5, 0⟩, ⟨6, 0⟩, ⟨7, 0⟩] := by
    decide +kernel
  obtain ⟨final, reached, recorded⟩ := Option.map_eq_some_iff.mp ran
  refine ⟨final, reached, recorded,
    run_findsOwnPackets _ _ _ id final reached (by decide +kernel) ?_⟩
  intro k _bound
  exact Nat.lt_succ_self k

/-- Two requests and the response to the first one are captured, the response
before the second request.  Both requests are written before the response is
read. -/
def pipelined (n : Nat) : List Event :=
  [capture 5 (request 1), capture 6 (response 2), capture 7 (request 3),
    write [1], .proceed, .proceed,
    write [3], .proceed, .proceed, .proceed,
    read [2]] ++ List.replicate n .proceed

/-- The response has been discarded when it is read, so that the read does not
return. -/
theorem pipelined_not_findsOwnPackets :
    ∃ own, Matched (succeeding inetText) portEighty.connect.usrdata (pipelined 9) own ∧
      (∀ final, Machine.run (step (succeeding inetText)) portEighty.connect
          (pipelined 9) = some final →
        ¬FindsOwnPackets (succeeding inetText) portEighty.connect.usrdata
          (pipelined 9) own final) ∧
      ∀ n, ∃ final, Machine.run (step (succeeding inetText)) portEighty.connect
          (pipelined n) = some final ∧
        final.search = some { buf := [2], direction := .sourceRemote } := by
  have searches : ∀ n, ∃ final, Machine.run (step (succeeding inetText))
      portEighty.connect (pipelined n) = some final ∧
      final.search = some { buf := [2], direction := .sourceRemote } := by
    intro n
    have ran : ((Machine.run (step (succeeding inetText)) portEighty.connect
        (pipelined 0)).map fun socket => (socket.search, socket.usrdata.unread)) =
        some (some { buf := [2], direction := .sourceRemote }, []) := by
      decide +kernel
    obtain ⟨stuck, reached, facts⟩ := Option.map_eq_some_iff.mp ran
    obtain ⟨running, empty⟩ := Prod.mk.inj facts
    obtain ⟨final, waited, stillRunning⟩ :=
      @run_replicate_of_unanswered (succeeding inetText) stuck _
        (run_reached reached).sound running rfl (by simp [empty]) n
    refine ⟨final, ?_, stillRunning⟩
    rw [pipelined, List.replicate_zero, List.append_nil] at reached
    rw [pipelined, Machine.run_append, reached]
    exact waited
  refine ⟨fun k => [0, 2, 1].getD k 0, by decide +kernel, ?_, searches⟩
  intro final reached findsOwn
  obtain ⟨other, otherReached, running⟩ := searches 9
  cases reached.symm.trans otherReached
  have bound := (findsOwn.returns ((pipelined 0).take 10)
    { buf := [2], direction := .sourceRemote } (List.replicate 9 .proceed) rfl rfl
    (by simp [running])).2
  revert bound
  decide +kernel

end NetworkTiming.PCAPTimingSocket
