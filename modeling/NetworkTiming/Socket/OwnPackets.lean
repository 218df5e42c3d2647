import NetworkTiming.Library.Ownership
import NetworkTiming.Socket.QueueRefinement

/-!
# Calls and their own packets

When every call of `timingForPacket` has a packet of its own, and nothing that is
captured between two own packets answers the later call, the calls record the
times of their own packets and leave the packets behind them.
-/

namespace NetworkTiming.PCAPTimingSocket

section Reached

variable {inetNtop : InetNtop} {start : UserData} {events : List Event}
variable {socket : PCAPTimingSocket} {own : Nat → Nat}

/-- Only calls that have been made are completed. -/
theorem Reached.recorded_le
    (reached : Reached inetNtop start events socket) :
    socket.recorded.length ≤ (calls events).length := by
  obtain ⟨_sound, _connection, scan, _log, asked, follows⟩ := reached
  rw [← asked]
  exact follows.recorded_le.trans follows.greedy.hits_le

/-- The timestamp of a direction was recorded by its last completed call. -/
theorem Reached.latest
    (reached : Reached inetNtop start events socket)
    (lastCall : LastCall (calls events) socket.recorded.length direction k) :
    socket.recorded[k]? = some (socket.timestamp direction) := by
  obtain ⟨_sound, _connection, scan, _log, asked, follows⟩ := reached
  rw [← asked] at lastCall
  exact follows.latest direction k lastCall

/-- Every completed call has recorded the time of its own packet. -/
theorem Reached.exists_recorded
    (reached : Reached inetNtop start events socket)
    (owns : Scan.Owns Call.AnsweredBy (calls events) (captured inetNtop start events)
      own)
    (completed : k < socket.recorded.length) :
    ∃ packet, (captured inetNtop start events)[own k]? = some packet ∧
      socket.recorded[k]? = some packet.timing := by
  obtain ⟨_sound, _connection, scan, log, asked, follows⟩ := reached
  rw [← log, ← asked] at owns
  rw [← log]
  have isHit := List.getElem?_eq_getElem
    (Nat.lt_of_lt_of_le completed follows.recorded_le)
  have isOwn := follows.greedy.hit_eq_own owns isHit
  have inside : own k < scan.log.length := by
    rw [← isOwn]
    exact Nat.lt_of_lt_of_le (follows.greedy.hit_lt k _ isHit).2
      follows.greedy.position_le
  rw [isOwn] at isHit
  have isPacket := List.getElem?_eq_getElem inside
  exact ⟨_, isPacket, follows.times k _ _ completed isHit isPacket⟩

/-- Between two calls, the packets behind the last own one are unread. -/
theorem Reached.unread_of_idle
    (reached : Reached inetNtop start events socket)
    (owns : Scan.Owns Call.AnsweredBy (calls events) (captured inetNtop start events)
      own)
    (idle : socket.search = none) :
    socket.recorded.length = (calls events).length ∧
      socket.usrdata.unread = (captured inetNtop start events).drop
        (Scan.behind own (calls events).length) := by
  obtain ⟨_sound, _connection, scan, log, asked, follows⟩ := reached
  rw [← log, ← asked] at owns
  rw [← log, ← asked]
  cases follows.phase with
  | searching running => simp [running] at idle
  | holding running => simp [running] at idle
  | idle noSearch answered allRecorded =>
      refine ⟨allRecorded.trans answered, ?_⟩
      rw [follows.unread, Scan.remaining, follows.greedy.idle answered,
        follows.greedy.start_eq_behind owns (Nat.le_refl _), answered]

end Reached

/-- A call whose own packet has been captured returns after a bounded number of
iterations. -/
theorem proceeds_le_of_searching
    {socket final : PCAPTimingSocket}
    (reached : Machine.run (step inetNtop) socket.connect
      (history ++ .timingForPacket call :: during) = some final)
    (owns : Scan.Owns Call.AnsweredBy (calls (history ++ [.timingForPacket call]))
      (captured inetNtop socket.connect.usrdata history) own)
    (stored : own (calls history).length <
      (captured inetNtop socket.connect.usrdata history).length)
    (noOtherCall : calls during = [])
    (searching : final.search ≠ none) :
    during.count .proceed ≤
      2 * (captured inetNtop socket.connect.usrdata history).length + 2 := by
  rw [Machine.run_append, Option.bind_eq_some_iff] at reached
  obtain ⟨middle, before, after⟩ := reached
  have atCall := run_reached before
  have idle : middle.search = none := by
    rw [Machine.run_cons, Option.bind_eq_some_iff] at after
    obtain ⟨next, stepped, _⟩ := after
    cases step_cases atCall.sound stepped with
    | call idle => exact idle
  have queries : calls (history ++ [.timingForPacket call]) = calls history ++ [call] := by
    simp [calls, Event.asked]
  rw [queries] at owns
  have isCall : (calls history ++ [call])[(calls history).length]? = some call :=
    List.getElem?_concat_length
  have isPacket := List.getElem?_eq_getElem stored
  have earlier : Scan.Owns Call.AnsweredBy (calls history)
      (captured inetNtop socket.connect.usrdata history) own :=
    owns.restrict (List.prefix_append _ _) (List.prefix_refl _)
  obtain ⟨left, split, unanswered, bound⟩ := owns.exists_split isCall isPacket
  have unread := (atCall.unread_of_idle earlier idle).2.trans split
  cases run_underway atCall.sound unread unanswered
      (owns.answered _ _ _ isCall isPacket) noOtherCall after with
  | looking running unfound sameCall unread members budget => omega
  | holding running found sameCall unread held budget => omega
  | returned noSearch => exact absurd noSearch searching

end NetworkTiming.PCAPTimingSocket
