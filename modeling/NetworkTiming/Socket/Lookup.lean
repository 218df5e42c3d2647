import NetworkTiming.Socket.PCAPTimingSocket

/-!
# Looking packets up is scanning the captured packets

Whatever the interleaving of the two threads, a socket follows a greedy scan of
the packets captured so far: each completed call has recorded the time of the
packet that the scan found for it.
-/

namespace NetworkTiming

/-- A slot behind the consumer holds a packet of a known time. -/
structure Holding (usrdata : UserData) (slot : Bool × Nat) (time : Timeval) :
    Prop where
  side : slot.1 = usrdata.activeBufferConsumer
  behind : slot.2 < usrdata.sharedBufferIndexConsumer
  timed : Search.timing usrdata slot = .ok time

/-- The callback does not touch a slot that a search has found. -/
theorem Holding.appended
    (held : Holding usrdata slot time)
    (appended : UserData.Appended usrdata next packet) :
    Holding next slot time := by
  have frame := appended.forConsumer
  refine ⟨held.side.trans frame.reader.symm, ?_, ?_⟩
  · exact Nat.lt_of_lt_of_eq held.behind frame.readIndex.symm
  · obtain ⟨side, index⟩ := slot
    have timed := held.timed
    unfold Search.timing at timed ⊢
    split at timed
    next inside =>
      have same := frame.slotBehind index inside held.behind
      have sideEq : side = usrdata.activeBufferConsumer := held.side
      subst sideEq
      rw [dif_pos inside]
      rw [← timed]
      exact congrArg (fun pinfo : PacketInfo => Except.ok pinfo.timing) same
    next => cases timed

namespace PCAPTimingSocket

/-- The last of the first `count` calls that had a direction. -/
structure LastCall
    (calls : List Call) (count : Nat)
    (direction : PacketDirection) (k : Nat) : Prop where
  before : k < count
  isCall : ∃ call, calls[k]? = some call ∧ call.direction = direction
  last : ∀ j call, k < j → j < count → calls[j]? = some call →
    call.direction ≠ direction

/-- Where the search of a socket stands while the socket follows a scan. -/
inductive Phase (socket : PCAPTimingSocket) (scan : Scan Packet Call) : Prop
  /-- No search is running. -/
  | idle
      (noSearch : socket.search = none)
      (answered : scan.hits.length = scan.asked.length)
      (allRecorded : socket.recorded.length = scan.hits.length)
  /-- A search is looking for its packet. -/
  | searching {search : Search}
      (running : socket.search = some search)
      (unfound : search.found = none)
      (current : scan.current = some search.toCall)
      (allRecorded : socket.recorded.length = scan.hits.length)
  /-- A search has found its packet and has not returned yet. -/
  | holding {search : Search} {slot : Bool × Nat} {place : Nat} {packet : Packet}
      (running : socket.search = some search)
      (found : search.found = some slot)
      (answered : scan.hits.length = scan.asked.length)
      (unrecorded : socket.recorded.length + 1 = scan.hits.length)
      (asked : scan.asked[socket.recorded.length]? = some search.toCall)
      (isHit : scan.hits[socket.recorded.length]? = some place)
      (isPacket : scan.log[place]? = some packet)
      (held : Holding socket.usrdata slot packet.timing)

/-- A socket follows a greedy scan. -/
structure Follows (socket : PCAPTimingSocket) (scan : Scan Packet Call) : Prop where
  greedy : scan.Greedy Call.AnsweredBy
  unread : socket.usrdata.unread = scan.remaining
  phase : Phase socket scan
  times : ∀ (k place : Nat) packet, k < socket.recorded.length →
    scan.hits[k]? = some place → scan.log[place]? = some packet →
    socket.recorded[k]? = some packet.timing
  latest : ∀ direction k, LastCall scan.asked socket.recorded.length direction k →
    socket.recorded[k]? = some (socket.timestamp direction)

namespace Follows

variable {socket : PCAPTimingSocket} {scan : Scan Packet Call}
variable {usrdata : UserData} {search later : Search}

/-- Every recorded time belongs to a hit. -/
theorem recorded_le (follows : Follows socket scan) :
    socket.recorded.length ≤ scan.hits.length := by
  cases follows.phase with
  | idle noSearch answered allRecorded => exact Nat.le_of_eq allRecorded
  | searching running unfound current allRecorded => exact Nat.le_of_eq allRecorded
  | holding running found answered unrecorded => omega

/-- A socket that has just been connected follows the empty scan. -/
theorem connect (socket : PCAPTimingSocket) :
    Follows socket.connect ⟨[], 0, [], []⟩ where
  greedy := Scan.Greedy.empty _
  unread := socket.usrdata.unread_startLoop
  phase := Phase.idle rfl rfl rfl
  times k place packet := by simp
  latest direction k lastCall := absurd lastCall.before (Nat.not_lt_zero k)

/-- Storing a packet appends it to the log of the scan. -/
theorem capture
    (follows : Follows socket scan)
    (appended : UserData.Appended socket.usrdata usrdata stored) :
    Follows { socket with usrdata := usrdata } (scan.append stored) where
  greedy := follows.greedy.append stored
  unread := by
    rw [Scan.remaining_append follows.greedy.position_le, ← follows.unread]
    exact appended.unread
  phase := by
    cases follows.phase with
    | idle noSearch answered allRecorded =>
        exact Phase.idle noSearch answered allRecorded
    | searching running unfound current allRecorded =>
        exact Phase.searching running unfound current allRecorded
    | holding running found answered unrecorded asked isHit isPacket held =>
        refine Phase.holding running found answered unrecorded asked isHit ?_
          (held.appended appended)
        exact List.getElem?_append_left (List.getElem?_eq_some_iff.mp isPacket).1
          |>.trans isPacket
  times k place packet bound isHit isPacket := by
    have inside : place < scan.log.length :=
      Nat.lt_of_lt_of_le (follows.greedy.hit_lt k place isHit).2
        follows.greedy.position_le
    rw [Scan.append, List.getElem?_append_left inside] at isPacket
    exact follows.times k place packet bound isHit isPacket
  latest := follows.latest

/-- The last call among those that have been recorded is not a new one. -/
theorem lastCall_of_ask
    (follows : Follows socket scan)
    (lastCall : LastCall (scan.asked ++ [call]) socket.recorded.length direction k) :
    LastCall scan.asked socket.recorded.length direction k := by
  have recorded := follows.recorded_le
  have asked := follows.greedy.hits_le
  have unchanged : ∀ j, j < socket.recorded.length →
      (scan.asked ++ [call])[j]? = scan.asked[j]? :=
    fun j bound => List.getElem?_append_left (by omega)
  obtain ⟨before, isCall, last⟩ := lastCall
  rw [unchanged k before] at isCall
  refine ⟨before, isCall, fun j other after bound isOther => ?_⟩
  exact last j other after bound ((unchanged j bound).trans isOther)

/-- Starting a search asks the scan. -/
theorem call
    (follows : Follows socket scan)
    (idle : socket.search = none) (call : Call) :
    Follows { socket with search := some { call with } } (scan.ask call) := by
  cases follows.phase with
  | searching running => simp [running] at idle
  | holding running => simp [running] at idle
  | idle noSearch answered allRecorded =>
      refine ⟨follows.greedy.ask answered call, follows.unread, ?_, follows.times, ?_⟩
      · refine Phase.searching rfl rfl ?_ allRecorded
        rw [Scan.current, Scan.ask, answered]
        exact List.getElem?_concat_length
      · intro direction k lastCall
        exact follows.latest direction k (follows.lastCall_of_ask lastCall)

/-- An iteration waits, or moves the scan over one packet. -/
theorem iterate
    (follows : Follows socket scan)
    (running : socket.search = some search)
    (searching : search.found = none)
    (iteration : search.Iteration socket.usrdata usrdata later) :
    ∃ moved : Scan Packet Call, moved.log = scan.log ∧ moved.asked = scan.asked ∧
      Follows { socket with usrdata := usrdata, search := some later } moved := by
  cases follows.phase with
  | idle noSearch => simp [noSearch] at running
  | holding other found => simp_all
  | searching other unfound current allRecorded =>
      cases other.symm.trans running
      cases iteration with
      | idle empty =>
          exact ⟨scan, rfl, rfl, follows.greedy, follows.unread,
            Phase.searching rfl searching current allRecorded, follows.times,
            follows.latest⟩
      | turn drained position unread =>
          exact ⟨scan, rfl, rfl, follows.greedy, unread.trans follows.unread,
            Phase.searching rfl searching current allRecorded, follows.times,
            follows.latest⟩
      | skip unread different =>
          rw [follows.unread] at unread
          obtain ⟨isNext, rest⟩ := Scan.remaining_eq_cons unread
          exact ⟨scan.skip, rfl, rfl, follows.greedy.skip current isNext different,
            rest.symm, Phase.searching rfl searching current allRecorded,
            follows.times, follows.latest⟩
      | hit unread answers behind timed =>
          rw [follows.unread] at unread
          obtain ⟨isNext, rest⟩ := Scan.remaining_eq_cons unread
          have pending := (List.getElem?_eq_some_iff.mp current).1
          have asked_le := follows.greedy.asked_le
          refine ⟨scan.hit, rfl, rfl, follows.greedy.hit current isNext answers,
            rest.symm, ?_, ?_, follows.latest⟩
          · refine Phase.holding rfl rfl ?_ ?_ ?_ ?_ isNext ⟨rfl, behind, timed⟩
            · simp only [Scan.hit, List.length_append, List.length_singleton]
              omega
            · simp only [Scan.hit, List.length_append, List.length_singleton]
              omega
            · rw [allRecorded]
              exact current
            · rw [allRecorded]
              exact List.getElem?_concat_length
          · intro k place packet bound isHit isPacket
            change k < socket.recorded.length at bound
            rw [Scan.hit, List.getElem?_append_left (allRecorded ▸ bound)] at isHit
            exact follows.times k place packet bound isHit isPacket

/-- Returning records the time of the packet that the scan has found. -/
theorem finish
    (follows : Follows socket scan)
    (running : socket.search = some search)
    (found : search.found = some slot)
    (timed : Search.timing socket.usrdata slot = .ok time) :
    Follows (socket.record search.direction time) scan := by
  cases follows.phase with
  | idle noSearch => simp [noSearch] at running
  | searching other unfound =>
      cases other.symm.trans running
      simp [unfound] at found
  | @holding _ _ place packet other isFound answered unrecorded asked isHit isPacket held =>
      cases other.symm.trans running
      cases isFound.symm.trans found
      cases held.timed.symm.trans timed
      have newest : (socket.recorded ++ [packet.timing])[socket.recorded.length]? =
          some packet.timing := List.getElem?_concat_length
      refine ⟨follows.greedy, ?_, ?_, ?_, ?_⟩
      · rw [usrdata_record]
        exact follows.unread
      · refine Phase.idle search_record answered ?_
        rw [recorded_record, List.length_append, List.length_singleton]
        exact unrecorded
      · intro k otherPlace otherPacket bound otherHit otherIsPacket
        rw [recorded_record, List.length_append, List.length_singleton] at bound
        rw [recorded_record]
        obtain earlier | rfl := Nat.lt_succ_iff_lt_or_eq.mp bound
        · rw [List.getElem?_append_left earlier]
          exact follows.times k otherPlace otherPacket earlier otherHit otherIsPacket
        · cases isHit.symm.trans otherHit
          cases isPacket.symm.trans otherIsPacket
          exact newest
      · intro direction k lastCall
        obtain ⟨before, ⟨call, isCall, sameDirection⟩, last⟩ := lastCall
        rw [recorded_record, List.length_append, List.length_singleton] at before last
        rw [recorded_record]
        obtain earlier | rfl := Nat.lt_succ_iff_lt_or_eq.mp before
        · have different : direction ≠ search.direction := by
            intro same
            exact last _ _ earlier (Nat.lt_succ_self _) asked same.symm
          rw [List.getElem?_append_left earlier, timestamp_record_other different]
          refine follows.latest direction k ⟨earlier, ⟨call, isCall, sameDirection⟩, ?_⟩
          intro j other after bound isOther
          exact last j other after (Nat.lt_succ_of_lt bound) isOther
        · cases asked.symm.trans isCall
          rw [newest, ← sameDirection, timestamp_record_same]

end Follows

/-- What holds of a socket after some events: its buffers are sound, and it
follows a greedy scan of the packets captured so far. -/
structure Reached
    (inetNtop : InetNtop) (start : UserData)
    (history : List Event) (socket : PCAPTimingSocket) : Prop where
  sound : socket.usrdata.Sound
  connection : UserData.SameConnection start socket.usrdata
  follows : ∃ scan : Scan Packet Call,
    scan.log = captured inetNtop start history ∧
    scan.asked = calls history ∧ Follows socket scan

/-- After every run, the socket follows a greedy scan of the packets captured
during it. -/
theorem run_reached
    {socket final : PCAPTimingSocket}
    (reached : Machine.run (step inetNtop) socket.connect events = some final) :
    Reached inetNtop socket.connect.usrdata events final := by
  refine Machine.run_invariant ?_ ?_ reached
  · exact ⟨socket.usrdata.sound_startLoop, .refl _, ⟨[], 0, [], []⟩, rfl, rfl,
      Follows.connect socket⟩
  · rintro history state event next _before
      ⟨sound, connection, scan, log, asked, follows⟩ stepped
    have stepped := step_cases sound stepped
    refine ⟨stepped.sound sound, connection.trans stepped.connection, ?_⟩
    have stored : Event.stored inetNtop state.usrdata event =
        Event.stored inetNtop socket.connect.usrdata event :=
      congrFun (stored_of_sameConnection connection) event
    rw [captured, calls, List.filterMap_append, List.filterMap_append,
      List.filterMap_cons, List.filterMap_cons, ← stored]
    cases stepped with
    | drop receives =>
        refine ⟨scan, ?_, ?_, follows⟩
        · simp [Event.stored, receives, log, captured]
        · simp [Event.asked, asked, calls]
    | capture receives appended =>
        refine ⟨scan.append _, ?_, ?_, follows.capture appended⟩
        · simp [Event.stored, receives, log, captured, Scan.append]
        · simp [Event.asked, asked, calls, Scan.append]
    | call idle =>
        refine ⟨scan.ask _, ?_, ?_, follows.call idle _⟩
        · simp [Event.stored, log, captured, Scan.ask]
        · simp [Event.asked, asked, calls, Scan.ask]
    | iterate running searching stillSound same iteration =>
        obtain ⟨moved, sameLog, sameAsked, movedFollows⟩ :=
          follows.iterate running searching iteration
        refine ⟨moved, ?_, ?_, movedFollows⟩
        · simp [Event.stored, sameLog, log, captured]
        · simp [Event.asked, sameAsked, asked, calls]
    | finish running found timed =>
        refine ⟨scan, ?_, ?_, follows.finish running found timed⟩
        · simp [Event.stored, log, captured]
        · simp [Event.asked, asked, calls]

end PCAPTimingSocket

end NetworkTiming
