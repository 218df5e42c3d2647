import NetworkTiming.Socket.QueueRefinement

/-!
# Segments of a stream

A call of `timingForPacket` compares one whole buffer with one whole packet.  TCP
cuts what is written into segments as it likes, and reads join and cut what was
received as they like.  The searches for some consecutive pieces of a stream end
exactly if the pieces are the segments.
-/

namespace NetworkTiming

/-- More tests of the loop condition do not change what a search returns. -/
theorem timingForPacket_mono
    (returned : timingForPacket tests search usrdata = some result)
    (more : tests ≤ enough) :
    timingForPacket enough search usrdata = some result := by
  induction tests generalizing enough search usrdata with
  | zero => cases returned
  | succ tests inductionHypothesis =>
      obtain ⟨enough, rfl⟩ : ∃ rest, enough = rest + 1 := ⟨enough - 1, by omega⟩
      rw [timingForPacket] at returned ⊢
      cases found : search.found with
      | some slot =>
          simp only [found] at returned ⊢
          exact returned
      | none =>
          simp only [found] at returned ⊢
          cases iterated : search.iterate usrdata with
          | error fault =>
              simp only [iterated] at returned ⊢
              exact returned
          | ok next =>
              simp only [iterated] at returned ⊢
              exact inductionHypothesis returned (Nat.le_of_succ_le_succ more)

/-- Leaving out segments does not make a stream longer. -/
theorem length_flatten_le_of_sublist
    {pieces segments : List (List UInt8)}
    (sublist : pieces.Sublist segments) :
    pieces.flatten.length ≤ segments.flatten.length := by
  induction sublist with
  | slnil => exact Nat.le_refl _
  | cons segment _sublist inductionHypothesis =>
      rw [List.flatten_cons, List.length_append]
      exact Nat.le_add_left_of_le inductionHypothesis
  | cons_cons segment _sublist inductionHypothesis =>
      rw [List.flatten_cons, List.flatten_cons, List.length_append, List.length_append]
      exact Nat.add_le_add_left inductionHypothesis _

/-- Some of the nonempty segments that carry the whole stream are all of them. -/
theorem eq_of_sublist_of_length_flatten
    {pieces segments : List (List UInt8)}
    (sublist : pieces.Sublist segments)
    (nonempty : [] ∉ segments)
    (sameLength : pieces.flatten.length = segments.flatten.length) :
    pieces = segments := by
  induction sublist with
  | slnil => rfl
  | cons segment sublist _inductionHypothesis =>
      -- a segment that is left out is missing in the length
      have shorter := length_flatten_le_of_sublist sublist
      have segmentLength : 0 < segment.length :=
        List.length_pos_iff.mpr fun empty => nonempty (by simp [empty])
      rw [List.flatten_cons, List.length_append] at sameLength
      omega
  | cons_cons segment _sublist inductionHypothesis =>
      rw [List.flatten_cons, List.flatten_cons, List.length_append,
        List.length_append] at sameLength
      rw [inductionHypothesis (fun member => nonempty (List.mem_cons_of_mem _ member))
        (by omega)]

/-- The payloads of the unread packets of a direction. -/
def UserData.segments
    (usrdata : UserData) (direction : PacketDirection) : List (List UInt8) :=
  (usrdata.unread.filter (·.direction = direction)).map Packet.payload

/-- The searches for some pieces of a stream, one after another, end with a match,
and none goes on behind the last packet that carries the bytes it looks for. -/
def SearchesMatch (direction : PacketDirection) :
    (pieces : List (List UInt8)) → UserData → Prop
  | [], _ => True
  | buf :: rest, usrdata =>
      ∃ tests next time,
        timingForPacket tests { buf := buf, direction := direction } usrdata =
          some (.ok (next, time)) ∧
        (∃ taken, usrdata.segments direction = taken ++ next.segments direction ∧
          taken.dropLast.flatten.length < buf.length) ∧
        SearchesMatch direction rest next

/-- Among some packets, there is a first answer or none. -/
theorem Call.first_answer (call : Call) (packets : List Packet) :
    (∀ packet ∈ packets, ¬call.AnsweredBy packet) ∨
      ∃ before packet after, packets = before ++ packet :: after ∧
        (∀ other ∈ before, ¬call.AnsweredBy other) ∧ call.AnsweredBy packet := by
  cases found : packets.find? fun packet => call.AnsweredBy packet with
  | none =>
      left
      simpa using found
  | some packet =>
      right
      obtain ⟨answers, before, after, split, unanswered⟩ :=
        List.find?_eq_some_iff_append.mp found
      exact ⟨before, packet, after, split, by simpa using unanswered, by simpa using answers⟩

section Searches

variable {usrdata next : UserData} {direction : PacketDirection} {buf : List UInt8}

/-- What is left of the segments in front of an answer and behind it. -/
theorem segments_eq
    (unread : usrdata.unread = before ++ packet :: next.unread)
    (answers : Call.AnsweredBy { buf := buf, direction := direction } packet) :
    usrdata.segments direction =
      (before.filter (·.direction = direction)).map Packet.payload ++
        buf :: next.segments direction := by
  obtain ⟨sameDirection, samePayload⟩ := answers
  rw [UserData.segments, unread, List.filter_append, List.filter_cons_of_pos
    (by simpa using sameDirection), List.map_append, List.map_cons, samePayload]
  rfl

/-- A search that returns has taken a segment with its bytes from the queue. -/
theorem segments_of_timingForPacket
    (sound : usrdata.Sound)
    (returned : timingForPacket tests { buf := buf, direction := direction } usrdata =
      some (.ok (next, time))) :
    next.Sound ∧ ∃ before,
      usrdata.segments direction = before ++ buf :: next.segments direction := by
  let search : Search := { buf := buf, direction := direction }
  obtain unanswered | ⟨before, packet, after, unread, unanswered, answers⟩ :=
    search.toCall.first_answer usrdata.unread
  · have endless : timingForPacket tests search usrdata = none :=
      timingForPacket_of_unanswered sound rfl unanswered tests
    cases endless.symm.trans returned
  · obtain ⟨other, otherReturned, otherSound, _connection, rest⟩ :=
      timingForPacket_of_answered sound rfl unread unanswered answers (Nat.le_refl _)
    have first := timingForPacket_mono otherReturned (Nat.le_max_left _ tests)
    have second := timingForPacket_mono returned (Nat.le_max_right
      (Search.distance usrdata before + 2) tests)
    cases first.symm.trans second
    rw [← rest] at unread
    exact ⟨otherSound, _, segments_eq unread answers⟩

/-- The first segment of a direction is found by a search for its bytes. -/
theorem exists_timingForPacket
    (sound : usrdata.Sound)
    (isFirst : usrdata.segments direction = buf :: rest) :
    ∃ tests next time,
      timingForPacket tests { buf := buf, direction := direction } usrdata =
        some (.ok (next, time)) ∧
      next.Sound ∧ next.segments direction = rest := by
  let search : Search := { buf := buf, direction := direction }
  obtain unanswered | ⟨before, packet, after, unread, unanswered, answers⟩ :=
    search.toCall.first_answer usrdata.unread
  · have member : buf ∈ usrdata.segments direction := by
      rw [isFirst]
      exact List.mem_cons_self
    obtain ⟨packet, filtered, samePayload⟩ := List.mem_map.mp member
    obtain ⟨isUnread, sameDirection⟩ := List.mem_filter.mp filtered
    exact absurd ⟨by simpa using sameDirection, samePayload⟩
      (unanswered packet isUnread)
  · obtain ⟨next, returned, nextSound, _connection, left⟩ :=
      timingForPacket_of_answered sound rfl unread unanswered answers (Nat.le_refl _)
    refine ⟨_, next, packet.timing, returned, nextSound, ?_⟩
    rw [← left] at unread
    have segments := (segments_eq unread answers).symm.trans isFirst
    cases passed : (before.filter (·.direction = direction)).map Packet.payload with
    | nil =>
        rw [passed] at segments
        exact (List.cons.inj segments).2
    | cons payload payloads =>
        -- a passed segment with these bytes would have been the answer
        rw [passed] at segments
        obtain ⟨rfl, _⟩ := List.cons.inj segments
        have member : payload ∈ (before.filter (·.direction = direction)).map
            Packet.payload := by
          rw [passed]
          exact List.mem_cons_self
        obtain ⟨other, filtered, samePayload⟩ := List.mem_map.mp member
        obtain ⟨isBefore, sameDirection⟩ := List.mem_filter.mp filtered
        exact absurd ⟨by simpa using sameDirection, samePayload⟩
          (unanswered other isBefore)

end Searches

/-- Searches that match take their pieces from the segments, in order. -/
theorem SearchesMatch.sublist
    {usrdata : UserData}
    (sound : usrdata.Sound)
    (found : SearchesMatch direction pieces usrdata) :
    pieces.Sublist (usrdata.segments direction) := by
  induction pieces generalizing usrdata with
  | nil => exact List.nil_sublist _
  | cons buf rest inductionHypothesis =>
      obtain ⟨tests, next, time, returned, _taken, others⟩ := found
      obtain ⟨nextSound, before, segments⟩ := segments_of_timingForPacket sound returned
      rw [segments]
      exact ((inductionHypothesis nextSound others).cons_cons buf).trans
        (List.sublist_append_right before _)

/-- The searches for the segments themselves match. -/
theorem UserData.Sound.searchesMatch_segments
    {usrdata : UserData}
    (sound : usrdata.Sound)
    (nonempty : [] ∉ usrdata.segments direction)
    (segments : usrdata.segments direction = pieces) :
    SearchesMatch direction pieces usrdata := by
  induction pieces generalizing usrdata with
  | nil => trivial
  | cons buf rest inductionHypothesis =>
      obtain ⟨tests, next, time, returned, nextSound, left⟩ :=
        exists_timingForPacket sound segments
      rw [segments] at nonempty
      refine ⟨tests, next, time, returned, ⟨[buf], ?_, ?_⟩, ?_⟩
      · rw [segments, left]
        rfl
      · exact List.length_pos_iff.mpr fun empty => nonempty (by simp [empty])
      · refine inductionHypothesis nextSound (fun member => nonempty ?_) left
        rw [left] at member
        exact List.mem_cons_of_mem _ member

/-- The searches for the pieces of a stream end exactly if the pieces are its
segments. -/
theorem UserData.Sound.searchesMatch_iff
    {usrdata : UserData}
    (sound : usrdata.Sound)
    (nonempty : [] ∉ usrdata.segments direction)
    (sameStream : pieces.flatten = (usrdata.segments direction).flatten) :
    SearchesMatch direction pieces usrdata ↔ pieces = usrdata.segments direction := by
  constructor
  · intro found
    exact eq_of_sublist_of_length_flatten (found.sublist sound) nonempty
      (congrArg List.length sameStream)
  · intro same
    exact sound.searchesMatch_segments nonempty same.symm

/-- Packets without payload are not stored. -/
theorem payload_ne_nil_of_received
    (receives : received inetNtop usrdata header packet = .ok (some stored)) :
    stored.payload ≠ [] := by
  unfold received at receives
  split at receives
  next => cases receives
  next =>
    split at receives
    next decoded _decoding =>
      unfold receivedPayload at receives
      split at receives
      next => cases receives
      next =>
        split at receives
        next => cases receives
        next filled =>
          obtain ⟨payload, copied, receives⟩ :=
            Traced.except_bind_eq_ok_iff.mp receives
          cases receives
          intro empty
          apply filled
          rw [← length_of_copyPayload copied]
          exact List.length_eq_zero_iff.mpr empty
    next => cases receives
    next => cases receives

namespace PCAPTimingSocket

/-- No unread packet is empty. -/
theorem Reached.payload_ne_nil
    (reached : Reached inetNtop start events socket)
    (isUnread : packet ∈ socket.usrdata.unread) :
    packet.payload ≠ [] := by
  obtain ⟨_sound, _connection, scan, log, _asked, follows⟩ := reached
  intro empty
  rw [follows.unread, Scan.remaining, log] at isUnread
  obtain ⟨event, _happened, stored⟩ :=
    List.mem_filterMap.mp (List.mem_of_mem_drop isUnread)
  unfold Event.stored at stored
  split at stored
  next header frame =>
    split at stored
    next received receives =>
      subst stored
      exact payload_ne_nil_of_received receives empty
    next => cases stored
  next => cases stored

theorem Reached.nil_not_mem_segments
    (reached : Reached inetNtop start events socket)
    (direction : PacketDirection) :
    [] ∉ socket.usrdata.segments direction := by
  intro member
  obtain ⟨packet, filtered, empty⟩ := List.mem_map.mp member
  exact reached.payload_ne_nil (List.mem_filter.mp filtered).1 empty

/-- When the segments of a stream have been stored, the searches for the strings
that were written or read end with a match exactly if these strings are the
segments. -/
theorem run_searchesMatch_iff
    (inetNtop : InetNtop)
    (socket : PCAPTimingSocket)
    (events : List Event)
    (ready : PCAPTimingSocket)
    (reached : Machine.run (step inetNtop) socket.connect events = some ready)
    (direction : PacketDirection)
    (pieces : List (List UInt8))
    (sameStream : pieces.flatten = (ready.usrdata.segments direction).flatten) :
    SearchesMatch direction pieces ready.usrdata ↔
      pieces = ready.usrdata.segments direction := by
  have atEnd := run_reached reached
  exact atEnd.sound.searchesMatch_iff (atEnd.nil_not_mem_segments direction) sameStream

/-- Two segments of one byte travel in each direction. -/
def segmented : List Event :=
  [capture 5 (request 1), capture 6 (request 2),
    capture 7 (response 3), capture 8 (response 4)]

theorem exists_segmented :
    ∃ ready, Machine.run (step (succeeding inetText)) portEighty.connect segmented =
        some ready ∧
      ready.usrdata.segments .destinationRemote = [[1], [2]] ∧
      ready.usrdata.segments .sourceRemote = [[3], [4]] := by
  have ran : ((Machine.run (step (succeeding inetText)) portEighty.connect
      segmented).map fun ready => (ready.usrdata.segments .destinationRemote,
        ready.usrdata.segments .sourceRemote)) =
      some ([[1], [2]], [[3], [4]]) := by decide +kernel
  obtain ⟨ready, reached, segments⟩ := Option.map_eq_some_iff.mp ran
  obtain ⟨sent, received⟩ := Prod.mk.inj segments
  exact ⟨ready, reached, sent, received⟩

/-- Two writes of a byte, and two reads of a byte, find their segments. -/
theorem run_searchesMatch_segmented :
    ∃ ready, Machine.run (step (succeeding inetText)) portEighty.connect segmented =
        some ready ∧
      SearchesMatch .destinationRemote [[1], [2]] ready.usrdata ∧
      SearchesMatch .sourceRemote [[3], [4]] ready.usrdata := by
  obtain ⟨ready, reached, sent, received⟩ := exists_segmented
  refine ⟨ready, reached, ?_, ?_⟩
  · refine (run_searchesMatch_iff _ _ _ ready reached _ _ ?_).mpr sent.symm
    rw [sent]
  · refine (run_searchesMatch_iff _ _ _ ready reached _ _ ?_).mpr received.symm
    rw [received]

/-- A write of two bytes that was split, and a read of two segments at once, do
not find a packet. -/
theorem segmented_not_searchesMatch :
    ∃ ready, Machine.run (step (succeeding inetText)) portEighty.connect segmented =
        some ready ∧
      ready.usrdata.segments .destinationRemote = [[1], [2]] ∧
      ready.usrdata.segments .sourceRemote = [[3], [4]] ∧
      ¬SearchesMatch .destinationRemote [[1, 2]] ready.usrdata ∧
      ¬SearchesMatch .sourceRemote [[3, 4]] ready.usrdata := by
  obtain ⟨ready, reached, sent, received⟩ := exists_segmented
  have sound := (run_reached reached).sound
  refine ⟨ready, reached, sent, received, fun found => ?_, fun found => ?_⟩
  · have sublist := found.sublist sound
    rw [sent] at sublist
    revert sublist
    decide
  · have sublist := found.sublist sound
    rw [received] at sublist
    revert sublist
    decide

end PCAPTimingSocket

end NetworkTiming
