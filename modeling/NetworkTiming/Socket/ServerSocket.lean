import NetworkTiming.TimingProxy.Relay
import NetworkTiming.TimingProxy.Rules

/-!
# What a write counts

`ServerSocket::write` sends what a partial `send` has left over by calling itself, and then
returns what the first `send` has accepted.  The count is the size of the buffer exactly if
the first `send` has accepted all of it.
-/

namespace NetworkTiming

open Interactive

namespace Socket.ServerSocket

/-- What `send` returns. -/
abbrev SendResult := Except Errno Nat

/-- A call of `write` that has returned. -/
structure Written where
  /-- What the call returns. -/
  returnVal : Nat
  /-- What the call and the calls nested in it have handed to the connection. -/
  transmitted : List UInt8
  deriving DecidableEq

/-- `ServerSocket::write`, on what `send` returns time after time; `none` if there is no
further result, or one that `send` cannot return. -/
def write (data : List UInt8) : List SendResult → Option (Except Fault Written)
  | [] => none
  | .error errno :: _ =>
      some (.error (.runtimeError ("Unable to send data. Reason: " ++ strerror errno)))
  | .ok count :: results =>
      if count ≤ data.length then
        if count ≠ data.length then
          -- what the nested call returns is not looked at
          (write (data.drop count) results).map fun rest => rest.map fun written =>
            ⟨count, data.take count ++ written.transmitted⟩
        else some (.ok ⟨count, data.take count⟩)
      else none

/-- The count of a call accounts for all that it has transmitted, which is the whole
buffer; a caller that goes on behind the count sends nothing twice. -/
structure CountsAll (data : List UInt8) (written : Written) : Prop where
  transmitted : written.returnVal = written.transmitted.length
  size : written.returnVal = data.length
  goesOn : written.transmitted ++ data.drop written.returnVal = data

variable {data : List UInt8} {results : List SendResult} {written : Written}

/-- A partial `send` leaves the rest of the buffer to a nested call. -/
theorem write_of_part (part : count < data.length) :
    write data (.ok count :: results) =
      (write (data.drop count) results).map fun rest => rest.map fun written =>
        ⟨count, data.take count ++ written.transmitted⟩ := by
  rw [write, if_pos part.le, if_pos part.ne]

theorem write_of_whole (data : List UInt8) (results : List SendResult) :
    write data (.ok data.length :: results) = some (.ok ⟨data.length, data⟩) := by
  rw [write, if_pos le_rfl, if_neg (not_not.mpr rfl), List.take_length]

theorem write_of_more (more : data.length < count) :
    write data (.ok count :: results) = none := by
  rw [write, if_neg (Nat.not_le.mpr more)]

/-- A call that returns has transmitted the whole buffer, and counts what the first `send`
has accepted. -/
theorem transmitted_of_write
    (returned : write data results = some (.ok written)) :
    written.transmitted = data ∧ results.head? = some (.ok written.returnVal) := by
  induction results generalizing data written with
  | nil => cases returned
  | cons result results inductionHypothesis =>
      cases result with
      | error errno => cases returned
      | ok count =>
          rcases Nat.lt_trichotomy count data.length with part | rfl | more
          · rw [write_of_part part, Option.map_eq_some_iff] at returned
            obtain ⟨rest, nested, returned⟩ := returned
            cases rest with
            | error fault => cases returned
            | ok later =>
                cases returned
                refine ⟨?_, rfl⟩
                change data.take count ++ later.transmitted = data
                rw [(inductionHypothesis nested).1]
                exact List.take_append_drop count data
          · rw [write_of_whole] at returned
            cases returned
            exact ⟨rfl, rfl⟩
          · rw [write_of_more more] at returned
            cases returned

/-! ## The session -/

section Session

variable {kind : KindOfSocket}

/-- What a session sees of a result of `send`. -/
def sendAnswer : SendResult → Answer kind
  | .ok count => .accepted count
  | .error errno => .failed errno

theorem bytesTo_handed (peer : Peer) (log : List (Event kind)) (bytes : List UInt8) :
    bytesTo peer (log ++ [.handed peer bytes]) = bytesTo peer log ++ bytes := by
  rw [bytesTo_concat, Event.bytesTo, if_pos rfl]

/-- With these answers, a session writes as the socket does. -/
theorem write_ensures
    {peer : Peer} {proxy : TimingProxy kind}
    (positive : ∀ count, .ok count ∈ results → 1 ≤ count)
    (answers : proxy.answers = results.map sendAnswer) :
    Ensures
      (fun returnVal final => ∃ transmitted,
        write data results = some (.ok ⟨returnVal, transmitted⟩) ∧
        bytesTo peer final.log = bytesTo peer proxy.log ++ transmitted)
      (fun reason _ => (∃ fault, reason = .exception fault ∧
          write data results = some (.error fault)) ∨
        reason = .waiting ∧ write data results = none)
      (TimingProxy.ServerSocket.write peer data) proxy := by
  induction results generalizing data proxy with
  | nil =>
      rw [TimingProxy.ServerSocket.write, TimingProxy.send, ensures_bind, ensures_bind,
        TimingProxy.ask_ensures_of_none answers]
      exact Or.inr ⟨rfl, rfl⟩
  | cons result results inductionHypothesis =>
      rw [TimingProxy.ServerSocket.write, TimingProxy.send, ensures_bind, ensures_bind,
        TimingProxy.ask_ensures answers]
      cases result with
      | error errno => exact Or.inl ⟨_, rfl, rfl⟩
      | ok count =>
          rcases Nat.lt_or_ge data.length count with more | within
          · have impossible : ¬(1 ≤ count ∧ count ≤ data.length) :=
              fun both => Nat.not_le.mpr more both.2
            simp only [sendAnswer, dif_neg impossible]
            exact Or.inr ⟨rfl, write_of_more more⟩
          have possible : 1 ≤ count ∧ count ≤ data.length :=
            ⟨positive count (List.mem_cons_self ..), within⟩
          simp only [sendAnswer, dif_pos possible]
          change Ensures _ _ (if count ≠ data.length then
              TimingProxy.ServerSocket.write peer (data.drop count) >>= fun _ => pure count
            else pure count) { proxy with
              answers := results.map sendAnswer
              log := proxy.log ++ [.handed peer (data.take count)] }
          rcases within.lt_or_eq with part | rfl
          · rw [if_pos part.ne, ensures_bind]
            have nested := @inductionHypothesis (data.drop count)
              { proxy with
                answers := results.map sendAnswer
                log := proxy.log ++ [.handed peer (data.take count)] }
              (fun count accepted => positive count (List.mem_cons_of_mem _ accepted)) rfl
            apply nested.mono
            · rintro later final ⟨transmitted, rest, handed⟩
              refine ⟨data.take count ++ transmitted, ?_, ?_⟩
              · rw [write_of_part part, rest]
                rfl
              · rw [handed, bytesTo_handed, List.append_assoc]
            · rintro reason final (⟨fault, thrown, rest⟩ | ⟨waits, rest⟩)
              · refine Or.inl ⟨fault, thrown, ?_⟩
                rw [write_of_part part, rest]
                rfl
              · refine Or.inr ⟨waits, ?_⟩
                rw [write_of_part part, rest]
                rfl
          · rw [if_neg (not_not.mpr rfl)]
            refine ⟨data, write_of_whole data results, ?_⟩
            change bytesTo peer (proxy.log ++ [.handed peer (data.take data.length)]) = _
            rw [bytesTo_handed, List.take_length]

end Session

/-- The count of a call that returns is right exactly if its first `send` has accepted the
whole buffer. -/
theorem countsAll_iff
    (data : List UInt8) (results : List SendResult) (written : Written)
    (returned : write data results = some (.ok written)) :
    CountsAll data written ↔ results.head? = some (.ok data.length) := by
  obtain ⟨transmitted, first⟩ := transmitted_of_write returned
  rw [first]
  constructor
  · intro counts
    rw [counts.size]
  · intro same
    have size : written.returnVal = data.length := Except.ok.inj (Option.some.inj same)
    refine ⟨?_, size, ?_⟩
    · rw [transmitted, size]
    · rw [transmitted, size, List.drop_length, List.append_nil]

/-- A buffer of two bytes that is sent at once. -/
theorem countsAll_at_once : CountsAll [65, 66] ⟨2, [65, 66]⟩ :=
  (countsAll_iff [65, 66] [.ok 2] _ rfl).mpr rfl

/-- A buffer of two bytes that is sent byte by byte: the count is 1. -/
theorem not_countsAll_byte_by_byte :
    ¬∀ data results written, write data results = some (.ok written) →
      CountsAll data written := by
  intro counts
  have size := (counts [65, 66] [.ok 1, .ok 1] ⟨1, [65, 66]⟩ rfl).size
  cases size

end Socket.ServerSocket

end NetworkTiming
