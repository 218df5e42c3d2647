import NetworkTiming.TimingProxy.Stages

/-!
# Timestamps of a top-level write

What `send` does not accept at once is written by another call of the virtual `write`.
The timing code of the technique is to run once for a write, for all of its data and
behind its last byte.  It does so if the first `send` accepts everything, and never
otherwise: a nested `write` runs it for the rest before the outer ones do.
-/

namespace NetworkTiming

open TimingProxy

variable {kind : KindOfSocket}

namespace Stage

/-- The stage waits for `send` to the server. -/
def isSending : Stage kind → Bool
  | .sendServer _ _ => true
  | _ => false

/-- The stage belongs to a `write` to the server. -/
def isWriting : Stage kind → Bool
  | .sendServer _ _ | .timing _ _ _ => true
  | _ => false

/-- The stage goes on with the timing code of the top-level `write` of the data. -/
def Continues (data : List UInt8) : Stage kind → Prop
  | .timing call timed enclosing =>
      call ≠ .start kind ∧ timed = data ∧ enclosing = []
  | _ => False

instance (data : List UInt8) : (stage : Stage kind) → Decidable (stage.Continues data)
  | .timing _ _ _ => inferInstanceAs (Decidable (_ ∧ _))
  | .readClient | .sendServer _ _ | .readServer | .stampRead _ | .sendClient _
  | .sendControl _ | .poll _ _ | .ended | .raised _ => isFalse id

end Stage

/-- Behind its sends, a `write` runs the timing code once, for all of the data. -/
def TakesTimestampOnce (data : List UInt8) (calls : List (Stage kind)) : Prop :=
  match calls.dropWhile Stage.isSending with
  | [] => False
  | first :: measured =>
      first = .timing (.start kind) data [] ∧ ∀ stage ∈ measured, stage.Continues data

instance (data : List UInt8) (calls : List (Stage kind)) :
    Decidable (TakesTimestampOnce data calls) :=
  match same : calls.dropWhile Stage.isSending with
  | [] => isFalse (by rw [TakesTimestampOnce, same]; exact id)
  | first :: measured =>
      decidable_of_iff
        (first = .timing (.start kind) data [] ∧
          ∀ stage ∈ measured, stage.Continues data)
        (by rw [TakesTimestampOnce, same])

namespace TimingCall

/-- The number of calls that can follow in the same run of the timing code. -/
def remaining : {kind : KindOfSocket} → TimingCall kind → Nat
  | _, .writeTime => 2
  | _, .peek => 1
  | _, .readTime => 0
  | _, .search retries => retries
  | _, .lookUp => 0

end TimingCall

namespace Config

/-- A step within a `write`. -/
def writeStep (config : Config kind) (answer : Answer kind) : Option (Config kind) :=
  if config.stage.isWriting then step config answer else none

/-- The calls that a `write` makes. -/
def calls (config : Config kind) (answers : List (Answer kind)) : List (Stage kind) :=
  (Machine.passed writeStep config answers).map stage

variable {proxy : TimingProxy kind} {config next : Config kind} {answer : Answer kind}
  {data : List UInt8}

theorem raise_isWriting (fault : Fault) :
    (Stage.raise fault : Stage kind).isWriting = false := by
  cases fault <;> rfl

theorem calls_of_not_writing
    (left : config.stage.isWriting = false) (answers : List (Answer kind)) :
    calls config answers = [] := by
  rw [calls, Machine.passed_of_stuck, List.map_nil]
  intro answer
  rw [writeStep, left]
  rfl

theorem calls_cons
    (stepped : writeStep config answer = some next) (answers : List (Answer kind)) :
    calls config (answer :: answers) = config.stage :: calls next answers := by
  rw [calls, Machine.passed_cons_of_eq_some stepped, List.map_cons, calls]

/-- The first call is that of the stage. -/
theorem calls_eq (config : Config kind) (answers : List (Answer kind)) :
    calls config answers = [] ∨
      ∃ rest, calls config answers = config.stage :: rest := by
  cases answers with
  | nil => exact .inl rfl
  | cons answer answers =>
      cases stepped : writeStep config answer with
      | none => exact .inl (by simp [calls, Machine.passed, stepped])
      | some next => exact .inr ⟨_, calls_cons stepped answers⟩

theorem moves_of_writeStep (stepped : writeStep config answer = some next) :
    Moves config answer next := by
  rw [writeStep, Option.ite_none_right_eq_some] at stepped
  exact moves_of_step stepped.2

/-! ## The timing code -/

/-- The timing code of the top-level `write` goes on, or the `write` is left. -/
theorem Moves.continues
    {call : TimingCall kind}
    (moves : Moves ⟨.timing call data [], proxy⟩ answer next) :
    (∃ other later, other.remaining < call.remaining ∧
        next = ⟨.timing other data [], later⟩) ∨
      next.stage.isWriting = false := by
  cases moves with
  | writeTime | peeked | searchedOn => exact .inl ⟨_, _, Nat.lt_succ_self _, rfl⟩
  | readTime | messageFound | searchExhausted | lookedUp => exact .inr rfl
  | searchFailed => exact .inr (raise_isWriting _)

/-- Behind its first call, the timing code of the top-level `write` does not start
again. -/
theorem continues_of_timing
    {call : TimingCall kind}
    (behind : call.remaining < (TimingCall.start kind).remaining)
    (answers : List (Answer kind)) :
    ∀ stage ∈ calls ⟨.timing call data [], proxy⟩ answers, stage.Continues data := by
  induction answers generalizing call proxy with
  | nil => simp [calls]
  | cons answer answers inductionHypothesis =>
      cases stepped : writeStep ⟨.timing call data [], proxy⟩ answer with
      | none => simp [calls, Machine.passed, stepped]
      | some next =>
          rw [calls_cons stepped]
          have here : call ≠ .start kind := by
            rintro rfl
            exact lt_irrefl _ behind
          rintro stage (_ | ⟨_, later⟩)
          · exact ⟨here, rfl, rfl⟩
          · rcases (moves_of_writeStep stepped).continues with
              ⟨other, proxy, fewer, rfl⟩ | left
            · exact inductionHypothesis (fewer.trans behind) stage later
            · rw [calls_of_not_writing left] at later
              cases later

/-! ## Nested writes -/

/-- The timing code that a nested `write` starts is not that of the top-level one. -/
theorem not_takesTimestampOnce_of_enclosed
    {part : List UInt8} {enclosing : List (List UInt8)} (nested : enclosing ≠ [])
    (answers : List (Answer kind)) :
    ¬TakesTimestampOnce data (calls ⟨.sendServer part enclosing, proxy⟩ answers) := by
  induction answers generalizing part enclosing proxy with
  | nil => exact id
  | cons answer answers inductionHypothesis =>
      cases stepped : writeStep ⟨.sendServer part enclosing, proxy⟩ answer with
      | none => simp [calls, Machine.passed, stepped, TakesTimestampOnce]
      | some next =>
          rw [calls_cons stepped]
          cases moves_of_writeStep stepped with
          | partSent => exact inductionHypothesis (List.cons_ne_nil _ _)
          | allSent =>
              rcases calls_eq _ answers with none | ⟨rest, measured⟩
              · rw [none]
                exact id
              · rw [measured]
                rintro ⟨top, _⟩
                cases top
                exact nested rfl
          | sendingFailed =>
              rw [calls_of_not_writing rfl]
              exact id

/-! ## The top-level write -/

/-- The timing code of the top-level `write` runs once. -/
theorem takesTimestampOnce_of_start
    {answers : List (Answer kind)} {final : Config kind}
    (reached : Machine.run writeStep ⟨.timing (.start kind) data [], proxy⟩ answers =
      some final)
    (left : final.stage.isWriting = false) :
    TakesTimestampOnce data (calls ⟨.timing (.start kind) data [], proxy⟩ answers) := by
  cases answers with
  | nil =>
      cases reached
      cases left
  | cons answer answers =>
      rw [Machine.run_cons, Option.bind_eq_some_iff] at reached
      obtain ⟨next, stepped, _rest⟩ := reached
      rw [calls_cons stepped]
      refine ⟨rfl, ?_⟩
      rcases (moves_of_writeStep stepped).continues with ⟨other, later, fewer, rfl⟩ | done
      · exact continues_of_timing fewer answers
      · simp [calls_of_not_writing done]

/-- A `write` that is left has run the timing code once, for all of the data, exactly if
the first `send` has accepted all of them. -/
theorem takesTimestampOnce_iff_accepted
    (data : List UInt8) (proxy : TimingProxy kind)
    (answers : List (Answer kind)) (final : Config kind)
    (reached : Machine.run writeStep ⟨.sendServer data [], proxy⟩ answers = some final)
    (left : final.stage.isWriting = false) :
    TakesTimestampOnce data (calls ⟨.sendServer data [], proxy⟩ answers) ↔
      answers.head? = some (.accepted data.length) := by
  cases answers with
  | nil =>
      cases reached
      cases left
  | cons answer answers =>
      rw [Machine.run_cons, Option.bind_eq_some_iff] at reached
      obtain ⟨next, stepped, reached⟩ := reached
      rw [calls_cons stepped, List.head?_cons, Option.some.injEq]
      change TakesTimestampOnce data (calls next answers) ↔ _
      cases moves_of_writeStep stepped with
      | partSent _ rest =>
          refine iff_of_false
            (not_takesTimestampOnce_of_enclosed (List.cons_ne_nil _ _) answers) ?_
          rintro ⟨⟩
          exact lt_irrefl _ rest
      | allSent =>
          exact iff_of_true (takesTimestampOnce_of_start reached left) rfl
      | sendingFailed =>
          rw [calls_of_not_writing rfl]
          exact iff_of_false id nofun

/-- A connected socket that measures with the CPU. -/
def cpuSocket : TimingProxy .cpu where
  answers := []
  established := true
  device := ""
  tstampPrecision := 0
  txTimestamp := 0
  rxTimestamp := 0
  log := []

/-- `send` accepts two bytes at once. -/
def acceptedAtOnce : List (Answer .cpu) :=
  [.accepted 2, .time 10, .peeked, .time 20]

/-- `send` accepts two bytes one by one. -/
def acceptedOneByOne : List (Answer .cpu) :=
  [.accepted 1, .accepted 1, .time 10, .peeked, .time 20, .time 30, .peeked, .time 40]

/-- Two bytes that are accepted at once are timed once. -/
theorem takesTimestampOnce_at_once :
    (∃ final, Machine.run writeStep ⟨.sendServer [1, 2] [], cpuSocket⟩ acceptedAtOnce =
        some final ∧ final.stage.isWriting = false) ∧
      TakesTimestampOnce [1, 2] (calls ⟨.sendServer [1, 2] [], cpuSocket⟩ acceptedAtOnce) :=
  ⟨⟨_, rfl, rfl⟩,
    (takesTimestampOnce_iff_accepted [1, 2] cpuSocket acceptedAtOnce _ rfl rfl).mpr rfl⟩

/-- Two bytes that are accepted one by one are timed twice: the second byte alone, and
then, behind a response that has been waited for, both of them. -/
theorem not_takesTimestampOnce_one_by_one :
    (∃ final, Machine.run writeStep ⟨.sendServer [1, 2] [], cpuSocket⟩ acceptedOneByOne =
        some final ∧ final.stage = .readServer) ∧
      ¬TakesTimestampOnce [1, 2]
        (calls ⟨.sendServer [1, 2] [], cpuSocket⟩ acceptedOneByOne) :=
  ⟨⟨_, rfl, rfl⟩, by decide +kernel⟩

end Config

end NetworkTiming
