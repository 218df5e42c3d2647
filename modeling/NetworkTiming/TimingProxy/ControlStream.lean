import NetworkTiming.TimingProxy.Service

/-!
# The control stream

Each read of the control connection keeps the characters in front of its first NUL, and
the two lines are found in what all the reads keep.  Reading ends if the lines are
complete there; at the end of the stream it goes on for ever otherwise.
-/

namespace NetworkTiming

open Interactive
open Service (line tail)

namespace TimingProxy

variable {kind : KindOfSocket}

/-- The characters that some reads keep. -/
def characters (chunks : List Chunk) : List UInt8 :=
  chunks.flatMap fun chunk => cString chunk.val

@[simp] theorem characters_nil : characters [] = [] := rfl

@[simp] theorem characters_cons (chunk : Chunk) (chunks : List Chunk) :
    characters (chunk :: chunks) = cString chunk.val ++ characters chunks :=
  List.flatMap_cons

/-! ## Lines of a text -/

theorem line_append (ended : newline ∈ str) (more : List UInt8) :
    line (str ++ more) = line str := by
  rw [line, line, List.idxOf_append_of_mem ended,
    List.take_append_of_le_length (List.idxOf_lt_length_of_mem ended).le]

theorem tail_append (ended : newline ∈ str) (more : List UInt8) :
    tail (str ++ more) = tail str ++ more := by
  rw [tail, tail, List.idxOf_append_of_mem ended,
    List.drop_append_of_le_length (List.idxOf_lt_length_of_mem ended)]

/-- A line, its end and what stands behind it make up the text. -/
theorem line_append_tail (ended : newline ∈ str) :
    line str ++ newline :: tail str = str := by
  have first := List.idxOf_lt_length_of_mem ended
  have here : str[str.idxOf newline] = newline := List.getElem_idxOf first
  rw [line, tail]
  nth_rewrite 2 [← here]
  rw [List.getElem_cons_drop, List.take_append_drop]

theorem newline_notMem_line (str : List UInt8) : newline ∉ line str := by
  intro member
  have first := List.idxOf_lt_length_of_mem member
  have before : (line str).length ≤ str.idxOf newline := List.length_take_le _ _
  have same : (line str ++ str.drop (str.idxOf newline)).idxOf newline =
      (line str).idxOf newline := List.idxOf_append_of_mem member
  rw [line, List.take_append_drop, ← line] at same
  omega

theorem line_concat {first : List UInt8} (single : newline ∉ first) (rest : List UInt8) :
    line (first ++ newline :: rest) = first := by
  rw [line, idxOf_newline single, List.take_left]

theorem tail_concat {first : List UInt8} (single : newline ∉ first) (rest : List UInt8) :
    tail (first ++ newline :: rest) = rest := by
  rw [tail, idxOf_newline single, ← List.drop_drop, List.drop_left]
  rfl

/-- The target that the characters which are kept spell, once both lines are complete. -/
def targetOf (str : List UInt8) : Option (Except Fault (List UInt8 × Int)) :=
  if newline ∈ str ∧ newline ∈ tail str then
    some ((stoi (line (tail str))).map fun connectPort => (line str, connectPort))
  else none

/-! ## How a call ends -/

/-- How a call has ended, if it has. -/
def settled {α : Type} : Except Stop α → Option (Except Fault α)
  | .ok value => some (.ok value)
  | .error (.exception fault) => some (.error fault)
  | .error _ => none

/-- How a call ends with some answers of the environment. -/
def ending {α : Type}
    (call : Session kind α)
    (proxy : TimingProxy kind)
    (answers : List (Answer kind)) : Option (Except Fault α) :=
  settled (outcome call { proxy with answers := answers }).1

/-- A call returns, throws, or has not ended. -/
theorem ending_cases
    {α : Type} {call : Session kind α} {proxy : TimingProxy kind}
    {answers : List (Answer kind)}
    {returns : α → TimingProxy kind → Prop} {stops : Stop → TimingProxy kind → Prop}
    (ensured : Ensures returns stops call { proxy with answers := answers }) :
    (∃ value final, ending call proxy answers = some (.ok value) ∧ returns value final) ∨
      (∃ fault final, ending call proxy answers = some (.error fault) ∧
        stops (.exception fault) final) ∨
      ∃ reason final, ending call proxy answers = none ∧
        (∀ fault, reason ≠ .exception fault) ∧ stops reason final := by
  revert ensured
  unfold Ensures ending
  rcases outcome call { proxy with answers := answers } with ⟨reason | value, final⟩
  all_goals intro ensured
  · cases reason with
    | exception fault => exact Or.inr (Or.inl ⟨fault, final, rfl, ensured⟩)
    | waiting =>
        refine Or.inr (Or.inr ⟨.waiting, final, rfl, ?_, ensured⟩)
        intro fault same
        cases same
    | running =>
        refine Or.inr (Or.inr ⟨.running, final, rfl, ?_, ensured⟩)
        intro fault same
        cases same
  · exact Or.inl ⟨value, final, rfl, ensured⟩

/-- The end of the stream is found again and again. -/
def closings (count : Nat) : List (Answer kind) :=
  List.replicate count .closed

/-- Reading at the end of the stream. -/
theorem ServerSocket.read_closed_ensures
    {peer : Peer} {size : Nat} {blocking : Bool} {answers : List (Answer kind)}
    {proxy : TimingProxy kind}
    {returns : Received → TimingProxy kind → Prop} {stops : Stop → TimingProxy kind → Prop}
    (next : proxy.answers = .closed :: answers) :
    Ensures returns stops (ServerSocket.read peer size blocking) proxy ↔
      returns .closed { proxy with answers := answers } := by
  rw [ServerSocket.read, recv, ensures_bind, ensures_bind, ask_ensures next]
  exact Iff.rfl

/-- A line is found in the characters that the reads keep, or the loop goes on. -/
theorem getline_ensures_characters
    {passes count : Nat} {str : List UInt8} {chunks : List Chunk}
    {proxy : TimingProxy kind}
    (answers : proxy.answers = deliveries chunks ++ closings count) :
    Ensures
      (fun read final => newline ∈ str ++ characters chunks ∧
        read.1 = line (str ++ characters chunks) ∧
        ∃ unread, final.answers = deliveries unread ++ closings count ∧
          unread.length ≤ chunks.length ∧
          read.2 ++ characters unread = tail (str ++ characters chunks))
      (fun reason _ => (∀ fault, reason ≠ .exception fault) ∧
        (chunks.length < passes → newline ∉ str ++ characters chunks))
      (getline passes str : Session kind _) proxy := by
  induction passes generalizing str chunks count proxy with
  | zero =>
      refine ⟨?_, fun enough => absurd enough (Nat.not_lt_zero _)⟩
      intro fault same
      cases same
  | succ passes inductionHypothesis =>
      rw [getline]
      by_cases ended : newline ∈ str
      · rw [if_pos ended, line_append ended, tail_append ended]
        exact ⟨List.mem_append_left _ ended, rfl, chunks, answers, le_rfl, rfl⟩
      · rw [if_neg ended]
        have incomplete : newline ∉ str ++ characters [] := by
          rwa [characters_nil, List.append_nil]
        cases chunks with
        | nil =>
            cases count with
            | zero =>
                rw [ensures_bind, ServerSocket.read_waiting_ensures answers]
                refine ⟨?_, fun _ => incomplete⟩
                intro fault same
                cases same
            | succ count =>
                -- the characters are those that the next pass starts with
                rw [ensures_bind, ServerSocket.read_closed_ensures answers]
                apply (@inductionHypothesis count str [] _ rfl).mono
                · rintro read final ⟨complete, _⟩
                  exact absurd complete incomplete
                · rintro reason final ⟨running, _⟩
                  exact ⟨running, fun _ => incomplete⟩
        | cons chunk chunks =>
            rw [ensures_bind, ServerSocket.read_ensures answers chunk.property,
              characters_cons, ← List.append_assoc]
            apply (inductionHypothesis rfl).mono
            · rintro read final ⟨complete, first, unread, left, fewer, behind⟩
              exact ⟨complete, first, unread, left, Nat.le_succ_of_le fewer, behind⟩
            · rintro reason final ⟨running, waits⟩
              exact ⟨running, fun enough => waits (Nat.lt_of_succ_lt_succ enough)⟩

/-- The target is that of the characters which the reads keep. -/
theorem getProxyTarget_ensures_characters
    {passes count : Nat} {chunks : List Chunk} {proxy : TimingProxy kind}
    (answers : proxy.answers = deliveries chunks ++ closings count) :
    Ensures
      (fun target _ => targetOf (characters chunks) = some (.ok target))
      (fun reason _ =>
        (∀ fault, reason = .exception fault →
          targetOf (characters chunks) = some (.error fault)) ∧
        ((∀ fault, reason ≠ .exception fault) → chunks.length < passes →
          targetOf (characters chunks) = none))
      (getProxyTarget passes : Session kind _) proxy := by
  rw [getProxyTarget, ensures_bind]
  apply (@getline_ensures_characters kind passes count [] chunks proxy answers).mono
  · rintro ⟨connectHost, behind⟩ middle ⟨complete, rfl, unread, left, fewer, same⟩
    rw [List.nil_append] at complete same
    rw [ensures_bind]
    apply (getline_ensures_characters left).mono
    · rintro ⟨portLine, rest⟩ final ⟨completeBehind, rfl, _⟩
      rw [same] at completeBehind
      rw [targetOf, if_pos ⟨complete, completeBehind⟩, same]
      cases accepted : stoi (line (tail (characters chunks))) with
      | ok connectPort =>
          simp only [accepted]
          rfl
      | error fault =>
          simp only [accepted]
          refine ⟨?_, fun running => absurd rfl (running fault)⟩
          rintro other ⟨⟩
          rfl
    · rintro reason final ⟨running, waits⟩
      refine ⟨fun fault thrown => absurd thrown (running fault), fun _ enough => ?_⟩
      have incomplete := waits (Nat.lt_of_le_of_lt fewer enough)
      rw [same] at incomplete
      exact if_neg fun lines => incomplete lines.2
  · rintro reason final ⟨running, waits⟩
    refine ⟨fun fault thrown => absurd thrown (running fault), fun _ enough => ?_⟩
    exact if_neg fun lines => waits enough lines.1

/-! ## Whether a call ends -/

/-- With some number of passes, and the end of the stream found often enough, a call
returns or throws. -/
def Ends {α : Type}
    (call : (passes : Nat) → Session kind α)
    (proxy : TimingProxy kind)
    (chunks : List Chunk) : Prop :=
  ∃ passes count, ending (call passes) proxy (deliveries chunks ++ closings count) ≠ none

/-- A call of `getline` ends exactly if there is a newline in the text that it starts
with or in the characters that its reads keep. -/
theorem getline_ends_iff
    (proxy : TimingProxy kind) (str : List UInt8) (chunks : List Chunk) :
    Ends (fun passes => getline passes str) proxy chunks ↔
      newline ∈ str ++ characters chunks := by
  constructor
  · rintro ⟨passes, count, ended⟩
    rcases ending_cases (@getline_ensures_characters kind passes count str chunks
      { proxy with answers := deliveries chunks ++ closings count } rfl) with
        ⟨read, final, _, complete, _⟩ | ⟨fault, final, _, running, _⟩ | ⟨_, _, running, _⟩
    · exact complete
    · exact absurd rfl (running fault)
    · exact absurd running ended
  · intro complete
    refine ⟨chunks.length + 1, 0, ?_⟩
    rcases ending_cases (@getline_ensures_characters kind (chunks.length + 1) 0 str chunks
      { proxy with answers := deliveries chunks ++ closings 0 } rfl) with
        ⟨read, final, returned, _⟩ | ⟨fault, final, _, running, _⟩ | ⟨_, _, _, _, _, waits⟩
    · simp [returned]
    · exact absurd rfl (running fault)
    · exact absurd complete (waits (Nat.lt_succ_self _))

/-- With enough passes, the characters decide how `getProxyTarget` ends. -/
theorem getProxyTarget_ending
    (proxy : TimingProxy kind) (chunks : List Chunk) (count : Nat)
    (enough : chunks.length < passes) :
    ending (getProxyTarget passes) proxy (deliveries chunks ++ closings count) =
      targetOf (characters chunks) := by
  rcases ending_cases (@getProxyTarget_ensures_characters kind passes count chunks
    { proxy with answers := deliveries chunks ++ closings count } rfl) with
      ⟨target, final, returned, spelled⟩ | ⟨fault, final, thrown, throws, _⟩ |
        ⟨reason, final, running, unthrown, _, waits⟩
  · rw [returned, spelled]
  · rw [thrown, throws fault rfl]
  · rw [running, waits unthrown enough]

/-- The loops end exactly if two lines are complete in the characters that the reads
keep. -/
theorem getProxyTarget_ends_iff (proxy : TimingProxy kind) (chunks : List Chunk) :
    Ends getProxyTarget proxy chunks ↔
      newline ∈ characters chunks ∧ newline ∈ tail (characters chunks) := by
  have spelled : targetOf (characters chunks) ≠ none ↔
      newline ∈ characters chunks ∧ newline ∈ tail (characters chunks) := by
    simp [targetOf]
  rw [← spelled]
  constructor
  · rintro ⟨passes, count, ended⟩
    rcases ending_cases (@getProxyTarget_ensures_characters kind passes count chunks
      { proxy with answers := deliveries chunks ++ closings count } rfl) with
        ⟨target, _, _, spelled⟩ | ⟨fault, _, _, throws, _⟩ | ⟨_, _, running, _⟩
    · simp [spelled]
    · simp [throws fault rfl]
    · exact absurd running ended
  · intro complete
    refine ⟨chunks.length + 1, 0, ?_⟩
    rwa [getProxyTarget_ending proxy chunks 0 (Nat.lt_succ_self _)]

/-- Reading ends exactly if the characters that are kept complete what is read: the line
of a call of `getline`, both lines of `getProxyTarget`. -/
theorem control_ends_iff
    (proxy : TimingProxy kind) (str : List UInt8) (chunks : List Chunk) :
    (Ends (fun passes => getline passes str) proxy chunks ↔
        newline ∈ str ++ characters chunks) ∧
      (Ends getProxyTarget proxy chunks ↔
        newline ∈ characters chunks ∧ newline ∈ tail (characters chunks)) :=
  ⟨getline_ends_iff proxy str chunks, getProxyTarget_ends_iff proxy chunks⟩

/-- A client that sends a host without the end of its line and closes the control
connection keeps the loop going. -/
theorem not_ends_of_closed_early :
    let proxy : TimingProxy .cpu := ⟨[], false, "lo", 0, 0, 0, []⟩
    let host : List Chunk := [⟨[104], by decide⟩]
    ¬Ends (fun passes => getline passes []) proxy host ∧
      ¬Ends getProxyTarget proxy host := by
  intro proxy host
  rw [getline_ends_iff, getProxyTarget_ends_iff]
  decide

end TimingProxy

end NetworkTiming
