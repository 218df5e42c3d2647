import NetworkTiming.TimingProxy.ControlStream

/-!
# Cuttings of the control stream

The reads of the control connection cut its stream anywhere.  The stream alone decides on
the target, and on the bytes that are kept of the two lines, exactly as long as nothing but
a NUL follows a NUL.
-/

namespace NetworkTiming

open Service (line tail)

namespace TimingProxy

variable {kind : KindOfSocket}

/-! ## Kept bytes -/

/-- For each byte of a read, whether it is kept. -/
def marksOf (bytes : List UInt8) : List Bool :=
  List.replicate (cString bytes).length true ++
    List.replicate (bytes.length - (cString bytes).length) false

/-- For each byte that some reads deliver, whether it is kept. -/
def marks (chunks : List Chunk) : List Bool :=
  chunks.flatMap fun chunk => marksOf chunk.val

/-- How `getProxyTarget` ends with some reads: with a target, with an exception, or
waiting for more. -/
def targetOn (proxy : TimingProxy kind) (chunks : List Chunk) :
    Option (Except Fault (List UInt8 × Int)) :=
  ending (getProxyTarget (chunks.length + 1)) proxy (deliveries chunks)

/-- The first lines of a stream with their newlines, or all of it if it has fewer lines. -/
def firstLines : (count : Nat) → List UInt8 → List UInt8
  | 0, _ => []
  | count + 1, stream =>
      if newline ∈ stream then line stream ++ newline :: firstLines count (tail stream)
      else stream

/-- The cuttings of a stream into reads have the same outcome, and they keep the same
bytes of the two lines. -/
structure CutFreely (proxy : TimingProxy kind) (stream : List UInt8) : Prop where
  target : ∀ first second : List Chunk, bytesOf first = stream → bytesOf second = stream →
    targetOn proxy first = targetOn proxy second
  kept : ∀ first second : List Chunk, bytesOf first = stream → bytesOf second = stream →
    (marks first).take (firstLines 2 stream).length =
      (marks second).take (firstLines 2 stream).length

/-- Nothing but a NUL follows a NUL. -/
def NulsLast (str : List UInt8) : Prop :=
  ∀ character ∈ str.dropWhile (· ≠ 0), character = 0

theorem marksOf_append {text : List UInt8} (noNul : 0 ∉ text) (rest : List UInt8) :
    marksOf (text ++ rest) = List.replicate text.length true ++ marksOf rest := by
  rw [marksOf, marksOf, cString_append noNul, List.length_append, List.length_append,
    Nat.add_sub_add_left, List.replicate_add, List.append_assoc]

theorem cString_eq_self {text : List UInt8} (noNul : 0 ∉ text) : cString text = text := by
  simpa [cString] using cString_append noNul []

theorem marksOf_eq_replicate {text : List UInt8} (noNul : 0 ∉ text) :
    marksOf text = List.replicate text.length true := by
  rw [marksOf, cString_eq_self noNul, Nat.sub_self, List.replicate_zero, List.append_nil]

theorem cString_of_nuls (nuls : ∀ character ∈ str, character = 0) : cString str = [] := by
  cases str with
  | nil => rfl
  | cons first rest => simp [cString, nuls first List.mem_cons_self]

@[simp] theorem marks_cons (chunk : Chunk) (chunks : List Chunk) :
    marks (chunk :: chunks) = marksOf chunk.val ++ marks chunks :=
  List.flatMap_cons

theorem marks_append (first second : List Chunk) :
    marks (first ++ second) = marks first ++ marks second :=
  List.flatMap_append

/-- The bytes that are marked. -/
def marked (bytes : List UInt8) (flags : List Bool) : List UInt8 :=
  (bytes.zip flags).filterMap fun byte => if byte.2 then some byte.1 else none

theorem marked_append (same : bytes.length = flags.length) (rest : List UInt8)
    (more : List Bool) :
    marked (bytes ++ rest) (flags ++ more) = marked bytes flags ++ marked rest more := by
  rw [marked, List.zip_append same, List.filterMap_append, marked, marked]

theorem marked_replicate (bytes : List UInt8) (flag : Bool) :
    marked bytes (List.replicate bytes.length flag) = if flag then bytes else [] := by
  induction bytes with
  | nil => cases flag <;> rfl
  | cons first rest inductionHypothesis =>
      rw [marked] at inductionHypothesis ⊢
      cases flag <;> simpa [List.replicate_succ] using inductionHypothesis

@[simp] theorem length_marksOf (bytes : List UInt8) :
    (marksOf bytes).length = bytes.length := by
  have fits : (cString bytes).length ≤ bytes.length := (List.takeWhile_prefix _).length_le
  rw [marksOf, List.length_append, List.length_replicate, List.length_replicate]
  omega

theorem marked_marksOf (bytes : List UInt8) : marked bytes (marksOf bytes) = cString bytes := by
  have split : cString bytes ++ bytes.dropWhile (· ≠ 0) = bytes :=
    List.takeWhile_append_dropWhile
  have behind : bytes.length - (cString bytes).length =
      (bytes.dropWhile (· ≠ 0)).length := by
    have lengths := congrArg List.length split
    rw [List.length_append] at lengths
    omega
  rw [marksOf, behind]
  nth_rewrite 1 [← split]
  rw [marked_append List.length_replicate.symm, marked_replicate, marked_replicate]
  simp

/-- The characters that are kept are the bytes that are marked. -/
theorem marked_marks (chunks : List Chunk) :
    marked (bytesOf chunks) (marks chunks) = characters chunks := by
  induction chunks with
  | nil => rfl
  | cons chunk chunks inductionHypothesis =>
      rw [bytesOf, List.flatMap_cons, ← bytesOf, marks_cons, characters_cons,
        marked_append (length_marksOf chunk.val).symm, marked_marksOf, inductionHypothesis]

/-- A text without NUL at the front of a stream is kept, however it is cut; NULs behind
it are not. -/
theorem kept_of_bytesOf
    {chunks : List Chunk} {text rest : List UInt8}
    (stream : bytesOf chunks = text ++ rest)
    (noNul : 0 ∉ text) :
    ∃ more marked, characters chunks = text ++ more ∧
      marks chunks = List.replicate text.length true ++ marked ∧
      ((∀ character ∈ rest, character = 0) →
        more = [] ∧ marked = List.replicate rest.length false) := by
  induction chunks generalizing text rest with
  | nil =>
      obtain ⟨rfl, rfl⟩ := List.append_eq_nil_iff.mp stream.symm
      exact ⟨[], [], rfl, rfl, fun _ => ⟨rfl, rfl⟩⟩
  | cons chunk chunks inductionHypothesis =>
      rw [bytesOf, List.flatMap_cons, ← bytesOf] at stream
      rw [characters_cons, marks_cons]
      obtain ⟨later, rfl, behind⟩ | ⟨inside, cut, rfl⟩ := List.append_eq_append_iff.mp stream
      · rw [List.mem_append, not_or] at noNul
        obtain ⟨more, marked, kept, flags, nuls⟩ := inductionHypothesis behind noNul.2
        refine ⟨more, marked, ?_, ?_, nuls⟩
        · rw [cString_eq_self noNul.1, kept, List.append_assoc]
        · rw [marksOf_eq_replicate noNul.1, flags, List.length_append,
            ← List.replicate_append_replicate, List.append_assoc]
      · obtain ⟨more, marked, kept, flags, nuls⟩ :=
          @inductionHypothesis [] (bytesOf chunks) rfl List.not_mem_nil
        refine ⟨cString inside ++ characters chunks, marksOf inside ++ marks chunks, ?_, ?_, ?_⟩
        · rw [cut, cString_append noNul, List.append_assoc]
        · rw [cut, marksOf_append noNul, List.append_assoc]
        · intro zeros
          have insideNuls : cString inside = [] :=
            cString_of_nuls fun character member => zeros _ (List.mem_append_left _ member)
          obtain ⟨rfl, rfl⟩ := nuls fun character member =>
            zeros _ (List.mem_append_right _ member)
          rw [kept, flags, insideNuls, marksOf, insideNuls]
          simp

theorem targetOn_eq (proxy : TimingProxy kind) (chunks : List Chunk) :
    targetOn proxy chunks = targetOf (characters chunks) := by
  rw [targetOn, ← getProxyTarget_ending proxy chunks 0 (Nat.lt_succ_self _), closings,
    List.replicate_zero, List.append_nil]

/-! ## When cuttings do not matter -/

/-- Lines that are complete are not changed by what follows them. -/
theorem targetOf_append
    (complete : newline ∈ str ∧ newline ∈ tail str) (more : List UInt8) :
    targetOf (str ++ more) = targetOf str := by
  have still : newline ∈ str ++ more ∧ newline ∈ tail str ++ more :=
    ⟨List.mem_append_left more complete.1, List.mem_append_left more complete.2⟩
  rw [targetOf, tail_append complete.1, line_append complete.1, if_pos still,
    line_append complete.2, targetOf, if_pos complete]

/-- A text that does not end with a NUL has none, if NULs come last. -/
theorem NulsLast.noNul (last : NulsLast (str ++ [character])) (ends : character ≠ 0) :
    0 ∉ str ++ [character] := by
  have behind : (str ++ [character]).dropWhile (· ≠ 0) = [] := by
    by_contra nonempty
    have same := List.IsSuffix.getLast
      (List.dropWhile_suffix (l := str ++ [character]) (decide <| · ≠ 0)) nonempty
    rw [List.getLast_concat] at same
    exact ends (same ▸ last _ (List.getLast_mem nonempty))
  intro member
  have kept := List.dropWhile_eq_nil_iff.mp behind 0 member
  simp at kept

/-- The first two lines, once they are complete. -/
theorem firstLines_two
    (complete : newline ∈ stream ∧ newline ∈ tail stream) :
    firstLines 2 stream = (line stream ++ newline :: line (tail stream)) ++ [newline] ∧
      stream = firstLines 2 stream ++ tail (tail stream) := by
  have lines : firstLines 2 stream =
      (line stream ++ newline :: line (tail stream)) ++ [newline] := by
    rw [firstLines, if_pos complete.1, firstLines, if_pos complete.2, firstLines]
    simp
  refine ⟨lines, ?_⟩
  rw [lines]
  nth_rewrite 1 [← line_append_tail complete.1, ← line_append_tail complete.2]
  simp

/-- A stream in which two lines are not complete. -/
theorem firstLines_two_eq_self
    (incomplete : ¬(newline ∈ stream ∧ newline ∈ tail stream)) :
    firstLines 2 stream = stream := by
  rw [firstLines]
  split
  case isTrue ended =>
      rw [firstLines, if_neg fun behind => incomplete ⟨ended, behind⟩]
      exact line_append_tail ended
  case isFalse => rfl

/-- Where nothing but a NUL follows a NUL, a cutting of the stream keeps what a single
read would keep. -/
theorem kept_of_nulsLast
    {chunks : List Chunk}
    (last : NulsLast (firstLines 2 (bytesOf chunks))) :
    targetOf (characters chunks) = targetOf (cString (firstLines 2 (bytesOf chunks))) ∧
      (marks chunks).take (firstLines 2 (bytesOf chunks)).length =
        marksOf (firstLines 2 (bytesOf chunks)) := by
  by_cases complete : newline ∈ bytesOf chunks ∧ newline ∈ tail (bytesOf chunks)
  · obtain ⟨lines, stream⟩ := firstLines_two complete
    have noNul : 0 ∉ firstLines 2 (bytesOf chunks) := by
      rw [lines] at last ⊢
      exact last.noNul (by decide)
    have both : newline ∈ firstLines 2 (bytesOf chunks) ∧
        newline ∈ tail (firstLines 2 (bytesOf chunks)) := by
      rw [lines, List.append_assoc, List.cons_append, tail_concat (newline_notMem_line _)]
      simp
    obtain ⟨more, flags, kept, marks, _⟩ := kept_of_bytesOf stream noNul
    rw [kept, marks, targetOf_append both, cString_eq_self noNul, marksOf_eq_replicate noNul]
    exact ⟨rfl, List.take_left' List.length_replicate⟩
  · rw [firstLines_two_eq_self complete] at last ⊢
    have split : bytesOf chunks =
        cString (bytesOf chunks) ++ (bytesOf chunks).dropWhile (· ≠ 0) :=
      List.takeWhile_append_dropWhile.symm
    have noNul : 0 ∉ cString (bytesOf chunks) := by
      intro member
      simpa using List.mem_takeWhile_imp member
    obtain ⟨more, flags, kept, marks, nuls⟩ := kept_of_bytesOf split noNul
    obtain ⟨rfl, rfl⟩ := nuls last
    have lengths : (bytesOf chunks).length - (cString (bytesOf chunks)).length =
        ((bytesOf chunks).dropWhile (· ≠ 0)).length :=
      Nat.sub_eq_of_eq_add' ((congrArg List.length split).trans List.length_append)
    rw [kept, marks, List.append_nil, marksOf, lengths]
    refine ⟨rfl, List.take_of_length_le ?_⟩
    rw [List.length_append, List.length_replicate, List.length_replicate, ← List.length_append,
      ← split]

/-- A NUL with another byte directly behind it. -/
theorem exists_behind_nul
    (mixed : ¬NulsLast str) :
    ∃ front character back, str = front ++ 0 :: character :: back ∧ character ≠ 0 := by
  induction str with
  | nil => exact absurd (by simp [NulsLast]) mixed
  | cons first rest inductionHypothesis =>
      have further (mixedRest : ¬NulsLast rest) :
          ∃ front character back,
            first :: rest = front ++ 0 :: character :: back ∧ character ≠ 0 := by
        obtain ⟨front, character, back, rfl, other⟩ := inductionHypothesis mixedRest
        exact ⟨first :: front, character, back, rfl, other⟩
      by_cases nul : first = 0
      · subst nul
        cases rest with
        | nil => exact absurd (by simp [NulsLast]) mixed
        | cons second rest =>
            by_cases next : second = 0
            · subst next
              exact further (by simpa [NulsLast] using mixed)
            · exact ⟨[], second, rest, rfl, next⟩
      · apply further
        simpa [NulsLast, nul] using mixed

/-- The cutting of a stream into its bytes. -/
def bytewise (stream : List UInt8) : List Chunk :=
  stream.map fun byte => ⟨[byte], List.cons_ne_nil _ _, by simp⟩

@[simp] theorem bytesOf_bytewise (stream : List UInt8) :
    bytesOf (bytewise stream) = stream := by
  simp [bytesOf, bytewise, List.flatMap_map]

theorem marks_bytewise (stream : List UInt8) :
    marks (bytewise stream) = stream.map fun byte => decide (byte ≠ 0) := by
  have single (byte : UInt8) : marksOf [byte] = [decide (byte ≠ 0)] := by
    by_cases nul : byte = 0 <;> simp [marksOf, cString, nul]
  simp only [marks, bytewise, List.flatMap_map, single]
  exact List.map_eq_flatMap.symm

/-- Where a byte follows a NUL, it is dropped if one read delivers both of them. -/
theorem NulsLast.of_cutFreely
    {proxy : TimingProxy kind}
    (free : CutFreely proxy stream) : NulsLast (firstLines 2 stream) := by
  by_contra mixed
  obtain ⟨front, character, back, lines, other⟩ := exists_behind_nul mixed
  have split : ∃ rest, stream = firstLines 2 stream ++ rest := by
    by_cases complete : newline ∈ stream ∧ newline ∈ tail stream
    · exact ⟨_, (firstLines_two complete).2⟩
    · exact ⟨[], by rw [firstLines_two_eq_self complete, List.append_nil]⟩
  obtain ⟨rest, stream_eq⟩ := split
  rw [lines] at stream_eq
  let both : Chunk := ⟨[0, character], List.cons_ne_nil _ _, by simp⟩
  have cut : bytesOf (bytewise front ++ both :: bytewise (back ++ rest)) = stream := by
    rw [bytesOf, List.flatMap_append, List.flatMap_cons, ← bytesOf, ← bytesOf,
      bytesOf_bytewise, bytesOf_bytewise, stream_eq]
    simp [both]
  have kept := free.kept (bytewise stream) _ (bytesOf_bytewise stream) cut
  have together : marksOf both.val = [false, false] := by simp [both, marksOf, cString]
  rw [marks_append, marks_cons, marks_bytewise, marks_bytewise, marks_bytewise, lines,
    together, stream_eq] at kept
  have here := congrArg (·[front.length + 1]?) kept
  simp [other] at here

/-- The stream alone decides on what is read exactly if nothing but a NUL follows a NUL up
to the end of the second line. -/
theorem cutFreely_iff (proxy : TimingProxy kind) (stream : List UInt8) :
    CutFreely proxy stream ↔ NulsLast (firstLines 2 stream) := by
  constructor
  · exact NulsLast.of_cutFreely
  · intro last
    have fixed (chunks : List Chunk) (cut : bytesOf chunks = stream) :=
      @kept_of_nulsLast chunks (cut ▸ last)
    refine ⟨?_, ?_⟩
    · intro first second firstCut secondCut
      rw [targetOn_eq, targetOn_eq, (fixed first firstCut).1, (fixed second secondCut).1,
        firstCut, secondCut]
    · intro first second firstCut secondCut
      have firstMarks := (fixed first firstCut).2
      have secondMarks := (fixed second secondCut).2
      rw [firstCut] at firstMarks
      rw [secondCut] at secondMarks
      rw [firstMarks, secondMarks]

/-- The lines `h` and `80`, with a NUL behind the host, are read if each byte comes alone
and not if they come at once. -/
theorem not_cutFreely_nul :
    ¬∀ (proxy : TimingProxy .cpu) (stream : List UInt8), CutFreely proxy stream := by
  intro free
  have target := (free ⟨[], false, "lo", 0, 0, 0, []⟩ [104, 0, 10, 56, 48, 10]).target
    (bytewise [104, 0, 10, 56, 48, 10]) [⟨[104, 0, 10, 56, 48, 10], by decide⟩]
    (by decide) (by decide)
  rw [targetOn_eq, targetOn_eq] at target
  exact absurd (congrArg Option.isSome target) (by decide +kernel)

end TimingProxy

end NetworkTiming
