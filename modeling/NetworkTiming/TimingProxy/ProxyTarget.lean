import Mathlib.Data.List.Basic
import Mathlib.Data.List.TakeWhile
import NetworkTiming.Library.Decimal
import NetworkTiming.TimingProxy.Rules

/-!
# The control parser

A session starts with two lines on the control connection: the host that the proxy
shall connect to, and its port.  However the lines arrive, what has been read behind
the end of a line is kept for the next one.
-/

namespace NetworkTiming

open Interactive

/-! ## `std::stoi` -/

/-- `isspace` of the C library. -/
def isspace (character : UInt8) : Bool :=
  character = 32 || (9 ≤ character && character ≤ 13)

/-- The sign that a number may start with, and what is behind it. -/
def splitSign : List UInt8 → Bool × List UInt8
  | 45 :: digits => (true, digits)
  | 43 :: digits => (false, digits)
  | digits => (false, digits)

/-- `std::stoi`: leading spaces are skipped, and what stands behind the digits is
ignored. -/
def stoi (str : List UInt8) : Except Fault Int :=
  let (negative, str) := splitSign (str.dropWhile isspace)
  let digits := str.takeWhile fun character => decide (Decimal.IsDigit character)
  let value : Int := if negative then -Decimal.decode digits else Decimal.decode digits
  if digits = [] then .error (.invalidArgument "stoi")
  else if value < -2 ^ 31 ∨ 2 ^ 31 ≤ value then .error .outOfRange
  else .ok value

/-- A digit is neither a space nor a sign. -/
theorem isspace_of_isDigit
    (isDigit : Decimal.IsDigit character) :
    isspace character = false := by
  have low : 48 ≤ character.toNat := UInt8.le_iff_toNat_le.mp isDigit.1
  have notSpace : character ≠ 32 := by
    rintro rfl
    exact absurd low (by decide)
  have large : ¬character ≤ 13 := by
    rw [UInt8.le_iff_toNat_le, Nat.not_le]
    exact Nat.lt_of_lt_of_le (by decide) low
  simp [isspace, notSpace, large]

@[inherit_doc isspace_of_isDigit]
theorem splitSign_of_isDigit
    (isDigit : Decimal.IsDigit first) (rest : List UInt8) :
    splitSign (first :: rest) = (false, first :: rest) := by
  unfold splitSign
  split
  case h_1 same =>
      cases same
      exact absurd isDigit (by decide)
  case h_2 same =>
      cases same
      exact absurd isDigit (by decide)
  case h_3 => rfl

/-- A written number of type `int` is read. -/
theorem stoi_encode
    (fits : value < 2 ^ 31) :
    stoi (Decimal.encode value) = .ok (value : Int) := by
  have digits := Decimal.isDigit_of_mem_encode value
  have written := Decimal.encode_ne_nil value
  have decoded := Decimal.decode_encode value
  generalize Decimal.encode value = characters at digits written decoded
  cases characters with
  | nil => exact absurd rfl written
  | cons first rest =>
      have isDigit := digits first List.mem_cons_self
      have all : (first :: rest).takeWhile
          (fun character => decide (Decimal.IsDigit character)) = first :: rest :=
        List.takeWhile_eq_self_iff.mpr (by simpa using digits)
      have noSpace : ¬isspace first = true := by
        rw [isspace_of_isDigit isDigit]
        decide
      rw [stoi, List.dropWhile_cons_of_neg noSpace, splitSign_of_isDigit isDigit]
      simp only [all, decoded]
      rw [if_neg (by simp), if_neg (by simp; omega)]
      rfl

namespace TimingProxy

variable {kind : KindOfSocket}

/-! ## Lines -/

/-- The end of a line. -/
def newline : UInt8 := 10

/-- The characters that a buffer holds as a C string. -/
def cString (buf : List UInt8) : List UInt8 :=
  buf.takeWhile (· ≠ 0)

/-- `TimingProxy::getline`, for a number of passes of its loop: the first line, and
what has been read behind it. -/
def getline : (passes : Nat) → (str : List UInt8) →
    Session kind (List UInt8 × List UInt8)
  | 0, _ => throw .running
  | passes + 1, str =>
      if newline ∈ str then
        pure (str.take (str.idxOf newline), str.drop (str.idxOf newline + 1))
      else do
        match ← ServerSocket.read .control 1024 true with
        | .data buf => getline passes (str ++ cString buf)
        -- the end of the stream reads as no characters, again and again
        | .closed => getline passes str
        -- a blocking read throws instead
        | .failed _ => throw .waiting

/-- `TimingProxy::getProxyTarget`: `connect_host` and `connect_port`. -/
def getProxyTarget (passes : Nat) : Session kind (List UInt8 × Int) := do
  let (connectHost, tail) ← getline passes []
  let (line, _) ← getline passes tail
  match stoi line with
  | .ok connectPort => pure (connectHost, connectPort)
  | .error fault => throw (.exception fault)

/-- What a read of the control connection may deliver at once. -/
abbrev Chunk := { bytes : List UInt8 // bytes ≠ [] ∧ bytes.length ≤ 1024 }

/-- The bytes of some chunks. -/
def bytesOf (chunks : List Chunk) : List UInt8 :=
  chunks.flatMap Subtype.val

/-- The answers that deliver some chunks. -/
def deliveries (chunks : List Chunk) : List (Answer kind) :=
  chunks.map fun chunk => .received chunk.val

/-- A newline behind a line is the first one. -/
theorem idxOf_newline
    (single : newline ∉ line) (rest : List UInt8) :
    (line ++ newline :: rest).idxOf newline = line.length := by
  rw [List.idxOf_append_of_notMem single, List.idxOf_cons_self, Nat.add_zero]

/-- Characters in front of the first NUL are kept. -/
theorem cString_append
    (noNul : 0 ∉ text) (rest : List UInt8) :
    cString (text ++ rest) = text ++ cString rest := by
  refine List.takeWhile_append_of_pos fun character member => ?_
  rw [decide_eq_true_eq]
  rintro rfl
  exact noNul member

/-- Up to the end of a text without NUL, the C string of a chunk continues a string as
the chunk does. -/
theorem append_cString
    {str chunk later text rest : List UInt8}
    (stream : str ++ chunk ++ later = text ++ rest)
    (noNul : 0 ∉ text) :
    ∃ remaining, str ++ cString chunk ++ later = text ++ remaining := by
  obtain ⟨behind, rfl, _⟩ | ⟨behind, inside, rfl⟩ := List.append_eq_append_iff.mp stream
  · have whole : cString (chunk ++ []) = chunk ++ cString [] :=
      cString_append (fun member => noNul (by simp [member])) []
    rw [List.append_nil] at whole
    rw [whole, cString, List.takeWhile_nil, List.append_nil]
    exact ⟨rest, stream⟩
  · obtain ⟨front, rfl, rfl⟩ | ⟨more, rfl, rfl⟩ := List.append_eq_append_iff.mp inside
    · rw [cString_append fun member => noNul (by simp [member])]
      exact ⟨cString behind ++ later, by simp⟩
    · exact ⟨more ++ (cString chunk ++ later), by simp⟩

/-- Reading what the next answer delivers. -/
theorem ServerSocket.read_ensures
    {peer : Peer} {size : Nat} {blocking : Bool} {bytes : List UInt8}
    {proxy : TimingProxy kind} {answers : List (Answer kind)}
    {returns : Received → TimingProxy kind → Prop} {stops : Stop → TimingProxy kind → Prop}
    (next : proxy.answers = .received bytes :: answers)
    (possible : bytes ≠ [] ∧ bytes.length ≤ size) :
    Ensures returns stops (ServerSocket.read peer size blocking) proxy ↔
      returns (.data bytes)
        { proxy with answers := answers, log := proxy.log ++ [.received peer bytes] } := by
  rw [ServerSocket.read, recv, ensures_bind, ensures_bind, ask_ensures next]
  simp only [if_pos possible]
  exact Iff.rfl

/-- Reading while nothing is delivered. -/
theorem ServerSocket.read_waiting_ensures
    {peer : Peer} {size : Nat} {blocking : Bool} {proxy : TimingProxy kind}
    {returns : Received → TimingProxy kind → Prop} {stops : Stop → TimingProxy kind → Prop}
    (none : proxy.answers = []) :
    Ensures returns stops (ServerSocket.read peer size blocking) proxy ↔
      stops .waiting proxy := by
  rw [ServerSocket.read, recv, ensures_bind, ensures_bind, ask_ensures_of_none none]

/-- However a line arrives, it is returned, and the text behind it is still to come. -/
theorem getline_ensures
    {passes : Nat} {str line text rest : List UInt8} {chunks : List Chunk}
    {proxy : TimingProxy kind} {later : List (Answer kind)}
    (answers : proxy.answers = deliveries chunks ++ later)
    (enough : chunks.length < passes)
    (stream : str ++ bytesOf chunks = line ++ newline :: (text ++ rest))
    (single : newline ∉ line)
    (noNul : 0 ∉ line) (noNulBehind : 0 ∉ text) :
    Ensures
      (fun (head, tail) final => head = line ∧ ∃ unread remaining,
        final.answers = deliveries unread ++ later ∧ unread.length ≤ chunks.length ∧
          tail ++ bytesOf unread = text ++ remaining)
      (fun _ _ => False) (getline passes str : Session kind _) proxy := by
  induction passes generalizing str chunks proxy rest with
  | zero => exact absurd enough (Nat.not_lt_zero _)
  | succ passes inductionHypothesis =>
      rw [getline]
      by_cases ended : newline ∈ str
      · rw [if_pos ended]
        obtain ⟨behind, rfl, _⟩ | ⟨behind, rfl, sameRest⟩ :=
          List.append_eq_append_iff.mp stream
        · exact absurd (List.mem_append_left behind ended) single
        · cases behind with
          | nil => exact absurd (by simpa using ended) single
          | cons first tail =>
              obtain ⟨rfl, behind⟩ := List.cons.inj sameRest
              rw [idxOf_newline single, List.take_left, ← List.drop_drop, List.drop_left]
              exact ⟨rfl, chunks, rest, answers, Nat.le_refl _, behind.symm⟩
      · rw [if_neg ended]
        cases chunks with
        | nil =>
            refine absurd ?_ ended
            rw [show str = _ from (List.append_nil str).symm.trans stream]
            exact List.mem_append_right _ List.mem_cons_self
        | cons chunk chunks =>
            rw [bytesOf, List.flatMap_cons, ← List.append_assoc] at stream
            have noNulText : 0 ∉ line ++ newline :: text := by
              simp [noNul, noNulBehind, newline]
            obtain ⟨remaining, continued⟩ := append_cString
              (by rw [stream]; simp : _ = (line ++ newline :: text) ++ rest) noNulText
            rw [ensures_bind, ServerSocket.read_ensures answers chunk.property]
            refine (inductionHypothesis rfl (by simpa using enough)
              (by rw [← bytesOf] at continued; simpa using continued)).mono ?_
                fun _ _ impossible => impossible
            rintro ⟨head, tail⟩ final ⟨same, unread, more, rest, bound, follows⟩
            exact ⟨same, unread, more, rest, Nat.le_succ_of_le bound, follows⟩

/-- However the reads cut the stream of the control connection, the host of the first
line and the port of the second one are returned. -/
theorem getProxyTarget_returns
    (passes : Nat)
    (proxy : TimingProxy kind)
    (host : List UInt8) (port : UInt16) (rest : List UInt8)
    (chunks : List Chunk) (later : List (Answer kind))
    (single : newline ∉ host)
    (noNul : 0 ∉ host)
    (stream : bytesOf chunks =
      host ++ newline :: (Decimal.encode port.toNat ++ newline :: rest))
    (enough : chunks.length < passes) :
    ∃ final, outcome (getProxyTarget passes)
        { proxy with answers := deliveries chunks ++ later } =
      (.ok (host, port.toNat), final) := by
  have digits := Decimal.isDigit_of_mem_encode port.toNat
  have lineSingle : newline ∉ Decimal.encode port.toNat :=
    fun member => absurd (digits _ member) (by decide)
  have lineNoNul : 0 ∉ Decimal.encode port.toNat :=
    fun member => absurd (digits _ member) (by decide)
  have fits : port.toNat < 2 ^ 31 := Nat.lt_trans port.toNat_lt (by decide)
  have ensured : Ensures (fun target _ => target = (host, (port.toNat : Int)))
      (fun _ _ => False) (getProxyTarget passes)
      { proxy with answers := deliveries chunks ++ later } := by
    rw [getProxyTarget, ensures_bind]
    refine (getline_ensures rfl enough
      (by simpa using stream : [] ++ bytesOf chunks = host ++ newline ::
        ((Decimal.encode port.toNat ++ [newline]) ++ rest)) single noNul
      (by simp [lineNoNul, newline])).mono ?_ fun _ _ impossible => impossible
    rintro ⟨head, tail⟩ middle ⟨rfl, unread, remaining, answers, bound, follows⟩
    rw [ensures_bind]
    refine (getline_ensures answers (Nat.lt_of_le_of_lt bound enough)
      (by simpa using follows : tail ++ bytesOf unread =
        Decimal.encode port.toNat ++ newline :: ([] ++ remaining)) lineSingle lineNoNul
      List.not_mem_nil).mono ?_ fun _ _ impossible => impossible
    rintro ⟨line, tail⟩ final ⟨rfl, _⟩
    simp only [stoi_encode fits]
    rfl
  exact ensured.exists_outcome_eq

/-- The lines `10.0.0.2` and `80` and two more bytes, cut within the port and in front
of its newline. -/
def lineChunks : List Chunk :=
  [⟨[49, 48, 46, 48, 46, 48, 46, 50, 10, 56], by decide⟩, ⟨[48], by decide⟩,
    ⟨[10, 0, 71], by decide⟩]

theorem getProxyTarget_returns_lineChunks :
    let proxy : TimingProxy .cpu := ⟨[], false, "lo", 0, 0, 0, []⟩
    ∃ final, outcome (getProxyTarget 4)
        { proxy with answers := deliveries lineChunks ++ [] } =
      (.ok ([49, 48, 46, 48, 46, 48, 46, 50], 80), final) :=
  getProxyTarget_returns 4 _ _ 80 [0, 71] lineChunks [] (by decide) (by decide)
    (by decide +kernel) (by decide)

end TimingProxy

end NetworkTiming
