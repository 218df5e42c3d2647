import NetworkTiming.TimingProxy.ControlStages
import NetworkTiming.TimingProxy.Cuttings
import NetworkTiming.TimingProxy.PeerClosed

/-!
# The port of a target

The second line of the control connection is read as an `int`, and the `int` is handed to
`connect` as a 16-bit number.  What `connect` is called with is what the whole line spells
exactly for lines that hold a port and nothing else; of a line with a NUL, each read drops
what it has delivered behind it.
-/

namespace NetworkTiming

/-! ## Numbers that a line spells -/

/-- A sign as a text, and whether it negates. -/
inductive SignText : (sign : List UInt8) → (negative : Bool) → Prop
  | none : SignText [] false
  | plus : SignText [43] false
  | minus : SignText [45] true

/-- A number of some digits behind a sign. -/
def signed (negative : Bool) (digits : List UInt8) : Int :=
  if negative then -Decimal.decode digits else Decimal.decode digits

/-- All of a text is a number in decimal, behind spaces and a sign. -/
def Spells (str : List UInt8) (number : Int) : Prop :=
  ∃ spaces sign digits negative, str = spaces ++ (sign ++ digits) ∧
    (∀ character ∈ spaces, isspace character = true) ∧
    SignText sign negative ∧
    digits ≠ [] ∧ (∀ character ∈ digits, Decimal.IsDigit character) ∧
    number = signed negative digits

/-- The sign of a number, and the text behind it. -/
def signedText (str : List UInt8) : Bool × List UInt8 :=
  splitSign (str.dropWhile isspace)

/-- The digits that `std::stoi` reads. -/
def digitsOf (str : List UInt8) : List UInt8 :=
  (signedText str).2.takeWhile fun character => decide (Decimal.IsDigit character)

/-- What stands behind the digits. -/
def behindDigits (str : List UInt8) : List UInt8 :=
  (signedText str).2.dropWhile fun character => decide (Decimal.IsDigit character)

/-- The number of the digits and the sign in front of them. -/
def valueOf (str : List UInt8) : Int :=
  signed (signedText str).1 (digitsOf str)

theorem stoi_eq (str : List UInt8) :
    stoi str =
      if digitsOf str = [] then .error (.invalidArgument "stoi")
      else if valueOf str < -2 ^ 31 ∨ 2 ^ 31 ≤ valueOf str then .error .outOfRange
      else .ok (valueOf str) := by
  rfl

/-- What stands behind a sign. -/
theorem splitSign_spec (str : List UInt8) :
    ∃ sign, SignText sign (splitSign str).1 ∧ str = sign ++ (splitSign str).2 := by
  unfold splitSign
  split
  · exact ⟨[45], .minus, rfl⟩
  · exact ⟨[43], .plus, rfl⟩
  · exact ⟨[], .none, rfl⟩

/-- A sign in front of digits is found. -/
theorem splitSign_append
    (isSign : SignText sign negative)
    (nonempty : digits ≠ [])
    (all : ∀ character ∈ digits, Decimal.IsDigit character) :
    splitSign (sign ++ digits) = (negative, digits) := by
  cases isSign with
  | none =>
      cases digits with
      | nil => exact absurd rfl nonempty
      | cons first rest => exact splitSign_of_isDigit (all first List.mem_cons_self) rest
  | plus => rfl
  | minus => rfl

/-- Behind the spaces a number starts. -/
theorem dropWhile_isspace_append
    (spaces : ∀ character ∈ front, isspace character = true)
    (isSign : SignText sign negative)
    (nonempty : digits ≠ [])
    (all : ∀ character ∈ digits, Decimal.IsDigit character) :
    (front ++ (sign ++ digits)).dropWhile isspace = sign ++ digits := by
  rw [List.dropWhile_append_of_pos spaces]
  cases isSign with
  | none =>
      cases digits with
      | nil => exact absurd rfl nonempty
      | cons first rest =>
          apply List.dropWhile_cons_of_neg
          simp [isspace_of_isDigit (all first List.mem_cons_self)]
  | plus => rfl
  | minus => rfl

/-- A text spells the number that is read from it, if nothing stands behind the digits. -/
theorem spells_iff :
    Spells str number ↔
      digitsOf str ≠ [] ∧ behindDigits str = [] ∧ number = valueOf str := by
  constructor
  · rintro ⟨spaces, sign, digits, negative, rfl, isSpaces, isSign, nonempty, all, rfl⟩
    have split : signedText (spaces ++ (sign ++ digits)) = (negative, digits) := by
      rw [signedText, dropWhile_isspace_append isSpaces isSign nonempty all,
        splitSign_append isSign nonempty all]
    have taken : digitsOf (spaces ++ (sign ++ digits)) = digits := by
      rw [digitsOf, split]
      exact List.takeWhile_eq_self_iff.mpr (by simpa using all)
    refine ⟨?_, ?_, ?_⟩
    · rwa [taken]
    · rw [behindDigits, split]
      exact List.dropWhile_eq_nil_iff.mpr (by simpa using all)
    · rw [valueOf, taken, split]
  · rintro ⟨nonempty, ends, rfl⟩
    obtain ⟨sign, isSign, split⟩ := splitSign_spec (str.dropWhile isspace)
    refine ⟨str.takeWhile isspace, sign, digitsOf str, _, ?_, ?_, isSign, nonempty, ?_, rfl⟩
    · have whole : digitsOf str ++ behindDigits str = (signedText str).2 :=
        List.takeWhile_append_dropWhile
      rw [ends, List.append_nil, signedText] at whole
      rw [whole, ← split, List.takeWhile_append_dropWhile]
    · intro character member
      exact List.mem_takeWhile_imp member
    · intro character member
      simpa using List.mem_takeWhile_imp member

/-- Numbers are spelled without NUL. -/
theorem Spells.noNul (spells : Spells str number) : 0 ∉ str := by
  obtain ⟨spaces, sign, digits, negative, rfl, isSpaces, isSign, _, all, _⟩ := spells
  intro member
  rw [List.mem_append, List.mem_append] at member
  rcases member with space | inSign | digit
  · exact absurd (isSpaces 0 space) (by decide)
  · cases isSign with
    | none => cases inSign
    | plus | minus => exact absurd inSign (by decide)
  · exact absurd (all 0 digit) (by decide)

/-! ## The argument of `connect` -/

/-- A line holds a port and nothing else behind it. -/
structure IsPort (str : List UInt8) : Prop where
  digits : digitsOf str ≠ []
  ends : behindDigits str = []
  nonnegative : 0 ≤ valueOf str
  small : valueOf str < 65536

theorem IsPort.spells (isPort : IsPort str) : Spells str (valueOf str) :=
  spells_iff.mpr ⟨isPort.digits, isPort.ends, rfl⟩

/-- What `std::stoi` has read from a text. -/
theorem valueOf_of_stoi {value : Int} (accepted : stoi str = .ok value) :
    digitsOf str ≠ [] ∧ value = valueOf str := by
  rw [stoi_eq] at accepted
  by_cases none : digitsOf str = []
  · rw [if_pos none] at accepted
    cases accepted
  · rw [if_neg none] at accepted
    split at accepted
    · cases accepted
    · exact ⟨none, (Except.ok.inj accepted).symm⟩

/-- A number that a 16-bit port can be is handed over as it is. -/
theorem toNat_ofInt_port {value : Int} (nonnegative : 0 ≤ value) (small : value < 65536) :
    value = (UInt16.ofInt value).toNat := by
  rw [UInt16.ofInt, UInt16.toNat_ofNat']
  omega

/-- A line spells the 16-bit port that is made from it exactly if it holds a port and
nothing else. -/
theorem spells_port_iff {value : Int} (accepted : stoi str = .ok value) :
    Spells str (UInt16.ofInt value).toNat ↔ IsPort str := by
  obtain ⟨digits, rfl⟩ := valueOf_of_stoi accepted
  rw [spells_iff]
  constructor
  · rintro ⟨_, ends, same⟩
    have bound := (UInt16.ofInt (valueOf str)).toNat_lt
    exact ⟨digits, ends, by omega, by omega⟩
  · intro isPort
    exact ⟨digits, isPort.ends, (toNat_ofInt_port isPort.nonnegative isPort.small).symm⟩

/-! ## What is kept of a line -/

namespace TimingProxy

open Service (line tail)

theorem mem_bytesOf_of_mem_characters
    {character : UInt8} {chunks : List Chunk} (kept : character ∈ characters chunks) :
    character ∈ bytesOf chunks := by
  rw [characters, List.mem_flatMap] at kept
  obtain ⟨chunk, isChunk, member⟩ := kept
  exact List.mem_flatMap.mpr ⟨chunk, isChunk, (List.takeWhile_prefix _).mem member⟩

/-- A line without NUL is kept as it is, however the reads cut it.  The first of its bytes
have come with the line in front of it. -/
theorem line_kept
    {first : List UInt8} {chunks : List Chunk}
    (complete : newline ∈ cString first ++ characters chunks)
    (noNul : 0 ∉ line (first ++ bytesOf chunks)) :
    line (cString first ++ characters chunks) = line (first ++ bytesOf chunks) := by
  have received : newline ∈ first ++ bytesOf chunks := by
    rcases List.mem_append.mp complete with inFirst | later
    · exact List.mem_append_left _ ((List.takeWhile_prefix _).mem inFirst)
    · exact List.mem_append_right _ (mem_bytesOf_of_mem_characters later)
  have single := newline_notMem_line (first ++ bytesOf chunks)
  have stream := (line_append_tail received).symm
  generalize line (first ++ bytesOf chunks) = portLine at noNul single stream
  generalize tail (first ++ bytesOf chunks) = rest at stream
  have noNulEnd : 0 ∉ portLine ++ [newline] := by
    simp [noNul, newline]
  have kept : ∃ more, cString first ++ characters chunks = portLine ++ newline :: more := by
    rw [List.append_cons] at stream
    obtain ⟨later, ended, behind⟩ | ⟨inside, cut, _⟩ := List.append_eq_append_iff.mp stream
    · rw [ended, List.mem_append, not_or] at noNulEnd
      obtain ⟨more, _, rest, _⟩ := kept_of_bytesOf behind noNulEnd.2
      refine ⟨more, ?_⟩
      rw [cString_eq_self noNulEnd.1, rest, ← List.append_assoc, ← ended, ← List.append_cons]
    · refine ⟨cString inside ++ characters chunks, ?_⟩
      rw [cut, cString_append noNulEnd, List.append_assoc, ← List.append_cons]
  obtain ⟨more, kept⟩ := kept
  rw [kept, line_concat single]

end TimingProxy

open TimingProxy

namespace Service

variable {kind : KindOfSocket} {inetPton : InetPton} {service : Service kind}

/-! ## What the reads lead to -/

/-- As long as a line is not complete, its reads put what they keep behind each other. -/
theorem ReadsLine.run
    {reading : List UInt8 → ServiceStage kind} {goOn : List UInt8 → Service kind}
    (reads : ReadsLine inetPton service reading goOn)
    {str : List UInt8} {chunks : List Chunk}
    (incomplete : newline ∉ str ++ characters chunks) :
    Machine.run (step inetPton) (goOn str) (receiving chunks) =
      some (goOn (str ++ characters chunks)) := by
  induction chunks generalizing str with
  | nil => rw [characters_nil, List.append_nil, receiving, List.map_nil, Machine.run_nil]
  | cons chunk chunks inductionHypothesis =>
      rw [characters_cons, ← List.append_assoc] at incomplete ⊢
      have here : newline ∉ str := by
        intro member
        exact incomplete (List.mem_append_left _ (List.mem_append_left _ member))
      rw [receiving, List.map_cons, Machine.run_cons, reads.waits str here, reads.reads,
        Option.bind_some]
      exact inductionHypothesis incomplete

/-- Nothing is read behind the line of the port. -/
theorem getPort_stuck {str : List UInt8} (complete : newline ∈ str) (bytes : List UInt8) :
    (service.getPort str).step inetPton (.received bytes) = none := by
  rw [getPort, if_pos complete]
  cases stoi (line str) <;> rfl

/-- The reads of the line of the port lead to what it comes to. -/
theorem getPort_of_run
    {final : Service kind} {str : List UInt8} {chunks : List Chunk}
    (reached : Machine.run (step inetPton) (service.getPort str) (receiving chunks) =
      some final) :
    final = service.getPort (str ++ characters chunks) := by
  induction chunks generalizing str with
  | nil =>
      cases reached
      rw [characters_nil, List.append_nil]
  | cons chunk chunks inductionHypothesis =>
      rw [receiving, List.map_cons, Machine.run_cons] at reached
      by_cases complete : newline ∈ str
      · rw [getPort_stuck complete] at reached
        cases reached
      · have reads := readsLine_port inetPton service
        rw [reads.waits str complete, reads.reads, Option.bind_some] at reached
        rw [characters_cons, ← List.append_assoc]
        exact inductionHypothesis reached

/-- The line of the host ends in a read, and what the read keeps behind it is the first of
the line of the port. -/
theorem getHost_ended
    {before front first : List UInt8}
    (incomplete : newline ∉ before) (single : newline ∉ front) (noNul : 0 ∉ front) :
    service.getHost (before ++ cString (front ++ newline :: first)) =
      { service with connectHost := before ++ front }.getPort (cString first) := by
  have noNulEnd : 0 ∉ front ++ [newline] := by
    simp [noNul, newline]
  have whole : newline ∉ before ++ front := by
    simp [incomplete, single]
  rw [List.append_cons, cString_append noNulEnd, ← List.append_assoc, ← List.append_assoc,
    List.append_assoc, List.singleton_append, getHost, if_pos (by simp), line_concat whole,
    tail_concat whole]

/-! ## The argument of `connect` -/

/-- The target is refused, or its line has not come to an end, or `connect` is called, once
the client has been accepted, with the number that the line spells. -/
def ConnectsExactly
    (inetPton : InetPton) (service : Service kind) (portLine : List UInt8) : Prop :=
  (∃ fault, service.stage = .raised fault) ∨ (∃ str, service.stage = .readPort str) ∨
    ∀ fd epfd, ∃ called,
      Machine.run (step inetPton) service [.descriptor fd, .descriptor epfd, .done] =
        some called ∧
      Spells portLine called.port.toNat

/-- Setting up the connection keeps the port. -/
theorem port_connect (inetPton : InetPton) (service : Service kind) :
    (service.connect inetPton).port = service.port := by
  unfold connect
  split <;> rfl

/-- `connect` is called with the low 16 bits of the number that has been read. -/
theorem run_accept_port
    (accepting : service.stage = .accept .client) (fd epfd : Nat) :
    ∃ called,
      Machine.run (step inetPton) service [.descriptor fd, .descriptor epfd, .done] =
        some called ∧
      called.port = service.port := by
  obtain ⟨stage, listening, control, proxyInput, proxyOutput, host, port, proxy, opened⟩ :=
    service
  cases accepting
  exact ⟨_, rfl, port_connect inetPton _⟩

/-- With the client accepted, all depends on the number that has been read. -/
theorem connectsExactly_of_accept
    (accepting : service.stage = .accept .client) (portLine : List UInt8) :
    ConnectsExactly inetPton service portLine ↔ Spells portLine service.port.toNat := by
  constructor
  · rintro (⟨fault, raised⟩ | ⟨str, reading⟩ | connects)
    · cases accepting.symm.trans raised
    · cases accepting.symm.trans reading
    · obtain ⟨called, ran, spells⟩ := connects 0 0
      obtain ⟨other, alsoRan, port⟩ := @run_accept_port kind inetPton service accepting 0 0
      cases ran.symm.trans alsoRan
      rwa [port] at spells
  · intro spells
    refine .inr (.inr fun fd epfd => ?_)
    obtain ⟨called, ran, port⟩ := @run_accept_port kind inetPton service accepting fd epfd
    exact ⟨called, ran, by rwa [port]⟩

/-- For all reads of a control connection, of which one ends the line of the host, `connect`
is called with the number that the whole line of the port spells, exactly if what the reads
keep is no whole line yet, or one that `std::stoi` refuses, or if the line that has been
received holds a port and nothing else. -/
theorem connectsExactly_iff
    (inetPton : InetPton)
    (service final : Service kind)
    (before chunks : List Chunk) (chunk : Chunk) (front first : List UInt8)
    (incomplete : newline ∉ characters before)
    (ends : chunk.val = front ++ newline :: first)
    (single : newline ∉ front) (noNul : 0 ∉ front)
    (reached : Machine.run (step inetPton) (service.getHost [])
      (receiving (before ++ chunk :: chunks)) = some final) :
    ConnectsExactly inetPton final (line (first ++ bytesOf chunks)) ↔
      newline ∉ cString first ++ characters chunks ∨
      (∃ fault, stoi (line (cString first ++ characters chunks)) = .error fault) ∨
      IsPort (line (first ++ bytesOf chunks)) := by
  have targeted : ∃ targeted : Service kind,
      final = targeted.getPort (cString first ++ characters chunks) := by
    have reads := readsLine_host inetPton service
    rw [receiving, List.map_append, ← receiving, Machine.run_append,
      reads.run (by simpa using incomplete), Option.bind_some, List.nil_append,
      reads.waits _ incomplete, List.map_cons, Machine.run_cons, reads.reads,
      Option.bind_some, ends, getHost_ended incomplete single noNul] at reached
    exact ⟨_, getPort_of_run reached⟩
  obtain ⟨targeted, rfl⟩ := targeted
  by_cases complete : newline ∈ cString first ++ characters chunks
  · cases accepted : stoi (line (cString first ++ characters chunks)) with
    | error fault =>
        refine iff_of_true (.inl ⟨fault, ?_⟩) (.inr (.inl ⟨fault, rfl⟩))
        rw [getPort, if_pos complete, accepted]
        rfl
    | ok value =>
        have goesOn : targeted.getPort (cString first ++ characters chunks) =
            { targeted with stage := .accept .client, connectPort := value } := by
          rw [getPort, if_pos complete, accepted]
        rw [goesOn, connectsExactly_of_accept rfl]
        -- behind a NUL, no line spells a number
        have same (noNul : 0 ∉ line (first ++ bytesOf chunks)) :
            Spells (line (first ++ bytesOf chunks)) (UInt16.ofInt value).toNat ↔
              IsPort (line (first ++ bytesOf chunks)) := by
          rw [← line_kept complete noNul]
          exact spells_port_iff accepted
        constructor
        · intro spells
          exact .inr (.inr ((same spells.noNul).mp spells))
        · rintro (incomplete | ⟨fault, refused⟩ | isPort)
          · exact absurd complete incomplete
          · cases refused
          · exact (same isPort.spells.noNul).mpr isPort
  · refine iff_of_true (.inr (.inl ⟨cString first ++ characters chunks, ?_⟩)) (.inl complete)
    rw [getPort, if_neg complete]
    rfl

/-- A service that reads its control connection. -/
def readingService : Service .cpu :=
  ⟨.readHost [], fun _ => 0, ⟨3, none⟩, ⟨4, none⟩, ⟨5, none⟩, [], 0,
    ⟨[], false, "lo", 0, 0, 0, []⟩, []⟩

/-- The lines `a` and `8080` in three reads, the second of which ends the first line. -/
def beforeEnd : List Chunk := [⟨[97], by decide⟩]
def atEnd : Chunk := ⟨[10, 56, 48], by decide⟩
def behindEnd : List Chunk := [⟨[56, 48, 10], by decide⟩]

/-- The line `8080` holds a port. -/
theorem connectsExactly_8080 :
    ∃ final, Machine.run (step noAddress) (readingService.getHost [])
        (receiving (beforeEnd ++ atEnd :: behindEnd)) = some final ∧
      ConnectsExactly noAddress final [56, 48, 56, 48] := by
  refine ⟨_, rfl, ?_⟩
  exact (connectsExactly_iff noAddress readingService _ beforeEnd behindEnd atEnd [] [56, 48]
    (by decide) rfl (by decide) (by decide) rfl).mpr
    (.inr (.inr ⟨by decide +kernel, by decide +kernel, by decide +kernel, by decide +kernel⟩))

/-- The lines `a` and `65616` in one read. -/
def wrappedPort : Chunk := ⟨[97, 10, 54, 53, 54, 49, 54, 10], by decide⟩

/-- The line `65616` spells another number than the port 80 that is connected to. -/
theorem not_connectsExactly_wrapped :
    ∃ final, Machine.run (step noAddress) (readingService.getHost [])
        (receiving [wrappedPort]) = some final ∧
      final.stage = .accept .client ∧ final.port = 80 ∧
      ¬ConnectsExactly noAddress final [54, 53, 54, 49, 54] := by
  refine ⟨_, rfl, rfl, rfl, ?_⟩
  rw [connectsExactly_of_accept rfl, spells_iff]
  decide +kernel

/-- So does a line with a NUL behind which a read ends: no number is what it spells. -/
example :
    ∃ final, Machine.run (step noAddress) (readingService.getHost [])
        (receiving [⟨[97, 10, 0], by decide⟩, ⟨[56, 48, 10], by decide⟩]) = some final ∧
      final.stage = .accept .client ∧ final.port = 80 ∧
      ¬ConnectsExactly noAddress final [0, 56, 48] := by
  refine ⟨_, rfl, rfl, rfl, ?_⟩
  rw [connectsExactly_of_accept rfl, spells_iff]
  decide +kernel

end Service

end NetworkTiming
