import Mathlib.Tactic.Common

/-!
# Scanning a growing log

Entries are appended to a log while queries are asked one after another.  A scan
answers each query with the earliest entry behind its last hit, and never goes
back.  `Greedy` says what the hits of such a scan are; it is preserved by every
step, and it determines the hits once it is known where each query's own entry
stands.
-/

/-- A scan of a log. -/
structure Scan (Entry Query : Type) where
  /-- Everything appended so far. -/
  log : List Entry
  /-- The next entry to look at. -/
  position : Nat
  /-- The queries asked so far. -/
  asked : List Query
  /-- Where the answered queries found their answers. -/
  hits : List Nat

namespace Scan

variable {Entry Query : Type} {answers : Query → Entry → Prop}
variable {scan : Scan Entry Query}

/-- The entries that have not been looked at. -/
def remaining (scan : Scan Entry Query) : List Entry :=
  scan.log.drop scan.position

/-- The query that is being looked for. -/
def current (scan : Scan Entry Query) : Option Query :=
  scan.asked[scan.hits.length]?

/-- Where the scan for a query starts: behind the hit before it. -/
def start (scan : Scan Entry Query) : Nat → Nat
  | 0 => 0
  | k + 1 => scan.hits.getD k 0 + 1

/-! ## Steps -/

/-- Append an entry to the log. -/
def append (scan : Scan Entry Query) (entry : Entry) : Scan Entry Query :=
  { scan with log := scan.log ++ [entry] }

/-- Ask a query. -/
def ask (scan : Scan Entry Query) (query : Query) : Scan Entry Query :=
  { scan with asked := scan.asked ++ [query] }

/-- Go past an entry. -/
def skip (scan : Scan Entry Query) : Scan Entry Query :=
  { scan with position := scan.position + 1 }

/-- Go past an entry and take it as the answer. -/
def hit (scan : Scan Entry Query) : Scan Entry Query :=
  { scan with
    position := scan.position + 1
    hits := scan.hits ++ [scan.position] }

/-- A new entry comes last among those that have not been looked at. -/
theorem remaining_append
    (inside : scan.position ≤ scan.log.length) :
    (scan.append entry).remaining = scan.remaining ++ [entry] :=
  List.drop_append_of_le_length inside

/-- The next entry is the head of those that have not been looked at. -/
theorem remaining_eq_cons
    (head : scan.remaining = entry :: rest) :
    scan.log[scan.position]? = some entry ∧ scan.skip.remaining = rest := by
  have isNext : scan.log[scan.position]? = some entry := by
    rw [← List.head?_drop]
    exact congrArg List.head? head
  refine ⟨isNext, ?_⟩
  change scan.log.drop (scan.position + 1) = rest
  rw [← List.tail_drop]
  exact congrArg List.tail head

/-- Every hit is the earliest answer behind the hit before it, and what has been
passed since the last hit does not answer the current query. -/
structure Greedy (answers : Query → Entry → Prop) (scan : Scan Entry Query) :
    Prop where
  position_le : scan.position ≤ scan.log.length
  hits_le : scan.hits.length ≤ scan.asked.length
  asked_le : scan.asked.length ≤ scan.hits.length + 1
  start_le : scan.start scan.hits.length ≤ scan.position
  idle : scan.hits.length = scan.asked.length →
    scan.position = scan.start scan.hits.length
  hit_lt : ∀ k place : Nat, scan.hits[k]? = some place →
    scan.start k ≤ place ∧ place < scan.position
  answered : ∀ (k place : Nat) query entry, scan.hits[k]? = some place →
    scan.asked[k]? = some query → scan.log[place]? = some entry →
    answers query entry
  skipped : ∀ (k place j : Nat) query entry, scan.hits[k]? = some place →
    scan.asked[k]? = some query → scan.start k ≤ j → j < place →
    scan.log[j]? = some entry → ¬answers query entry
  passed : ∀ (j : Nat) query entry, scan.current = some query →
    scan.start scan.hits.length ≤ j → j < scan.position →
    scan.log[j]? = some entry → ¬answers query entry

namespace Greedy

/-- An empty scan. -/
theorem empty (answers : Query → Entry → Prop) :
    Greedy answers ⟨[], 0, [], []⟩ := by
  constructor <;> simp [start]

/-- Appending an entry changes nothing about the entries that have been passed. -/
theorem append
    (greedy : Greedy answers scan)
    (entry : Entry) : Greedy answers (scan.append entry) := by
  have unchanged : ∀ j, j < scan.position →
      (scan.append entry).log[j]? = scan.log[j]? := by
    intro j passed
    have inside := greedy.position_le
    exact List.getElem?_append_left (by omega)
  refine ⟨?_, greedy.hits_le, greedy.asked_le, greedy.start_le, greedy.idle,
    greedy.hit_lt, ?_, ?_, ?_⟩
  · have inside := greedy.position_le
    simp only [Scan.append, List.length_append, List.length_singleton]
    omega
  · intro k place query other isHit asked found
    rw [unchanged place (greedy.hit_lt k place isHit).2] at found
    exact greedy.answered k place query other isHit asked found
  · intro k place j query other isHit asked after before found
    have bound := (greedy.hit_lt k place isHit).2
    rw [unchanged j (by omega)] at found
    exact greedy.skipped k place j query other isHit asked after before found
  · intro j query other asked after before found
    rw [unchanged j before] at found
    exact greedy.passed j query other asked after before found

/-- A query may be asked when all earlier ones have been answered. -/
theorem ask
    (greedy : Greedy answers scan)
    (idle : scan.hits.length = scan.asked.length)
    (query : Query) : Greedy answers (scan.ask query) := by
  have bounds : ∀ k place : Nat, scan.hits[k]? = some place → k < scan.asked.length := by
    intro k place isHit
    rw [← idle]
    exact (List.getElem?_eq_some_iff.mp isHit).1
  have unchanged : ∀ k place : Nat, scan.hits[k]? = some place →
      (scan.ask query).asked[k]? = scan.asked[k]? :=
    fun k place isHit => List.getElem?_append_left (bounds k place isHit)
  refine ⟨greedy.position_le, ?_, ?_, greedy.start_le, ?_, greedy.hit_lt, ?_, ?_, ?_⟩
  · simp only [Scan.ask, List.length_append, List.length_singleton]
    omega
  · simp only [Scan.ask, List.length_append, List.length_singleton]
    omega
  · simp only [Scan.ask, List.length_append, List.length_singleton]
    omega
  · intro k place other entry isHit asked found
    rw [unchanged k place isHit] at asked
    exact greedy.answered k place other entry isHit asked found
  · intro k place j other entry isHit asked after before found
    rw [unchanged k place isHit] at asked
    exact greedy.skipped k place j other entry isHit asked after before found
  · intro j other entry _asked after before _found
    have here := greedy.idle idle
    change scan.start scan.hits.length ≤ j at after
    change j < scan.position at before
    omega

/-- Going past an entry that does not answer the current query. -/
theorem skip
    (greedy : Greedy answers scan)
    (isCurrent : scan.current = some query)
    (isNext : scan.log[scan.position]? = some entry)
    (unanswered : ¬answers query entry) : Greedy answers scan.skip := by
  have inside := (List.getElem?_eq_some_iff.mp isNext).1
  have pending := (List.getElem?_eq_some_iff.mp isCurrent).1
  refine ⟨inside, greedy.hits_le, greedy.asked_le, Nat.le_succ_of_le greedy.start_le,
    ?_, ?_, greedy.answered, greedy.skipped, ?_⟩
  · intro idle
    change scan.hits.length = scan.asked.length at idle
    omega
  · intro k place isHit
    have bounds := greedy.hit_lt k place isHit
    exact ⟨bounds.1, Nat.lt_succ_of_lt bounds.2⟩
  · intro j other candidate asked after before found
    obtain earlier | rfl := Nat.lt_succ_iff_lt_or_eq.mp before
    · exact greedy.passed j other candidate asked after earlier found
    · have sameQuery : query = other := Option.some.inj (isCurrent.symm.trans asked)
      have sameEntry : entry = candidate := Option.some.inj (isNext.symm.trans found)
      rw [← sameQuery, ← sameEntry]
      exact unanswered

/-- Where a scan for an already answered query starts does not depend on later
hits. -/
theorem start_hit (earlier : k ≤ scan.hits.length) :
    scan.hit.start k = scan.start k := by
  cases k with
  | zero => rfl
  | succ k =>
      simp only [start, Scan.hit, List.getD_eq_getElem?_getD]
      rw [List.getElem?_append_left earlier]

/-- Taking the entry that answers the current query. -/
theorem hit
    (greedy : Greedy answers scan)
    (isCurrent : scan.current = some query)
    (isNext : scan.log[scan.position]? = some entry)
    (answered : answers query entry) : Greedy answers scan.hit := by
  have inside := (List.getElem?_eq_some_iff.mp isNext).1
  have pending := (List.getElem?_eq_some_iff.mp isCurrent).1
  have count : scan.hit.hits.length = scan.hits.length + 1 := by
    simp [Scan.hit]
  have allAnswered : scan.asked.length = scan.hits.length + 1 :=
    Nat.le_antisymm greedy.asked_le pending
  have behind : scan.hit.start scan.hit.hits.length = scan.position + 1 := by
    rw [count, start, List.getD_eq_getElem?_getD]
    simp [Scan.hit]
  have hitCases : ∀ k other : Nat, scan.hit.hits[k]? = some other →
      scan.hits[k]? = some other ∨ k = scan.hits.length ∧ other = scan.position := by
    intro k other isHit
    obtain ⟨bound, _⟩ := List.getElem?_eq_some_iff.mp isHit
    obtain earlier | rfl := Nat.lt_succ_iff_lt_or_eq.mp (count ▸ bound)
    · left
      rwa [Scan.hit, List.getElem?_append_left earlier] at isHit
    · right
      simp only [Scan.hit, List.getElem?_concat_length, Option.some.injEq] at isHit
      exact ⟨rfl, isHit.symm⟩
  refine ⟨inside, ?_, ?_, ?_, ?_, ?_, ?_, ?_, ?_⟩
  · rw [count]
    exact pending
  · rw [count]
    exact Nat.le_succ_of_le (Nat.le_of_eq allAnswered)
  · rw [behind]
    exact Nat.le_refl _
  · intro _idle
    exact behind.symm
  · intro k other isHit
    obtain old | ⟨rfl, rfl⟩ := hitCases k other isHit
    · have earlier := (List.getElem?_eq_some_iff.mp old).1
      rw [start_hit (Nat.le_of_lt earlier)]
      have bounds := greedy.hit_lt k other old
      exact ⟨bounds.1, Nat.lt_succ_of_lt bounds.2⟩
    · rw [start_hit (Nat.le_refl _)]
      exact ⟨greedy.start_le, Nat.lt_succ_self _⟩
  · intro k other asked candidate isHit isAsked found
    obtain old | ⟨rfl, rfl⟩ := hitCases k other isHit
    · exact greedy.answered k other asked candidate old isAsked found
    · have sameQuery : query = asked := Option.some.inj (isCurrent.symm.trans isAsked)
      have sameEntry : entry = candidate := Option.some.inj (isNext.symm.trans found)
      rw [← sameQuery, ← sameEntry]
      exact answered
  · intro k other j asked candidate isHit isAsked after before found
    obtain old | ⟨rfl, rfl⟩ := hitCases k other isHit
    · have earlier := (List.getElem?_eq_some_iff.mp old).1
      rw [start_hit (Nat.le_of_lt earlier)] at after
      exact greedy.skipped k other j asked candidate old isAsked after before found
    · rw [start_hit (Nat.le_refl _)] at after
      exact greedy.passed j asked candidate isAsked after before found
  · intro j asked candidate _isCurrent after before _found
    rw [behind] at after
    change j < scan.position + 1 at before
    omega

end Greedy

/-! ## Own entries -/

/-- Each query has an entry of its own: the own entries stand in the order of the
queries, and nothing between two of them answers the later query. -/
structure Owns
    (answers : Query → Entry → Prop)
    (asked : List Query) (log : List Entry)
    (own : Nat → Nat) : Prop where
  increasing : ∀ k, k + 1 < asked.length → own k < own (k + 1)
  answered : ∀ (k : Nat) query entry, asked[k]? = some query →
    log[own k]? = some entry → answers query entry
  between : ∀ (k j : Nat) query entry, asked[k]? = some query → j < own k →
    (∀ i, i + 1 = k → own i < j) → log[j]? = some entry → ¬answers query entry

namespace Greedy

/-- If a scan starts behind the own entry of the previous query, then it finds
the own entry of its query. -/
theorem hit_eq_own_of_start
    (greedy : Greedy answers scan)
    (owns : Owns answers scan.asked scan.log own)
    {k place : Nat}
    (isHit : scan.hits[k]? = some place)
    (startsBehind : scan.start k ≤ own k)
    (previous : ∀ i, i + 1 = k → own i < scan.start k) : place = own k := by
  obtain ⟨after, before⟩ := greedy.hit_lt k place isHit
  have inside : place < scan.log.length :=
    Nat.lt_of_lt_of_le before greedy.position_le
  have asked : k < scan.asked.length :=
    Nat.lt_of_lt_of_le (List.getElem?_eq_some_iff.mp isHit).1 greedy.hits_le
  have isAsked := List.getElem?_eq_getElem asked
  rcases Nat.lt_trichotomy place (own k) with early | exactly | late
  · -- an entry before the own one does not answer
    have isEntry := List.getElem?_eq_getElem inside
    have answered := greedy.answered k place _ _ isHit isAsked isEntry
    refine absurd answered (owns.between k place _ _ isAsked early ?_ isEntry)
    intro i next
    exact Nat.lt_of_lt_of_le (previous i next) after
  · exact exactly
  · -- the own entry would have been skipped
    have isEntry := List.getElem?_eq_getElem (Nat.lt_trans late inside)
    have answered := owns.answered k _ _ isAsked isEntry
    exact absurd answered
      (greedy.skipped k place (own k) _ _ isHit isAsked startsBehind late isEntry)

/-- A scan finds the own entry of every query. -/
theorem hit_eq_own
    (greedy : Greedy answers scan)
    (owns : Owns answers scan.asked scan.log own)
    {k place : Nat}
    (isHit : scan.hits[k]? = some place) : place = own k := by
  induction k generalizing place with
  | zero =>
      exact greedy.hit_eq_own_of_start owns isHit (Nat.zero_le _)
        (fun i next => absurd next (Nat.succ_ne_zero i))
  | succ k inductionHypothesis =>
      have bound := (List.getElem?_eq_some_iff.mp isHit).1
      have isPrevious := List.getElem?_eq_getElem (Nat.lt_of_succ_lt bound)
      have startEq : scan.start (k + 1) = own k + 1 := by
        rw [start, List.getD_eq_getElem?_getD, isPrevious, Option.getD_some,
          inductionHypothesis isPrevious]
      have increasing := owns.increasing k (Nat.lt_of_lt_of_le bound greedy.hits_le)
      refine greedy.hit_eq_own_of_start owns isHit ?_ ?_
      · rw [startEq]
        exact increasing
      · intro i next
        cases Nat.succ.inj next
        rw [startEq]
        exact Nat.lt_succ_self _

/-- A scan that has answered every query stands right behind the last own
entry. -/
theorem start_eq_own
    (greedy : Greedy answers scan)
    (owns : Owns answers scan.asked scan.log own)
    (answered : k < scan.hits.length) : scan.start (k + 1) = own k + 1 := by
  have isHit := List.getElem?_eq_getElem answered
  rw [start, List.getD_eq_getElem?_getD, isHit, Option.getD_some,
    greedy.hit_eq_own owns isHit]

end Greedy

end Scan
