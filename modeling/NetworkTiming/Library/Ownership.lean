import Mathlib.Data.List.Induction
import NetworkTiming.Library.Scan

/-!
# Whose entry is whose

`Scan.Owns` says which entry of a log belongs to which query.  Two ways of
obtaining it: from a log of raw records of which only some make it into the
scanned log, and from ranks, when queries and entries come in kinds and the
queries of a kind own the entries of that kind in order.
-/

namespace Scan

variable {Entry Query Raw Kind : Type}
variable {asked : List Query} {log : List Entry} {own : Nat → Nat}

/-- Right behind the own entry of the query before. -/
def behind (own : Nat → Nat) : Nat → Nat
  | 0 => 0
  | k + 1 => own k + 1

section Owns

variable {answers : Query → Entry → Prop}

theorem getElem?_of_longer
    {shorter longer : List Entry} {i : Nat} {entry : Entry}
    (isPrefix : shorter <+: longer)
    (isEntry : shorter[i]? = some entry) : longer[i]? = some entry := by
  obtain ⟨rest, rfl⟩ := isPrefix
  rw [List.getElem?_append_left (List.getElem?_eq_some_iff.mp isEntry).1, isEntry]

/-- What has been asked and logged so far may be less than everything. -/
theorem Owns.restrict
    {fewer : List Query} {shorter : List Entry}
    (owns : Owns answers asked log own)
    (queries : fewer <+: asked)
    (entries : shorter <+: log) : Owns answers fewer shorter own where
  increasing k next := owns.increasing k (Nat.lt_of_lt_of_le next queries.length_le)
  answered k query entry isQuery isEntry :=
    owns.answered k query entry (getElem?_of_longer queries isQuery)
      (getElem?_of_longer entries isEntry)
  between k j query entry isQuery before after isEntry :=
    owns.between k j query entry (getElem?_of_longer queries isQuery)
      before after (getElem?_of_longer entries isEntry)

/-- Owning depends on how the queries that are asked are answered. -/
theorem Owns.of_iff
    {other : Query → Entry → Prop}
    (owns : Owns answers asked log own)
    (agree : ∀ query ∈ asked, ∀ entry, answers query entry ↔ other query entry) :
    Owns other asked log own where
  increasing := owns.increasing
  answered k query entry isQuery isEntry :=
    (agree query (List.mem_of_getElem? isQuery) entry).mp
      (owns.answered k query entry isQuery isEntry)
  between k j query entry isQuery before after isEntry isAnswer :=
    owns.between k j query entry isQuery before after isEntry
      ((agree query (List.mem_of_getElem? isQuery) entry).mpr isAnswer)

/-- A query starts at its own entry or in front of it. -/
theorem Owns.behind_le
    (owns : Owns answers asked log own)
    (bound : k < asked.length) : behind own k ≤ own k := by
  cases k with
  | zero => exact Nat.zero_le _
  | succ k => exact owns.increasing k bound

/-- What a query finds when its own entry has been logged: first entries that do
not answer it, then its own. -/
theorem Owns.exists_split
    (owns : Owns answers asked log own)
    (isQuery : asked[k]? = some query)
    (isEntry : log[own k]? = some entry) :
    ∃ before, log.drop (behind own k) = before ++ entry :: log.drop (own k + 1) ∧
      (∀ other ∈ before, ¬answers query other) ∧ before.length ≤ log.length := by
  obtain ⟨inside, found⟩ := List.getElem?_eq_some_iff.mp isEntry
  have start := owns.behind_le (List.getElem?_eq_some_iff.mp isQuery).1
  refine ⟨(log.take (own k)).drop (behind own k), ?_, ?_, ?_⟩
  · conv_lhs => rw [← List.take_append_drop (own k) log]
    rw [List.drop_append_of_le_length (by rw [List.length_take]; omega),
      List.drop_eq_getElem_cons inside, found]
  · intro other member
    obtain ⟨j, bound, isOther⟩ := List.mem_iff_getElem.mp member
    rw [List.length_drop, List.length_take] at bound
    rw [List.getElem_drop, List.getElem_take] at isOther
    refine owns.between k (behind own k + j) query other isQuery (by omega) ?_ ?_
    · rintro i rfl
      exact Nat.le_add_right _ _
    · rw [List.getElem?_eq_getElem (by omega), isOther]
  · rw [List.length_drop, List.length_take]
    omega

/-- After the own entry of the previous query, a scan starts right behind it. -/
theorem Greedy.start_eq_behind
    {scan : Scan Entry Query}
    (greedy : Greedy answers scan)
    (owns : Owns answers scan.asked scan.log own)
    (answered : k ≤ scan.hits.length) : scan.start k = behind own k := by
  cases k with
  | zero => rfl
  | succ k => exact greedy.start_eq_own owns answered

end Owns

/-! ## Logs of raw records -/

section Raw

variable (keep : Raw → Option Entry) (raw : List Raw)

/-- Where a raw record stands among the kept ones.  Places behind the last record
stay apart. -/
def place (i : Nat) : Nat :=
  ((raw.take i).filterMap keep).length + (i - raw.length)

variable {keep raw}

theorem place_succ
    (isRaw : raw[i]? = some record)
    (kept : keep record = some entry) :
    place keep raw (i + 1) = place keep raw i + 1 := by
  obtain ⟨inside, isRecord⟩ := List.getElem?_eq_some_iff.mp isRaw
  rw [place, place, List.take_succ_eq_append_getElem inside, List.filterMap_append,
    isRecord, List.length_append]
  simp only [List.filterMap_cons, kept, List.filterMap_nil, List.length_singleton]
  omega

theorem place_mono
    (ordered : i ≤ j) : place keep raw i ≤ place keep raw j := by
  have part : ((raw.take i).filterMap keep).length ≤
      ((raw.take j).filterMap keep).length :=
    ((List.take_prefix_take_left ordered).filterMap keep).length_le
  unfold place
  omega

theorem place_lt_of_kept
    (isRaw : raw[i]? = some record)
    (kept : keep record = some entry)
    (before : i < j) : place keep raw i < place keep raw j := by
  have next := place_succ isRaw kept
  have later : place keep raw (i + 1) ≤ place keep raw j := place_mono before
  omega

theorem place_lt_of_length_le
    (outside : raw.length ≤ i)
    (before : i < j) : place keep raw i < place keep raw j := by
  rw [place, place, List.take_of_length_le outside, List.take_of_length_le (by omega)]
  omega

/-- A kept record stands in its place. -/
theorem getElem?_place
    (isRaw : raw[i]? = some record)
    (kept : keep record = some entry) :
    (raw.filterMap keep)[place keep raw i]? = some entry := by
  obtain ⟨inside, isRecord⟩ := List.getElem?_eq_some_iff.mp isRaw
  have split : raw.filterMap keep =
      (raw.take i).filterMap keep ++ entry :: (raw.drop (i + 1)).filterMap keep := by
    conv_lhs => rw [← List.take_append_drop i raw, List.drop_eq_getElem_cons inside]
    rw [List.filterMap_append, List.filterMap_cons, isRecord, kept]
  have here : place keep raw i = ((raw.take i).filterMap keep).length := by
    unfold place
    omega
  rw [split, here, List.getElem?_append_right (Nat.le_refl _), Nat.sub_self]
  rfl

/-- Every entry is a kept record in its place. -/
theorem exists_place
    (isEntry : (raw.filterMap keep)[j]? = some entry) :
    ∃ i record, raw[i]? = some record ∧ keep record = some entry ∧
      place keep raw i = j := by
  induction raw using List.reverseRecOn generalizing j with
  | nil => simp at isEntry
  | append_singleton front last inductionHypothesis =>
      have early : ∀ i, i ≤ front.length →
          place keep (front ++ [last]) i = place keep front i := by
        intro i inside
        rw [place, place, List.take_append_of_le_length inside, List.length_append]
        omega
      rw [List.filterMap_append] at isEntry
      by_cases inside : j < (front.filterMap keep).length
      · rw [List.getElem?_append_left inside] at isEntry
        obtain ⟨i, record, isRecord, kept, stands⟩ := inductionHypothesis isEntry
        have bound := (List.getElem?_eq_some_iff.mp isRecord).1
        refine ⟨i, record, ?_, kept, ?_⟩
        · rw [List.getElem?_append_left bound]
          exact isRecord
        · rw [early i (Nat.le_of_lt bound)]
          exact stands
      · rw [List.getElem?_append_right (Nat.not_lt.mp inside)] at isEntry
        cases kept : keep last with
        | none => simp [kept] at isEntry
        | some value =>
            simp only [List.filterMap_cons, kept, List.filterMap_nil] at isEntry
            obtain ⟨bound, isValue⟩ := List.getElem?_eq_some_iff.mp isEntry
            rw [List.length_singleton] at bound
            refine ⟨front.length, last, List.getElem?_concat_length, ?_, ?_⟩
            · rw [kept, ← isValue]
              simp
            · rw [early _ (Nat.le_refl _), place, List.take_length]
              omega

section Owned

variable {answers : Query → Entry → Prop}

/-- Own records of a raw log are kept as entries that answer the query. -/
def OwnsRaw
    (answers : Query → Entry → Prop)
    (keep : Raw → Option Entry)
    (asked : List Query) (raw : List Raw) (own : Nat → Nat) : Prop :=
  Owns (fun query record => ∃ entry, keep record = some entry ∧ answers query entry)
    asked raw own

/-- What stands in the place of an own record is that record. -/
theorem OwnsRaw.exists_record
    (owns : OwnsRaw answers keep asked raw own)
    (isQuery : asked[k]? = some query)
    (isEntry : (raw.filterMap keep)[place keep raw (own k)]? = some entry) :
    ∃ record, raw[own k]? = some record ∧ keep record = some entry ∧
      answers query entry := by
  by_cases inside : own k < raw.length
  · have isRecord := List.getElem?_eq_getElem inside
    obtain ⟨other, kept, answered⟩ := owns.answered k query _ isQuery isRecord
    cases (getElem?_place isRecord kept).symm.trans isEntry
    exact ⟨_, isRecord, kept, answered⟩
  · have bound := (List.getElem?_eq_some_iff.mp isEntry).1
    rw [place, List.take_of_length_le (Nat.not_lt.mp inside)] at bound
    omega

/-- Owning records is owning the entries that they are kept as. -/
theorem OwnsRaw.owns
    (owns : OwnsRaw answers keep asked raw own) :
    Owns answers asked (raw.filterMap keep) (fun k => place keep raw (own k)) where
  increasing k next := by
    have before := owns.increasing k next
    by_cases inside : own k < raw.length
    · obtain ⟨entry, kept, _⟩ := owns.answered k _ _
        (List.getElem?_eq_getElem (Nat.lt_of_succ_lt next))
        (List.getElem?_eq_getElem inside)
      exact place_lt_of_kept (List.getElem?_eq_getElem inside) kept before
    · exact place_lt_of_length_le (Nat.not_lt.mp inside) before
  answered k query entry isQuery isEntry := by
    obtain ⟨_record, _isRecord, _kept, answered⟩ := owns.exists_record isQuery isEntry
    exact answered
  between k j query entry isQuery before behind isEntry answered := by
    obtain ⟨i, record, isRecord, kept, stands⟩ := exists_place isEntry
    refine owns.between k i query record isQuery ?_ ?_ isRecord ⟨entry, kept, answered⟩
    · by_contra late
      have ordered : place keep raw (own k) ≤ place keep raw i :=
        place_mono (Nat.not_lt.mp late)
      omega
    · intro previous next
      by_contra early
      have ordered : place keep raw i ≤ place keep raw (own previous) :=
        place_mono (Nat.not_lt.mp early)
      have strict := behind previous next
      omega

end Owned

end Raw

/-! ## Ranks -/

section Ranks

variable [DecidableEq Kind] (queryKind : Query → Kind) (entryKind : Entry → Kind)

/-- The queries of each kind own the entries of that kind, in order. -/
structure OwnsByRank (asked : List Query) (log : List Entry) (own : Nat → Nat) :
    Prop where
  /-- The own entry is of the kind of the query. -/
  sameKind : ∀ (k : Nat) query, asked[k]? = some query →
    log[own k]?.map entryKind = some (queryKind query)
  /-- As many entries of that kind stand in front of it as queries of that kind
  were asked before. -/
  sameRank : ∀ (k : Nat) query, asked[k]? = some query →
    (log.take (own k)).countP (entryKind · = queryKind query) =
      (asked.take k).countP (queryKind · = queryKind query)

variable {queryKind entryKind}

/-- Counting up to an entry of the kind counted. -/
theorem countP_take_succ
    (isEntry : log[j]? = some entry)
    (counted : entryKind entry = kind) :
    (log.take (j + 1)).countP (entryKind · = kind) =
      (log.take j).countP (entryKind · = kind) + 1 := by
  obtain ⟨inside, found⟩ := List.getElem?_eq_some_iff.mp isEntry
  rw [List.take_succ_eq_append_getElem inside, List.countP_append, found]
  simp [counted]

theorem countP_take_mono
    (ordered : i ≤ j) :
    (log.take i).countP (entryKind · = kind) ≤
      (log.take j).countP (entryKind · = kind) :=
  (List.take_prefix_take_left ordered).sublist.countP_le

/-- If own entries stand in the order of the queries, then no kind has fewer of
its entries behind the reader than queries. -/
theorem OwnsByRank.countP_le
    (ranked : OwnsByRank queryKind entryKind asked log own)
    (increasing : ∀ k, k + 1 < asked.length → own k < own (k + 1))
    (kind : Kind)
    (bound : k ≤ asked.length) :
    (asked.take k).countP (queryKind · = kind) ≤
      (log.take (behind own k)).countP (entryKind · = kind) := by
  induction k with
  | zero => simp
  | succ k inductionHypothesis =>
      have isQuery := List.getElem?_eq_getElem bound
      obtain ⟨entry, isEntry, entryOfKind⟩ :=
        Option.map_eq_some_iff.mp (ranked.sameKind k _ isQuery)
      by_cases ofKind : queryKind asked[k] = kind
      · apply Nat.le_of_eq
        rw [countP_take_succ isQuery ofKind, behind,
          countP_take_succ isEntry (entryOfKind.trans ofKind), ← ofKind,
          ranked.sameRank k _ isQuery]
      · have same : (asked.take (k + 1)).countP (queryKind · = kind) =
            (asked.take k).countP (queryKind · = kind) := by
          rw [List.take_succ_eq_append_getElem bound, List.countP_append]
          simp [ofKind]
        have further : behind own k ≤ behind own (k + 1) := by
          cases k with
          | zero => exact Nat.zero_le _
          | succ k => exact Nat.succ_le_succ (Nat.le_of_lt (increasing k bound))
        rw [same]
        exact Nat.le_trans (inductionHypothesis (Nat.le_of_succ_le bound))
          (countP_take_mono further)

/-- Owning by rank is owning, if the own entries stand in the order of the
queries. -/
theorem OwnsByRank.owns
    {answers : Query → Entry → Prop}
    (ranked : OwnsByRank queryKind entryKind asked log own)
    (increasing : ∀ k, k + 1 < asked.length → own k < own (k + 1))
    (ofKind : ∀ query entry, answers query entry → entryKind entry = queryKind query)
    (answered : ∀ (k : Nat) query entry, asked[k]? = some query →
      log[own k]? = some entry → answers query entry) :
    Owns answers asked log own where
  increasing := increasing
  answered := answered
  between k j query entry isQuery before after isEntry isAnswer := by
    have bound := (List.getElem?_eq_some_iff.mp isQuery).1
    have start : behind own k ≤ j := by
      cases k with
      | zero => exact Nat.zero_le _
      | succ k => exact after k rfl
    -- one more entry of this kind would stand in front of the own one
    have rank := ranked.sameRank k query isQuery
    have enough := ranked.countP_le increasing (queryKind query) (Nat.le_of_lt bound)
    have further : (log.take (behind own k)).countP (entryKind · = queryKind query) ≤
        (log.take j).countP (entryKind · = queryKind query) := countP_take_mono start
    have counted := countP_take_succ isEntry (ofKind query entry isAnswer)
    have within : (log.take (j + 1)).countP (entryKind · = queryKind query) ≤
        (log.take (own k)).countP (entryKind · = queryKind query) :=
      countP_take_mono before
    omega

end Ranks

end Scan
