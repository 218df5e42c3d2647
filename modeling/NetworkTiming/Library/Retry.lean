import Mathlib.Tactic.Common

/-!
# Bounded retries

An attempt is made again and again, up to some number of times.  It hits, it misses, or
it raises an error, which ends the search.  The attempts are numbered, and each may have
an outcome of its own.
-/

namespace Retry

variable {Error : Type} {attempt : Nat → Except Error Bool}

/-- The number of the first attempt that hits, out of `retries` ones from `index` on. -/
def search (attempt : Nat → Except Error Bool) :
    (retries index : Nat) → Except Error (Option Nat)
  | 0, _ => .ok none
  | retries + 1, index =>
      match attempt index with
      | .ok true => .ok (some index)
      | .ok false => search attempt retries (index + 1)
      | .error error => .error error

theorem search_of_hit (hit : attempt index = .ok true) :
    search attempt (retries + 1) index = .ok (some index) := by
  rw [search, hit]

theorem search_of_error (raised : attempt index = .error error) :
    search attempt (retries + 1) index = .error error := by
  rw [search, raised]

/-- Attempts that miss are left behind. -/
theorem search_of_misses
    (misses : ∀ earlier < count, attempt (index + earlier) = .ok false) :
    search attempt (count + retries) index = search attempt retries (index + count) := by
  induction count generalizing index with
  | zero => rw [Nat.zero_add, Nat.add_zero]
  | succ count inductionHypothesis =>
      have first : attempt index = .ok false := misses 0 (Nat.succ_pos count)
      rw [Nat.add_right_comm, search, first]
      change search attempt (count + retries) (index + 1) = _
      rw [inductionHypothesis, Nat.add_assoc, Nat.add_comm 1 count]
      intro earlier bound
      rw [Nat.add_assoc, Nat.add_comm 1 earlier]
      exact misses (earlier + 1) (Nat.succ_lt_succ bound)

/-- Where the first attempt that does not miss hits, the search ends. -/
theorem search_eq_some_of_first
    (inside : found < retries)
    (misses : ∀ earlier < found, attempt earlier = .ok false)
    (hit : attempt found = .ok true) :
    search attempt retries 0 = .ok (some found) := by
  obtain ⟨more, rfl⟩ := Nat.exists_eq_add_of_lt inside
  rw [Nat.add_assoc, search_of_misses (by simpa using misses), Nat.zero_add,
    search_of_hit hit]

/-- Where the first attempt that does not miss raises an error, so does the search. -/
theorem search_eq_error_of_first
    (inside : found < retries)
    (misses : ∀ earlier < found, attempt earlier = .ok false)
    (raised : attempt found = .error error) :
    search attempt retries 0 = .error error := by
  obtain ⟨more, rfl⟩ := Nat.exists_eq_add_of_lt inside
  rw [Nat.add_assoc, search_of_misses (by simpa using misses), Nat.zero_add,
    search_of_error raised]

theorem search_eq_none_of_misses
    (misses : ∀ earlier < retries, attempt earlier = .ok false) :
    search attempt retries 0 = .ok none := by
  have searched := @search_of_misses Error attempt retries 0 0 (by simpa using misses)
  rwa [Nat.add_zero] at searched

/-- A search hits with the first attempt that does not miss. -/
theorem misses_of_search_eq_some
    (searched : search attempt retries index = .ok (some found)) :
    index ≤ found ∧ found < index + retries ∧ attempt found = .ok true ∧
      ∀ earlier, index ≤ earlier → earlier < found → attempt earlier = .ok false := by
  induction retries generalizing index with
  | zero => cases searched
  | succ retries inductionHypothesis =>
      rw [search] at searched
      split at searched
      case h_1 hit =>
          cases searched
          exact ⟨Nat.le_refl _, by omega, hit, fun earlier _ _ => by omega⟩
      case h_2 missed =>
          obtain ⟨behind, inside, hit, misses⟩ := inductionHypothesis searched
          refine ⟨by omega, by omega, hit, ?_⟩
          intro earlier after before
          rcases Nat.eq_or_lt_of_le after with rfl | later
          · exact missed
          · exact misses earlier later before
      case h_3 => cases searched

/-- What hits behind some elements that miss is an element of a list, at its own place,
exactly if this element hits and all in front of it miss. -/
theorem length_eq_iff_of_first_hit
    {α : Type} {Misses Hits : α → Prop} {earlier missed rest : List α} {own hit : α}
    (exclusive : ∀ element, Hits element → ¬Misses element)
    (same : earlier ++ [own] <+: missed ++ hit :: rest)
    (misses : ∀ element ∈ missed, Misses element) (hits : Hits hit) :
    missed.length = earlier.length ↔ Hits own ∧ ∀ element ∈ earlier, Misses element := by
  obtain ⟨later, same⟩ := same
  rw [List.append_assoc, List.singleton_append] at same
  constructor
  · intro length
    obtain ⟨rfl, behind⟩ := List.append_inj same length.symm
    cases behind
    exact ⟨hits, misses⟩
  · rintro ⟨ownHits, others⟩
    rcases List.append_eq_append_iff.mp same with ⟨more, longer, behind⟩ | ⟨more, longer, behind⟩
    · cases more with
      | nil => rw [longer, List.append_nil]
      | cons first more =>
          cases behind
          exact absurd (misses own (longer ▸ by simp)) (exclusive own ownHits)
    · cases more with
      | nil => rw [longer, List.append_nil]
      | cons first more =>
          cases behind
          exact absurd (others hit (longer ▸ by simp)) (exclusive hit hits)

end Retry
