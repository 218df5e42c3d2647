import Mathlib.Data.Finmap
import Mathlib.Order.Lattice.Nat

/-!
# Descriptors

A process names what it has opened by numbers.  A number names one open thing at a
time, and may be given again once it has been closed, so that closing a number twice can
close what somebody else has opened in between.
-/

/-- A choice of the numbers that are given, by how many have been given before and which
of them are in use. -/
structure DescriptorNumbering where
  number : (given : Nat) → (used : Finset Nat) → Nat
  /-- A number in use is not given again. -/
  fresh : ∀ given used, number given used ∉ used

namespace DescriptorNumbering

/-- Numbers are given in their order, behind the three of the standard streams, unless
somebody has taken the next one already. -/
def ascending : DescriptorNumbering where
  number given used :=
    if given + 3 ∉ used then given + 3 else used.sup id + 1
  fresh given used := by
    split
    · assumption
    · intro used_above
      have below : used.sup id + 1 ≤ used.sup id :=
        Finset.le_sup (f := id) used_above
      omega

end DescriptorNumbering

/-- The descriptors of a process, with what is open under each of them. -/
structure Descriptors (Kind : Type) where
  opened : Finmap fun _ : Nat => Kind := ∅
  /-- How many numbers have been given. -/
  given : Nat := 0
  /-- The numbers that were closed while nothing was open under them, oldest first. -/
  stray : List Nat := []

namespace Descriptors

variable {Kind : Type} (numbering : DescriptorNumbering) (descriptors : Descriptors Kind)

/-- The number that is given next. -/
def next : Nat := numbering.number descriptors.given descriptors.opened.keys

/-- Something is opened. -/
def give (kind : Kind) : Descriptors Kind :=
  { descriptors with
    opened := descriptors.opened.insert (descriptors.next numbering) kind
    given := descriptors.given + 1 }

/-- What is open under a descriptor; nothing is under a negative one. -/
def lookup : (fd : Int) → Option Kind
  | .ofNat number => descriptors.opened.lookup number
  | .negSucc _ => none

/-- What is open under a descriptor turns into something else. -/
def update : (fd : Int) → (kind : Kind) → Descriptors Kind
  | .ofNat number, kind =>
      if number ∈ descriptors.opened then
        { descriptors with opened := descriptors.opened.insert number kind }
      else descriptors
  | .negSucc _, _ => descriptors

/-- A descriptor is closed; closing a negative one has no effect. -/
def close : (fd : Int) → Descriptors Kind
  | .ofNat number =>
      if number ∈ descriptors.opened then
        { descriptors with opened := descriptors.opened.erase number }
      else { descriptors with stray := descriptors.stray ++ [number] }
  | .negSucc _ => descriptors

/-- Only the count of the numbers given may have changed. -/
structure Same (before after : Descriptors Kind) : Prop where
  opened : after.opened = before.opened
  stray : after.stray = before.stray

theorem Same.refl : Same descriptors descriptors := ⟨rfl, rfl⟩

theorem Same.trans
    {first second third : Descriptors Kind}
    (before : Same first second)
    (after : Same second third) : Same first third :=
  ⟨after.opened.trans before.opened, after.stray.trans before.stray⟩

/-! ## Opening -/

theorem next_notMem : descriptors.next numbering ∉ descriptors.opened := by
  rw [← Finmap.mem_keys]
  exact numbering.fresh _ _

@[simp] theorem opened_give (kind : Kind) :
    (descriptors.give numbering kind).opened =
      descriptors.opened.insert (descriptors.next numbering) kind := rfl

@[simp] theorem lookup_natCast (number : Nat) :
    descriptors.lookup number = descriptors.opened.lookup number := rfl

theorem lookup_of_neg {fd : Int} (negative : fd < 0) : descriptors.lookup fd = none := by
  cases fd with
  | ofNat number => exact absurd negative (Int.not_lt.mpr (Int.natCast_nonneg number))
  | negSucc number => rfl

/-- What has just been opened turns into something else. -/
theorem update_give (kind other : Kind) :
    (descriptors.give numbering kind).update (descriptors.next numbering) other =
      descriptors.give numbering other := by
  change (if descriptors.next numbering ∈ (descriptors.give numbering kind).opened then _
    else _) = _
  rw [if_pos (by simp), give, give, Finmap.insert_insert]

/-! ## Closing -/

theorem close_of_mem {number : Nat} (isOpen : number ∈ descriptors.opened) :
    descriptors.close number =
      { descriptors with opened := descriptors.opened.erase number } :=
  if_pos isOpen

theorem close_of_notMem {number : Nat} (isClosed : number ∉ descriptors.opened) :
    descriptors.close number =
      { descriptors with stray := descriptors.stray ++ [number] } :=
  if_neg isClosed

theorem close_of_neg {fd : Int} (negative : fd < 0) : descriptors.close fd = descriptors := by
  cases fd with
  | ofNat number => exact absurd negative (Int.not_lt.mpr (Int.natCast_nonneg number))
  | negSucc number => rfl

@[simp] theorem given_close (fd : Int) :
    (descriptors.close fd).given = descriptors.given := by
  cases fd with
  | ofNat number =>
      change (if number ∈ descriptors.opened then _ else _ : Descriptors Kind).given = _
      split <;> rfl
  | negSucc number => rfl

/-- Erasing a new entry restores a map. -/
theorem erase_insert
    {opened : Finmap fun _ : Nat => Kind} {number : Nat}
    (new : number ∉ opened) (kind : Kind) :
    (opened.insert number kind).erase number = opened := by
  apply Finmap.ext_lookup
  intro other
  by_cases same : other = number
  · rw [same, Finmap.lookup_erase, Finmap.lookup_eq_none.mpr new]
  · rw [Finmap.lookup_erase_ne same, Finmap.lookup_insert_of_ne _ same]

/-- Closing what has just been opened restores what is open. -/
theorem close_give (kind : Kind) :
    Same descriptors
      ((descriptors.give numbering kind).close (descriptors.next numbering)) := by
  rw [close_of_mem _ (by simp)]
  exact ⟨erase_insert (descriptors.next_notMem numbering) kind, rfl⟩

/-- What remains open after closing. -/
theorem mem_opened_close {fd : Int} {number : Nat} :
    number ∈ (descriptors.close fd).opened ↔ number ∈ descriptors.opened ∧ fd ≠ number := by
  rcases lt_or_ge fd 0 with negative | positive
  · rw [close_of_neg _ negative]
    have different : fd ≠ number := by omega
    simp [different]
  · obtain ⟨closed, rfl⟩ := Int.eq_ofNat_of_zero_le positive
    by_cases isOpen : closed ∈ descriptors.opened
    · rw [close_of_mem _ isOpen, Finmap.mem_erase, and_comm, Ne, Ne, Int.natCast_inj,
        eq_comm]
    · rw [close_of_notMem _ isOpen, and_iff_left_of_imp]
      intro remains same
      rw [Int.natCast_inj] at same
      rw [same] at isOpen
      exact isOpen remains

/-! ## Open descriptors -/

/-- Something is open under a descriptor. -/
def IsOpen : (fd : Int) → Prop
  | .ofNat number => number ∈ descriptors.opened
  | .negSucc _ => False

@[simp] theorem isOpen_natCast (number : Nat) :
    descriptors.IsOpen number ↔ number ∈ descriptors.opened := Iff.rfl

variable {descriptors} in
theorem IsOpen.nonneg {fd : Int} (isOpen : descriptors.IsOpen fd) : 0 ≤ fd := by
  cases fd with
  | ofNat number => exact Int.natCast_nonneg number
  | negSucc number => exact isOpen.elim

theorem opened_eq_empty_iff :
    descriptors.opened = ∅ ↔ ∀ fd, ¬descriptors.IsOpen fd := by
  constructor
  · intro nothing fd isOpen
    obtain ⟨number, rfl⟩ := Int.eq_ofNat_of_zero_le isOpen.nonneg
    rw [isOpen_natCast, nothing] at isOpen
    exact Finmap.notMem_empty isOpen
  · intro nothing
    apply Finmap.ext_lookup
    intro number
    rw [Finmap.lookup_empty, Finmap.lookup_eq_none]
    exact nothing number

theorem not_isOpen_next : ¬descriptors.IsOpen (descriptors.next numbering) :=
  descriptors.next_notMem numbering

/-- Opening adds one descriptor. -/
theorem isOpen_give (kind : Kind) (fd : Int) :
    (descriptors.give numbering kind).IsOpen fd ↔
      fd = descriptors.next numbering ∨ descriptors.IsOpen fd := by
  cases fd with
  | ofNat number =>
      change number ∈ (descriptors.give numbering kind).opened ↔
        (number : Int) = _ ∨ number ∈ descriptors.opened
      rw [opened_give, Finmap.mem_insert, Int.natCast_inj]
  | negSucc number => simp [IsOpen]

/-- Closing removes one descriptor. -/
theorem isOpen_close (closed fd : Int) :
    (descriptors.close closed).IsOpen fd ↔ descriptors.IsOpen fd ∧ fd ≠ closed := by
  cases fd with
  | ofNat number =>
      change number ∈ (descriptors.close closed).opened ↔ number ∈ descriptors.opened ∧ _
      rw [mem_opened_close, ne_comm]
      rfl
  | negSucc number => simp [IsOpen]

/-- Closing what is open, or a negative number, is in order. -/
theorem stray_close_of_isOpen {fd : Int} (owned : descriptors.IsOpen fd ∨ fd < 0) :
    (descriptors.close fd).stray = descriptors.stray := by
  rcases owned with isOpen | negative
  · obtain ⟨number, rfl⟩ := Int.eq_ofNat_of_zero_le isOpen.nonneg
    rw [close_of_mem _ isOpen]
  · rw [close_of_neg _ negative]

/-- Closing what is not open strays. -/
theorem stray_close_of_not_isOpen {fd : Int}
    (positive : 0 ≤ fd) (closed : ¬descriptors.IsOpen fd) :
    (descriptors.close fd).stray ≠ [] := by
  obtain ⟨number, rfl⟩ := Int.eq_ofNat_of_zero_le positive
  rw [close_of_notMem _ closed]
  simp

/-- What has strayed is not forgotten. -/
theorem stray_close_ne_nil (fd : Int) (strayed : descriptors.stray ≠ []) :
    (descriptors.close fd).stray ≠ [] := by
  by_cases owned : descriptors.IsOpen fd ∨ fd < 0
  · rw [descriptors.stray_close_of_isOpen owned]
    exact strayed
  · rw [not_or, Int.not_lt] at owned
    exact descriptors.stray_close_of_not_isOpen owned.2 owned.1

/-! ## Losses -/

/-- A number that was not open has been closed, or something is open that nobody who holds
these descriptors can close. -/
def Loses (held : List Int) : Prop :=
  descriptors.stray ≠ [] ∨ ∃ fd, descriptors.IsOpen fd ∧ fd ∉ held

variable {descriptors} {held other : List Int}

/-- A loss is not made good by holding what is not open. -/
theorem Loses.mono
    (loses : descriptors.Loses held)
    (kept : ∀ fd ∈ other, fd ∈ held ∨ ¬descriptors.IsOpen fd) :
    descriptors.Loses other := by
  rcases loses with strayed | ⟨fd, isOpen, unheld⟩
  · exact Or.inl strayed
  · refine Or.inr ⟨fd, isOpen, ?_⟩
    intro member
    rcases kept fd member with isHeld | isClosed
    · exact unheld isHeld
    · exact isClosed isOpen

/-- A loss is not made good by opening something else. -/
theorem Loses.give
    (loses : descriptors.Loses held) (kind : Kind) :
    (descriptors.give numbering kind).Loses (descriptors.next numbering :: held) := by
  have kept : descriptors.Loses ((descriptors.next numbering : Int) :: held) := by
    refine loses.mono fun fd member => ?_
    rcases List.mem_cons.mp member with rfl | isHeld
    · exact Or.inr (descriptors.not_isOpen_next numbering)
    · exact Or.inl isHeld
  rcases kept with strayed | ⟨fd, isOpen, unheld⟩
  · exact Or.inl strayed
  · exact Or.inr ⟨fd, (descriptors.isOpen_give numbering kind fd).mpr (Or.inr isOpen), unheld⟩

/-- A loss is not made good by closing what is held. -/
theorem Loses.close
    {closed : Int} (loses : descriptors.Loses held) (isHeld : closed ∈ held) :
    (descriptors.close closed).Loses held := by
  rcases loses with strayed | ⟨fd, isOpen, unheld⟩
  · exact Or.inl (descriptors.stray_close_ne_nil closed strayed)
  · refine Or.inr ⟨fd, (descriptors.isOpen_close closed fd).mpr ⟨isOpen, ?_⟩, unheld⟩
    rintro rfl
    exact unheld isHeld

/-! ## Numbers in their order -/

variable (descriptors)

/-- What is open, and what is held otherwise, lies below the number that is given next if
numbers are given in their order. -/
def Bounded (held : List Int) : Prop :=
  ∀ fd, descriptors.IsOpen fd ∨ fd ∈ held → fd < descriptors.given + 3

variable {descriptors}

/-- Numbers that are given in their order are not given again. -/
theorem Bounded.next_eq (bounded : descriptors.Bounded held) :
    (descriptors.next .ascending : Int) = descriptors.given + 3 := by
  have unused : descriptors.given + 3 ∉ descriptors.opened.keys := by
    intro used
    rw [Finmap.mem_keys] at used
    have below := bounded _ (Or.inl ((descriptors.isOpen_natCast _).mpr used))
    omega
  have next : descriptors.next .ascending = descriptors.given + 3 := if_pos unused
  omega

/-- The number that is given next is none of those that are held. -/
theorem Bounded.next_notMem (bounded : descriptors.Bounded held) :
    (descriptors.next .ascending : Int) ∉ held := by
  intro isHeld
  have below := bounded _ (Or.inr isHeld)
  rw [bounded.next_eq] at below
  omega

theorem Bounded.mono
    (bounded : descriptors.Bounded held)
    (kept : ∀ fd ∈ other, fd ∈ held ∨ fd < 0) : descriptors.Bounded other := by
  rintro fd (isOpen | member)
  · exact bounded fd (Or.inl isOpen)
  · rcases kept fd member with isHeld | negative
    · exact bounded fd (Or.inr isHeld)
    · omega

theorem Bounded.give (bounded : descriptors.Bounded held) (kind : Kind) :
    (descriptors.give .ascending kind).Bounded (descriptors.next .ascending :: held) := by
  intro fd named
  have old (below : fd < descriptors.given + 3) : fd < (descriptors.given + 1 : Nat) + 3 := by
    omega
  have new (same : fd = descriptors.next .ascending) :
      fd < (descriptors.given + 1 : Nat) + 3 := by
    rw [same, bounded.next_eq]
    omega
  rw [isOpen_give, List.mem_cons] at named
  rcases named with (same | isOpen) | (same | isHeld)
  · exact new same
  · exact old (bounded fd (Or.inl isOpen))
  · exact new same
  · exact old (bounded fd (Or.inr isHeld))

theorem Bounded.close (bounded : descriptors.Bounded held) (closed : Int) :
    (descriptors.close closed).Bounded held := by
  intro fd named
  rw [given_close]
  apply bounded
  rw [isOpen_close] at named
  exact named.imp_left And.left

end Descriptors
