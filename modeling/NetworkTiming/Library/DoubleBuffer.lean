import Mathlib.Data.List.Induction

/-!
# Double buffers

A queue between one writer and one reader, kept in two arrays of one capacity.
Writer and reader each have a side and an index.  A writer that has filled its
side may turn to the other one if the reader has already left it; a reader that
has drained its side follows.  `contents` is the queue that the two arrays
represent: writing appends, reading removes the head, and turning leaves the
queue as it is.
-/

/-- Two arrays shared by a writer and a reader. -/
structure DoubleBuffer (α : Type) (capacity : Nat) where
  /-- The array of side `false`. -/
  first : Vector α capacity
  /-- The array of side `true`. -/
  second : Vector α capacity
  /-- Side of the reader. -/
  reader : Bool
  /-- Side of the writer. -/
  writer : Bool
  /-- Slot that the reader looks at next. -/
  readIndex : Nat
  /-- Slot that the writer fills next. -/
  writeIndex : Nat

namespace DoubleBuffer

variable {α : Type} {capacity : Nat}

/-- The array of a side. -/
def side (buffer : DoubleBuffer α capacity) (second : Bool) : Vector α capacity :=
  if second then buffer.second else buffer.first

/-- The queue that the two arrays represent, oldest entry first. -/
def contents (buffer : DoubleBuffer α capacity) : List α :=
  if buffer.reader = buffer.writer then
    ((buffer.side buffer.reader).toList.take buffer.writeIndex).drop buffer.readIndex
  else
    (buffer.side buffer.reader).toList.drop buffer.readIndex ++
      (buffer.side buffer.writer).toList.take buffer.writeIndex

/-- A slot holds an entry that has been written and not yet read. -/
def Unread
    (buffer : DoubleBuffer α capacity)
    (side : Bool) (index : Nat) : Prop :=
  (side = buffer.reader ∧ buffer.readIndex ≤ index ∧ index < capacity ∧
      (buffer.reader = buffer.writer → index < buffer.writeIndex)) ∨
    (buffer.reader ≠ buffer.writer ∧ side = buffer.writer ∧
      index < buffer.writeIndex)

/-- The indices stay inside the arrays, and the reader does not overtake the
writer. -/
structure Invariant (buffer : DoubleBuffer α capacity) : Prop where
  readIndex_le : buffer.readIndex ≤ capacity
  writeIndex_le : buffer.writeIndex ≤ capacity
  readIndex_le_writeIndex : buffer.reader = buffer.writer →
    buffer.readIndex ≤ buffer.writeIndex

/-! ## Operations -/

/-- The writer goes to the start of the other side. -/
def turnWriter (buffer : DoubleBuffer α capacity) : DoubleBuffer α capacity :=
  { buffer with writer := !buffer.writer, writeIndex := 0 }

/-- The reader goes to the start of the other side. -/
def turnReader (buffer : DoubleBuffer α capacity) : DoubleBuffer α capacity :=
  { buffer with reader := !buffer.reader, readIndex := 0 }

/-- Replace one slot. -/
def store
    (buffer : DoubleBuffer α capacity)
    (side : Bool) (index : Nat) (value : α)
    (inside : index < capacity) : DoubleBuffer α capacity :=
  if side then { buffer with second := buffer.second.set index value inside }
  else { buffer with first := buffer.first.set index value inside }

/-- Fill the writer's slot and go to the next one. -/
def write
    (buffer : DoubleBuffer α capacity)
    (value : α)
    (inside : buffer.writeIndex < capacity) : DoubleBuffer α capacity :=
  { buffer.store buffer.writer buffer.writeIndex value inside with
    writeIndex := buffer.writeIndex + 1 }

/-- Go past the reader's slot. -/
def advance (buffer : DoubleBuffer α capacity) : DoubleBuffer α capacity :=
  { buffer with readIndex := buffer.readIndex + 1 }

variable {buffer : DoubleBuffer α capacity}

@[simp] theorem store_reader {side index value} (inside : index < capacity) :
    (buffer.store side index value inside).reader = buffer.reader := by
  cases side <;> rfl

@[simp] theorem store_readIndex {side index value} (inside : index < capacity) :
    (buffer.store side index value inside).readIndex = buffer.readIndex := by
  cases side <;> rfl

@[simp] theorem write_reader {value} (inside : buffer.writeIndex < capacity) :
    (buffer.write value inside).reader = buffer.reader :=
  store_reader inside

@[simp] theorem write_readIndex {value} (inside : buffer.writeIndex < capacity) :
    (buffer.write value inside).readIndex = buffer.readIndex :=
  store_readIndex inside

@[simp] theorem write_writer {value} (inside : buffer.writeIndex < capacity) :
    (buffer.write value inside).writer = buffer.writer := by
  unfold write store
  split <;> rfl

@[simp] theorem write_writeIndex {value} (inside : buffer.writeIndex < capacity) :
    (buffer.write value inside).writeIndex = buffer.writeIndex + 1 := rfl

/-- Storing into a slot replaces it in the array of its side. -/
theorem side_store_same {side index value} (inside : index < capacity) :
    (buffer.store side index value inside).side side =
      (buffer.side side).set index value inside := by
  cases side <;> rfl

/-- Storing into a slot leaves the other side alone. -/
theorem side_store_other {side other index value}
    (different : other ≠ side) (inside : index < capacity) :
    (buffer.store side index value inside).side other = buffer.side other := by
  cases side <;> cases other <;> first | rfl | exact absurd rfl different

theorem side_write_writer {value} (inside : buffer.writeIndex < capacity) :
    (buffer.write value inside).side buffer.writer =
      (buffer.side buffer.writer).set buffer.writeIndex value inside :=
  side_store_same inside

theorem side_write_other {value other}
    (different : other ≠ buffer.writer) (inside : buffer.writeIndex < capacity) :
    (buffer.write value inside).side other = buffer.side other :=
  side_store_other different inside

/-- While the reader is on the writer's side, the queue is a part of that side. -/
theorem contents_of_together
    (buffer : DoubleBuffer α capacity)
    (together : buffer.reader = buffer.writer) :
    buffer.contents =
      ((buffer.side buffer.reader).toList.take buffer.writeIndex).drop
        buffer.readIndex :=
  if_pos together

/-- While the reader is on the other side, the queue starts there. -/
theorem contents_of_apart
    (buffer : DoubleBuffer α capacity)
    (apart : buffer.reader ≠ buffer.writer) :
    buffer.contents =
      (buffer.side buffer.reader).toList.drop buffer.readIndex ++
        (buffer.side buffer.writer).toList.take buffer.writeIndex :=
  if_neg apart

/-! ## Length -/

/-- The queue has room in the two arrays. -/
theorem length_contents_le (buffer : DoubleBuffer α capacity) :
    buffer.contents.length ≤ 2 * capacity := by
  by_cases together : buffer.reader = buffer.writer
  · rw [contents_of_together buffer together, List.length_drop, List.length_take,
      Vector.length_toList]
    omega
  · rw [contents_of_apart buffer together, List.length_append, List.length_drop,
      List.length_take, Vector.length_toList, Vector.length_toList]
    omega

/-- A writer that has filled a side of its own has left a whole side of entries. -/
theorem capacity_le_length_contents
    (apart : buffer.reader ≠ buffer.writer) (filled : buffer.writeIndex = capacity) :
    capacity ≤ buffer.contents.length := by
  rw [contents_of_apart buffer apart, filled, List.length_append, List.length_take,
    Vector.length_toList, Nat.min_self]
  exact Nat.le_add_left _ _

/-- The slots of unread entries hold the entries of the queue. -/
theorem Unread.mem_contents
    {side : Bool} {index : Nat}
    (unread : buffer.Unread side index) (inside : index < capacity) :
    (buffer.side side)[index] ∈ buffer.contents := by
  have slot (side : Bool) :
      (buffer.side side).toList[index]? = some (buffer.side side)[index] := by
    rw [Vector.getElem?_toList, Vector.getElem?_eq_getElem inside]
  obtain ⟨rfl, after, _, bounded⟩ | ⟨apart, rfl, before⟩ := unread
  · have position : buffer.readIndex + (index - buffer.readIndex) = index := by omega
    by_cases together : buffer.reader = buffer.writer
    · rw [contents_of_together buffer together]
      apply @List.mem_of_getElem? _ _ (index - buffer.readIndex)
      rw [List.getElem?_drop, position, List.getElem?_take_of_lt (bounded together)]
      exact slot _
    · rw [contents_of_apart buffer together, List.mem_append]
      apply Or.inl
      apply @List.mem_of_getElem? _ _ (index - buffer.readIndex)
      rw [List.getElem?_drop, position]
      exact slot _
  · rw [contents_of_apart buffer apart, List.mem_append]
    apply Or.inr
    apply @List.mem_of_getElem? _ _ index
    rw [List.getElem?_take_of_lt before]
    exact slot _

/-! ## Emptiness -/

/-- The reader's test for an empty queue. -/
theorem contents_eq_nil
    (caughtUp : buffer.reader = buffer.writer ∧
      buffer.writeIndex = buffer.readIndex) :
    buffer.contents = [] := by
  rw [contents, if_pos caughtUp.1, List.drop_eq_nil_iff, List.length_take,
    caughtUp.2]
  exact Nat.min_le_left _ _

/-- A reader that is neither caught up nor at the end of a side that the writer
has left looks at the head of the queue. -/
theorem contents_eq_cons
    (valid : buffer.Invariant)
    (behind : ¬(buffer.writer = buffer.reader ∧
      buffer.writeIndex = buffer.readIndex))
    (undrained : ¬(buffer.writer ≠ buffer.reader ∧
      buffer.readIndex = capacity)) :
    ∃ inside : buffer.readIndex < capacity,
      buffer.contents =
        (buffer.side buffer.reader)[buffer.readIndex] :: buffer.advance.contents := by
  have readBound := valid.readIndex_le
  have writeBound := valid.writeIndex_le
  by_cases together : buffer.reader = buffer.writer
  · have ordered := valid.readIndex_le_writeIndex together
    have unequal : buffer.writeIndex ≠ buffer.readIndex :=
      fun equal => behind ⟨together.symm, equal⟩
    refine ⟨by omega, ?_⟩
    have nonempty : buffer.readIndex <
        ((buffer.side buffer.reader).toList.take buffer.writeIndex).length := by
      rw [List.length_take, Vector.length_toList]
      omega
    rw [contents_of_together buffer together, List.drop_eq_getElem_cons nonempty,
      contents_of_together buffer.advance together,
      List.getElem_take, Vector.getElem_toList]
    rfl
  · have unequal : buffer.readIndex ≠ capacity :=
      fun equal => undrained ⟨fun same => together same.symm, equal⟩
    refine ⟨by omega, ?_⟩
    have nonempty : buffer.readIndex < (buffer.side buffer.reader).toList.length := by
      rw [Vector.length_toList]
      omega
    rw [contents_of_apart buffer together, List.drop_eq_getElem_cons nonempty,
      contents_of_apart buffer.advance together, Vector.getElem_toList]
    rfl

/-! ## The operations on the queue -/

/-- Going past the slot of an unread entry keeps the invariant. -/
theorem Invariant.advance
    (valid : buffer.Invariant)
    (behind : ¬(buffer.writer = buffer.reader ∧
      buffer.writeIndex = buffer.readIndex))
    (inside : buffer.readIndex < capacity) :
    buffer.advance.Invariant where
  readIndex_le := inside
  writeIndex_le := valid.writeIndex_le
  readIndex_le_writeIndex := by
    intro together
    have ordered := valid.readIndex_le_writeIndex together
    have unequal : buffer.writeIndex ≠ buffer.readIndex :=
      fun equal => behind ⟨together.symm, equal⟩
    change buffer.readIndex + 1 ≤ buffer.writeIndex
    omega

/-- A reader at the start of a side has overtaken nothing. -/
theorem Invariant.turnReader
    (valid : buffer.Invariant) :
    buffer.turnReader.Invariant where
  readIndex_le := Nat.zero_le _
  writeIndex_le := valid.writeIndex_le
  readIndex_le_writeIndex := fun _ => Nat.zero_le _

/-- Following the writer leaves the queue as it is. -/
theorem contents_turnReader
    (apart : buffer.writer ≠ buffer.reader)
    (drained : buffer.readIndex = capacity) :
    buffer.turnReader.contents = buffer.contents := by
  have followed : (!buffer.reader) = buffer.writer := by
    cases readerSide : buffer.reader <;> cases writerSide : buffer.writer <;>
      simp_all
  have noneLeft :
      (buffer.side buffer.reader).toList.drop buffer.readIndex = [] :=
    List.drop_eq_nil_of_le (by simp [drained])
  rw [contents_of_apart buffer (fun same => apart same.symm), noneLeft,
    contents_of_together buffer.turnReader followed]
  change ((buffer.side !buffer.reader).toList.take buffer.writeIndex).drop 0 = _
  rw [followed, List.drop_zero, List.nil_append]

/-- A writer that has filled the reader's side may turn to the other one. -/
theorem Invariant.turnWriter
    (valid : buffer.Invariant)
    (together : buffer.writer = buffer.reader) :
    buffer.turnWriter.Invariant where
  readIndex_le := valid.readIndex_le
  writeIndex_le := Nat.zero_le _
  readIndex_le_writeIndex := by
    intro same
    change buffer.reader = !buffer.writer at same
    cases writerSide : buffer.writer <;> simp_all

/-- Turning to the side that the reader has left leaves the queue as it is. -/
theorem contents_turnWriter
    (together : buffer.writer = buffer.reader)
    (filled : buffer.writeIndex = capacity) :
    buffer.turnWriter.contents = buffer.contents := by
  have apart : buffer.reader ≠ !buffer.writer := by
    rw [together]
    cases buffer.reader <;> simp
  have whole :
      (buffer.side buffer.reader).toList.take capacity =
        (buffer.side buffer.reader).toList :=
    List.take_of_length_le (by simp)
  rw [contents_of_together buffer together.symm, filled, whole,
    contents_of_apart buffer.turnWriter apart]
  exact List.append_nil _

/-- Filling the writer's slot keeps the invariant. -/
theorem Invariant.write
    (valid : buffer.Invariant)
    (value : α)
    (inside : buffer.writeIndex < capacity) :
    (buffer.write value inside).Invariant where
  readIndex_le := by
    rw [write_readIndex]
    exact valid.readIndex_le
  writeIndex_le := inside
  readIndex_le_writeIndex := by
    intro together
    rw [write_reader, write_writer] at together
    rw [write_readIndex, write_writeIndex]
    exact Nat.le_succ_of_le (valid.readIndex_le_writeIndex together)

/-- The filled part of an array grows by the value stored behind it. -/
theorem take_set_succ
    (array : Vector α capacity)
    (value : α)
    (inside : index < capacity) :
    (array.set index value inside).toList.take (index + 1) =
      array.toList.take index ++ [value] := by
  rw [Vector.toList_set, List.take_succ_eq_append_getElem (by simpa using inside),
    List.take_set_of_le (Nat.le_refl index), List.getElem_set_self]

/-- Writing appends to the queue. -/
theorem contents_write
    (valid : buffer.Invariant)
    (value : α)
    (inside : buffer.writeIndex < capacity) :
    (buffer.write value inside).contents = buffer.contents ++ [value] := by
  by_cases together : buffer.reader = buffer.writer
  · have ordered := valid.readIndex_le_writeIndex together
    rw [contents_of_together buffer together,
      contents_of_together (buffer.write value inside)
        (by rw [write_reader, write_writer, together]),
      write_reader, write_readIndex, write_writeIndex, together,
      side_write_writer, take_set_succ, List.drop_append_of_le_length]
    rw [List.length_take, Vector.length_toList]
    omega
  · rw [contents_of_apart buffer together,
      contents_of_apart (buffer.write value inside)
        (by rw [write_reader, write_writer]; exact together),
      write_reader, write_writer, write_readIndex, write_writeIndex,
      side_write_other together, side_write_writer, take_set_succ,
      List.append_assoc]

/-! ## Frames -/

/-- What the reader has in hand is the same: its position, the unread slots in
front of it, and the slots behind it. -/
structure SameForReader (buffer other : DoubleBuffer α capacity) : Prop where
  reader : other.reader = buffer.reader
  readIndex : other.readIndex = buffer.readIndex
  unread : ∀ side index, buffer.Unread side index → other.Unread side index
  unreadSlot : ∀ side index (inside : index < capacity),
    buffer.Unread side index →
    (other.side side)[index] = (buffer.side side)[index]
  slotBehind : ∀ index (inside : index < capacity), index < buffer.readIndex →
    (other.side buffer.reader)[index] = (buffer.side buffer.reader)[index]

namespace SameForReader

theorem refl (buffer : DoubleBuffer α capacity) : SameForReader buffer buffer :=
  ⟨rfl, rfl, fun _ _ unread => unread, fun _ _ _ _ => rfl, fun _ _ _ => rfl⟩

theorem trans
    (first : SameForReader buffer middle)
    (second : SameForReader middle other) : SameForReader buffer other where
  reader := second.reader.trans first.reader
  readIndex := second.readIndex.trans first.readIndex
  unread side index unread := second.unread side index (first.unread side index unread)
  unreadSlot side index inside unread :=
    (second.unreadSlot side index inside (first.unread side index unread)).trans
      (first.unreadSlot side index inside unread)
  slotBehind index inside behind := by
    have later := second.slotBehind index inside (by rwa [first.readIndex])
    simp only [first.reader] at later
    exact later.trans (first.slotBehind index inside behind)

/-- A turn of the writer touches no slot. -/
theorem turnWriter
    (together : buffer.writer = buffer.reader) :
    SameForReader buffer buffer.turnWriter where
  reader := rfl
  readIndex := rfl
  unread side index unread := by
    obtain ⟨readSide, after, inside, _⟩ | ⟨apart, _⟩ := unread
    · refine Or.inl ⟨readSide, after, inside, fun same => ?_⟩
      change buffer.reader = !buffer.writer at same
      simp [together] at same
    · exact absurd together.symm apart
  unreadSlot _ _ _ _ := rfl
  slotBehind _ _ _ := rfl

/-- Writing does not touch a slot that holds an unread entry, nor one behind the
reader. -/
theorem write
    (valid : buffer.Invariant)
    (value : α)
    (inside : buffer.writeIndex < capacity) :
    SameForReader buffer (buffer.write value inside) where
  reader := write_reader inside
  readIndex := write_readIndex inside
  unread side index unread := by
    unfold Unread at unread ⊢
    rw [write_reader, write_readIndex, write_writer, write_writeIndex]
    obtain ⟨readSide, after, slot, bounded⟩ | ⟨apart, writeSide, bounded⟩ := unread
    · exact Or.inl ⟨readSide, after, slot, fun same => Nat.lt_succ_of_lt (bounded same)⟩
    · exact Or.inr ⟨apart, writeSide, Nat.lt_succ_of_lt bounded⟩
  unreadSlot side index slot unread := by
    by_cases same : side = buffer.writer
    · subst same
      have before : index < buffer.writeIndex := by
        obtain ⟨readSide, _, _, bounded⟩ | ⟨_, _, bounded⟩ := unread
        · exact bounded readSide.symm
        · exact bounded
      simp only [side_write_writer]
      exact Vector.getElem_set_ne _ _ (Nat.ne_of_gt before)
    · simp only [side_write_other same]
  slotBehind index slot behind := by
    by_cases same : buffer.reader = buffer.writer
    · have ordered := valid.readIndex_le_writeIndex same
      simp only [same, side_write_writer]
      exact Vector.getElem_set_ne _ _ (by omega)
    · simp only [side_write_other same]

end SameForReader

end DoubleBuffer
