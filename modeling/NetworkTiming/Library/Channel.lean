import Mathlib.Data.List.Basic

/-!
# Channels

A channel carries data from a sender to a receiver, in order and without loss.  What
has been sent is on its way, has arrived, or has been taken by the receiver; the
history of what has been taken is kept, so that the sum of the three is what has been
sent.
-/

/-- A first-in-first-out channel. -/
structure Channel (α : Type) where
  /-- What the receiver has taken. -/
  taken : List α
  /-- What the receiver can take. -/
  arrived : List α
  /-- What is on its way. -/
  flying : List α
  /-- Whether the sender has sent everything. -/
  closed : Bool
  deriving DecidableEq

namespace Channel

variable {α : Type} (channel : Channel α)

/-- The channel before anything has been sent. -/
def empty : Channel α := ⟨[], [], [], false⟩

/-- What has not been taken. -/
def unread : List α := channel.arrived ++ channel.flying

/-- What has been sent. -/
def sent : List α := channel.taken ++ channel.unread

/-- The receiver has taken everything, and nothing will follow. -/
def AtEnd : Prop := channel.closed = true ∧ channel.unread = []

instance [DecidableEq α] : Decidable channel.AtEnd :=
  inferInstanceAs (Decidable (_ ∧ _))

/-- Send data. -/
def push (data : List α) : Channel α :=
  { channel with flying := channel.flying ++ data }

/-- Some data arrive. -/
def deliver (count : Nat) : Channel α :=
  { channel with
    arrived := channel.arrived ++ channel.flying.take count
    flying := channel.flying.drop count }

/-- The receiver takes some data. -/
def pull (count : Nat) : Channel α :=
  { channel with
    taken := channel.taken ++ channel.arrived.take count
    arrived := channel.arrived.drop count }

/-- The sender sends nothing more. -/
def close : Channel α := { channel with closed := true }

@[simp] theorem unread_push (data : List α) :
    (channel.push data).unread = channel.unread ++ data := by
  simp [push, unread]

@[simp] theorem unread_deliver (count : Nat) :
    (channel.deliver count).unread = channel.unread := by
  simp [deliver, unread]

/-- What has been taken and what has not make up what has been sent. -/
theorem taken_append_unread : channel.taken ++ channel.unread = channel.sent := rfl

theorem taken_prefix_sent : channel.taken <+: channel.sent :=
  List.prefix_append _ _

@[simp] theorem sent_push (data : List α) :
    (channel.push data).sent = channel.sent ++ data := by
  rw [sent, unread_push, ← List.append_assoc]
  rfl

@[simp] theorem sent_deliver (count : Nat) :
    (channel.deliver count).sent = channel.sent := by
  rw [sent, unread_deliver]
  rfl

@[simp] theorem sent_pull (count : Nat) : (channel.pull count).sent = channel.sent := by
  simp only [pull, sent, unread, List.append_assoc]
  rw [← List.append_assoc (channel.arrived.take count), List.take_append_drop]

/-- What is taken is what has arrived first. -/
theorem taken_pull {data : List α} (arrived : data <+: channel.arrived) :
    (channel.pull data.length).taken = channel.taken ++ data := by
  rw [pull, ← List.prefix_iff_eq_take.mp arrived]

/-- What is taken of what has arrived is no longer unread. -/
theorem unread_pull {count : Nat} (enough : count ≤ channel.arrived.length) :
    (channel.pull count).unread = channel.unread.drop count := by
  rw [unread, unread, List.drop_append_of_le_length enough]
  rfl

section First

variable {channel : Channel α} {first : α} {later : List α}

/-- What has arrived first is the first that is unread. -/
theorem unread_of_arrived (arrived : channel.arrived = first :: later) :
    channel.unread = first :: (channel.pull 1).unread := by
  rw [unread_pull, unread, arrived]
  · rfl
  · rw [arrived]
    exact Nat.succ_pos _

theorem taken_of_arrived (arrived : channel.arrived = first :: later) :
    (channel.pull 1).taken = channel.taken ++ [first] := by
  rw [pull, arrived]
  rfl

/-- The place of what has arrived first, among all that has been sent. -/
theorem sent_of_arrived (arrived : channel.arrived = first :: later) :
    channel.sent[channel.taken.length]? = some first := by
  rw [sent, unread_of_arrived arrived, List.getElem?_append_right (Nat.le_refl _), Nat.sub_self]
  rfl

end First

/-- A channel at its end stays there, whatever else happens to it. -/
theorem AtEnd.deliver {channel : Channel α} (atEnd : channel.AtEnd) (count : Nat) :
    (channel.deliver count).AtEnd :=
  ⟨atEnd.1, (channel.unread_deliver count).trans atEnd.2⟩

/-- Nothing can be taken from a channel at its end. -/
theorem AtEnd.pull {channel : Channel α} (atEnd : channel.AtEnd) (count : Nat) :
    (channel.pull count).AtEnd := by
  obtain ⟨arrived, flying⟩ := List.append_eq_nil_iff.mp atEnd.2
  refine ⟨atEnd.1, ?_⟩
  simp [Channel.pull, unread, arrived, flying]

theorem AtEnd.close {channel : Channel α} (atEnd : channel.AtEnd) : channel.close.AtEnd :=
  ⟨rfl, atEnd.2⟩

/-- A channel has gained data, and the receiver has taken none. -/
structure Gains (before after : Channel α) : Prop where
  taken : after.taken = before.taken
  arrived : before.arrived <+: after.arrived
  sent : before.sent <+: after.sent

theorem Gains.refl : Gains channel channel :=
  ⟨rfl, List.prefix_refl _, List.prefix_refl _⟩

theorem Gains.push (data : List α) : Gains channel (channel.push data) := by
  refine ⟨rfl, List.prefix_refl _, ?_⟩
  rw [sent_push]
  exact List.prefix_append _ _

theorem Gains.deliver (count : Nat) : Gains channel (channel.deliver count) :=
  ⟨rfl, List.prefix_append _ _, (channel.sent_deliver count).symm ▸ List.prefix_refl _⟩

theorem Gains.close : Gains channel channel.close :=
  ⟨rfl, List.prefix_refl _, List.prefix_refl _⟩

end Channel
