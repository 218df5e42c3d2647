import NetworkTiming.Library.Channel

/-!
# Bridges

Two channels with a party between them that passes on what it takes look like a single
channel from the outside: what is on its way there is on its way in the second channel,
is held by the party, or has not been taken from the first channel.  A party that has
stopped passes on nothing more; what it has not passed on remains on its way.
-/

namespace Channel

variable {α : Type}

/-- Sending nothing leaves a channel as it is. -/
@[simp] theorem push_nil (channel : Channel α) : channel.push [] = channel := by
  rw [push, List.append_nil]

/-- What is sent in two parts is sent at once. -/
theorem push_push (channel : Channel α) (first second : List α) :
    (channel.push first).push second = channel.push (first ++ second) := by
  simp only [push, List.append_assoc]

/-- What is taken is the first part of what has arrived. -/
theorem append_arrived_pull
    {channel : Channel α} {data : List α} (arrived : data <+: channel.arrived) :
    data ++ (channel.pull data.length).arrived = channel.arrived := by
  obtain ⟨others, split⟩ := arrived
  rw [pull, ← split, List.drop_left]

/-- Everything that is sent over a channel without arrears arrives. -/
theorem arrived_deliver_push
    {channel : Channel α} (drained : channel.unread = []) (data : List α) :
    ((channel.push data).deliver data.length).arrived = data ∧
      ((channel.push data).deliver data.length).flying = [] := by
  obtain ⟨arrived, flying⟩ := List.append_eq_nil_iff.mp drained
  simp [push, deliver, arrived, flying]

/-- A channel looks like two channels in a row.  The party between them holds some data,
or it has stopped. -/
structure Bridges (near : Channel α) (held : Option (List α)) (far direct : Channel α) :
    Prop where
  closed : direct.closed = near.closed
  taken : direct.taken = far.taken
  arrived : direct.arrived = far.arrived
  flying : ∃ rest, direct.flying = far.flying ++ rest ∧
    ∀ data, held = some data → rest = data ++ near.unread

namespace Bridges

variable {near far direct : Channel α} {held : Option (List α)}

/-- Before anything has been sent. -/
theorem empty : Bridges (.empty : Channel α) (some []) .empty .empty where
  closed := rfl
  taken := rfl
  arrived := rfl
  flying := by
    refine ⟨[], rfl, ?_⟩
    rintro data ⟨⟩
    rfl

/-- The sender sends. -/
theorem push (bridges : Bridges near held far direct) (data : List α) :
    Bridges (near.push data) held far (direct.push data) where
  closed := bridges.closed
  taken := bridges.taken
  arrived := bridges.arrived
  flying := by
    obtain ⟨rest, flying, holds⟩ := bridges.flying
    refine ⟨rest ++ data, ?_, ?_⟩
    · change direct.flying ++ data = far.flying ++ (rest ++ data)
      rw [flying, List.append_assoc]
    · intro bytes same
      rw [holds bytes same, unread_push, List.append_assoc]

/-- The sender closes its side. -/
theorem close (bridges : Bridges near held far direct) :
    Bridges near.close held far direct.close where
  closed := rfl
  taken := bridges.taken
  arrived := bridges.arrived
  flying := bridges.flying

/-- Data arrive at the party in between. -/
theorem deliver_near (bridges : Bridges near held far direct) (count : Nat) :
    Bridges (near.deliver count) held far direct where
  closed := bridges.closed
  taken := bridges.taken
  arrived := bridges.arrived
  flying := by
    obtain ⟨rest, flying, holds⟩ := bridges.flying
    refine ⟨rest, flying, ?_⟩
    intro bytes same
    rw [holds bytes same, unread_deliver]

/-- The party in between takes data. -/
theorem pull_near
    {data : List α}
    (bridges : Bridges near (some []) far direct)
    (arrived : data <+: near.arrived) :
    Bridges (near.pull data.length) (some data) far direct where
  closed := bridges.closed
  taken := bridges.taken
  arrived := bridges.arrived
  flying := by
    obtain ⟨rest, flying, holds⟩ := bridges.flying
    obtain ⟨others, split⟩ := arrived
    refine ⟨rest, flying, ?_⟩
    rintro bytes ⟨⟩
    rw [holds [] rfl, Channel.pull, unread, unread, ← split, List.drop_left]
    simp

/-- The party in between passes on some of what it holds. -/
theorem push_far
    {data : List α}
    (bridges : Bridges near (some data) far direct) (count : Nat) :
    Bridges near (some (data.drop count)) (far.push (data.take count)) direct where
  closed := bridges.closed
  taken := bridges.taken
  arrived := bridges.arrived
  flying := by
    obtain ⟨rest, flying, holds⟩ := bridges.flying
    refine ⟨data.drop count ++ near.unread, ?_, ?_⟩
    · change direct.flying = far.flying ++ data.take count ++ _
      rw [flying, holds data rfl, List.append_assoc, ← List.append_assoc (data.take count),
        List.take_append_drop]
    · rintro bytes ⟨⟩
      rfl

/-- The party in between passes on all that it holds. -/
theorem push_far_all
    {data : List α}
    (bridges : Bridges near (some data) far direct) :
    Bridges near (some []) (far.push (data.take data.length)) direct := by
  simpa only [List.drop_length] using bridges.push_far data.length

/-- Data arrive at the receiver. -/
theorem deliver_far (bridges : Bridges near held far direct) (count : Nat) :
    Bridges near held (far.deliver count)
      (direct.deliver (min count far.flying.length)) := by
  obtain ⟨rest, flying, holds⟩ := bridges.flying
  have taken : (far.flying ++ rest).take (min count far.flying.length) =
      far.flying.take count := by
    rw [List.take_append_of_le_length (Nat.min_le_right _ _), ← List.take_take,
      List.take_length]
  have dropped : (far.flying ++ rest).drop (min count far.flying.length) =
      far.flying.drop count ++ rest := by
    rw [List.drop_append_of_le_length (Nat.min_le_right _ _)]
    rcases Nat.le_total count far.flying.length with few | many
    · rw [Nat.min_eq_left few]
    · rw [Nat.min_eq_right many, List.drop_length, List.drop_of_length_le many]
  constructor
  · exact bridges.closed
  · exact bridges.taken
  · change direct.arrived ++ direct.flying.take _ = far.arrived ++ far.flying.take count
    rw [bridges.arrived, flying, taken]
  · refine ⟨rest, ?_, holds⟩
    change direct.flying.drop _ = far.flying.drop count ++ rest
    rw [flying, dropped]

/-- The receiver takes data. -/
theorem pull_far (bridges : Bridges near held far direct) (count : Nat) :
    Bridges near held (far.pull count) (direct.pull count) where
  closed := bridges.closed
  taken := by
    change direct.taken ++ direct.arrived.take count = far.taken ++ far.arrived.take count
    rw [bridges.taken, bridges.arrived]
  arrived := by
    change direct.arrived.drop count = far.arrived.drop count
    rw [bridges.arrived]
  flying := bridges.flying

/-- The party in between stops. -/
theorem stop (bridges : Bridges near held far direct) : Bridges near none far direct where
  closed := bridges.closed
  taken := bridges.taken
  arrived := bridges.arrived
  flying := by
    obtain ⟨rest, flying, _holds⟩ := bridges.flying
    exact ⟨rest, flying, nofun⟩

end Bridges

end Channel
