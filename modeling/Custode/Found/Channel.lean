import Mathlib.Tactic.Common

/-!
# A bounded channel with reserved slots

The sending half of a bounded queue: items that wait to be received, slots that a sender has
reserved, and whether the receiver is gone. A channel carries the proof that it is within its
capacity. What a sender does needs room (`push`, `reserve`) or a reserved slot (`fill`), so that it
cannot be done without.
-/

namespace Custode.Found

/-- A channel with this many slots. -/
structure Channel (capacity : Nat) where
  /-- The items that were not received yet. -/
  queued : Nat
  /-- The slots that were reserved and not used yet. -/
  reserved : Nat
  /-- The receiver is gone. -/
  closed : Bool
  bounded : queued + reserved ≤ capacity

namespace Channel

variable {capacity : Nat}

/-- A new channel. -/
def empty (capacity : Nat) : Channel capacity := ⟨0, 0, false, Nat.zero_le _⟩

/-- A slot is free. -/
def HasRoom (ch : Channel capacity) : Prop := ch.queued + ch.reserved < capacity

/-- A sender would have to wait for the receiver. -/
def Blocks (ch : Channel capacity) : Prop := ¬ ch.HasRoom ∧ ch.closed = false

instance (ch : Channel capacity) : Decidable ch.HasRoom := inferInstanceAs (Decidable (_ < _))

instance (ch : Channel capacity) : Decidable ch.Blocks := inferInstanceAs (Decidable (_ ∧ _))

/-- An item goes into a free slot. -/
def push (ch : Channel capacity) (room : ch.HasRoom) : Channel capacity where
  queued := ch.queued + 1
  reserved := ch.reserved
  closed := ch.closed
  bounded := by
    rw [Nat.add_right_comm]
    exact room

/-- A free slot is reserved. -/
def reserve (ch : Channel capacity) (room : ch.HasRoom) : Channel capacity where
  queued := ch.queued
  reserved := ch.reserved + 1
  closed := ch.closed
  bounded := room

/-- An item goes into a reserved slot. -/
def fill (ch : Channel capacity) (held : 0 < ch.reserved) : Channel capacity where
  queued := ch.queued + 1
  reserved := ch.reserved - 1
  closed := ch.closed
  bounded := by
    have := ch.bounded
    omega

/-- A reserved slot is given back. -/
def unreserve (ch : Channel capacity) : Channel capacity where
  queued := ch.queued
  reserved := ch.reserved - 1
  closed := ch.closed
  bounded := by
    have := ch.bounded
    omega

/-- An item is received. -/
def take (ch : Channel capacity) : Channel capacity where
  queued := ch.queued - 1
  reserved := ch.reserved
  closed := ch.closed
  bounded := by
    have := ch.bounded
    omega

/-- The receiver goes away. -/
def close (ch : Channel capacity) : Channel capacity := { ch with closed := true }

/-- After a reserved slot was given back, there is room. -/
lemma hasRoom_unreserve {ch : Channel capacity} (held : 0 < ch.reserved) :
    ch.unreserve.HasRoom := by
  have hbounded := ch.bounded
  show ch.queued + (ch.reserved - 1) < capacity
  omega

/-- Taking a message leaves room. -/
lemma HasRoom.take {ch : Channel capacity} (room : ch.HasRoom) : ch.take.HasRoom :=
  Nat.lt_of_le_of_lt (Nat.add_le_add_right (Nat.sub_le _ _) _) room

/-- A receiver never makes a sender wait that did not have to. -/
lemma not_blocks_take {ch : Channel capacity} (h : ¬ ch.Blocks) : ¬ ch.take.Blocks := by
  rintro ⟨hfull, hopen⟩
  refine h ⟨fun room => hfull room.take, hopen⟩

/-- A closed channel does not block. -/
lemma not_blocks_close (ch : Channel capacity) : ¬ ch.close.Blocks := by
  rintro ⟨-, hopen⟩
  cases hopen

end Channel

end Custode.Found
