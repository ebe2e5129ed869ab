/-! # The two sides

Black attacks from the edges and moves first; White defends the king in the middle. -/

namespace Tafl

inductive Side where
  | black
  | white
deriving DecidableEq, Repr

namespace Side

def opponent : Side → Side
  | black => white
  | white => black

@[simp] theorem opponent_opponent (s : Side) : s.opponent.opponent = s := by cases s <;> rfl

theorem opponent_ne (s : Side) : s.opponent ≠ s := by cases s <;> decide

theorem eq_opponent_of_ne {s u : Side} (h : u ≠ s) : u = s.opponent := by
  cases s <;> cases u <;> first | rfl | exact absurd rfl h

end Side

end Tafl
