import Tafl.Square

/-! # Moves -/

namespace Tafl

/-- Pick up the piece at `source` and put it down at `target`. -/
structure Move where
  source : Point
  target : Point
deriving DecidableEq, Repr

namespace Move

def ofSquares (s t : Square) : Move := ⟨s.point, t.point⟩

/-- The text of a move for readers, such as `(3, 0) -> (3, 1)`. -/
def text (m : Move) : String := m.source.text ++ " -> " ++ m.target.text

end Move

end Tafl
