import Tafl.Board.Legality

/-! # All moves of a side at once -/

namespace Tafl

/-- How often each reason occurs, in the order of first occurrence. -/
def Refusal.tally (rs : List Refusal) : List (Refusal × Nat) :=
  rs.foldl note []
where
  note : List (Refusal × Nat) → Refusal → List (Refusal × Nat)
    | [], r => [(r, 1)]
    | (s, n) :: rest, r => if s = r then (s, n + 1) :: rest else (s, n) :: note rest r

namespace Board

/-- Every move from a square to a square, by source and then by target. -/
def squareMoves : List Move := Square.all.flatMap fun s => Square.all.map (Move.ofSquares s)

def legalMoves (b : Board) (side : Side) : List Move :=
  squareMoves.filter fun m => (b.legality side m).toBool

/-- The reasons against all the other moves. -/
def refusals (b : Board) (side : Side) : List Refusal :=
  squareMoves.filterMap fun m => match b.legality side m with
    | .error r => some r
    | .ok _ => none

end Board

end Tafl
