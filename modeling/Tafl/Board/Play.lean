import Tafl.Board.Capture
import Tafl.Board.Legality

/-! # Playing a move

A legal move relocates its piece, takes what the piece closes in, and may end the game: White wins
when the king rests on a corner, Black when a king is taken. -/

namespace Tafl

structure Report where
  move : Move
  /-- The squares whose pieces were taken, the king's included. -/
  captured : List Square
  winner : Option Side
deriving DecidableEq, Repr

namespace Board

/-- What is picked up at a point: nothing, off the board. -/
def pieceAt (b : Board) (p : Point) : Cell := (b.get? p).getD .empty

/-- Moves a piece without asking whether it may. Points off the board are ignored. -/
def relocate (b : Board) (m : Move) : Board :=
  let b' := b.put m.target (b.pieceAt m.source)
  m.source.square?.elim b' b'.clear

/-- The side that has won: White if a king now stands on a corner, else Black if a king is gone. -/
def winner? (moved : Cell) (target : Point) (before after : Board) : Option Side :=
  if moved = .king ∧ (target.square?.any Square.isCorner) then some .white
  else if after.count .king < before.count .king then some .black
  else none

/-- The board after a move of `side`, and what the move did, without asking whether it is legal. -/
def outcome (b : Board) (side : Side) (m : Move) : Board × Report :=
  let moved := b.relocate m
  let t := moved.captures side m.target
  (t.board, ⟨m, t.taken, winner? (b.pieceAt m.source) m.target moved t.board⟩)

def play (b : Board) (side : Side) (m : Move) : Except Refusal (Board × Report) :=
  (b.legality side m).map fun _ => b.outcome side m

end Board

end Tafl
