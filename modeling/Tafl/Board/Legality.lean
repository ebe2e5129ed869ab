import Tafl.Board
import Tafl.Move

/-! # Which moves a board allows

A piece slides along a row or a column over cells that anyone may pass, and comes to rest on a
cell that it may stand on. `Board.legality` names the first thing that is wrong with a move. -/

namespace Tafl

inductive Refusal where
  | outOfBounds
  | stationary
  | notOrthogonal
  /-- The square does not hold a piece of the side that moves. -/
  | notYourPiece (square : Square)
  /-- Something stands on the way, or on the target. -/
  | pathBlocked (square : Square)
  /-- The target is special ground, on which this piece may not stand. -/
  | forbiddenTarget (square : Square)
  | notYourTurn
  | notSeated
  | gameOver
deriving DecidableEq, Repr

def Refusal.message : Refusal → String
  | outOfBounds => "coordinates out of bounds"
  | stationary => "piece must actually move"
  | notOrthogonal => "move is not horizontal or vertical"
  | notYourPiece s => "no piece of the side on turn at " ++ s.text
  | pathBlocked s => "path blocked at " ++ s.text
  | forbiddenTarget s => "piece may not land on " ++ s.text
  | notYourTurn => "not this player's turn"
  | notSeated => "player is not in this room"
  | gameOver => "game is already over"

namespace Board

/-- Whether `side` may move the piece on `s` to `t`. The way is searched in ascending order, in
whichever direction the piece moves. -/
def slideLegality (b : Board) (side : Side) (s t : Square) : Except Refusal Unit :=
  if s = t then .error .stationary
  else if s.col ≠ t.col ∧ s.row ≠ t.row then .error .notOrthogonal
  else if !side.owns (b.get s) then .error (.notYourPiece s)
  else if !(b.get s).mayRest (b.get t) then
    .error (if (b.get t).isTerrain then .forbiddenTarget t else .pathBlocked t)
  else match (s.between t).find? fun p => !(b.get p).isPassable with
    | some p => .error (.pathBlocked p)
    | none => .ok ()

/-- Whether `side` may make a move. Its points may lie off the board. -/
def legality (b : Board) (side : Side) (m : Move) : Except Refusal Unit :=
  match m.source.square?, m.target.square? with
  | some s, some t => b.slideLegality side s t
  | _, _ => .error .outOfBounds

end Board

end Tafl
