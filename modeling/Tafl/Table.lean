import Tafl.Board.Digits
import Tafl.Board.Play

/-! # A table: two players around one board

Players sit by name, so that a guest who comes back over a new connection finds the game as it
was. Black moves first, and a move that wins ends the game without passing the turn. -/

namespace Tafl

structure Table where
  id : Nat
  black : String
  white : String
  onTurn : Side := .black
  board : Board := .start
  /-- The side that has won. While there is none, the game goes on. -/
  winner : Option Side := none
deriving DecidableEq, Repr

namespace Table

def player (t : Table) : Side → String
  | .black => t.black
  | .white => t.white

def playerOnTurn (t : Table) : String := t.player t.onTurn

def playerOnStand (t : Table) : String := t.player t.onTurn.opponent

/-- The side that a player has. Someone who plays against himself is Black. -/
def sideOf? (t : Table) (name : String) : Option Side :=
  if name = t.black then some .black else if name = t.white then some .white else none

def opponentOf? (t : Table) (name : String) : Option String :=
  (t.sideOf? name).map fun s => t.player s.opponent

/-- The table after a move that was accepted: it has a winner, or the turn passes. -/
def after (t : Table) (board : Board) (report : Report) : Table :=
  { t with
    board
    winner := report.winner
    onTurn := if report.winner.isSome then t.onTurn else t.onTurn.opponent }

def play (t : Table) (name : String) (m : Move) : Except Refusal (Table × Report) :=
  if t.winner.isSome then .error .gameOver
  else match t.sideOf? name with
    | none => .error .notSeated
    | some side =>
      if side ≠ t.onTurn then .error .notYourTurn
      else (t.board.play side m).map fun (board, report) => (t.after board report, report)

end Table

end Tafl
