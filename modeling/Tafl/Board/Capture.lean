import Tafl.Board

/-! # Captures

A piece that arrives beside an enemy warrior takes it if the cell behind the warrior is hostile.
Black takes the king beside the arriving piece if all four cells around him are closed. The
directions are looked at one after the other, each on the board that the one before has left. -/

namespace Tafl

/-- A board together with the squares cleared so far. -/
structure Board.Taking where
  board : Board
  taken : List Square

namespace Board.Taking

def take (t : Taking) (s : Square) : Taking := ⟨t.board.clear s, t.taken ++ [s]⟩

end Board.Taking

namespace Board

/-- The enemy warrior next to `p` in direction `d`, if it is closed in from behind. -/
def warriorTaken? (b : Board) (side : Side) (p : Point) (d : Direction) : Option Square :=
  match p.step d 1, p.step d 2 with
  | some s, some far =>
    if b.get s = side.opponent.warrior ∧ side.isHostileTo (b.get far) then some s else none
  | _, _ => none

def closesIn : Cell → Bool
  | .black | .throne | .escape => true
  | _ => false

/-- Whether all four cells around a square are closed. The edge of the board is not. -/
def isSurrounded (b : Board) (s : Square) : Bool :=
  Direction.all.all fun d => (s.neighbour? d).any fun n => closesIn (b.get n)

/-- The king next to `p` in direction `d`, if he is surrounded. -/
def kingTaken? (b : Board) (p : Point) (d : Direction) : Option Square :=
  (p.step d 1).filter fun s => b.get s = .king ∧ b.isSurrounded s

/-- Takes what `find` finds in each direction. -/
def takeAround (find : Board → Direction → Option Square) (t : Taking) : Taking :=
  Direction.all.foldl (fun t d => (find t.board d).elim t t.take) t

/-- Everything that a piece of `side` takes by its arrival at `p`. -/
def captures (b : Board) (side : Side) (p : Point) : Taking :=
  let t := takeAround (fun b => b.warriorTaken? side p) ⟨b, []⟩
  match side with
  | .black => takeAround (fun b => b.kingTaken? p) t
  | .white => t

end Board

end Tafl
