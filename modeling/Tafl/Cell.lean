import Tafl.Side

/-! # What a cell of the board holds

A cell is empty, special ground, or carries a piece. Special ground that carries a king is not
told apart from ordinary ground under him: it shows again when he leaves. -/

namespace Tafl

inductive Cell where
  | empty
  /-- The middle of the board, while the king is elsewhere. -/
  | throne
  /-- A corner, which the king wants to reach. -/
  | escape
  | black
  | white
  | king
deriving DecidableEq, Repr

namespace Cell

def digit : Cell → Char
  | empty => '0'
  | throne => '1'
  | escape => '2'
  | black => '3'
  | white => '4'
  | king => '5'

def ofDigit? : Char → Option Cell
  | '0' => some empty
  | '1' => some throne
  | '2' => some escape
  | '3' => some black
  | '4' => some white
  | '5' => some king
  | _ => none

theorem ofDigit?_digit (c : Cell) : ofDigit? c.digit = some c := by cases c <;> rfl

theorem ofDigit?_eq_some_iff {d : Char} {c : Cell} : ofDigit? d = some c ↔ d = c.digit := by
  constructor
  · intro h
    unfold ofDigit? at h
    split at h <;> simp_all [digit]
    all_goals subst h; rfl
  · rintro rfl
    exact ofDigit?_digit c

/-- Special ground: it never moves and is never captured. -/
def isTerrain : Cell → Bool
  | throne | escape => true
  | _ => false

/-- Cells that any piece may pass over. -/
def isPassable : Cell → Bool
  | empty | throne => true
  | _ => false

/-- Whether a piece `c` may come to rest on a cell. The king alone may stand on special ground. -/
def mayRest (c : Cell) : Cell → Bool
  | empty => true
  | throne | escape => c = king
  | _ => false

end Cell

namespace Side

/-- The pieces a side may move. The king moves for White. -/
def owns : Side → Cell → Bool
  | .black, .black => true
  | .white, .white => true
  | .white, .king => true
  | _, _ => false

def warrior : Side → Cell
  | .black => .black
  | .white => .white

/-- Cells that help a side to close in an enemy: special ground and the side's own pieces. -/
def isHostileTo (s : Side) (c : Cell) : Bool := c.isTerrain || s.owns c

end Side

end Tafl
