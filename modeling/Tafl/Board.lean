import Tafl.Cell
import Tafl.Square

/-! # The board

A board is a cell for each of the 121 squares, stored row by row. `Board.get` and `Board.set` work
on squares; `Board.get?` and `Board.put` take points, and know that a point may be off the board.
`Board.get_set` says all there is to say about writing a cell. -/

namespace Tafl

structure Board where
  cells : Vector Cell 121
deriving DecidableEq, Repr

namespace Board

def get (b : Board) (s : Square) : Cell := b.cells[s.index]

def set (b : Board) (s : Square) (c : Cell) : Board := ⟨b.cells.set s.index c⟩

def get? (b : Board) (p : Point) : Option Cell := p.square?.map b.get

/-- Writes a cell. A point off the board is ignored. -/
def put (b : Board) (p : Point) (c : Cell) : Board := p.square?.elim b (b.set · c)

def count (b : Board) (c : Cell) : Nat := b.cells.count c

/-- Where the king stands; the first of them, row by row, if there are several. -/
def king? (b : Board) : Option Square := Square.all.find? (b.get · = .king)

def ofFn (f : Square → Cell) : Board := ⟨Vector.ofFn fun i => f (Square.ofIndex i)⟩

theorem get_set (b : Board) (s t : Square) (c : Cell) :
    (b.set s c).get t = if s = t then c else b.get t := by
  simp only [get, set]
  by_cases h : s = t
  · subst h; simp
  · have hi : s.index.val ≠ t.index.val := fun e => h (Square.index_inj (Fin.ext e))
    simp [h, hi]

@[simp] theorem get_set_self (b : Board) (s : Square) (c : Cell) : (b.set s c).get s = c := by
  simp [get_set]

theorem get_set_of_ne (b : Board) {s t : Square} (c : Cell) (h : s ≠ t) :
    (b.set s c).get t = b.get t := by simp [get_set, h]

@[simp] theorem get_ofFn (f : Square → Cell) (s : Square) : (ofFn f).get s = f s := by
  simp [get, ofFn]

@[ext] theorem ext {b c : Board} (h : ∀ s, b.get s = c.get s) : b = c := by
  obtain ⟨bc⟩ := b
  obtain ⟨cc⟩ := c
  congr 1
  apply Vector.ext
  intro i hi
  simpa [get] using h (Square.ofIndex ⟨i, hi⟩)

/-! ### Special ground and the boards to start from -/

/-- What a square shows once nothing stands on it, unless it is a corner. -/
def cleared (s : Square) : Cell := if s = Square.center then .throne else .empty

def clear (b : Board) (s : Square) : Board := b.set s (cleared s)

/-- A board without pieces: the throne in the middle and an escape in each corner. -/
def bare : Board := ofFn fun s => if s.isCorner then .escape else cleared s

end Board

end Tafl
