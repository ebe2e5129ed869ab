/-! # Points, squares and straight lines

A `Point` is a pair of coordinates as players send them, each a byte, and may lie off the board.
A `Square` is a cell of the 11×11 board. `Point.square?` tells the two apart, `Square.point`
goes back. Squares are numbered row by row; `Square.all` lists them in that order. -/

namespace Tafl

/-- Coordinates from the wire: `x` is the column, `y` the row. -/
structure Point where
  x : UInt8
  y : UInt8
deriving DecidableEq, Repr

structure Square where
  col : Fin 11
  row : Fin 11
deriving DecidableEq, Repr

namespace Square

def center : Square := ⟨5, 5⟩

def isCorner (s : Square) : Bool := (s.col = 0 || s.col = 10) && (s.row = 0 || s.row = 10)

def point (s : Square) : Point := ⟨s.col.val.toUInt8, s.row.val.toUInt8⟩

/-- The text of a square in messages, such as `(3, 0)`. -/
def text (s : Square) : String := "(" ++ toString s.col.val ++ ", " ++ toString s.row.val ++ ")"

/-- The number of a square, row by row from the top left. -/
def index (s : Square) : Fin 121 := ⟨11 * s.row + s.col, by omega⟩

def ofIndex (i : Fin 121) : Square :=
  ⟨⟨i % 11, Nat.mod_lt _ (by decide)⟩, ⟨i / 11, by omega⟩⟩

@[simp] theorem ofIndex_index (s : Square) : ofIndex s.index = s := by
  obtain ⟨⟨c, hc⟩, ⟨r, hr⟩⟩ := s
  simp only [ofIndex, index, Square.mk.injEq, Fin.mk.injEq]
  omega

@[simp] theorem index_ofIndex (i : Fin 121) : (ofIndex i).index = i := by
  apply Fin.ext
  simp only [ofIndex, index]
  omega

theorem index_inj {s t : Square} (h : s.index = t.index) : s = t := by
  rw [← ofIndex_index s, h, ofIndex_index]

def all : List Square := (List.finRange 121).map ofIndex

theorem mem_all (s : Square) : s ∈ all :=
  List.mem_map.2 ⟨s.index, List.mem_finRange _, ofIndex_index s⟩

/-- The square with the given column and row, if they are on the board. -/
def ofInts? (col row : Int) : Option Square :=
  if h : (0 ≤ col ∧ col < 11) ∧ 0 ≤ row ∧ row < 11 then
    some ⟨⟨col.toNat, by omega⟩, ⟨row.toNat, by omega⟩⟩
  else none

/-- Whether `n` lies strictly between `a` and `b`, whichever is the larger. -/
def isWithin (a b n : Fin 11) : Bool := (a < n && n < b) || (b < n && n < a)

/-- The squares strictly between two squares of one row or column, in ascending order. -/
def between (s t : Square) : List Square :=
  if s.row = t.row then ((List.finRange 11).filter (isWithin s.col t.col)).map (⟨·, s.row⟩)
  else ((List.finRange 11).filter (isWithin s.row t.row)).map (⟨s.col, ·⟩)

end Square

inductive Direction where
  | up
  | right
  | down
  | left
deriving DecidableEq, Repr

namespace Direction

def all : List Direction := [up, right, down, left]

def dx : Direction → Int
  | right => 1
  | left => -1
  | _ => 0

def dy : Direction → Int
  | down => 1
  | up => -1
  | _ => 0

end Direction

namespace Point

/-- The square at a point, if the point is on the board. -/
def square? (p : Point) : Option Square :=
  if h : p.x.toNat < 11 ∧ p.y.toNat < 11 then some ⟨⟨p.x.toNat, h.1⟩, ⟨p.y.toNat, h.2⟩⟩ else none

/-- The square `n` steps away from a point, which may itself be off the board. -/
def step (p : Point) (d : Direction) (n : Nat) : Option Square :=
  Square.ofInts? (p.x.toNat + d.dx * n) (p.y.toNat + d.dy * n)

/-- The text of a point in messages, such as `(3, 0)`. -/
def text (p : Point) : String := "(" ++ toString p.x.toNat ++ ", " ++ toString p.y.toNat ++ ")"

theorem square?_point (s : Square) : s.point.square? = some s := by
  obtain ⟨⟨c, hc⟩, ⟨r, hr⟩⟩ := s
  have h (n : Nat) (hn : n < 11) : (n.toUInt8).toNat = n := by
    simp only [Nat.toUInt8_eq, UInt8.toNat_ofNat']
    omega
  simp [square?, Square.point, h c hc, h r hr, hc, hr]

theorem square?_eq_some_iff {p : Point} {s : Square} : p.square? = some s ↔ p = s.point := by
  constructor
  · intro h
    unfold square? at h
    split at h
    · obtain rfl := Option.some.inj h
      simp [Square.point]
    · simp at h
  · rintro rfl
    exact square?_point s

end Point

namespace Square

def neighbour? (s : Square) (d : Direction) : Option Square := s.point.step d 1

end Square

end Tafl
