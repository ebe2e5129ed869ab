import Tafl.Board.Capture

/-! # Squares side by side

`Point.step_eq_some_iff` puts a step in coordinates. Squares beside one point are not beside each
other, nor two steps away from it: what is done to the first leaves alone all that is looked at
from there (`Point.IsBeside.not_step_two`, `Point.IsBeside.not_neighbour`). -/

namespace Tafl

namespace Direction

theorem mem_all (d : Direction) : d ∈ all := by cases d <;> decide

theorem nodup_all : all.Nodup := by decide

end Direction

namespace Point
variable {p : Point} {s n : Square} {d e : Direction}

theorem step_eq_some_iff {k : Nat} : p.step d k = some s ↔
    (s.col : Int) = p.x.toNat + d.dx * k ∧ (s.row : Int) = p.y.toNat + d.dy * k := by
  obtain ⟨⟨c, hc⟩, ⟨r, hr⟩⟩ := s
  simp only [step, Square.ofInts?]
  generalize (p.x.toNat : Int) + d.dx * k = x
  generalize (p.y.toNat : Int) + d.dy * k = y
  split
  · simp only [Option.some.injEq, Square.mk.injEq, Fin.mk.injEq]
    omega
  · simp only [reduceCtorEq, false_iff]
    omega

theorem step_one_inj (h : p.step d 1 = some s) (h' : p.step e 1 = some s) : d = e := by
  rw [step_eq_some_iff] at h h'
  cases d <;> cases e <;> simp only [Direction.dx, Direction.dy, reduceCtorEq] at h h' ⊢ <;> omega

/-- The square is one step away from the point. -/
def IsBeside (p : Point) (s : Square) : Prop := ∃ d, p.step d 1 = some s

theorem isBeside_of_step (h : p.step d 1 = some s) : p.IsBeside s := ⟨d, h⟩

/-- The parity of column and row together changes with each step. -/
theorem parity_step {k : Nat} (h : p.step d k = some s) :
    ((s.col : Nat) + s.row + k) % 2 = (p.x.toNat + p.y.toNat) % 2 := by
  rw [step_eq_some_iff] at h
  cases d <;> simp only [Direction.dx, Direction.dy] at h <;> omega

theorem IsBeside.not_step_two (h : p.IsBeside s) : p.step e 2 ≠ some s := by
  obtain ⟨d, hd⟩ := h
  intro he
  have h₁ := parity_step hd
  have h₂ := parity_step he
  omega

end Point

namespace Square
variable {s n : Square} {d : Direction}

theorem step_point_iff {k : Nat} : s.point.step d k = some n ↔
    (n.col : Int) = s.col + d.dx * k ∧ (n.row : Int) = s.row + d.dy * k := by
  have toNat (k : Fin 11) : (k.val.toUInt8).toNat = k := by
    simp only [Nat.toUInt8_eq, UInt8.toNat_ofNat']
    omega
  rw [Point.step_eq_some_iff, point, toNat, toNat]

theorem neighbour?_eq_some_iff : s.neighbour? d = some n ↔
    (n.col : Int) = s.col + d.dx ∧ (n.row : Int) = s.row + d.dy := by
  rw [neighbour?, step_point_iff, Int.natCast_one, Int.mul_one, Int.mul_one]

theorem exists_neighbour?_symm (h : s.neighbour? d = some n) : ∃ e, n.neighbour? e = some s := by
  have h := neighbour?_eq_some_iff.1 h
  simp only [neighbour?_eq_some_iff]
  cases d with
  | up => exact ⟨.down, by simp only [Direction.dx, Direction.dy] at h ⊢; omega⟩
  | right => exact ⟨.left, by simp only [Direction.dx, Direction.dy] at h ⊢; omega⟩
  | down => exact ⟨.up, by simp only [Direction.dx, Direction.dy] at h ⊢; omega⟩
  | left => exact ⟨.right, by simp only [Direction.dx, Direction.dy] at h ⊢; omega⟩

end Square

theorem Point.IsBeside.not_neighbour {p : Point} {s n : Square} {d : Direction} (h : p.IsBeside s)
    (hn : s.neighbour? d = some n) : ¬ p.IsBeside n := by
  obtain ⟨e, he⟩ := h
  rintro ⟨f, hf⟩
  have h₁ := parity_step he
  have h₂ := parity_step hf
  have h₃ := Square.neighbour?_eq_some_iff.1 hn
  cases d <;> simp only [Direction.dx, Direction.dy] at h₃ <;> omega

namespace Board
variable {b : Board} {k : Square}

/-- All four squares around `k` are on the board, and each is black, the throne or an escape. -/
def Encloses (b : Board) (k : Square) : Prop :=
  ∀ d, ∃ n, k.neighbour? d = some n ∧
    (b.get n = .black ∨ b.get n = .throne ∨ b.get n = .escape)

theorem closesIn_iff {c : Cell} :
    closesIn c = true ↔ c = .black ∨ c = .throne ∨ c = .escape := by
  cases c <;> decide

theorem isSurrounded_iff_encloses : b.isSurrounded k = true ↔ b.Encloses k := by
  simp [isSurrounded, Encloses, Direction.mem_all, closesIn_iff, Option.any_eq_true]

end Board

end Tafl
