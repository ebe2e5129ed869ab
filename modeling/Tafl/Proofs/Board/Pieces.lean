import Mathlib.Data.List.FinRange
import Tafl.Board

/-! # Counting what a board holds

`Board.count` is tied to the squares (`count_eq_zero_iff`, `count_eq_one_iff`), and
`Board.force` counts the pieces of a side, the king as one of White's. Writing a cell takes away
what was there and adds what is written (`count_set`, `force_set`). -/

namespace Tafl

namespace Square

theorem nodup_all : all.Nodup :=
  (List.nodup_finRange 121).map fun i j h => by rw [← index_ofIndex i, h, index_ofIndex]

end Square

namespace Board
variable (b : Board) (s : Square) (c d : Cell)

theorem toList_cells : b.cells.toList = Square.all.map b.get := by
  have hcells : b.cells = Vector.ofFn fun i : Fin 121 => b.cells[i] := by
    apply Vector.ext
    intro i hi
    rw [Vector.getElem_ofFn]
    rfl
  rw [hcells, Vector.toList_ofFn, Square.all, List.map_map, List.ofFn_eq_map]
  refine List.map_congr_left fun i _ => ?_
  simp only [Function.comp_apply, get, Square.index_ofIndex]

theorem count_eq_length : b.count c = (Square.all.filter (b.get · = c)).length := by
  rw [count, ← Vector.count_toList, toList_cells, List.count, List.countP_map,
    List.countP_eq_length_filter]
  congr 1

variable {b c} in
theorem count_eq_zero_iff : b.count c = 0 ↔ ∀ s, b.get s ≠ c := by
  rw [count_eq_length, List.length_eq_zero_iff, List.filter_eq_nil_iff]
  simp [Square.mem_all]

variable {b c} in
theorem count_eq_one_iff : b.count c = 1 ↔ ∃ k, ∀ s, b.get s = c ↔ s = k := by
  rw [count_eq_length, List.length_eq_one_iff]
  have mem (s : Square) : s ∈ Square.all.filter (b.get · = c) ↔ b.get s = c := by
    simp [Square.mem_all]
  constructor
  · rintro ⟨k, hk⟩
    exact ⟨k, fun s => by rw [← mem, hk, List.mem_singleton]⟩
  · rintro ⟨k, hk⟩
    refine ⟨k, List.perm_singleton.1 ?_⟩
    rw [List.perm_ext_iff_of_nodup (Square.nodup_all.filter _) (List.nodup_singleton k)]
    intro s
    rw [mem, hk, List.mem_singleton]

theorem count_set : (b.set s c).count d + (if b.get s = d then 1 else 0) =
    b.count d + if c = d then 1 else 0 := by
  have hset : (b.set s c).count d =
      b.count d - (if b.get s = d then 1 else 0) + if c = d then 1 else 0 := by
    rw [count, set, Vector.count_set]
    simp only [beq_iff_eq]
    rfl
  by_cases h : b.get s = d
  · have : b.count d ≠ 0 := fun h0 => count_eq_zero_iff.1 h0 s h
    rw [hset, if_pos h]
    omega
  · rw [hset, if_neg h]
    omega

/-- How many pieces a side has. -/
def force (b : Board) : Side → Nat
  | .black => b.count .black
  | .white => b.count .white + b.count .king

theorem force_set (u : Side) : (b.set s c).force u + (if u.owns (b.get s) then 1 else 0) =
    b.force u + if u.owns c then 1 else 0 := by
  have hb := b.count_set s c .black
  have hw := b.count_set s c .white
  have hk := b.count_set s c .king
  have white (c : Cell) : (if Side.owns .white c then 1 else 0) =
      (if c = .white then 1 else 0) + if c = .king then 1 else 0 := by cases c <;> rfl
  have black (c : Cell) : (if Side.owns .black c then 1 else 0) =
      if c = .black then 1 else 0 := by cases c <;> rfl
  cases u with
  | black => rw [black, black]; exact hb
  | white =>
    rw [white, white]
    simp only [force]
    omega

/-- Nothing that is left behind on a square is a piece. -/
theorem owns_cleared (u : Side) : u.owns (cleared s) = false := by
  unfold cleared
  split <;> cases u <;> rfl

theorem force_clear (u : Side) :
    (b.clear s).force u + (if u.owns (b.get s) then 1 else 0) = b.force u := by
  have := b.force_set s (cleared s) u
  rwa [owns_cleared] at this

theorem cleared_ne_king : cleared s ≠ .king := by
  unfold cleared
  split <;> decide

theorem count_king_clear : (b.clear s).count .king + (if b.get s = .king then 1 else 0) =
    b.count .king := by
  have h := b.count_set s (cleared s) .king
  rwa [if_neg (cleared_ne_king s)] at h

theorem get_clear (t : Square) :
    (b.clear s).get t = if s = t then cleared s else b.get t := b.get_set s t _

end Board

end Tafl
