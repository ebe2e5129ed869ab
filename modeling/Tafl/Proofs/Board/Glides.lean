import Tafl.Proofs.Board.Moves
import Tafl.Proofs.Board.Neighbours

/-! # Moves as walks

`Board.Glide` says how a piece moves without naming a row or a column: step by step in one
direction, over ground that anyone may pass, to a square where the piece may rest.
`Board.legality_glide` says that the moves a board allows are these and no others, that a move is
blocked by a square of its way that breaks this rule (`Obstructs`), and that the squares of the way
can be counted in bytes (`Point.way?`), as the coordinates of a move are given. -/

namespace Tafl

/-! ### Squares on a straight way -/

namespace Square
variable {s t p : Square} {d : Direction} {k : Nat}

theorem isWithin_iff {a b n : Fin 11} :
    isWithin a b n = true ↔ (a < n ∧ n < b) ∨ (b < n ∧ n < a) := by
  simp [isWithin]

theorem mem_between : p ∈ s.between t ↔
    if s.row = t.row then p.row = s.row ∧ isWithin s.col t.col p.col = true
    else p.col = s.col ∧ isWithin s.row t.row p.row = true := by
  obtain ⟨c, r⟩ := p
  unfold between
  split
  all_goals
    simp only [List.mem_map, List.mem_filter, List.mem_finRange, true_and, Square.mk.injEq]
    constructor
    · rintro ⟨n, hn, rfl, rfl⟩
      exact ⟨rfl, hn⟩
    · rintro ⟨rfl, hn⟩
      exact ⟨_, hn, rfl, rfl⟩

/-- Whoever takes a step or more is elsewhere, in the same row or column. -/
theorem ne_of_step (hk : 1 ≤ k) (ht : s.point.step d k = some t) : s ≠ t := by
  rintro rfl
  rw [step_point_iff] at ht
  cases d <;> simp only [Direction.dx, Direction.dy] at ht <;> omega

theorem straight_of_step (ht : s.point.step d k = some t) : s.col = t.col ∨ s.row = t.row := by
  rw [step_point_iff] at ht
  cases d <;> simp only [Direction.dx, Direction.dy] at ht <;> omega

/-- Any two squares of one row or column are so many steps apart. -/
theorem exists_step (hne : s ≠ t) (hst : s.col = t.col ∨ s.row = t.row) :
    ∃ d k, 1 ≤ k ∧ s.point.step d k = some t := by
  obtain ⟨⟨c, hc⟩, ⟨r, hr⟩⟩ := s
  obtain ⟨⟨c', hc'⟩, ⟨r', hr'⟩⟩ := t
  simp only [ne_eq, Square.mk.injEq, Fin.mk.injEq, not_and] at hne hst
  simp only [step_point_iff]
  by_cases hcol : c = c'
  · have hrow := hne hcol
    by_cases hlt : r < r'
    · exact ⟨.down, r' - r, by omega, by simp only [Direction.dx, Direction.dy]; omega⟩
    · exact ⟨.up, r - r', by omega, by simp only [Direction.dx, Direction.dy]; omega⟩
  · by_cases hlt : c < c'
    · exact ⟨.right, c' - c, by omega, by simp only [Direction.dx, Direction.dy]; omega⟩
    · exact ⟨.left, c - c', by omega, by simp only [Direction.dx, Direction.dy]; omega⟩

/-- What lies between two squares of the board is on the board. -/
theorem exists_step_of_le {j : Nat} (ht : s.point.step d k = some t) (hj : j ≤ k) :
    ∃ p, s.point.step d j = some p := by
  rw [step_point_iff] at ht
  obtain ⟨⟨c, hc⟩, ⟨r, hr⟩⟩ := s
  obtain ⟨⟨c', hc'⟩, ⟨r', hr'⟩⟩ := t
  simp only [step_point_iff]
  cases d with
  | up =>
    simp only [Direction.dx, Direction.dy] at ht ⊢
    exact ⟨⟨⟨c, hc⟩, ⟨r - j, by omega⟩⟩, by dsimp only; omega⟩
  | right =>
    simp only [Direction.dx, Direction.dy] at ht ⊢
    exact ⟨⟨⟨c + j, by omega⟩, ⟨r, hr⟩⟩, by dsimp only; omega⟩
  | down =>
    simp only [Direction.dx, Direction.dy] at ht ⊢
    exact ⟨⟨⟨c, hc⟩, ⟨r + j, by omega⟩⟩, by dsimp only; omega⟩
  | left =>
    simp only [Direction.dx, Direction.dy] at ht ⊢
    exact ⟨⟨⟨c - j, by omega⟩, ⟨r, hr⟩⟩, by dsimp only; omega⟩

/-- The squares between two squares are those that a walk from one to the other passes. -/
theorem mem_between_iff_step (hk : 1 ≤ k) (ht : s.point.step d k = some t) :
    p ∈ s.between t ↔ ∃ j, 1 ≤ j ∧ j < k ∧ s.point.step d j = some p := by
  rw [step_point_iff] at ht
  simp only [mem_between, ite_prop_iff_or, isWithin_iff, step_point_iff]
  obtain ⟨⟨c, hc⟩, ⟨r, hr⟩⟩ := s
  obtain ⟨⟨c', hc'⟩, ⟨r', hr'⟩⟩ := t
  obtain ⟨⟨x, hx⟩, ⟨y, hy⟩⟩ := p
  simp only [Fin.mk.injEq, Fin.mk_lt_mk] at ht ⊢
  cases d with
  | up =>
    simp only [Direction.dx, Direction.dy] at ht ⊢
    refine ⟨fun h => ⟨r - y, by omega⟩, ?_⟩
    rintro ⟨j, h⟩
    omega
  | right =>
    simp only [Direction.dx, Direction.dy] at ht ⊢
    refine ⟨fun h => ⟨x - c, by omega⟩, ?_⟩
    rintro ⟨j, h⟩
    omega
  | down =>
    simp only [Direction.dx, Direction.dy] at ht ⊢
    refine ⟨fun h => ⟨y - r, by omega⟩, ?_⟩
    rintro ⟨j, h⟩
    omega
  | left =>
    simp only [Direction.dx, Direction.dy] at ht ⊢
    refine ⟨fun h => ⟨c - x, by omega⟩, ?_⟩
    rintro ⟨j, h⟩
    omega

end Square

/-! ### The way in bytes -/

/-- The bytes after `a` and before `b`, counted from the one after `a`, if there is one. -/
def bytesBetween? (a b : UInt8) : Option (List UInt8) :=
  if a.toNat + 1 < UInt8.size then
    some ((List.range (b.toNat - (a + 1).toNat)).map fun i => a + 1 + UInt8.ofNat i)
  else none

/-- The points strictly between two points of one row or column, counted in bytes. -/
def Point.way? (p q : Point) : Option (List Point) :=
  if p.y = q.y then (bytesBetween? (min p.x q.x) (max p.x q.x)).map (List.map (⟨·, p.y⟩))
  else (bytesBetween? (min p.y q.y) (max p.y q.y)).map (List.map (⟨p.x, ·⟩))

/-- On the board the bytes do not run out, and they are the numbers in between. -/
theorem bytesBetween?_coordinates (a b : Fin 11) :
    bytesBetween? (min a.val.toUInt8 b.val.toUInt8) (max a.val.toUInt8 b.val.toUInt8) =
      some (((List.finRange 11).filter (Square.isWithin a b)).map fun n => n.val.toUInt8) := by
  revert a b
  decide

theorem Point.way?_point (s t : Square) :
    s.point.way? t.point = some ((s.between t).map Square.point) := by
  have hrow : s.point.y = t.point.y ↔ s.row = t.row := by
    have inj : ∀ a b : Fin 11, a.val.toUInt8 = b.val.toUInt8 ↔ a = b := by decide
    exact inj s.row t.row
  unfold way? Square.between
  split
  · rename_i h
    rw [if_pos (hrow.1 h)]
    simp only [Square.point, bytesBetween?_coordinates, Option.map_some, List.map_map]
    rfl
  · rename_i h
    rw [if_neg (mt hrow.2 h)]
    simp only [Square.point, bytesBetween?_coordinates, Option.map_some, List.map_map]
    rfl

/-! ### Walks -/

namespace Board

/-- Whether a piece `c` may end its move on a cell. -/
def MayEnd (c d : Cell) : Prop := d = .empty ∨ c = .king ∧ (d = .throne ∨ d = .escape)

/-- Whether any piece may walk over a cell. -/
def MayCross (d : Cell) : Prop := d = .empty ∨ d = .throne

/-- The piece on `s` is one of `side`'s and can walk `k` steps in the direction `d`, to the square
`t`. -/
structure Glide (b : Board) (side : Side) (s : Square) (d : Direction) (k : Nat) (t : Square) :
    Prop where
  own : side.owns (b.get s) = true
  moves : 1 ≤ k
  arrives : s.point.step d k = some t
  crosses : ∀ j, 1 ≤ j → j < k → ∃ p, s.point.step d j = some p ∧ MayCross (b.get p)
  ends : MayEnd (b.get s) (b.get t)

/-- On the way of `k` steps from `s` in the direction `d`, the square `p` is one on which the piece
on `s` may not be. -/
inductive Obstructs (b : Board) (s : Square) (d : Direction) (k : Nat) (p : Square) : Prop
  | crossing (j : Nat) (first : 1 ≤ j) (last : j < k) (here : s.point.step d j = some p)
      (barred : ¬ MayCross (b.get p))
  | ending (here : s.point.step d k = some p) (barred : ¬ MayEnd (b.get s) (b.get p))

variable {b : Board} {side : Side} {s t p : Square} {d : Direction} {k : Nat} {m : Move}

theorem mayEnd_iff {c d : Cell} : MayEnd c d ↔ c.mayRest d = true := by
  unfold MayEnd
  cases c <;> cases d <;> decide

theorem mayCross_iff {d : Cell} : MayCross d ↔ d.isPassable = true := by
  unfold MayCross
  cases d <;> decide

theorem slide_iff_glide : b.Slide side s t ↔ ∃ d k, b.Glide side s d k t := by
  constructor
  · rintro ⟨hne, hstraight, hown, hrest, hway⟩
    obtain ⟨d, k, hk, ht⟩ := Square.exists_step hne hstraight
    refine ⟨d, k, hown, hk, ht, fun j hj hjk => ?_, mayEnd_iff.2 hrest⟩
    obtain ⟨p, hp⟩ := Square.exists_step_of_le ht hjk.le
    have hmem := (Square.mem_between_iff_step hk ht).2 ⟨j, hj, hjk, hp⟩
    exact ⟨p, hp, mayCross_iff.2 (hway p hmem)⟩
  · rintro ⟨d, k, hown, hk, ht, hcross, hend⟩
    refine ⟨Square.ne_of_step hk ht, Square.straight_of_step ht, hown, mayEnd_iff.1 hend,
      fun p hp => ?_⟩
    obtain ⟨j, hj, hjk, hstep⟩ := (Square.mem_between_iff_step hk ht).1 hp
    obtain ⟨q, hq, hcrossed⟩ := hcross j hj hjk
    obtain rfl := Option.some.inj (hstep.symm.trans hq)
    exact mayCross_iff.1 hcrossed

/-! ### Refused moves -/

/-- A refusal that names a square of the way, and not the one that the piece comes from. -/
def Names (r : Refusal) (p : Square) : Prop := r = .pathBlocked p ∨ r = .forbiddenTarget p

/-- A move with a square in its way passes all the other checks. -/
theorem of_slideLegality_names {r : Refusal} (hr : Names r p)
    (h : b.slideLegality side s t = .error r) :
    s ≠ t ∧ (s.col = t.col ∨ s.row = t.row) ∧ side.owns (b.get s) = true ∧
      (p = t ∧ (b.get s).mayRest (b.get t) = false ∨
        p ∈ s.between t ∧ (b.get p).isPassable = false) := by
  unfold slideLegality at h
  split at h
  · obtain rfl := Except.error.inj h
    rcases hr with hr | hr <;> cases hr
  rename_i hne
  split at h
  · obtain rfl := Except.error.inj h
    rcases hr with hr | hr <;> cases hr
  rename_i hstraight
  rw [not_and_or, not_not, not_not] at hstraight
  split at h
  · obtain rfl := Except.error.inj h
    rcases hr with hr | hr <;> cases hr
  rename_i hown
  refine ⟨hne, hstraight, by simpa using hown, ?_⟩
  split at h
  · rename_i hrest
    obtain rfl := Except.error.inj h
    refine .inl ⟨?_, by simpa using hrest⟩
    split at hr
    all_goals rcases hr with hr | hr <;> cases hr; rfl
  · split at h
    · rename_i q hq
      obtain rfl := Except.error.inj h
      refine .inr ?_
      rcases hr with hr | hr <;> cases hr
      exact ⟨List.mem_of_find?_eq_some hq, by simpa using List.find?_some hq⟩
    · cases h

theorem exists_obstructs {r : Refusal} (hr : Names r p) (h : b.slideLegality side s t = .error r) :
    side.owns (b.get s) = true ∧
      ∃ d k, 1 ≤ k ∧ s.point.step d k = some t ∧ b.Obstructs s d k p := by
  obtain ⟨hne, hstraight, hown, hp⟩ := of_slideLegality_names hr h
  obtain ⟨d, k, hk, ht⟩ := Square.exists_step hne hstraight
  refine ⟨hown, d, k, hk, ht, ?_⟩
  rcases hp with ⟨rfl, hrest⟩ | ⟨hp, hpass⟩
  · refine .ending ht fun hend => ?_
    rw [mayEnd_iff.1 hend] at hrest
    cases hrest
  · obtain ⟨j, hj, hjk, hstep⟩ := (Square.mem_between_iff_step hk ht).1 hp
    refine .crossing j hj hjk hstep fun hcross => ?_
    rw [mayCross_iff.1 hcross] at hpass
    cases hpass

/-! ### All moves -/

/-- A board allows a move if and only if it is a walk of one of the side's pieces. If something on
the way is the reason against a move, it is a square of the way on which the piece may not be, and
the squares between any two are found without running out of bytes. -/
theorem legality_glide (b : Board) (side : Side) (m : Move) :
    (b.legality side m = .ok () ↔ ∃ s d k t, m = .ofSquares s t ∧ b.Glide side s d k t) ∧
    (∀ p, b.legality side m = .error (.pathBlocked p) ∨
        b.legality side m = .error (.forbiddenTarget p) →
      ∃ s d k t, m = .ofSquares s t ∧ side.owns (b.get s) = true ∧ 1 ≤ k ∧
        s.point.step d k = some t ∧ b.Obstructs s d k p) ∧
    ∀ s t, m = .ofSquares s t →
      m.source.way? m.target = some ((s.between t).map Square.point) := by
  refine ⟨?_, fun p hp => ?_, ?_⟩
  · rw [legality_eq_ok_iff]
    constructor
    · rintro ⟨s, t, rfl, hslide⟩
      obtain ⟨d, k, hglide⟩ := slide_iff_glide.1 hslide
      exact ⟨s, d, k, t, rfl, hglide⟩
    · rintro ⟨s, d, k, t, rfl, hglide⟩
      exact ⟨s, t, rfl, slide_iff_glide.2 ⟨d, k, hglide⟩⟩
  · obtain ⟨r, hr, h⟩ : ∃ r, Names r p ∧ b.legality side m = .error r :=
      hp.elim (fun h => ⟨_, .inl rfl, h⟩) fun h => ⟨_, .inr rfl, h⟩
    unfold legality at h
    split at h
    · rename_i s t hs ht
      obtain ⟨hown, d, k, hk, hstep, hobstructs⟩ := exists_obstructs hr h
      refine ⟨s, d, k, t, ?_, hown, hk, hstep, hobstructs⟩
      rw [Move.ofSquares, ← Point.square?_eq_some_iff.1 hs, ← Point.square?_eq_some_iff.1 ht]
    · obtain rfl := Except.error.inj h
      rcases hr with hr | hr <;> cases hr
  · rintro s t rfl
    exact Point.way?_point s t

end Board

end Tafl
