import Tafl.Board.Digits
import Tafl.Board.Play
import Tafl.Proofs.Board.Pieces

/-! # Moves on a sound board

`Board.Slide` says which moves a board allows, square by square (`legality_eq_ok_iff`). A board is
`Grounded` if the throne and the escapes are where they belong, under the king or bare, and it is
`InPlay` if besides there is one king, not on a corner. -/

namespace Tafl

theorem Cell.mayRest_iff {c d : Cell} :
    c.mayRest d = true ↔ d = .empty ∨ d.isTerrain = true ∧ c = .king := by
  cases c <;> cases d <;> decide

namespace Side
variable {u : Side} {c : Cell}

theorem owns_iff : u.owns c = true ↔ c = u.warrior ∨ u = .white ∧ c = .king := by
  cases u <;> cases c <;> decide

theorem not_isTerrain_of_owns (h : u.owns c = true) : c.isTerrain = false := by
  cases u <;> cases c <;> first | rfl | cases h

theorem not_owns_of_opponent (h : u.opponent.owns c = true) : u.owns c = false := by
  cases u <;> cases c <;> first | rfl | cases h

end Side

namespace Board

/-- The piece on `s` is one of `side`'s and slides to `t`: nothing on the way stops it, and it may
rest where it arrives. -/
structure Slide (b : Board) (side : Side) (s t : Square) : Prop where
  ne : s ≠ t
  straight : s.col = t.col ∨ s.row = t.row
  own : side.owns (b.get s) = true
  rest : (b.get s).mayRest (b.get t) = true
  way : ∀ p ∈ s.between t, (b.get p).isPassable = true

variable {b : Board} {side u : Side} {s t p : Square} {m : Move}

/-! ### Legal moves -/

theorem slideLegality_eq_ok_iff : b.slideLegality side s t = .ok () ↔ b.Slide side s t := by
  unfold slideLegality
  constructor
  · intro h
    split at h
    · cases h
    rename_i hne
    split at h
    · cases h
    rename_i hstraight
    split at h
    · cases h
    rename_i hown
    split at h
    · cases h
    rename_i hrest
    split at h
    · cases h
    rename_i hway
    exact ⟨hne, by rwa [not_and_or, not_not, not_not] at hstraight, by simpa using hown,
      by simpa using hrest, by simpa using hway⟩
  · rintro ⟨hne, hstraight, hown, hrest, hway⟩
    have hfind : (s.between t).find? (fun p => !(b.get p).isPassable) = none := by
      simpa using hway
    rw [if_neg hne, if_neg (by rwa [not_and_or, not_not, not_not]), if_neg (by simpa using hown),
      if_neg (by simpa using hrest), hfind]

theorem legality_eq_ok_iff :
    b.legality side m = .ok () ↔ ∃ s t, m = .ofSquares s t ∧ b.Slide side s t := by
  unfold legality
  constructor
  · intro h
    split at h
    · rename_i s t hs ht
      refine ⟨s, t, ?_, slideLegality_eq_ok_iff.1 h⟩
      rw [Move.ofSquares, ← Point.square?_eq_some_iff.1 hs, ← Point.square?_eq_some_iff.1 ht]
    · cases h
  · rintro ⟨s, t, rfl, h⟩
    simp only [Move.ofSquares, Point.square?_point]
    exact slideLegality_eq_ok_iff.2 h

/-- A move that is played is a slide, and has the outcome that it has. -/
theorem play_eq_ok_iff {x : Board × Report} : b.play side m = .ok x ↔
    ∃ s t, m = .ofSquares s t ∧ b.Slide side s t ∧ b.outcome side m = x := by
  unfold play
  constructor
  · intro h
    cases hl : b.legality side m with
    | error e => rw [hl] at h; cases h
    | ok _ =>
      rw [hl] at h
      obtain ⟨s, t, hm, hst⟩ := legality_eq_ok_iff.1 hl
      exact ⟨s, t, hm, hst, Except.ok.inj h⟩
  · rintro ⟨s, t, hm, hst, rfl⟩
    rw [legality_eq_ok_iff.2 ⟨s, t, hm, hst⟩]
    rfl

theorem pieceAt_point : b.pieceAt s.point = b.get s := by
  simp [pieceAt, get?, Point.square?_point]

theorem relocate_ofSquares : b.relocate (.ofSquares s t) = (b.set t (b.get s)).clear s := by
  simp only [relocate, put, Move.ofSquares, Point.square?_point, Option.elim_some, pieceAt_point]

theorem get_relocate (p : Square) : (b.relocate (.ofSquares s t)).get p =
    if s = p then cleared s else if t = p then b.get s else b.get p := by
  rw [relocate_ofSquares, get_clear, get_set]

/-! ### The ground -/

/-- What a square is when nothing stands on it. -/
def ground (s : Square) : Cell := if s.isCorner then .escape else cleared s

structure Grounded (b : Board) : Prop where
  /-- Special ground is bare or under the king. -/
  special : ∀ s, (ground s).isTerrain = true → b.get s = ground s ∨ b.get s = .king
  plain : ∀ s, (b.get s).isTerrain = true → b.get s = ground s

theorem ground_of_not_corner (h : s.isCorner = false) : ground s = cleared s := by
  simp [ground, h]

theorem ground_center : ground .center = .throne := by decide

theorem ground_corner (h : s.isCorner = true) : ground s = .escape := if_pos h

theorem ground_eq_throne (h : ground s = .throne) : s = .center := by
  unfold ground cleared at h
  split at h
  · cases h
  · split at h
    · assumption
    · cases h

theorem ground_eq_escape (h : ground s = .escape) : s.isCorner = true := by
  unfold ground cleared at h
  split at h
  · assumption
  · split at h <;> cases h

namespace Grounded

/-- Warriors stand on plain ground, and nothing is seen of it once they are gone. -/
theorem ground_of_warrior (h : b.Grounded) (hs : b.get s = u.warrior) : ground s = .empty := by
  have hplain : (ground s).isTerrain = false := by
    cases hg : (ground s).isTerrain with
    | false => rfl
    | true =>
      rcases h.special s hg with e | e <;> rw [hs] at e
      · rw [← e] at hg
        cases u <;> cases hg
      · cases u <;> cases e
  unfold ground cleared at hplain ⊢
  split at hplain
  · cases hplain
  · split at hplain
    · cases hplain
    · rename_i hcorner hcenter
      rw [if_neg hcorner, if_neg hcenter]

theorem not_corner_of_warrior (h : b.Grounded) (hs : b.get s = u.warrior) :
    s.isCorner = false := by
  cases hc : s.isCorner with
  | false => rfl
  | true =>
    have := h.ground_of_warrior hs
    rw [ground_corner hc] at this
    cases this

theorem cleared_of_warrior (h : b.Grounded) (hs : b.get s = u.warrior) : cleared s = .empty := by
  rw [← ground_of_not_corner (h.not_corner_of_warrior hs), h.ground_of_warrior hs]

theorem clear (h : b.Grounded) (hs : s.isCorner = false) : (b.clear s).Grounded := by
  have hground := ground_of_not_corner hs
  constructor
  · intro p hp
    rw [get_clear]
    split
    · rename_i e
      subst e
      exact .inl hground.symm
    · exact h.special p hp
  · intro p hp
    rw [get_clear] at hp ⊢
    split
    · rename_i e
      subst e
      exact hground.symm
    · rename_i hne
      rw [if_neg hne] at hp
      exact h.plain p hp

/-- A piece comes to rest where it may. -/
theorem rest (h : b.Grounded) {c : Cell} (hc : u.owns c = true) (hr : c.mayRest (b.get t) = true) :
    (b.set t c).Grounded := by
  constructor
  · intro p hp
    rw [get_set]
    split
    · rename_i e
      subst e
      -- special ground holds no empty cell, so it is the king who comes
      rcases Cell.mayRest_iff.1 hr with he | ⟨-, rfl⟩
      · rcases h.special t hp with e | e <;> rw [he] at e
        · rw [← e] at hp
          cases hp
        · cases e
      · exact .inr rfl
    · exact h.special p hp
  · intro p hp
    rw [get_set] at hp ⊢
    split
    · rename_i e
      rw [if_pos e, Side.not_isTerrain_of_owns hc] at hp
      cases hp
    · rename_i hne
      rw [if_neg hne] at hp
      exact h.plain p hp

end Grounded

/-! ### Boards in play -/

/-- No king stands on a corner. -/
def AtLarge (b : Board) : Prop := ∀ s, b.get s = .king → s.isCorner = false

/-- The boards on which a game goes on. -/
structure InPlay (b : Board) : Prop where
  grounded : b.Grounded
  one_king : b.count .king = 1
  at_large : b.AtLarge

/-- Whether a square holds what a board in play may have there. -/
def isSound (b : Board) (s : Square) : Bool :=
  (!(ground s).isTerrain || b.get s = ground s || b.get s = .king) &&
    (!(b.get s).isTerrain || b.get s = ground s) && (b.get s ≠ .king || !s.isCorner)

theorem inPlay_of_isSound (h : ∀ s ∈ Square.all, b.isSound s = true) (hk : b.count .king = 1) :
    b.InPlay := by
  have sound (s : Square) : (((ground s).isTerrain = true → b.get s = ground s ∨ b.get s = .king) ∧
      ((b.get s).isTerrain = true → b.get s = ground s)) ∧
      (b.get s = .king → s.isCorner = false) := by
    simpa [isSound, ← Bool.not_eq_true, or_assoc, imp_iff_not_or] using h s (Square.mem_all s)
  exact ⟨⟨fun s => (sound s).1.1, fun s => (sound s).1.2⟩, hk, fun s => (sound s).2⟩

theorem inPlay_start : start.InPlay := by
  have h : (∀ s ∈ Square.all, start.isSound s = true) ∧ start.count .king = 1 := by decide +kernel
  exact inPlay_of_isSound h.1 h.2

theorem AtLarge.clear (h : b.AtLarge) : (b.clear s).AtLarge := by
  intro p hp
  rw [get_clear] at hp
  split at hp
  · exact absurd hp (cleared_ne_king s)
  · exact h p hp

/-- A king is on a corner after a move only if it is the king who has moved there. -/
theorem AtLarge.relocate (h : b.AtLarge) (hc : ¬ (b.get s = .king ∧ t.isCorner = true)) :
    (b.relocate (.ofSquares s t)).AtLarge := by
  intro p hp
  rw [get_relocate] at hp
  split at hp
  · exact absurd hp (cleared_ne_king s)
  · split at hp
    · rename_i e
      subst e
      simpa [hp] using hc
    · exact h p hp

namespace Slide

theorem source_not_corner (h : b.InPlay) (hst : b.Slide side s t) : s.isCorner = false := by
  rcases Side.owns_iff.1 hst.own with hw | ⟨-, hk⟩
  · exact h.grounded.not_corner_of_warrior hw
  · exact h.at_large s hk

theorem grounded (h : b.InPlay) (hst : b.Slide side s t) :
    (b.relocate (.ofSquares s t)).Grounded := by
  rw [relocate_ofSquares]
  exact (h.grounded.rest hst.own hst.rest).clear (source_not_corner h hst)

/-- Nobody loses a piece by the move alone. -/
theorem force_relocate (hst : b.Slide side s t) (u : Side) :
    (b.relocate (.ofSquares s t)).force u = b.force u := by
  have hput := b.force_set t (b.get s) u
  have hclear := (b.set t (b.get s)).force_clear s u
  have htarget : u.owns (b.get t) = false := by
    rcases Cell.mayRest_iff.1 hst.rest with h | ⟨h, -⟩
    · rw [h]
      cases u <;> rfl
    · cases ho : u.owns (b.get t) with
      | false => rfl
      | true => rw [Side.not_isTerrain_of_owns ho] at h; cases h
  rw [htarget] at hput
  rw [get_set_of_ne _ _ hst.ne.symm] at hclear
  rw [relocate_ofSquares]
  simp only [Bool.false_eq_true, if_false] at hput
  omega

theorem count_king_relocate (hst : b.Slide side s t) :
    (b.relocate (.ofSquares s t)).count .king = b.count .king := by
  have hput := b.count_set t (b.get s) .king
  have hclear := (b.set t (b.get s)).count_king_clear s
  have htarget : b.get t ≠ .king := by
    intro e
    have := hst.rest
    rw [e] at this
    cases h : b.get s <;> rw [h] at this <;> cases this
  rw [if_neg htarget] at hput
  rw [get_set_of_ne _ _ hst.ne.symm] at hclear
  rw [relocate_ofSquares]
  omega

end Slide

end Board

end Tafl
