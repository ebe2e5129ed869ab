import Tafl.Proofs.Board.Captures

/-! # How a move ends

`Board.Shows b w`: the kings of `b` say that the game goes on (`w` is `none`) or who has won it. The
outcome of a move on a board in play shows the winner that is reported (`Slide.shows`), stands on
sound ground, and accounts for every piece. -/

namespace Tafl

namespace Board
variable {b b' : Board} {side : Side} {s t : Square} {m : Move} {r : Report} {p : Point}

/-- The game goes on while there is one king and he is not on a corner, White has won if he is,
and Black has won if there is none. -/
def Shows (b : Board) : Option Side → Prop
  | none => b.count .king = 1 ∧ ∀ s, b.get s = .king → s.isCorner = false
  | some .white => b.count .king = 1 ∧ ∃ s, b.get s = .king ∧ s.isCorner = true
  | some .black => b.count .king = 0

theorem Shows.eq {w w' : Option Side} (h : b.Shows w) (h' : b.Shows w') : w = w' := by
  rcases w with _ | _ | _ <;> rcases w' with _ | _ | _ <;> simp only [Shows] at h h' <;> try rfl
  · omega
  · obtain ⟨s, hs, hc⟩ := h'.2
    rw [h.2 s hs] at hc
    cases hc
  · omega
  · omega
  · obtain ⟨s, hs, hc⟩ := h.2
    rw [h'.2 s hs] at hc
    cases hc
  · omega

theorem InPlay.of_shows (hg : b.Grounded) (h : b.Shows none) : b.InPlay := ⟨hg, h.1, h.2⟩

theorem AtLarge.captures (h : b.AtLarge) : (b.captures side p).board.AtLarge :=
  captures_induct side p (P := fun t => t.board.AtLarge) h fun _ _ ht _ => ht.clear

namespace Slide

theorem outcome_eq (b : Board) (side : Side) (s t : Square) : b.outcome side (.ofSquares s t) =
    (((b.relocate (.ofSquares s t)).captures side t.point).board,
      ⟨.ofSquares s t, ((b.relocate (.ofSquares s t)).captures side t.point).taken,
        winner? (b.get s) t.point (b.relocate (.ofSquares s t))
          ((b.relocate (.ofSquares s t)).captures side t.point).board⟩) := by
  rw [outcome, Move.ofSquares, pieceAt_point]

theorem winner?_point {c : Cell} {before after : Board} : winner? c t.point before after =
    if c = .king ∧ t.isCorner = true then some .white
    else if after.count .king < before.count .king then some .black else none := by
  rw [winner?, Point.square?_point, Option.any_some]

theorem shows (h : b.InPlay) (hst : b.Slide side s t) :
    (b.outcome side (.ofSquares s t)).1.Shows (b.outcome side (.ofSquares s t)).2.winner := by
  rw [outcome_eq, winner?_point]
  have hone : (b.relocate (.ofSquares s t)).count .king = 1 := by
    rw [hst.count_king_relocate, h.one_king]
  have htarget : (b.relocate (.ofSquares s t)).get t = b.get s := by
    rw [get_relocate, if_neg hst.ne, if_pos rfl]
  by_cases hc : b.get s = .king ∧ t.isCorner = true
  · -- it is White who has moved his king there, and the captures of White leave him alone
    obtain rfl : side = .white := by
      cases side
      · have := hst.own
        rw [hc.1] at this
        cases this
      · rfl
    rw [if_pos hc, captures_white]
    refine ⟨by rw [count_king_warriorsTaken, hone], t, ?_, hc.2⟩
    rw [get_warriorsTaken_eq_king, htarget, hc.1]
  · rw [if_neg hc]
    have hlarge : (b.relocate (.ofSquares s t)).AtLarge := h.at_large.relocate hc
    have hle := (b.relocate (.ofSquares s t)).count_king_le_captures side t.point
    split
    · simp only [Shows]
      omega
    · exact ⟨by dsimp only; omega, hlarge.captures⟩

theorem grounded_outcome (h : b.InPlay) (hst : b.Slide side s t) :
    (b.outcome side (.ofSquares s t)).1.Grounded := by
  rw [outcome_eq]
  refine (hst.grounded h).captures ?_
  rintro rfl
  refine h.at_large.relocate fun hc => ?_
  have := hst.own
  rw [hc.1] at this
  cases this

end Slide

/-! ### Moves that are played -/

theorem play_shows (h : b.InPlay) (hp : b.play side m = .ok (b', r)) : b'.Shows r.winner := by
  obtain ⟨s, t, rfl, hst, hx⟩ := play_eq_ok_iff.1 hp
  have := hst.shows h
  rwa [hx] at this

theorem play_grounded (h : b.InPlay) (hp : b.play side m = .ok (b', r)) : b'.Grounded := by
  obtain ⟨s, t, rfl, hst, hx⟩ := play_eq_ok_iff.1 hp
  have := hst.grounded_outcome h
  rwa [hx] at this

/-- The side that moves loses nothing, and the other side what is reported. -/
theorem play_force (hp : b.play side m = .ok (b', r)) : b'.force side = b.force side ∧
    b'.force side.opponent + r.captured.length = b.force side.opponent := by
  obtain ⟨s, t, rfl, hst, hx⟩ := play_eq_ok_iff.1 hp
  rw [Slide.outcome_eq] at hx
  obtain ⟨rfl, rfl⟩ := Prod.mk.inj hx
  rw [← hst.force_relocate side, ← hst.force_relocate side.opponent]
  exact force_captures

end Board

end Tafl
