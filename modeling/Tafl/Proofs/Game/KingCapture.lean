import Tafl.Proofs.Board.Neighbours
import Tafl.Proofs.Game.Record

/-! # When the king is taken

After a move of Black, only a king beside the piece that moved is looked at. `black_wins_iff`
compares this with looking at him wherever he stands: he is lost if and only if it is this move
that has closed him in. A king whom White has moved between closed cells is safe until a black
piece arrives beside him (`enclosed_king_goes_on`). -/

namespace Tafl

namespace Board
variable {b : Board} {s t k n : Square} {p : Point}

/-- The king is closed in, wherever he stands. -/
def KingEnclosed (b : Board) : Prop := ∃ k, b.get k = .king ∧ b.Encloses k

theorem exists_open_side (h : ¬ b.Encloses k) :
    ∃ d, ∀ n, k.neighbour? d = some n → closesIn (b.get n) = false := by
  by_contra hall
  simp only [not_exists, not_forall, Bool.not_eq_false] at hall
  refine h fun d => ?_
  obtain ⟨n, hn, hc⟩ := hall d
  exact ⟨n, hn, closesIn_iff.1 hc⟩

/-- The board after a move and the warriors that it takes, before any king is taken. -/
def afterWarriors (b : Board) (side : Side) (m : Move) : Board :=
  ((b.relocate m).warriorsTaken side m.target).board

/-! ### A move of Black -/

namespace Slide

theorem get_source (hst : b.Slide .black s t) : b.get s = .black := by
  rcases Side.owns_iff.1 hst.own with h | ⟨h, -⟩
  · exact h
  · cases h

theorem get_target (hst : b.Slide .black s t) : b.get t = .empty := by
  rcases Cell.mayRest_iff.1 hst.rest with h | ⟨-, h⟩
  · exact h
  · rw [hst.get_source] at h
    cases h

/-- Black moves no king and takes none among the warriors. -/
theorem afterWarriors_eq_king (hst : b.Slide .black s t) :
    (b.afterWarriors .black (.ofSquares s t)).get k = .king ↔ b.get k = .king := by
  rw [afterWarriors, get_warriorsTaken_eq_king, get_relocate]
  split
  · rename_i e
    rw [← e, hst.get_source]
    simp [cleared_ne_king]
  · split
    · rename_i e
      rw [← e, hst.get_source, hst.get_target]
      simp
    · rfl

/-- The target is the only square that a move of Black closes: where it came from and where it has
taken a warrior is open ground. -/
theorem eq_target_of_closed (h : b.InPlay) (hst : b.Slide .black s t)
    (hn : closesIn ((b.afterWarriors .black (.ofSquares s t)).get n) = true)
    (hb : closesIn (b.get n) = false) : n = t := by
  have hopen : closesIn .empty = false := rfl
  have hmoved : closesIn ((b.relocate (.ofSquares s t)).get n) = true := by
    rcases (b.relocate (.ofSquares s t)).get_warriorsTaken .black t.point n with e | ⟨hw, e⟩
    · rwa [← e]
    · have hn : closesIn (((b.relocate (.ofSquares s t)).warriorsTaken .black t.point).board.get n)
          = true := hn
      rw [e, (hst.grounded h).cleared_of_warrior (u := .white) hw, hopen] at hn
      cases hn
  rw [get_relocate] at hmoved
  split at hmoved
  · rename_i e
    subst e
    rw [h.grounded.cleared_of_warrior (u := .black) hst.get_source, hopen] at hmoved
    cases hmoved
  · split at hmoved
    · rename_i e
      exact e.symm
    · rw [hb] at hmoved
      cases hmoved

/-- Beside the piece that has moved, a king is closed in if and only if he is closed in now and was
not before. -/
theorem encloses_beside_iff (h : b.InPlay) (hst : b.Slide .black s t) :
    (∃ d k, t.neighbour? d = some k ∧ (b.afterWarriors .black (.ofSquares s t)).get k = .king ∧
      (b.afterWarriors .black (.ofSquares s t)).Encloses k) ↔
    (b.afterWarriors .black (.ofSquares s t)).KingEnclosed ∧ ¬ b.KingEnclosed := by
  constructor
  · rintro ⟨d, k, hd, hk, henc⟩
    refine ⟨⟨k, hk, henc⟩, ?_⟩
    rintro ⟨k', hk', henc'⟩
    -- there is one king, and the target beside him was still empty
    obtain ⟨k₀, hk₀⟩ := count_eq_one_iff.1 h.one_king
    obtain rfl : k' = k := by
      rw [(hk₀ k').1 hk', (hk₀ k).1 (hst.afterWarriors_eq_king.1 hk)]
    obtain ⟨e, he⟩ := Square.exists_neighbour?_symm hd
    obtain ⟨n, hn, hclosed⟩ := henc' e
    obtain rfl : t = n := Option.some.inj (he.symm.trans hn)
    rw [hst.get_target] at hclosed
    simp at hclosed
  · rintro ⟨⟨k, hk, henc⟩, hopen⟩
    have hk' : b.get k = .king := hst.afterWarriors_eq_king.1 hk
    obtain ⟨d, hd⟩ := exists_open_side fun henc' => hopen ⟨k, hk', henc'⟩
    obtain ⟨n, hn, hclosed⟩ := henc d
    obtain rfl : n = t := hst.eq_target_of_closed h (closesIn_iff.2 hclosed) (hd n hn)
    obtain ⟨e, he⟩ := Square.exists_neighbour?_symm hn
    exact ⟨e, k, he, hk, henc⟩

theorem winner_eq_black_iff (hst : b.Slide .black s t) :
    (b.outcome .black (.ofSquares s t)).2.winner = some .black ↔
      ∃ d k, t.neighbour? d = some k ∧ (b.afterWarriors .black (.ofSquares s t)).get k = .king ∧
        (b.afterWarriors .black (.ofSquares s t)).Encloses k := by
  rw [outcome_eq, winner?_point, if_neg (by rw [hst.get_source]; simp)]
  simp only [← isSurrounded_iff_encloses]
  refine Iff.trans ?_ count_king_captures
  split
  · rename_i hlt
    exact iff_of_true rfl hlt
  · rename_i hle
    exact iff_of_false (by simp) hle

end Slide

end Board

/-! ### The king in a whole game -/

namespace Game

/-- Black has won by a move if and only if it has closed the king in: he is closed in after it,
wherever he stands, and was not before. It is the same to ask that he stands, closed in, beside
the piece that has moved. -/
theorem black_wins_iff {id : Nat} {black white : String} {plays : List (String × Move)}
    {name : String} {m : Move} {t : Table} {r : Report}
    (hplay : ((opened id black white).run plays).table.play name m = .ok (t, r))
    (hturn : ((opened id black white).run plays).table.onTurn = .black) :
    let b := ((opened id black white).run plays).table.board
    (t.winner = some .black ↔ (b.afterWarriors .black m).KingEnclosed ∧ ¬ b.KingEnclosed) ∧
    (t.winner = some .black ↔ ∃ d k, m.target.step d 1 = some k ∧
      (b.afterWarriors .black m).get k = .king ∧ (b.afterWarriors .black m).Encloses k) := by
  obtain ⟨hw, -, b, hb, rfl⟩ := Table.play_eq_ok hplay
  have hin := (sound_opened.run plays).inPlay hw
  rw [hturn] at hb
  obtain ⟨s, u, rfl, hst, hout⟩ := Board.play_eq_ok_iff.1 hb
  have hwin := hst.winner_eq_black_iff
  rw [hout] at hwin
  exact ⟨hwin.trans (hst.encloses_beside_iff hin), hwin⟩

theorem exists_of_winner {t : Table} {name : String} {m : Move} {w : Option Side}
    (h : (t.play name m).map (·.1.winner) = .ok w) :
    ∃ t' r, t.play name m = .ok (t', r) ∧ t'.winner = w := by
  cases hp : t.play name m with
  | error e => rw [hp] at h; cases h
  | ok x =>
    rw [hp] at h
    exact ⟨x.1, x.2, rfl, Except.ok.inj h⟩

/-- Black stands on two sides of the square before the throne, and makes the move `m`. Then the
king steps forward onto that square. -/
def kingStepsOut (m : Move) : List (String × Move) :=
  [("Ada", ⟨⟨3, 0⟩, ⟨3, 1⟩⟩), ("Bob", ⟨⟨4, 4⟩, ⟨4, 3⟩⟩), ("Ada", ⟨⟨0, 4⟩, ⟨4, 4⟩⟩),
    ("Bob", ⟨⟨6, 4⟩, ⟨6, 2⟩⟩), ("Ada", ⟨⟨10, 4⟩, ⟨6, 4⟩⟩), ("Bob", ⟨⟨5, 3⟩, ⟨5, 2⟩⟩),
    ("Ada", m), ("Bob", ⟨⟨5, 5⟩, ⟨5, 4⟩⟩)]

/-- The move that closes the third side of the square before the throne. -/
def closingMove : Move := ⟨⟨10, 3⟩, ⟨5, 3⟩⟩

/-- A move at the edge. -/
def edgeMove : Move := ⟨⟨3, 1⟩, ⟨3, 0⟩⟩

/-- Closing the king in wins. -/
theorem black_wins_closing_in : ∃ t r,
    ((opened 1 "Ada" "Bob").run (kingStepsOut edgeMove)).table.play "Ada" closingMove = .ok (t, r) ∧
    ((opened 1 "Ada" "Bob").run (kingStepsOut edgeMove)).table.onTurn = .black ∧
    t.winner = some .black ∧
    (((opened 1 "Ada" "Bob").run (kingStepsOut edgeMove)).table.board.afterWarriors .black
      closingMove).KingEnclosed ∧
    ¬ ((opened 1 "Ada" "Bob").run (kingStepsOut edgeMove)).table.board.KingEnclosed := by
  have hrun : ((opened 1 "Ada" "Bob").run (kingStepsOut edgeMove)).table.onTurn = .black ∧
      (((opened 1 "Ada" "Bob").run (kingStepsOut edgeMove)).table.play "Ada" closingMove).map
        (·.1.winner) = .ok (some .black) := by decide +kernel
  obtain ⟨t, r, hplay, hwin⟩ := exists_of_winner hrun.2
  obtain ⟨henclosed, hbefore⟩ := (black_wins_iff hplay hrun.1).1.1 hwin
  exact ⟨t, r, hplay, hrun.1, hwin, henclosed, hbefore⟩

/-- If the third side is closed first, the king steps into a place where he is closed in, and
Black, who then moves elsewhere, has not won. -/
theorem enclosed_king_goes_on : ¬ ∀ (id : Nat) (black white : String)
    (plays : List (String × Move)) (name : String) (m : Move) (t : Table) (r : Report),
    ((opened id black white).run plays).table.play name m = .ok (t, r) →
    ((opened id black white).run plays).table.onTurn = .black →
    (t.winner = some .black ↔
      (((opened id black white).run plays).table.board.afterWarriors .black m).KingEnclosed) := by
  intro hall
  have hall := hall 1 "Ada" "Bob" (kingStepsOut closingMove) "Ada" edgeMove
  have hrun : (((opened 1 "Ada" "Bob").run (kingStepsOut closingMove)).table.onTurn = .black ∧
      (((opened 1 "Ada" "Bob").run (kingStepsOut closingMove)).table.play "Ada" edgeMove).map
        (·.1.winner) = .ok none) ∧
      (((opened 1 "Ada" "Bob").run (kingStepsOut closingMove)).table.board.afterWarriors .black
        edgeMove).get ⟨5, 4⟩ = .king ∧
      (((opened 1 "Ada" "Bob").run (kingStepsOut closingMove)).table.board.afterWarriors .black
        edgeMove).isSurrounded ⟨5, 4⟩ = true := by decide +kernel
  obtain ⟨t, r, hplay, hwin⟩ := exists_of_winner hrun.1.2
  have hwon := (hall t r hplay hrun.1.1).2
    ⟨⟨5, 4⟩, hrun.2.1, Board.isSurrounded_iff_encloses.1 hrun.2.2⟩
  rw [hwin] at hwon
  cases hwon

end Game

end Tafl
