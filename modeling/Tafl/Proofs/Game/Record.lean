import Tafl.Proofs.Board.Outcome
import Tafl.Table

/-! # Whole games

A `Game` is a table and the record of what was accepted at it. `Game.Sound` is what every play
keeps, and `Sound.run` is its induction over all the plays of a game, the refused ones included.
`run_lawful` reads off what the two players may rely on. -/

namespace Tafl

namespace Table
variable {t t' : Table} {name : String} {m : Move} {r : Report}

/-- A move that was accepted was one of the side on turn, and the board has taken it. -/
theorem play_eq_ok (h : t.play name m = .ok (t', r)) : t.winner = none ∧
    t.sideOf? name = some t.onTurn ∧
      ∃ b, t.board.play t.onTurn m = .ok (b, r) ∧ t' = t.after b r := by
  unfold play at h
  split at h
  · cases h
  · rename_i hw
    split at h
    · cases h
    · rename_i s hs
      split at h
      · cases h
      · rename_i hon
        obtain rfl : s = t.onTurn := not_not.1 hon
        cases hp : t.board.play t.onTurn m with
        | error e => rw [hp] at h; cases h
        | ok p =>
          rw [hp] at h
          cases h
          exact ⟨by simpa using hw, hs, p.1, rfl, rfl⟩

theorem player_after (t : Table) (b : Board) (r : Report) (s : Side) :
    (t.after b r).player s = t.player s := by
  cases s <;> rfl

theorem play_of_winner (h : t.winner ≠ none) (name : String) (m : Move) :
    t.play name m = .error .gameOver :=
  if_pos (Option.isSome_iff_ne_none.2 h)

end Table

/-- A table, and the moves that were accepted at it, each with the side that made it. -/
structure Game where
  table : Table
  moves : List (Side × Report) := []

namespace Game

/-- A table that has just been opened. -/
def opened (id : Nat) (black white : String) : Game where
  table := { id, black, white }

/-- Someone tries a move. One that is refused changes nothing. -/
def attempt (g : Game) (name : String) (m : Move) : Game :=
  match g.table.play name m with
  | .ok (t, r) => ⟨t, g.moves ++ [(g.table.onTurn, r)]⟩
  | .error _ => g

def run (g : Game) (plays : List (String × Move)) : Game :=
  plays.foldl (fun g p => g.attempt p.1 p.2) g

/-- How many squares the moves of a side have reported as cleared. -/
def takenBy (g : Game) (s : Side) : Nat :=
  ((g.moves.filter (·.1 = s)).flatMap (·.2.captured)).length

variable {g : Game} {t : Table} {name : String} {m : Move} {r : Report} {e : Refusal}
  {id : Nat} {black white : String}

theorem attempt_of_ok (h : g.table.play name m = .ok (t, r)) :
    g.attempt name m = ⟨t, g.moves ++ [(g.table.onTurn, r)]⟩ := by
  rw [attempt, h]

theorem attempt_of_error (h : g.table.play name m = .error e) : g.attempt name m = g := by
  rw [attempt, h]

theorem takenBy_concat (t : Table) (moves : List (Side × Report)) (u : Side) (r : Report)
    (s : Side) : takenBy ⟨t, moves ++ [(u, r)]⟩ s =
      takenBy ⟨t, moves⟩ s + if u = s then r.captured.length else 0 := by
  by_cases h : u = s <;> simp [takenBy, h]

/-! ### What every play keeps -/

structure Sound (g : Game) : Prop where
  grounded : g.table.board.Grounded
  shows : g.table.board.Shows g.table.winner
  turn : g.table.winner = none → (g.table.onTurn = .black ↔ g.moves.length % 2 = 0)
  /-- What a side has lost is what the other has taken. -/
  balance : ∀ s, g.table.board.force s + g.takenBy s.opponent = Board.start.force s

theorem sound_opened : (opened id black white).Sound := by
  have hplay : (opened id black white).table.board.InPlay := by
    simp only [opened]
    exact Board.inPlay_start
  constructor
  · exact hplay.grounded
  · exact ⟨hplay.one_king, hplay.at_large⟩
  · exact fun _ => iff_of_true rfl rfl
  · intro s
    simp only [opened, takenBy, List.filter_nil, List.flatMap_nil, List.length_nil, Nat.add_zero]

namespace Sound

theorem inPlay (h : g.Sound) (hw : g.table.winner = none) : g.table.board.InPlay :=
  .of_shows h.grounded (hw ▸ h.shows)

/-- While nobody has won, a move passes the turn and makes the record longer by one. -/
theorem turn_after (h : g.Sound) (hw : g.table.winner = none) (b : Board) (u : Side)
    (hr : (g.table.after b r).winner = none) :
    (g.table.after b r).onTurn = .black ↔ (g.moves ++ [(u, r)]).length % 2 = 0 := by
  have hr : r.winner = none := hr
  have hturn := h.turn hw
  have hpass : (g.table.after b r).onTurn = .black ↔ g.table.onTurn ≠ .black := by
    simp only [Table.after, hr, Option.isSome_none, Bool.false_eq_true, if_false]
    cases g.table.onTurn <;> simp [Side.opponent]
  rw [hpass, ne_eq, hturn, List.length_append, List.length_singleton]
  omega

theorem balance_after (h : g.Sound) {b : Board}
    (hp : g.table.board.play g.table.onTurn m = .ok (b, r)) (s : Side) :
    b.force s + takenBy ⟨g.table.after b r, g.moves ++ [(g.table.onTurn, r)]⟩ s.opponent =
      Board.start.force s := by
  obtain ⟨hown, hother⟩ := Board.play_force hp
  have hs : b.force s + (takenBy g s.opponent + if g.table.onTurn = s.opponent then
      r.captured.length else 0) = Board.start.force s := by
    rw [← h.balance s]
    split
    · rename_i e
      rw [e, s.opponent_opponent] at hother
      omega
    · rename_i hne
      obtain rfl : s = g.table.onTurn := by
        rw [← s.opponent_opponent]
        exact (Side.eq_opponent_of_ne hne).symm
      omega
  rw [takenBy_concat]
  exact hs

theorem attempt (h : g.Sound) (name : String) (m : Move) : (g.attempt name m).Sound := by
  cases hp : g.table.play name m with
  | error e => rwa [attempt_of_error hp]
  | ok x =>
    obtain ⟨t, r⟩ := x
    obtain ⟨hw, -, b, hb, rfl⟩ := Table.play_eq_ok hp
    rw [attempt_of_ok hp]
    exact {
      grounded := Board.play_grounded (h.inPlay hw) hb
      shows := Board.play_shows (h.inPlay hw) hb
      turn := h.turn_after hw b _
      balance := h.balance_after hb }

theorem run (h : g.Sound) (plays : List (String × Move)) : (g.run plays).Sound := by
  induction plays generalizing g with
  | nil => exact h
  | cons p plays ih => exact ih (h.attempt p.1 p.2)

end Sound

/-! ### What the players may rely on -/

structure Lawful (g : Game) : Prop where
  throne : ∀ s, g.table.board.get s = .throne → s = .center
  center : g.table.board.get .center = .throne ∨ g.table.board.get .center = .king
  escape : ∀ s, g.table.board.get s = .escape → s.isCorner = true
  corner : ∀ s, s.isCorner = true → g.table.board.get s = .escape ∨ g.table.board.get s = .king
  goes_on : g.table.winner = none ↔ g.table.board.count .king = 1 ∧
    ∀ s, g.table.board.get s = .king → s.isCorner = false
  white_won : g.table.winner = some .white ↔ g.table.board.count .king = 1 ∧
    ∃ s, g.table.board.get s = .king ∧ s.isCorner = true
  black_won : g.table.winner = some .black ↔ g.table.board.count .king = 0
  turn : g.table.winner = none → (g.table.onTurn = .black ↔ g.moves.length % 2 = 0)
  black_pieces : g.table.board.count .black + g.takenBy .white = 24
  white_pieces : g.table.board.count .white + g.table.board.count .king + g.takenBy .black = 13
  ended : g.table.winner ≠ none → ∀ name m, g.table.play name m = .error .gameOver
  refused : ∀ name m e, g.table.play name m = .error e → g.attempt name m = g

theorem Sound.winner_eq_iff (h : g.Sound) (w : Option Side) :
    g.table.winner = w ↔ g.table.board.Shows w :=
  ⟨fun e => e ▸ h.shows, h.shows.eq⟩

theorem Sound.lawful (h : g.Sound) : g.Lawful where
  throne s hs := Board.ground_eq_throne (by rw [← h.grounded.plain s (by rw [hs]; rfl), hs])
  center := by
    have := h.grounded.special .center (by rw [Board.ground_center]; rfl)
    rwa [Board.ground_center] at this
  escape s hs := Board.ground_eq_escape (by rw [← h.grounded.plain s (by rw [hs]; rfl), hs])
  corner s hs := by
    have := h.grounded.special s (by rw [Board.ground_corner hs]; rfl)
    rwa [Board.ground_corner hs] at this
  goes_on := h.winner_eq_iff none
  white_won := h.winner_eq_iff (some .white)
  black_won := h.winner_eq_iff (some .black)
  turn := h.turn
  black_pieces := (h.balance .black).trans (by decide +kernel)
  white_pieces := (h.balance .white).trans (by decide +kernel)
  ended hw := Table.play_of_winner hw
  refused _ _ _ := attempt_of_error

/-- The rules hold after any plays by anyone, accepted or refused. -/
theorem run_lawful (id : Nat) (black white : String) (plays : List (String × Move)) :
    ((opened id black white).run plays).Lawful :=
  (sound_opened.run plays).lawful

end Game

end Tafl
