import Tafl.Proofs.Board.Neighbours
import Tafl.Proofs.Board.Outcome

/-! # Everything is taken at once

A piece that has arrived takes one warrior after the other, and looks at a king when the warriors
are gone. What it takes lies beside it, and nothing else that lies beside it is looked at on the
way: so the order of the directions does not matter, and all of them can be looked at on the board
before anything is taken (`capturesInOrder_eq`). `play_simultaneous` says what a move does to the
board in these terms, which squares it takes and which side it lets win. -/

namespace Tafl

theorem Side.isHostileTo_iff {side : Side} {x : Cell} :
    side.isHostileTo x = true ↔ x = .throne ∨ x = .escape ∨ side.owns x = true := by
  cases x <;> simp [isHostileTo, Cell.isTerrain]

namespace Board
variable {b b' c : Board} {side : Side} {p : Point} {d : Direction} {v : Square} {t : Taking}
  {find : Board → Direction → Option Square} {ds : List Direction}

/-! ### What is looked at in one direction -/

section Away
variable (haway : ∀ n, ¬ p.IsBeside n → c.get n = b.get n)
include haway

theorem warriorTaken?_congr (hd : ∀ s, p.step d 1 = some s → c.get s = b.get s) :
    c.warriorTaken? side p d = b.warriorTaken? side p d := by
  unfold warriorTaken?
  cases hs : p.step d 1 with
  | none => rfl
  | some s =>
    cases hfar : p.step d 2 with
    | none => rfl
    | some far =>
      have : c.get far = b.get far := haway far fun h => h.not_step_two hfar
      simp only [hd s hs, this]

/-- Of the square itself it matters only whether a king stands there. -/
theorem kingTaken?_congr (hd : ∀ s, p.step d 1 = some s → (c.get s = .king ↔ b.get s = .king)) :
    c.kingTaken? p d = b.kingTaken? p d := by
  ext k
  rw [kingTaken?_eq_some_iff, kingTaken?_eq_some_iff, isSurrounded_iff_encloses,
    isSurrounded_iff_encloses]
  refine and_congr_right fun hk => and_congr (hd k hk) (forall_congr' fun e => ?_)
  refine exists_congr fun n => and_congr_right fun hn => ?_
  rw [haway n ((Point.isBeside_of_step hk).not_neighbour hn)]

end Away

/-- To take what lies in one direction changes nothing that is looked at in another. -/
def IsLocal (p : Point) (find : Board → Direction → Option Square) : Prop :=
  ∀ b d s, find b d = some s → p.step d 1 = some s ∧ ∀ e, e ≠ d → find (b.clear s) e = find b e

theorem get_clear_away {s n : Square} (hs : p.step d 1 = some s) (hn : ¬ p.IsBeside n) :
    (b.clear s).get n = b.get n := by
  rw [get_clear, if_neg]
  rintro rfl
  exact hn ⟨d, hs⟩

theorem get_clear_beside {s n : Square} {e : Direction} (hs : p.step d 1 = some s) (he : e ≠ d)
    (hn : p.step e 1 = some n) : (b.clear s).get n = b.get n := by
  rw [get_clear, if_neg]
  rintro rfl
  exact he (Point.step_one_inj hn hs)

theorem isLocal_warriorTaken? (side : Side) (p : Point) :
    IsLocal p fun b => b.warriorTaken? side p := by
  intro b d s h
  have hs := (warriorTaken?_eq_some h).1
  exact ⟨hs, fun e he => warriorTaken?_congr (fun n => get_clear_away hs)
    fun n hn => get_clear_beside hs he hn⟩

theorem isLocal_kingTaken? : IsLocal p fun b => b.kingTaken? p := by
  intro b d s h
  have hs := (kingTaken?_eq_some_iff.1 h).1
  exact ⟨hs, fun e he => kingTaken?_congr (fun n => get_clear_away hs)
    fun n hn => by rw [get_clear_beside hs he hn]⟩

/-! ### All directions, in any order -/

theorem get_foldl_clear (l : List Square) (b : Board) (v : Square) :
    (l.foldl clear b).get v = if v ∈ l then cleared v else b.get v := by
  induction l generalizing b with
  | nil => simp
  | cons s l ih =>
    rw [List.foldl_cons, ih, get_clear]
    by_cases hv : s = v
    · subst hv
      simp
    · simp [hv, Ne.symm hv]

theorem foldl_takeOne_eq (hfind : IsLocal p find) (hds : ds.Nodup) (t : Taking) :
    ds.foldl (takeOne find) t = ⟨(ds.filterMap (find t.board)).foldl clear t.board,
      t.taken ++ ds.filterMap (find t.board)⟩ := by
  induction ds generalizing t with
  | nil => simp
  | cons d ds ih =>
    obtain ⟨hd, hds⟩ := List.nodup_cons.1 hds
    rw [List.foldl_cons, ih hds]
    cases h : find t.board d with
    | none => simp only [takeOne, h, Option.elim_none, List.filterMap_cons_none h]
    | some s =>
      have hsame : ds.filterMap (find (t.board.clear s)) = ds.filterMap (find t.board) :=
        List.filterMap_congr fun e he => (hfind _ d s h).2 e fun h => hd (h ▸ he)
      simp only [takeOne, h, Option.elim_some, Taking.take, hsame, List.filterMap_cons_some h,
        List.foldl_cons, List.append_assoc, List.singleton_append]

/-- Everything that is taken if the directions are looked at in the order `ds`. -/
def capturesInOrder (ds : List Direction) (b : Board) (side : Side) (p : Point) : Taking :=
  let t := ds.foldl (takeOne fun b => b.warriorTaken? side p) ⟨b, []⟩
  match side with
  | .black => ds.foldl (takeOne fun b => b.kingTaken? p) t
  | .white => t

/-- Where kings are taken, by Black alone. -/
def kingsTaken (ds : List Direction) (b : Board) (p : Point) : Side → List Square
  | .black => ds.filterMap (b.kingTaken? p)
  | .white => []

/-- The squares that are taken, all of them found on the same board. -/
def victims (ds : List Direction) (b : Board) (side : Side) (p : Point) : List Square :=
  ds.filterMap (b.warriorTaken? side p) ++ b.kingsTaken ds p side

theorem mem_kingsTaken : v ∈ b.kingsTaken ds p side ↔
    side = .black ∧ ∃ d ∈ ds, b.kingTaken? p d = some v := by
  cases side <;> simp [kingsTaken]

/-- The warriors that are gone stood beside `p` as the king does, so none of them closed him in. -/
theorem kingTaken?_foldl_clear {l : List Square}
    (hl : ∀ s ∈ l, p.IsBeside s ∧ b.get s ≠ .king) :
    (l.foldl clear b).kingTaken? p d = b.kingTaken? p d := by
  refine kingTaken?_congr (fun n hn => ?_) fun s _ => ?_
  · rw [get_foldl_clear, if_neg fun h => hn (hl n h).1]
  · rw [get_foldl_clear]
    split
    · rename_i h
      exact iff_of_false (cleared_ne_king s) (hl s h).2
    · rfl

theorem get_ne_king_of_mem (h : v ∈ ds.filterMap (b.warriorTaken? side p)) :
    p.IsBeside v ∧ b.get v ≠ .king := by
  obtain ⟨d, -, hd⟩ := List.mem_filterMap.1 h
  obtain ⟨hv, hw⟩ := warriorTaken?_eq_some hd
  refine ⟨⟨d, hv⟩, ?_⟩
  rw [hw]
  cases side <;> decide

theorem capturesInOrder_eq (hds : ds.Nodup) : b.capturesInOrder ds side p =
    ⟨(b.victims ds side p).foldl clear b, b.victims ds side p⟩ := by
  have hw := foldl_takeOne_eq (isLocal_warriorTaken? side p) hds ⟨b, []⟩
  cases side with
  | white => simpa [capturesInOrder, victims, kingsTaken] using hw
  | black =>
    have hk : ds.filterMap
        (((ds.filterMap (b.warriorTaken? .black p)).foldl clear b).kingTaken? p) =
          ds.filterMap (b.kingTaken? p) :=
      List.filterMap_congr fun d _ => kingTaken?_foldl_clear fun s hs => get_ne_king_of_mem hs
    simp only [capturesInOrder, victims, kingsTaken, hw, List.nil_append]
    rw [foldl_takeOne_eq isLocal_kingTaken? hds, hk, List.foldl_append]

theorem nodup_victims (hds : ds.Nodup) : (b.victims ds side p).Nodup := by
  have hw : (ds.filterMap (b.warriorTaken? side p)).Nodup :=
    hds.filterMap fun d e s hd he => Point.step_one_inj (warriorTaken?_eq_some hd).1
      (warriorTaken?_eq_some he).1
  have hk : (b.kingsTaken ds p side).Nodup := by
    cases side with
    | white => exact List.nodup_nil
    | black =>
      exact hds.filterMap fun d e s hd he => Point.step_one_inj (kingTaken?_eq_some_iff.1 hd).1
        (kingTaken?_eq_some_iff.1 he).1
  refine hw.append hk fun s hs hs' => ?_
  obtain ⟨-, d, -, hd⟩ := mem_kingsTaken.1 hs'
  exact (get_ne_king_of_mem hs).2 (kingTaken?_eq_some_iff.1 hd).2.1

theorem victims_perm {es : List Direction} (h : ds.Perm es) (b : Board) (side : Side) (p : Point) :
    (b.victims ds side p).Perm (b.victims es side p) := by
  refine (h.filterMap _).append ?_
  cases side with
  | white => exact .refl _
  | black => exact h.filterMap _

theorem captures_eq : b.captures side p =
    ⟨(b.victims Direction.all side p).foldl clear b, b.victims Direction.all side p⟩ :=
  capturesInOrder_eq Direction.nodup_all

theorem capturesInOrder_of_perm (h : ds.Perm Direction.all) :
    (b.capturesInOrder ds side p).board = (b.captures side p).board ∧
      (b.capturesInOrder ds side p).taken.Perm (b.captures side p).taken := by
  have hperm := victims_perm h b side p
  rw [captures_eq, capturesInOrder_eq (h.nodup_iff.2 Direction.nodup_all)]
  refine ⟨Board.ext fun v => ?_, hperm⟩
  rw [get_foldl_clear, get_foldl_clear]
  simp only [hperm.mem_iff]

/-! ### The rule of the game -/

/-- What stands on `v` falls when a piece of `side` has arrived at `t`: an enemy warrior beside it
with hostile ground or a piece of `side` behind him, or, if Black has moved, a king beside it who
is closed in. -/
inductive Falls (b : Board) (side : Side) (t v : Square) : Prop
  | warrior (d : Direction) (far : Square) (beside : t.point.step d 1 = some v)
      (enemy : b.get v = side.opponent.warrior) (behind : t.point.step d 2 = some far)
      (hostile : b.get far = .throne ∨ b.get far = .escape ∨ side.owns (b.get far) = true)
  | king (d : Direction) (black : side = .black) (beside : t.point.step d 1 = some v)
      (king : b.get v = .king) (enclosed : b.Encloses v)

theorem warriorTaken?_eq_some_iff : b.warriorTaken? side p d = some v ↔
    p.step d 1 = some v ∧ b.get v = side.opponent.warrior ∧
      ∃ far, p.step d 2 = some far ∧
        (b.get far = .throne ∨ b.get far = .escape ∨ side.owns (b.get far) = true) := by
  unfold warriorTaken?
  cases hs : p.step d 1 with
  | none => simp
  | some s =>
    cases hfar : p.step d 2 with
    | none => simp
    | some far =>
      simp only [Option.ite_none_right_eq_some, Option.some.injEq, exists_eq_left',
        Side.isHostileTo_iff]
      constructor
      · rintro ⟨⟨hw, hh⟩, rfl⟩
        exact ⟨rfl, hw, hh⟩
      · rintro ⟨rfl, hw, hh⟩
        exact ⟨⟨hw, hh⟩, rfl⟩

theorem mem_victims_iff {t : Square} (hds : ∀ d, d ∈ ds) :
    v ∈ b.victims ds side t.point ↔ b.Falls side t v := by
  rw [victims, List.mem_append, List.mem_filterMap, mem_kingsTaken]
  constructor
  · rintro (⟨d, -, hd⟩ | ⟨hside, d, -, hd⟩)
    · obtain ⟨hv, hw, far, hfar, hh⟩ := warriorTaken?_eq_some_iff.1 hd
      exact .warrior d far hv hw hfar hh
    · obtain ⟨hv, hk, henc⟩ := kingTaken?_eq_some_iff.1 hd
      exact .king d hside hv hk (isSurrounded_iff_encloses.1 henc)
  · rintro (⟨d, far, hv, hw, hfar, hh⟩ | ⟨d, hside, hv, hk, henc⟩)
    · exact .inl ⟨d, hds d, warriorTaken?_eq_some_iff.2 ⟨hv, hw, far, hfar, hh⟩⟩
    · exact .inr ⟨hside, d, hds d,
        kingTaken?_eq_some_iff.2 ⟨hv, hk, isSurrounded_iff_encloses.2 henc⟩⟩

/-! ### Who has won -/

/-- A king is gone if and only if Black has taken one. -/
theorem count_king_captures_lt_iff :
    (b.captures side p).board.count .king < b.count .king ↔
      side = .black ∧ ∃ v ∈ (b.captures side p).taken, b.get v = .king := by
  cases side with
  | white =>
    rw [captures_white, count_king_warriorsTaken]
    simp
  | black =>
    rw [count_king_captures, captures_eq, and_iff_right rfl]
    have hking (d : Direction) : (b.warriorsTaken .black p).board.kingTaken? p d =
        b.kingTaken? p d := by
      rw [show b.warriorsTaken .black p = _ from
        foldl_takeOne_eq (isLocal_warriorTaken? _ _) Direction.nodup_all ⟨b, []⟩]
      exact kingTaken?_foldl_clear fun s hs => get_ne_king_of_mem hs
    simp only [← kingTaken?_eq_some_iff, hking]
    constructor
    · rintro ⟨d, k, hd⟩
      refine ⟨k, List.mem_append.2 (.inr ?_), (kingTaken?_eq_some_iff.1 hd).2.1⟩
      exact mem_kingsTaken.2 ⟨rfl, d, d.mem_all, hd⟩
    · rintro ⟨k, hk, hking⟩
      rcases List.mem_append.1 hk with hk | hk
      · exact absurd hking (get_ne_king_of_mem hk).2
      · obtain ⟨-, d, -, hd⟩ := mem_kingsTaken.1 hk
        exact ⟨d, k, hd⟩

namespace Slide
variable {s t : Square}

theorem white_of_king (hst : b.Slide side s t) (h : b.get s = .king) : side = .white := by
  rcases Side.owns_iff.1 hst.own with hw | ⟨hside, -⟩
  · rw [h] at hw
    cases side <;> cases hw
  · exact hside

theorem get_relocate_target (hst : b.Slide side s t) :
    (b.relocate (.ofSquares s t)).get t = b.get s := by
  rw [get_relocate, if_neg hst.ne, if_pos rfl]

/-- The piece that has moved now stands on `t`. -/
theorem winner_eq_white_iff (hst : b.Slide side s t) :
    (b.outcome side (.ofSquares s t)).2.winner = some .white ↔
      (b.relocate (.ofSquares s t)).get t = .king ∧ t.isCorner = true := by
  rw [outcome_eq, winner?_point, hst.get_relocate_target]
  split
  · rename_i h
    exact iff_of_true rfl h
  · rename_i h
    refine iff_of_false ?_ h
    split <;> simp

theorem winner_eq_black_iff_taken (hst : b.Slide side s t) :
    (b.outcome side (.ofSquares s t)).2.winner = some .black ↔ side = .black ∧
      ∃ v ∈ (b.outcome side (.ofSquares s t)).2.captured,
        (b.relocate (.ofSquares s t)).get v = .king := by
  rw [outcome_eq, winner?_point]
  refine Iff.trans ?_ count_king_captures_lt_iff
  split
  · rename_i h
    -- it is White who has moved his king
    refine iff_of_false (by simp) fun hlt => ?_
    have hblack := (count_king_captures_lt_iff.1 hlt).1
    rw [hst.white_of_king h.1] at hblack
    cases hblack
  · split
    · rename_i hlt
      exact iff_of_true rfl hlt
    · rename_i hle
      exact iff_of_false (by simp) hle

/-- Nobody wins by a move of the other side. -/
theorem winner_eq_side (hst : b.Slide side s t) {w : Side}
    (hw : (b.outcome side (.ofSquares s t)).2.winner = some w) : w = side := by
  cases w with
  | black => exact (hst.winner_eq_black_iff_taken.1 hw).1.symm
  | white =>
    have hking := (hst.winner_eq_white_iff.1 hw).1
    rw [hst.get_relocate_target] at hking
    exact (hst.white_of_king hking).symm

end Slide

theorem winner_eq_side_of_play {m : Move} {r : Report} {w : Side}
    (hp : b.play side m = .ok (b', r)) (hw : r.winner = some w) : w = side := by
  obtain ⟨s, t, rfl, hst, hout⟩ := play_eq_ok_iff.1 hp
  refine hst.winner_eq_side ?_
  rw [hout]
  exact hw

/-! ### A move that is played -/

/-- What a move does, read off the board on which its piece has just been moved: which squares are
taken, each of them once; that these are cleared and nothing else changes; that it is the same in
whatever order the directions are looked at; and that White wins by a king on a corner, Black by
taking a king, and nobody by a move of the other side. -/
theorem play_simultaneous {m : Move} {r : Report} (hp : b.play side m = .ok (b', r)) :
    ∃ s t, m = .ofSquares s t ∧ s ≠ t ∧
      (∀ v, (b.relocate m).get v =
        if s = v then cleared s else if t = v then b.get s else b.get v) ∧
      (∀ v, v ∈ r.captured ↔ (b.relocate m).Falls side t v) ∧ r.captured.Nodup ∧
      (∀ v, b'.get v = if v ∈ r.captured then cleared v else (b.relocate m).get v) ∧
      (∀ ds, ds.Perm Direction.all →
        ((b.relocate m).capturesInOrder ds side m.target).board = b' ∧
        ((b.relocate m).capturesInOrder ds side m.target).taken.Perm r.captured) ∧
      (r.winner = some .white ↔ (b.relocate m).get t = .king ∧ t.isCorner = true) ∧
      (r.winner = some .black ↔
        side = .black ∧ ∃ v ∈ r.captured, (b.relocate m).get v = .king) ∧
      ∀ w, r.winner = some w → w = side := by
  obtain ⟨s, t, rfl, hst, hout⟩ := play_eq_ok_iff.1 hp
  have hwhite := hst.winner_eq_white_iff
  have hblack := hst.winner_eq_black_iff_taken
  rw [hout] at hwhite hblack
  rw [Slide.outcome_eq] at hout
  obtain ⟨rfl, rfl⟩ := Prod.mk.inj hout
  refine ⟨s, t, rfl, hst.ne, get_relocate, fun v => ?_, ?_, fun v => ?_,
    fun ds hds => capturesInOrder_of_perm hds, hwhite, hblack, ?_⟩
  · rw [captures_eq]
    exact mem_victims_iff Direction.mem_all
  · rw [captures_eq]
    exact nodup_victims Direction.nodup_all
  · rw [captures_eq]
    exact get_foldl_clear _ _ v
  · rintro (_ | _) hw
    · exact (hblack.1 hw).1.symm
    · exact (hst.white_of_king (hst.get_relocate_target ▸ (hwhite.1 hw).1)).symm

/-- Two warriors stand beside `(3, 5)`, one of them before the throne, and one of two kings, who is
closed in once a black piece comes there. -/
def crowded : Board :=
  [(⟨4, 5⟩, .white), (⟨3, 6⟩, .white), (⟨3, 7⟩, .black), (⟨3, 4⟩, .king), (⟨3, 3⟩, .black),
    (⟨2, 4⟩, .black), (⟨4, 4⟩, .black), (⟨8, 8⟩, .king), (⟨0, 5⟩, .black)].foldl
    (fun b (x : Point × Cell) => x.1.square?.elim b (b.set · x.2)) bare

theorem play_simultaneous_crowded : ∃ b' r,
    crowded.play .black (.ofSquares ⟨0, 5⟩ ⟨3, 5⟩) = .ok (b', r) ∧
    r.captured = [⟨4, 5⟩, ⟨3, 6⟩, ⟨3, 4⟩] ∧ r.winner = some .black ∧
    (∀ v, v ∈ r.captured ↔
      (crowded.relocate (.ofSquares ⟨0, 5⟩ ⟨3, 5⟩)).Falls .black ⟨3, 5⟩ v) ∧
    ∀ v, b'.get v = if v ∈ r.captured then cleared v
      else (crowded.relocate (.ofSquares ⟨0, 5⟩ ⟨3, 5⟩)).get v := by
  have hrun : (crowded.play .black (.ofSquares ⟨0, 5⟩ ⟨3, 5⟩)).map (·.2) = .ok
      ⟨.ofSquares ⟨0, 5⟩ ⟨3, 5⟩, [⟨4, 5⟩, ⟨3, 6⟩, ⟨3, 4⟩], some .black⟩ := by decide +kernel
  cases hp : crowded.play .black (.ofSquares ⟨0, 5⟩ ⟨3, 5⟩) with
  | error e =>
    rw [hp] at hrun
    cases hrun
  | ok x =>
    rw [hp] at hrun
    obtain ⟨s, t, hm, -, -, hfalls, -, hboard, -⟩ := play_simultaneous hp
    have ht : t = ⟨3, 5⟩ := by
      have := congrArg (·.target.square?) hm
      simpa [Move.ofSquares, Point.square?_point] using this.symm
    have hreport := Except.ok.inj hrun
    exact ⟨x.1, x.2, rfl, congrArg Report.captured hreport, congrArg Report.winner hreport,
      ht ▸ hfalls, hboard⟩

end Board

end Tafl
