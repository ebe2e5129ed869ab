import Tafl.Proofs.Board.Moves
import Tafl.Proofs.Board.Neighbours

/-! # What captures do to a board

`takeAround_induct` follows a property of the board through everything that is taken. With it: the
ground shows where a piece was taken, the side that moves loses nothing and the other side just
what is taken (`force_captures`), and a black move takes the king if and only if he is surrounded
beside it once the warriors are gone (`count_king_captures`). -/

namespace Tafl

namespace Board
variable {b : Board} {side u : Side} {p : Point} {d : Direction} {s : Square}
  {find : Board → Direction → Option Square} {t : Taking}

/-! ### One direction after the other -/

/-- Takes what `find` finds in one direction. -/
def takeOne (find : Board → Direction → Option Square) (t : Taking) (d : Direction) : Taking :=
  (find t.board d).elim t t.take

/-- What holds at first and after each piece that is taken holds in the end. -/
theorem foldl_takeOne_induct {P : Taking → Prop} (ds : List Direction) (first : P t)
    (take : ∀ t d s, P t → find t.board d = some s → P (t.take s)) :
    P (ds.foldl (takeOne find) t) := by
  induction ds generalizing t with
  | nil => exact first
  | cons d ds ih =>
    refine ih ?_
    unfold takeOne
    cases h : find t.board d with
    | none => exact first
    | some s => exact take t d s first h

theorem takeAround_induct {P : Taking → Prop} (first : P t)
    (take : ∀ t d s, P t → find t.board d = some s → P (t.take s)) : P (takeAround find t) :=
  foldl_takeOne_induct Direction.all first take

theorem takeAround_of_none (h : ∀ d, find t.board d = none) : takeAround find t = t := by
  change Direction.all.foldl (takeOne find) t = t
  induction Direction.all with
  | nil => rfl
  | cons d ds ih =>
    have hd : takeOne find t d = t := by rw [takeOne, h]; rfl
    rwa [List.foldl_cons, hd]

/-- If there is something to take at first, something is taken. -/
theorem length_lt_takeAround (find : Board → Direction → Option Square)
    (h : find t.board d = some s) :
    t.taken.length < (takeAround find t).taken.length := by
  have hd : d ∈ Direction.all := d.mem_all
  change _ < (Direction.all.foldl (takeOne find) t).taken.length
  generalize Direction.all = ds at hd
  induction ds with
  | nil => cases hd
  | cons e ds ih =>
    rw [List.foldl_cons]
    cases he : find t.board e with
    | none =>
      have hstay : takeOne find t e = t := by rw [takeOne, he]; rfl
      rw [hstay]
      refine ih ((List.mem_cons.1 hd).resolve_left ?_)
      rintro rfl
      rw [h] at he
      cases he
    | some v =>
      have htake : takeOne find t e = t.take v := by rw [takeOne, he]; rfl
      rw [htake]
      refine foldl_takeOne_induct (P := fun t' => t.taken.length < t'.taken.length) ds ?_ ?_
      · simp [Taking.take]
      · intro t' _ s h _
        simp only [Taking.take, List.length_append, List.length_singleton]
        omega

theorem warriorTaken?_eq_some (h : b.warriorTaken? side p d = some s) :
    p.step d 1 = some s ∧ b.get s = side.opponent.warrior := by
  unfold warriorTaken? at h
  split at h
  · rename_i hs _
    split at h
    · rename_i hc
      obtain rfl := Option.some.inj h
      exact ⟨hs, hc.1⟩
    · cases h
  · cases h

theorem kingTaken?_eq_some_iff : b.kingTaken? p d = some s ↔
    p.step d 1 = some s ∧ b.get s = .king ∧ b.isSurrounded s = true := by
  simp [kingTaken?, Option.filter_eq_some_iff]

/-! ### Warriors, and then the king -/

/-- The board once the arrival of a piece at `p` has taken its warriors, and these. -/
def warriorsTaken (b : Board) (side : Side) (p : Point) : Taking :=
  takeAround (fun b => b.warriorTaken? side p) ⟨b, []⟩

theorem captures_black : b.captures .black p =
    takeAround (fun b => b.kingTaken? p) (b.warriorsTaken .black p) := rfl

theorem captures_white : b.captures .white p = b.warriorsTaken .white p := rfl

theorem get_warriorsTaken (b : Board) (side : Side) (p : Point) (v : Square) :
    (b.warriorsTaken side p).board.get v = b.get v ∨
      b.get v = side.opponent.warrior ∧ (b.warriorsTaken side p).board.get v = cleared v := by
  refine takeAround_induct (P := fun t => t.board.get v = b.get v ∨
    b.get v = side.opponent.warrior ∧ t.board.get v = cleared v) (.inl rfl) fun t d s h hs => ?_
  obtain ⟨-, hw⟩ := warriorTaken?_eq_some hs
  rw [Taking.take, get_clear]
  split
  · rename_i e
    subst e
    rcases h with h | h
    · exact .inr ⟨h ▸ hw, rfl⟩
    · exact .inr ⟨h.1, rfl⟩
  · exact h

theorem get_warriorsTaken_eq_king {v : Square} :
    (b.warriorsTaken side p).board.get v = .king ↔ b.get v = .king := by
  rcases b.get_warriorsTaken side p v with h | ⟨hw, hc⟩
  · rw [h]
  · rw [hc, hw]
    constructor
    · exact fun e => absurd e (cleared_ne_king v)
    · intro e
      cases side <;> cases e

theorem count_king_warriorsTaken (b : Board) (side : Side) (p : Point) :
    (b.warriorsTaken side p).board.count .king = b.count .king := by
  rw [count_eq_length, count_eq_length]
  congr 1
  refine List.filter_congr fun v _ => ?_
  rw [decide_eq_decide]
  exact get_warriorsTaken_eq_king

/-- Whatever is taken belongs to the other side. -/
theorem captures_induct (side : Side) (p : Point) {P : Taking → Prop} (first : P ⟨b, []⟩)
    (take : ∀ t s, P t → side.opponent.owns (t.board.get s) = true → P (t.take s)) :
    P (b.captures side p) := by
  have hw : P (b.warriorsTaken side p) := by
    refine takeAround_induct first fun t d s h hs => take t s h ?_
    rw [(warriorTaken?_eq_some hs).2]
    exact Side.owns_iff.2 (.inl rfl)
  cases side with
  | white => exact hw
  | black =>
    rw [captures_black]
    refine takeAround_induct hw fun t d s h hs => take t s h ?_
    rw [(kingTaken?_eq_some_iff.1 hs).2.1]
    rfl

theorem Grounded.captures (h : b.Grounded) (hl : side = .black → b.AtLarge) :
    (b.captures side p).board.Grounded := by
  refine (captures_induct side p (P := fun t => t.board.Grounded ∧ (side = .black → t.board.AtLarge))
    ⟨h, hl⟩ fun t s ⟨h, hl⟩ hs => ⟨h.clear ?_, fun e => (hl e).clear⟩).1
  rcases Side.owns_iff.1 hs with hw | ⟨ho, hk⟩
  · exact h.not_corner_of_warrior hw
  · refine hl ?_ s hk
    cases side
    · rfl
    · cases ho

theorem force_captures : (b.captures side p).board.force side = b.force side ∧
    (b.captures side p).board.force side.opponent + (b.captures side p).taken.length =
      b.force side.opponent := by
  refine captures_induct side p (P := fun t => t.board.force side = b.force side ∧
    t.board.force side.opponent + t.taken.length = b.force side.opponent) ⟨rfl, rfl⟩
    fun t s ⟨hown, hother⟩ hs => ?_
  have h₁ := t.board.force_clear s side
  have h₂ := t.board.force_clear s side.opponent
  rw [Side.not_owns_of_opponent hs] at h₁
  rw [hs] at h₂
  simp only [Bool.false_eq_true, if_false, if_true] at h₁ h₂
  simp only [Taking.take, List.length_append, List.length_singleton]
  omega

theorem count_king_le_captures (b : Board) (side : Side) (p : Point) :
    (b.captures side p).board.count .king ≤ b.count .king := by
  refine captures_induct side p (P := fun t => t.board.count .king ≤ b.count .king) (Nat.le_refl _)
    fun t s h _ => ?_
  have := t.board.count_king_clear s
  simp only [Taking.take]
  omega

/-- Black takes a king if and only if one stands beside the piece that moved, surrounded once the
warriors are gone. -/
theorem count_king_captures : (b.captures .black p).board.count .king < b.count .king ↔
    ∃ d k, p.step d 1 = some k ∧ (b.warriorsTaken .black p).board.get k = .king ∧
      (b.warriorsTaken .black p).board.isSurrounded k = true := by
  have hb := b.count_king_warriorsTaken .black p
  rw [captures_black, ← hb]
  clear hb
  generalize b.warriorsTaken .black p = t
  constructor
  · intro h
    by_contra hnone
    have : takeAround (fun b => b.kingTaken? p) t = t := by
      refine takeAround_of_none fun d => Option.eq_none_iff_forall_ne_some.2 fun k hk => hnone ?_
      exact ⟨d, k, kingTaken?_eq_some_iff.1 hk⟩
    rw [this] at h
    exact Nat.lt_irrefl _ h
  · rintro ⟨d, k, hk⟩
    have hlt := length_lt_takeAround (fun b => b.kingTaken? p) (kingTaken?_eq_some_iff.2 hk)
    have hsum : (takeAround (fun b => b.kingTaken? p) t).board.count .king +
        (takeAround (fun b => b.kingTaken? p) t).taken.length =
        t.board.count .king + t.taken.length := by
      refine takeAround_induct (P := fun t' => t'.board.count .king + t'.taken.length =
        t.board.count .king + t.taken.length) rfl fun t' d s h hs => ?_
      have := t'.board.count_king_clear s
      rw [if_pos (kingTaken?_eq_some_iff.1 hs).2.1] at this
      simp only [Taking.take, List.length_append, List.length_singleton]
      omega
    omega

end Board

end Tafl
