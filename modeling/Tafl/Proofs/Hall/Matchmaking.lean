import Mathlib.Data.List.Flatten
import Tafl.Proofs.Hall.Games

/-! # Matchmaking, pair by pair

`Hall.matchmake` opens all tables first and then tells the players about their games. As nobody
sits at two tables, this is the same as opening the tables one by one and telling the two players
at once (`matchmake_eq`). So a pairing is one change of the hall, like the commands. -/

namespace Tafl
open Function (update)

/-- Two guests that are to play each other, with their names, Black first. -/
abbrev Pair := (GuestId × String) × (GuestId × String)

def Pair.ids (ps : List Pair) : List GuestId := ps.flatMap fun p => [p.1.1, p.2.1]

namespace Hall

/-- Opens a table for a pair and seats the two. -/
def seat (h : Hall) (p : Pair) : Hall :=
  { h with tables := h.tables.openFor p.1.2 p.2.2 }
    |>.revise p.1.1 (·.sit (h.tables.opened + 1) .onTurn)
    |>.revise p.2.1 (·.sit (h.tables.opened + 1) .onStand)

def pair (h : Hall) (p : Pair) : Hall :=
  matchmake.announce (h.seat p) ⟨h.tables.opened + 1, p.1.1, p.2.1⟩

def Waits (h : Hall) (e : GuestId × String) : Prop :=
  ∃ g, h.guest? e.1 = some g ∧ g.name = some e.2 ∧ g.phase = .waiting

/-- Pairs of guests that wait, all of them different. -/
structure Lineup (h : Hall) (ps : List Pair) : Prop where
  nodup : (Pair.ids ps).Nodup
  waits : ∀ p ∈ ps, h.Waits p.1 ∧ h.Waits p.2

variable {h : Hall} {first : Nat} {i : GuestId} {g gi go : Guest} {p : Pair} {ps : List Pair}

/-! ### One pair -/

theorem guest?_seat (hi : h.guest? p.1.1 = some gi) (ho : h.guest? p.2.1 = some go)
    (hne : p.1.1 ≠ p.2.1) : (h.seat p).guest? =
      update (update h.guest? p.1.1 (some (gi.sit (h.tables.opened + 1) .onTurn))) p.2.1
        (some (go.sit (h.tables.opened + 1) .onStand)) := by
  simp [seat, guest?_revise, hi, ho, Function.update_of_ne hne.symm]

theorem guest?_seat_of_ne (hi : i ≠ p.1.1) (ho : i ≠ p.2.1) : (h.seat p).guest? i = h.guest? i := by
  simp [seat, guest?_revise, hi, ho]

@[simp] theorem line?_seat : (h.seat p).line? i = h.line? i := by
  simp [seat, line?_revise, Guest.sit]

@[simp] theorem guest?_announce (q : Pairing) : (matchmake.announce h q).guest? = h.guest? := by
  simp [matchmake.announce]

@[simp] theorem tables_announce (q : Pairing) : (matchmake.announce h q).tables = h.tables := by
  simp [matchmake.announce]

@[simp] theorem decayBudget_announce (q : Pairing) :
    (matchmake.announce h q).decayBudget = h.decayBudget := by
  simp [matchmake.announce]

theorem opened_pair : (h.pair p).tables.opened = h.tables.opened + 1 := by
  rw [pair, tables_announce]
  rfl

theorem Orderly.table_of_waiting (ho : h.Orderly first) (hg : h.guest? i = some g)
    (hp : g.phase = .waiting) : g.table = none := by
  have ha : g.phase.isAway = false := by rw [hp]; rfl
  have hl := Guest.logical_of_awake ha
  cases hk : g.table with
  | none => rfl
  | some k =>
    obtain ⟨t, s, -, -, -, -, -, hs⟩ := ho.seat hg hk
    rw [hl, hp, Table.phaseOf] at hs
    split at hs <;> cases hs

theorem Orderly.seat_pair (ho : h.Orderly first) (hf : first ≤ h.tables.opened + 1)
    (hne : p.1.1 ≠ p.2.1) (hb : h.Waits p.1) (hw : h.Waits p.2) : (h.seat p).Orderly first := by
  obtain ⟨gi, hi, hni, hpi⟩ := hb
  obtain ⟨go, ho', hno, hpo⟩ := hw
  unfold Orderly
  rw [guest?_seat hi ho' hne]
  have ht : (h.seat p).tables.get? = _ := h.tables.get?_openFor_update p.1.2 p.2.2
  rw [Tables.since_update ht hf]
  exact InOrder.sit ho (Tables.since_eq_none h.tables.get?_next) hne hi ho' hni hno
    (ho.table_of_waiting hi hpi) (ho.table_of_waiting ho' hpo)

theorem Orderly.pair (ho : h.Orderly first) (hf : first ≤ h.tables.opened + 1)
    (hne : p.1.1 ≠ p.2.1) (hb : h.Waits p.1) (hw : h.Waits p.2) : (h.pair p).Orderly first := by
  have := ho.seat_pair hf hne hb hw
  unfold Orderly
  rwa [Hall.pair, guest?_announce, tables_announce]

def newTable (h : Hall) (p : Pair) : Table :=
  { id := h.tables.opened + 1, black := p.1.2, white := p.2.2 }

theorem tables_pair : (h.pair p).tables.get? =
    update h.tables.get? (h.tables.opened + 1) (some (h.newTable p)) := by
  rw [pair, tables_announce]
  exact h.tables.get?_openFor_update ..

theorem guest?_pair (hi : h.guest? p.1.1 = some gi) (ho : h.guest? p.2.1 = some go)
    (hne : p.1.1 ≠ p.2.1) : (h.pair p).guest? =
      update (update h.guest? p.1.1 (some (gi.sit (h.tables.opened + 1) .onTurn))) p.2.1
        (some (go.sit (h.tables.opened + 1) .onStand)) := by
  rw [pair, guest?_announce, guest?_seat hi ho hne]

theorem sentOn_announce {q : Pairing} {t : Table} (hb : h.guest? q.black = some gi)
    (hw : h.guest? q.white = some go) (htb : h.table? q.black = some t)
    (htw : h.table? q.white = some t) (hnb : gi.name = some (t.player .black))
    (hnw : go.name = some (t.player .white)) (hne : t.black ≠ t.white) (l : Line) :
    (matchmake.announce h q).sentOn l = h.sentOn l ++ news gi.line (t.briefing .black) l ++
      news go.line (t.briefing .white) l := by
  have hs : { h with tally.tablesOpened := h.tally.tablesOpened + 1 }.sentOn l = h.sentOn l := rfl
  -- counting the table is of no account
  unfold matchmake.announce
  change { h with tally.tablesOpened := h.tally.tablesOpened + 1 }.guest? _ = _ at hb hw
  change { h with tally.tablesOpened := h.tally.tablesOpened + 1 }.table? _ = _ at htb htw
  rw [← hs]
  generalize { h with tally.tablesOpened := h.tally.tablesOpened + 1 } = k at *
  have hw' : (k.tell q.black (t.briefing .black)).guest? q.white = some go := by rwa [guest?_tell]
  have htw' : (k.tell q.black (t.briefing .black)).table? q.white = some t := by rwa [table?_tell]
  rw [sendGame_eq hb htb hnb hne, sendGame_eq hw' htw' hnw hne, sentOn_tell, sentOn_tell, line?_tell,
    line?_of_guest? hb, line?_of_guest? hw]

theorem sentOn_pair (hi : h.guest? p.1.1 = some gi) (ho : h.guest? p.2.1 = some go)
    (hni : gi.name = some p.1.2) (hno : go.name = some p.2.2) (hne : p.1.1 ≠ p.2.1)
    (hne' : p.1.2 ≠ p.2.2) (l : Line) : (h.pair p).sentOn l =
      h.sentOn l ++ news gi.line ((h.newTable p).briefing .black) l ++
        news go.line ((h.newTable p).briefing .white) l := by
  have hg := guest?_seat hi ho hne
  have ht : (h.seat p).tables.get? (h.tables.opened + 1) = some (h.newTable p) := by
    rw [← tables_announce (h := h.seat p) ⟨h.tables.opened + 1, p.1.1, p.2.1⟩, ← pair, tables_pair,
      Function.update_self]
  have hi' : (h.seat p).guest? p.1.1 = some (gi.sit (h.tables.opened + 1) .onTurn) := by
    rw [hg, Function.update_of_ne hne, Function.update_self]
  have ho' : (h.seat p).guest? p.2.1 = some (go.sit (h.tables.opened + 1) .onStand) := by
    rw [hg, Function.update_self]
  have hl (g : Guest) (k : Nat) (q : Phase) : (g.sit k q).line = g.line := Guest.line_settle q
  rw [pair, sentOn_announce (q := ⟨_, p.1.1, p.2.1⟩) (t := h.newTable p) hi' ho', hl, hl]
  · rfl
  · simp [table?_of_guest? hi', Guest.sit, ht]
  · simp [table?_of_guest? ho', Guest.sit, ht]
  · simpa [Guest.sit, newTable, Table.player] using hni
  · simpa [Guest.sit, newTable, Table.player] using hno
  · exact hne'

/-! ### Seating and telling commute -/

theorem send_seat (n : Notice) : (h.seat p).send i n = (h.send i n).seat p := by
  unfold send
  rw [line?_seat]
  cases h.line? i <;> rfl

theorem sendGame_seat (ho : h.Orderly first) (hi : i ≠ p.1.1) (hj : i ≠ p.2.1) :
    (h.seat p).sendGame i = (h.sendGame i).seat p := by
  have hg : (h.seat p).guest? i = h.guest? i := guest?_seat_of_ne hi hj
  -- the table that is opened is not the one of the guest
  have ht : (h.seat p).table? i = h.table? i := by
    refine table?_congr hg fun g k hgi hk => (h.tables.get?_openFor p.1.2 p.2.2 k).trans (if_neg ?_)
    rintro rfl
    exact ho.table_ne_of_eq_none hgi h.tables.get?_next hk
  unfold sendGame
  rw [hg, ht]
  cases h.guest? i with
  | none => rfl
  | some g =>
    cases h.table? i with
    | none => rfl
    | some t => simp only [send_seat]

theorem announce_seat (ho : h.Orderly first) {q : Pairing} (hb : q.black ∉ Pair.ids [p])
    (hw : q.white ∉ Pair.ids [p]) :
    matchmake.announce (h.seat p) q = (matchmake.announce h q).seat p := by
  simp only [Pair.ids, List.flatMap_cons, List.flatMap_nil, List.append_nil, List.mem_cons,
    List.not_mem_nil, or_false, not_or] at hb hw
  unfold matchmake.announce
  have ho₁ : { h with tally.tablesOpened := h.tally.tablesOpened + 1 }.Orderly first := ho
  have h₁ := sendGame_seat ho₁ hb.1 hb.2
  have ho₂ : ({ h with tally.tablesOpened := h.tally.tablesOpened + 1 }.sendGame
      q.black).Orderly first := by
    unfold Orderly
    rw [guest?_sendGame, tables_sendGame]
    exact ho₁
  rw [← sendGame_seat ho₂ hw.1 hw.2, ← h₁]
  rfl

/-! ### All pairs -/

namespace Lineup

theorem ne (hl : h.Lineup (p :: ps)) : p.1.1 ≠ p.2.1 := by
  have := hl.nodup
  simp only [Pair.ids, List.flatMap_cons, List.cons_append, List.nil_append, List.nodup_cons,
    List.mem_cons, not_or] at this
  exact this.1.1

theorem not_mem_ids (hl : h.Lineup (p :: ps)) : p.1.1 ∉ Pair.ids ps ∧ p.2.1 ∉ Pair.ids ps := by
  have := hl.nodup
  simp only [Pair.ids, List.flatMap_cons, List.cons_append, List.nil_append, List.nodup_cons,
    List.mem_cons, not_or] at this
  exact ⟨this.1.2, this.2.1⟩

theorem mem_ids {q : Pair} (hq : q ∈ ps) : q.1.1 ∈ Pair.ids ps ∧ q.2.1 ∈ Pair.ids ps :=
  ⟨List.mem_flatMap.2 ⟨q, hq, by simp⟩, List.mem_flatMap.2 ⟨q, hq, by simp⟩⟩

theorem tail_seat (hl : h.Lineup (p :: ps)) : (h.seat p).Lineup ps where
  nodup := (List.nodup_append.1 (show (_ ++ Pair.ids ps).Nodup from hl.nodup)).2.1
  waits q hq := by
    obtain ⟨hb, hw⟩ := hl.waits q (List.mem_cons_of_mem _ hq)
    obtain ⟨hpb, hpw⟩ := hl.not_mem_ids
    obtain ⟨hqb, hqw⟩ := mem_ids hq
    have stays {e : GuestId × String} (he : h.Waits e) (hm : e.1 ∈ Pair.ids ps) :
        (h.seat p).Waits e := by
      obtain ⟨g, hg, hn, hp⟩ := he
      refine ⟨g, ?_, hn, hp⟩
      rw [guest?_seat_of_ne (fun e => hpb (e ▸ hm)) (fun e => hpw (e ▸ hm)), hg]
    exact ⟨stays hb hqb, stays hw hqw⟩

theorem of_guest? {h' : Hall} (hl : h.Lineup ps) (he : h'.guest? = h.guest?) : h'.Lineup ps where
  nodup := hl.nodup
  waits q hq := by
    unfold Waits
    rw [he]
    exact hl.waits q hq

theorem tail_pair (hl : h.Lineup (p :: ps)) : (h.pair p).Lineup ps :=
  hl.tail_seat.of_guest? (guest?_announce _)

end Lineup

theorem announce_foldl_seat (ho : h.Orderly first) (hf : first ≤ h.tables.opened + 1)
    (hl : h.Lineup ps) {q : Pairing}
    (hb : q.black ∉ Pair.ids ps) (hw : q.white ∉ Pair.ids ps) :
    matchmake.announce (ps.foldl seat h) q = ps.foldl seat (matchmake.announce h q) := by
  induction ps generalizing h with
  | nil => rfl
  | cons p ps ih =>
    obtain ⟨hpb, hpw⟩ := hl.waits p (List.mem_cons_self ..)
    simp only [Pair.ids, List.flatMap_cons, List.mem_append, not_or] at hb hw
    rw [List.foldl_cons,
      ih (ho.seat_pair hf hl.ne hpb hpw) (Nat.le_succ_of_le hf) hl.tail_seat hb.2 hw.2,
      announce_seat ho (by simpa [Pair.ids] using hb.1) (by simpa [Pair.ids] using hw.1)]
    rfl

/-- The pairings of pairs when `k` tables were opened before. -/
def pairings : Nat → List Pair → List Pairing
  | _, [] => []
  | k, p :: ps => ⟨k + 1, p.1.1, p.2.1⟩ :: pairings (k + 1) ps

theorem foldl_pair (ho : h.Orderly first) (hf : first ≤ h.tables.opened + 1)
    (hl : h.Lineup ps) :
    (pairings h.tables.opened ps).foldl matchmake.announce (ps.foldl seat h) = ps.foldl pair h := by
  induction ps generalizing h with
  | nil => rfl
  | cons p ps ih =>
    obtain ⟨hpb, hpw⟩ := hl.waits p (List.mem_cons_self ..)
    have hfirst : first ≤ (h.pair p).tables.opened + 1 := by
      rw [opened_pair]
      exact Nat.le_succ_of_le hf
    -- the first pair can be told before the others are seated
    rw [pairings, List.foldl_cons, List.foldl_cons, List.foldl_cons,
      announce_foldl_seat (ho.seat_pair hf hl.ne hpb hpw) (Nat.le_succ_of_le hf) hl.tail_seat
        hl.not_mem_ids.1 hl.not_mem_ids.2, ← opened_pair (p := p)]
    exact ih (ho.pair hf hl.ne hpb hpw) hfirst hl.tail_pair

theorem foldl_seat (ps : List Pair) (h : Hall) (m : Matching) (ht : m.tables = h.tables)
    (hr : m.roster = h.roster) :
    { h with tables := (ps.foldl Matching.seat m).tables,
             roster := (ps.foldl Matching.seat m).roster } = ps.foldl seat h ∧
      (ps.foldl Matching.seat m).pairings = m.pairings ++ pairings h.tables.opened ps := by
  induction ps generalizing h m with
  | nil =>
    obtain ⟨ts, r, qs⟩ := m
    subst ht hr
    simp [pairings]
  | cons p ps ih =>
    obtain ⟨ts, r, qs⟩ := m
    subst ht hr
    obtain ⟨hs, hq⟩ := ih (h.seat p) (Matching.seat ⟨h.tables, h.roster, qs⟩ p) rfl rfl
    refine ⟨hs, ?_⟩
    rw [List.foldl_cons, hq, pairings]
    exact List.append_assoc qs [_] _

/-! ### Who waits -/

theorem pairUp_sublist {α : Type} (l : List α) :
    List.Sublist ((pairUp l).flatMap fun p => [p.1, p.2]) l := by
  induction l using pairUp.induct with
  | case1 a b r ih =>
    rw [pairUp]
    exact (ih.cons_cons b).cons_cons a
  | case2 l h =>
    rw [pairUp]
    · exact List.nil_sublist l
    · exact h

theorem mem_waiting {e : GuestId × String} (he : e ∈ h.roster.waiting) : h.Waits e := by
  obtain ⟨⟨j, g⟩, hg, he⟩ := List.mem_filterMap.1 he
  dsimp only at he
  split at he
  · rename_i hp
    obtain ⟨n, hn, rfl⟩ := Option.map_eq_some_iff.1 he
    exact ⟨g, Roster.get?_eq_some_iff.2 hg, hn, hp⟩
  · cases he

theorem nodup_waiting (r : Roster) : (r.waiting.map Prod.fst).Nodup := by
  refine r.nodup.sublist ?_
  unfold Roster.waiting
  induction r.entries with
  | nil => exact List.nil_sublist _
  | cons e es ih =>
    rw [List.filterMap_cons, List.map_cons]
    split
    · exact ih.cons e.1
    · rename_i x hx
      obtain ⟨n, -, rfl⟩ : ∃ n, e.2.name = some n ∧ (e.1, n) = x := by
        split at hx
        · exact Option.map_eq_some_iff.1 hx
        · cases hx
      exact ih.cons_cons e.1

def pairs (h : Hall) : List Pair := (pairUp h.roster.waiting).take h.tables.free

theorem lineup_pairs (h : Hall) : h.Lineup h.pairs := by
  have hsub : List.Sublist (h.pairs.flatMap fun p => [p.1, p.2]) h.roster.waiting :=
    ((List.take_sublist _ _).flatMap _).trans (pairUp_sublist _)
  refine ⟨?_, fun p hp => ?_⟩
  · have hids : Pair.ids h.pairs = (h.pairs.flatMap fun p => [p.1, p.2]).map Prod.fst := by
      simp [Pair.ids, List.map_flatMap]
    rw [hids]
    exact (nodup_waiting h.roster).sublist (hsub.map _)
  · have hmem {e : GuestId × String} (he : e ∈ [p.1, p.2]) : e ∈ h.roster.waiting :=
      hsub.subset (List.mem_flatMap.2 ⟨p, hp, he⟩)
    exact ⟨mem_waiting (hmem (by simp)), mem_waiting (hmem (by simp))⟩

/-- Matchmaking seats all pairs, and tells them then. -/
theorem matchmake_eq_announce (h : Hall) : h.matchmake =
    (pairings h.tables.opened h.pairs).foldl matchmake.announce (h.pairs.foldl seat h) := by
  obtain ⟨hs, hq⟩ := foldl_seat h.pairs h { tables := h.tables, roster := h.roster } rfl rfl
  rw [← hs]
  exact congrArg (fun qs => List.foldl matchmake.announce _ qs) hq

/-- Matchmaking makes one pair after the other. -/
theorem matchmake_eq (ho : h.Orderly first) (hf : first ≤ h.tables.opened + 1) :
    h.matchmake = h.pairs.foldl pair h := by
  rw [matchmake_eq_announce, foldl_pair ho hf h.lineup_pairs]

end Hall

end Tafl
