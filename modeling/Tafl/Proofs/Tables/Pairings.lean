import Tafl.Proofs.Hall.Views

/-! # Who plays whom

The guests that are ready to play sit down two by two, as long as there are tables.
`Matching.run_seats` says what has become of each pair, and of everybody and everything else.
`Matching.scan` does the same in one pass over the guests: whoever is ready waits for the next one
who is, and before every guest it is asked whether there is a table left (`scan_eq_run`). -/

namespace Tafl

section
variable {α : Type}

theorem length_pairUp (l : List α) : (pairUp l).length = l.length / 2 := by
  induction l using pairUp.induct with
  | case1 a b r ih =>
    rw [pairUp, List.length_cons, ih, List.length_cons, List.length_cons]
    omega
  | case2 l h =>
    match l, h with
    | [], _ | [_], _ => simp [pairUp]
    | a :: b :: r, h => exact absurd rfl (h a b r)

theorem getElem?_pairUp {l : List α} {j : Nat} {a b : α} (ha : l[2 * j]? = some a)
    (hb : l[2 * j + 1]? = some b) : (pairUp l)[j]? = some (a, b) := by
  induction j generalizing l with
  | zero =>
    match l, ha, hb with
    | x :: y :: r, ha, hb =>
      obtain rfl : x = a := by simpa using ha
      obtain rfl : y = b := by simpa using hb
      rfl
  | succ j ih =>
    match l, ha, hb with
    | x :: y :: r, ha, hb => exact ih ha hb

end

/-! ### Who is ready -/

namespace Guest
variable {g : Guest}

def isReady (g : Guest) : Bool := g.phase = .waiting && g.name.isSome

theorem isReady_iff : g.isReady = true ↔ g.phase = .waiting ∧ g.name ≠ none := by
  simp [isReady, Option.isSome_iff_ne_none]

theorem not_isReady_iff : ¬ g.isReady = true ↔ g.phase ≠ .waiting ∨ g.name = none := by
  rw [isReady_iff, not_and_or, not_not]

theorem sit_of_waiting (hp : g.phase = .waiting) (k : Nat) (p : Phase) :
    g.sit k p = { g with table := some k, phase := p } := by
  rw [sit, settle, hp]
  rfl

/-- Nobody is ready to play who plays already. -/
theorem isReady_sit {k : Nat} {p : Phase} (hp : p ≠ .waiting) : (g.sit k p).isReady = false := by
  have hphase : (g.sit k p).phase ≠ .waiting := by
    rw [sit, phase_settle]
    split
    · rename_i ha
      intro e
      rw [e] at ha
      cases ha
    · exact hp
  simp [isReady, hphase]

end Guest

namespace Roster
variable {r : Roster} {e e' : GuestId × Guest} {j k : Nat}

def ready (r : Roster) : List (GuestId × Guest) := r.entries.filter (·.2.isReady)

def byName (e : GuestId × Guest) : GuestId × String := (e.1, e.2.name.getD "")

theorem waiting_eq (r : Roster) : r.waiting = r.ready.map byName := by
  unfold waiting ready
  induction r.entries with
  | nil => rfl
  | cons e es ih =>
    rw [List.filterMap_cons, ih, List.filter_cons]
    cases hn : e.2.name <;> by_cases hp : e.2.phase = .waiting <;>
      simp [Guest.isReady, byName, hn, hp]

theorem get?_of_ready (h : r.ready[j]? = some e) : r.get? e.1 = some e.2 :=
  get?_eq_some_iff.2 (List.mem_of_mem_filter (List.mem_of_getElem? h))

theorem isReady_of_ready (h : r.ready[j]? = some e) : e.2.phase = .waiting ∧ e.2.name ≠ none := by
  exact Guest.isReady_iff.1 (List.mem_filter.1 (List.mem_of_getElem? h)).2

theorem ne_of_ready (hj : r.ready[j]? = some e) (hk : r.ready[k]? = some e') (hjk : j ≠ k) :
    e.1 ≠ e'.1 := by
  intro he
  have hn : (r.ready.map Prod.fst).Nodup := r.nodup.sublist (List.filter_sublist.map _)
  have hlt : j < (r.ready.map Prod.fst).length := by
    rw [List.length_map]
    exact (List.getElem?_eq_some_iff.1 hj).1
  refine hjk ((List.getElem?_inj hlt hn).1 ?_)
  rw [List.getElem?_map, List.getElem?_map, hj, hk, Option.map_some, Option.map_some, he]

/-- Whoever sits down is not ready any more, and everybody else is as before. -/
theorem ready_modify_sit (r : Roster) (i : GuestId) (k : Nat) {p : Phase} (hp : p ≠ .waiting) :
    (r.modify i (·.sit k p)).ready = r.ready.filter (·.1 ≠ i) := by
  unfold ready modify
  dsimp only
  induction r.entries with
  | nil => rfl
  | cons e es ih =>
    rw [List.map_cons, List.filter_cons, List.filter_cons, ih]
    by_cases hi : e.1 = i
    · simp only [if_pos hi, Guest.isReady_sit hp, Bool.false_eq_true, if_false]
      split
      · rw [List.filter_cons_of_neg (by simpa using hi)]
      · rfl
    · rw [if_neg hi]
      split
      · rw [List.filter_cons_of_pos (by simpa using hi)]
      · rfl

theorem drop_ready {n : Nat} {b w : GuestId × Guest} (hb : r.ready[2 * n]? = some b)
    (hw : r.ready[2 * n + 1]? = some w) :
    r.ready.drop (2 * n) = b :: w :: r.ready.drop (2 * (n + 1)) := by
  obtain ⟨hlb, rfl⟩ := List.getElem?_eq_some_iff.1 hb
  obtain ⟨hlw, rfl⟩ := List.getElem?_eq_some_iff.1 hw
  rw [List.drop_eq_getElem_cons hlb, List.drop_eq_getElem_cons hlw]
  rfl

theorem ne_of_mem_drop_ready (hj : r.ready[j]? = some e) (hjk : j < k)
    (he' : e' ∈ r.ready.drop k) : e'.1 ≠ e.1 := by
  obtain ⟨l, hl⟩ := List.mem_iff_getElem?.1 he'
  rw [List.getElem?_drop] at hl
  exact ne_of_ready hl hj (by omega)

theorem ne_of_mem_take_ready (hj : r.ready[j]? = some e) (hjk : k ≤ j)
    (he' : e' ∈ r.ready.take k) : e'.1 ≠ e.1 := by
  obtain ⟨l, hl⟩ := List.mem_iff_getElem?.1 he'
  rw [List.getElem?_take] at hl
  split at hl
  · exact ne_of_ready hl hj (by omega)
  · cases hl

end Roster

namespace Matching
variable {ts : Tables} {r : Roster} {n : Nat} {m : Matching}
  {p : (GuestId × String) × (GuestId × String)}

/-! ### Pair by pair -/

theorem get?_seat (hne : p.2.1 ≠ p.1.1) (i : GuestId) : (m.seat p).roster.get? i =
    if i = p.2.1 then (m.roster.get? i).map (·.sit (m.tables.opened + 1) .onStand)
    else if i = p.1.1 then (m.roster.get? i).map (·.sit (m.tables.opened + 1) .onTurn)
    else m.roster.get? i := by
  simp only [seat, Roster.get?_modify, Tables.openFor]
  by_cases hi : i = p.2.1
  · simp [hi, hne]
  · simp [hi]

theorem running_seat : (m.seat p).tables.running =
    m.tables.running ++ [{ id := m.tables.opened + 1, black := p.1.2, white := p.2.2 }] := rfl

theorem pairings_seat :
    (m.seat p).pairings = m.pairings ++ [⟨m.tables.opened + 1, p.1.1, p.2.1⟩] := rfl

theorem ready_seat : (m.seat p).roster.ready =
    (m.roster.ready.filter (·.1 ≠ p.1.1)).filter (·.1 ≠ p.2.1) := by
  rw [← Roster.ready_modify_sit m.roster p.1.1 (m.tables.opened + 1) (p := .onTurn) nofun,
    ← Roster.ready_modify_sit _ p.2.1 (m.tables.opened + 1) (p := .onStand) nofun]
  rfl

/-- The pair `j` of those who are ready sits at the table that was opened for it, the earlier guest
as Black. -/
def Hosts (ts : Tables) (r : Roster) (j : Nat) (m : Matching) : Prop :=
  ∃ b w nb nw, r.ready[2 * j]? = some b ∧ r.ready[2 * j + 1]? = some w ∧
    b.2.name = some nb ∧ w.2.name = some nw ∧
    m.pairings[j]? = some ⟨ts.opened + j + 1, b.1, w.1⟩ ∧
    m.tables.running[ts.size + j]? = some { id := ts.opened + j + 1, black := nb, white := nw } ∧
    m.roster.get? b.1 = some { b.2 with table := some (ts.opened + j + 1), phase := .onTurn } ∧
    m.roster.get? w.1 = some { w.2 with table := some (ts.opened + j + 1), phase := .onStand }

/-- The first `n` pairs of those who are ready have sat down, each at a new table, and nothing else
has changed. -/
structure Seats (ts : Tables) (r : Roster) (n : Nat) (m : Matching) : Prop where
  limit : m.tables.limit = ts.limit
  opened : m.tables.opened = ts.opened + n
  old : ts.running <+: m.tables.running
  size : m.tables.size = ts.size + n
  length : m.pairings.length = n
  ids : m.roster.ids = r.ids
  pairs : ∀ j < n, Hosts ts r j m
  others : ∀ i, (∀ e ∈ r.ready.take (2 * n), e.1 ≠ i) → m.roster.get? i = r.get? i
  ready : m.roster.ready = r.ready.drop (2 * n)

namespace Seats

theorem refl (ts : Tables) (r : Roster) : Seats ts r 0 { tables := ts, roster := r } :=
  ⟨rfl, rfl, List.prefix_refl _, rfl, rfl, rfl, nofun, fun _ _ => rfl, rfl⟩

section
variable {b w : GuestId × Guest} {nb nw : String} {j : Nat} (s : Seats ts r n m)
  (hb : r.ready[2 * n]? = some b) (hw : r.ready[2 * n + 1]? = some w)
include s hb hw

/-- A pair that sits already stays where it is. -/
theorem hosts_of_lt (hj : j < n) : Hosts ts r j (m.seat ((b.1, nb), (w.1, nw))) := by
  have hget := get?_seat (m := m) (p := ((b.1, nb), (w.1, nw)))
    (Roster.ne_of_ready hw hb (by omega))
  obtain ⟨b', w', nb', nw', hb', hw', hnb', hnw', hp, ht, hgb', hgw'⟩ := s.pairs j hj
  refine ⟨b', w', nb', nw', hb', hw', hnb', hnw', ?_, ?_, ?_, ?_⟩
  · rw [pairings_seat, List.getElem?_append_left (s.length ▸ hj), hp]
  · rw [running_seat, List.getElem?_append_left (List.getElem?_eq_some_iff.1 ht).1, ht]
  · rw [hget, if_neg (Roster.ne_of_ready hb' hw (by omega)),
      if_neg (Roster.ne_of_ready hb' hb (by omega)), hgb']
  · rw [hget, if_neg (Roster.ne_of_ready hw' hw (by omega)),
      if_neg (Roster.ne_of_ready hw' hb (by omega)), hgw']

theorem hosts_next (hnb : b.2.name = some nb) (hnw : w.2.name = some nw) :
    Hosts ts r n (m.seat ((b.1, nb), (w.1, nw))) := by
  have hne : w.1 ≠ b.1 := Roster.ne_of_ready hw hb (by omega)
  have hget := get?_seat (m := m) (p := ((b.1, nb), (w.1, nw))) hne
  -- nothing has happened to the two so far
  have hgb : m.roster.get? b.1 = some b.2 := by
    rw [s.others _ fun _ => Roster.ne_of_mem_take_ready hb (Nat.le_refl _), Roster.get?_of_ready hb]
  have hgw : m.roster.get? w.1 = some w.2 := by
    rw [s.others _ fun _ => Roster.ne_of_mem_take_ready hw (Nat.le_succ _), Roster.get?_of_ready hw]
  refine ⟨b, w, nb, nw, hb, hw, hnb, hnw, ?_, ?_, ?_, ?_⟩
  · rw [pairings_seat, ← s.length, List.getElem?_concat_length, s.opened, s.length]
  · rw [running_seat, ← s.size, Tables.size, List.getElem?_concat_length, s.opened]
  · rw [hget, if_neg hne.symm, if_pos rfl, hgb, Option.map_some,
      Guest.sit_of_waiting (Roster.isReady_of_ready hb).1, s.opened]
  · rw [hget, if_pos rfl, hgw, Option.map_some,
      Guest.sit_of_waiting (Roster.isReady_of_ready hw).1, s.opened]

theorem ready_next :
    (m.seat ((b.1, nb), (w.1, nw))).roster.ready = r.ready.drop (2 * (n + 1)) := by
  have hne : w.1 ≠ b.1 := Roster.ne_of_ready hw hb (by omega)
  have hrest {k : Nat} {e : GuestId × Guest} (hk : k < 2 * (n + 1)) (he : r.ready[k]? = some e) :
      (r.ready.drop (2 * (n + 1))).filter (·.1 ≠ e.1) = r.ready.drop (2 * (n + 1)) :=
    List.filter_eq_self.2 fun e' he' => decide_eq_true (Roster.ne_of_mem_drop_ready he hk he')
  rw [ready_seat, s.ready, Roster.drop_ready hb hw, List.filter_cons_of_neg (by simp),
    List.filter_cons_of_pos (by simpa using hne), hrest (by omega) hb,
    List.filter_cons_of_neg (by simp), hrest (by omega) hw]

/-- One more pair sits down. -/
theorem step (hnb : b.2.name = some nb) (hnw : w.2.name = some nw) :
    Seats ts r (n + 1) (m.seat ((b.1, nb), (w.1, nw))) where
  limit := s.limit
  opened := congrArg (· + 1) s.opened
  old := by
    rw [running_seat]
    exact s.old.trans (List.prefix_append ..)
  size := by
    rw [Tables.size, running_seat, List.length_append, ← Tables.size, s.size]
    rfl
  length := by
    rw [pairings_seat, List.length_append, s.length]
    rfl
  ids := by
    rw [← s.ids]
    exact (Roster.ids_modify ..).trans (Roster.ids_modify ..)
  pairs j hj := by
    rcases Nat.lt_succ_iff_lt_or_eq.1 hj with hj | rfl
    · exact s.hosts_of_lt hb hw hj
    · exact s.hosts_next hb hw hnb hnw
  others i hi := by
    have seated {k : Nat} {e : GuestId × Guest} (hk : k < 2 * (n + 1))
        (he : r.ready[k]? = some e) : i ≠ e.1 := by
      refine (hi e (List.mem_iff_getElem?.2 ⟨k, ?_⟩)).symm
      rw [List.getElem?_take_of_lt hk, he]
    rw [get?_seat (Roster.ne_of_ready hw hb (by omega)), if_neg (seated (by omega) hw),
      if_neg (seated (by omega) hb)]
    exact s.others i fun e he => hi e (List.take_subset_take_left _ (by omega) he)
  ready := s.ready_next hb hw

end

end Seats

/-- As many pairs sit down as there are pairs and tables. -/
theorem run_seats (ts : Tables) (r : Roster) :
    Seats ts r (min ts.free (r.ready.length / 2)) (run ts r) := by
  have hlength : (pairUp r.waiting).length = r.ready.length / 2 := by
    rw [length_pairUp, Roster.waiting_eq, List.length_map]
  have seats (n : Nat) (hn : n ≤ r.ready.length / 2) :
      Seats ts r n (((pairUp r.waiting).take n).foldl seat { tables := ts, roster := r }) := by
    induction n with
    | zero => exact .refl ts r
    | succ n ih =>
      obtain ⟨b, hb⟩ : ∃ b, r.ready[2 * n]? = some b :=
        ⟨_, List.getElem?_eq_getElem (by omega)⟩
      obtain ⟨w, hw⟩ : ∃ w, r.ready[2 * n + 1]? = some w :=
        ⟨_, List.getElem?_eq_getElem (by omega)⟩
      obtain ⟨nb, hnb⟩ := Option.ne_none_iff_exists'.1 (Roster.isReady_of_ready hb).2
      obtain ⟨nw, hnw⟩ := Option.ne_none_iff_exists'.1 (Roster.isReady_of_ready hw).2
      have hpair : (pairUp r.waiting)[n]? = some ((b.1, nb), (w.1, nw)) := by
        apply getElem?_pairUp <;> rw [Roster.waiting_eq, List.getElem?_map]
        · rw [hb, Option.map_some, Roster.byName, hnb]
          rfl
        · rw [hw, Option.map_some, Roster.byName, hnw]
          rfl
      rw [List.take_add_one, hpair, List.foldl_append]
      exact (ih (by omega)).step hb hw hnb hnw
  unfold run
  rw [List.take_eq_take_min, hlength]
  exact seats _ (Nat.min_le_right ..)

/-- Matched once more, nobody is paired with anybody. -/
theorem run_run (ts : Tables) (r : Roster) : run (run ts r).tables (run ts r).roster =
    { tables := (run ts r).tables, roster := (run ts r).roster } := by
  have s := run_seats ts r
  generalize run ts r = m at s ⊢
  have hnone : (pairUp m.roster.waiting).take m.tables.free = [] := by
    rw [← List.length_eq_zero_iff, List.length_take, length_pairUp, Roster.waiting_eq,
      List.length_map, s.ready, List.length_drop, Tables.free, s.limit, s.size]
    have hfree : ts.free = ts.limit - ts.size := rfl
    omega
  rw [run, hnone]
  rfl

/-! ### In one pass -/

/-- One pass over the guests. `pending` is the one who waits for the next who is ready. -/
def scan (m : Matching) (pending : Option GuestId) : List GuestId → Matching
  | [] => m
  | i :: is =>
    if m.tables.isFull then m
    else match m.roster.get? i with
      | none => m.scan pending is
      | some g =>
        if g.phase ≠ .waiting ∨ g.name = none then m.scan pending is
        else match pending with
          | none => m.scan (some i) is
          | some b =>
            match m.roster.nameOf? b, m.roster.nameOf? i with
            | some black, some white => (m.seat ((b, black), (i, white))).scan none is
            | _, _ => m.scan none is

/-- The rest of a pass, where `es` are the guests that it still comes to. -/
theorem scan_eq_foldl {m : Matching} (pending : Option (GuestId × String))
    {es : List (GuestId × Guest)} (hn : (es.map Prod.fst).Nodup)
    (hes : ∀ e ∈ es, m.roster.get? e.1 = some e.2)
    (hp : ∀ b, pending = some b → m.roster.nameOf? b.1 = some b.2 ∧ b.1 ∉ es.map Prod.fst) :
    m.scan (pending.map Prod.fst) (es.map Prod.fst) =
      ((pairUp (pending.toList ++ (es.filter (·.2.isReady)).map Roster.byName)).take
        m.tables.free).foldl seat m := by
  induction es generalizing m pending with
  | nil => cases pending <;> simp [scan, pairUp]
  | cons e es ih =>
    rw [List.map_cons, List.nodup_cons] at hn
    have hes' (x : GuestId × Guest) (hx : x ∈ es) := hes x (List.mem_cons_of_mem _ hx)
    rw [List.map_cons, scan.eq_def]
    dsimp only
    rw [hes e (List.mem_cons_self ..)]
    by_cases hfull : m.tables.isFull = true
    · have hfree : m.tables.free = 0 := Nat.sub_eq_zero_of_le (of_decide_eq_true hfull)
      rw [if_pos hfull, hfree]
      rfl
    rw [if_neg hfull]
    dsimp only
    by_cases hr : e.2.isReady = true
    · have hname : m.roster.nameOf? e.1 = some (Roster.byName e).2 := by
        obtain ⟨n, hn⟩ := Option.ne_none_iff_exists'.1 (Guest.isReady_iff.1 hr).2
        rw [Roster.nameOf?, hes e (List.mem_cons_self ..), Option.bind_some, Roster.byName, hn]
        rfl
      rw [if_neg (mt Guest.not_isReady_iff.2 (not_not.2 hr)), List.filter_cons, if_pos hr,
        List.map_cons]
      cases pending with
      | none =>
        refine ih (some (Roster.byName e)) hn.2 hes' ?_
        rintro _ ⟨⟩
        exact ⟨hname, hn.1⟩
      | some b =>
        obtain ⟨hb, hbes⟩ := hp b rfl
        rw [List.map_cons, List.mem_cons, not_or] at hbes
        have hfree : m.tables.free = (m.seat (b, Roster.byName e)).tables.free + 1 := by
          have hlt : m.tables.size < m.tables.limit := by simpa [Tables.isFull] using hfull
          have hsize : (m.seat (b, Roster.byName e)).tables.size = m.tables.size + 1 := by
            rw [Tables.size, running_seat, List.length_append]
            rfl
          rw [Tables.free, Tables.free, hsize]
          change _ = m.tables.limit - (m.tables.size + 1) + 1
          omega
        rw [hfree]
        dsimp only [Option.map_some]
        rw [hb, hname]
        refine ih none hn.2 (fun x hx => ?_) nofun
        have hxe : x.1 ≠ e.1 := by
          rintro he
          exact hn.1 (he ▸ List.mem_map_of_mem hx)
        have hxb : x.1 ≠ b.1 := by
          rintro he
          exact hbes.2 (he ▸ List.mem_map_of_mem hx)
        rw [get?_seat (Ne.symm hbes.1), if_neg hxe, if_neg hxb, hes' x hx]
    · rw [if_pos (Guest.not_isReady_iff.1 hr), List.filter_cons, if_neg hr]
      refine ih pending hn.2 hes' fun b hb => ?_
      obtain ⟨hname, hbes⟩ := hp b hb
      exact ⟨hname, List.not_mem_of_not_mem_cons hbes⟩

theorem scan_eq_run (ts : Tables) (r : Roster) :
    scan { tables := ts, roster := r } none r.ids = run ts r := by
  have h := scan_eq_foldl (m := { tables := ts, roster := r }) none r.nodup
    (fun e he => Roster.get?_eq_some_iff.2 he) nofun
  rw [Option.toList_none, List.nil_append, ← Roster.ready, ← Roster.waiting_eq] at h
  exact h

/-- As many pairs as there are pairs and tables sit down, in the order of the roster and at tables
of new numbers, and nothing else changes. To match them again at once changes nothing at all. It
makes no difference whether the pairs are made up first or in one pass. -/
theorem run_pairs_ready (ts : Tables) (r : Roster) :
    let n := min (ts.limit - ts.size) (r.ready.length / 2)
    let m := run ts r
    Seats ts r n m ∧ (∀ j < n, ts.get? (ts.opened + j + 1) = none) ∧
      run m.tables m.roster = { tables := m.tables, roster := m.roster } ∧
      scan { tables := ts, roster := r } none r.ids = m :=
  ⟨run_seats ts r, fun _ _ => Tables.get?_eq_none_of_lt (by omega), run_run ts r, scan_eq_run ts r⟩

end Matching

end Tafl
