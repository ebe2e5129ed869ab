import Tafl.Proofs.Guest.Standing
import Tafl.Proofs.Hall.Views

/-! # A house in order

`InOrder G T`: the records of all guests are proper, no name is held twice, and both seats of every
table are taken by guests that know about it. The invariant speaks of the guests and the tables as
functions, so that each change of the hall is an update of these two. The lemmas of the namespace
are the changes that keep the order. -/

namespace Tafl
open Function (update)

theorem update_eq_some {ι α : Type} [DecidableEq ι] {f : ι → Option α} {i j : ι} {x : Option α}
    {y : α} : update f i x j = some y ↔ j = i ∧ x = some y ∨ j ≠ i ∧ f j = some y := by
  by_cases hj : j = i
  · subst hj; simp
  · simp [hj]

structure InOrder (G : GuestId → Option Guest) (T : Nat → Option Table) : Prop where
  proper : ∀ i g, G i = some g → g.Proper T
  unique : ∀ i j gi gj n, G i = some gi → G j = some gj → gi.name = some n → gj.name = some n →
    i = j
  tables : ∀ k t, T k = some t → t.id = k ∧ t.winner = none ∧ t.black ≠ t.white
  players : ∀ k t s, T k = some t → ∃ i g, G i = some g ∧ g.name = some (t.player s) ∧
    g.table = some k

/-- The guests `i` and `o` play each other at the table `t`, and `i` has the side `s`. -/
structure Duel (G : GuestId → Option Guest) (T : Nat → Option Table) (i o : GuestId)
    (gi go : Guest) (t : Table) (s : Side) : Prop where
  here : G i = some gi
  there : G o = some go
  table : T t.id = some t
  apart : t.black ≠ t.white
  name_here : gi.name = some (t.player s)
  name_there : go.name = some (t.player s.opponent)
  table_here : gi.table = some t.id
  table_there : go.table = some t.id
  logical_here : gi.logical = t.phaseOf s
  logical_there : go.logical = t.phaseOf s.opponent

variable {G G' : GuestId → Option Guest} {T T' : Nat → Option Table} {i o : GuestId}
  {g gi go : Guest} {t : Table} {s : Side}

theorem Duel.ne (d : Duel G T i o gi go t s) : i ≠ o := by
  rintro rfl
  obtain rfl := Option.some.inj (d.here.symm.trans d.there)
  have := Option.some.inj (d.name_here.symm.trans d.name_there)
  exact s.opponent_ne (Table.player_inj d.apart this).symm

namespace InOrder

/-- A guest with a table sits at it, on the side of its name. -/
theorem seat (h : InOrder G T) (hg : G i = some g) {k : Nat} (hk : g.table = some k) :
    ∃ t s, t.id = k ∧ T k = some t ∧ g.name = some (t.player s) ∧ g.logical = t.phaseOf s := by
  cases (h.proper i g hg).stands with
  | stranger _ ht | abandoned _ ht | waiting _ _ ht => rw [hk] at ht; cases ht
  | seated t s hn ht hf hp =>
    obtain rfl := Option.some.inj (hk.symm.trans ht)
    exact ⟨t, s, rfl, hf, hn, hp⟩

/-- Whoever sits at a table plays there against somebody. -/
theorem duel (h : InOrder G T) (hg : G i = some gi) {k : Nat} (hk : gi.table = some k) :
    ∃ o go t s, t.id = k ∧ Duel G T i o gi go t s := by
  obtain ⟨t, s, rfl, hf, hn, hp⟩ := h.seat hg hk
  obtain ⟨-, -, hne⟩ := h.tables _ t hf
  obtain ⟨o, go, ho, hno, hto⟩ := h.players _ t s.opponent hf
  obtain ⟨t', s', -, hf', hn', hp'⟩ := h.seat ho hto
  obtain rfl := Option.some.inj (hf.symm.trans hf')
  obtain rfl := Table.player_inj hne (Option.some.inj (hno.symm.trans hn'))
  exact ⟨o, go, t, s, rfl, hg, ho, hf, hne, hn, hno, hk, hto, hp, hp'⟩

/-- Nobody but the two players sits at a table. -/
theorem eq_or_eq (h : InOrder G T) (d : Duel G T i o gi go t s) {j : GuestId} (hg : G j = some g)
    (hk : g.table = some t.id) : j = i ∨ j = o := by
  obtain ⟨t', s', -, hf, hn, -⟩ := h.seat hg hk
  obtain rfl := Option.some.inj (d.table.symm.trans hf)
  by_cases hs : s' = s
  · exact .inl (h.unique _ _ _ _ _ hg d.here hn (hs ▸ d.name_here))
  · obtain rfl := Side.eq_opponent_of_ne hs
    exact .inr (h.unique _ _ _ _ _ hg d.there hn d.name_there)

/-- Nobody sits at a table that is not there. -/
theorem table_ne_of_eq_none (h : InOrder G T) (hg : G i = some g) {k : Nat} (hT : T k = none) :
    g.table ≠ some k := by
  intro hk
  obtain ⟨t, s, rfl, hf, -⟩ := h.seat hg hk
  rw [hT] at hf
  cases hf

theorem vacant : InOrder (fun _ => none) fun _ => none where
  proper _ _ h := by cases h
  unique _ _ _ _ _ h := by cases h
  tables _ _ h := by cases h
  players _ _ _ h := by cases h

/-- Names stay unique if nobody gets one that it did not have. -/
theorem unique_of_old (h : InOrder G T)
    (hold : ∀ j x n, G' j = some x → x.name = some n → ∃ y, G j = some y ∧ y.name = some n) :
    ∀ i j gi gj n, G' i = some gi → G' j = some gj → gi.name = some n → gj.name = some n →
      i = j := by
  intro i j gi gj n hi hj hni hnj
  obtain ⟨x, hx, hnx⟩ := hold i gi n hi hni
  obtain ⟨y, hy, hny⟩ := hold j gj n hj hnj
  exact h.unique i j x y n hx hy hnx hny

/-! ### Changes of one record -/

/-- If the record that changes has no table, the players are where they were. -/
theorem players_update (h : InOrder G T) (hi : ∀ g, G i = some g → g.table = none)
    (x : Option Guest) (k : Nat) (t : Table) (s : Side) (hT : T k = some t) :
    ∃ j y, update G i x j = some y ∧ y.name = some (t.player s) ∧ y.table = some k := by
  obtain ⟨j, y, hy, hny, hty⟩ := h.players k t s hT
  have hj : j ≠ i := by
    rintro rfl
    rw [hi y hy] at hty
    cases hty
  exact ⟨j, y, by rwa [Function.update_of_ne hj], hny, hty⟩

/-- A record may change in all but name and table. -/
theorem update_record (h : InOrder G T) (hg : G i = some g) {g' : Guest} (hp : g'.Proper T)
    (hn : g'.name = g.name) (ht : g'.table = g.table) : InOrder (update G i (some g')) T where
  proper j x hx := by
    rcases update_eq_some.1 hx with ⟨-, ⟨⟩⟩ | ⟨-, hx⟩
    · exact hp
    · exact h.proper j x hx
  unique := h.unique_of_old fun j x n hx hnx => by
    rcases update_eq_some.1 hx with ⟨rfl, ⟨⟩⟩ | ⟨-, hx⟩
    · exact ⟨g, hg, hn ▸ hnx⟩
    · exact ⟨x, hx, hnx⟩
  tables := h.tables
  players k t s hT := by
    obtain ⟨j, x, hx, hnx, htx⟩ := h.players k t s hT
    by_cases hj : j = i
    · subst hj
      obtain rfl := Option.some.inj (hg.symm.trans hx)
      exact ⟨j, g', Function.update_self .., hn.trans hnx, ht.trans htx⟩
    · exact ⟨j, x, by rwa [Function.update_of_ne hj], hnx, htx⟩

theorem enrol (h : InOrder G T) (hg : G i = none) {g : Guest} (hp : g.Proper T)
    (hn : g.name = none) : InOrder (update G i (some g)) T where
  proper j x hx := by
    rcases update_eq_some.1 hx with ⟨-, ⟨⟩⟩ | ⟨-, hx⟩
    · exact hp
    · exact h.proper j x hx
  unique := h.unique_of_old fun j x n hx hnx => by
    rcases update_eq_some.1 hx with ⟨-, ⟨⟩⟩ | ⟨-, hx⟩
    · rw [hn] at hnx
      cases hnx
    · exact ⟨x, hx, hnx⟩
  tables := h.tables
  players := h.players_update (fun x hx => by rw [hg] at hx; cases hx) _

theorem erase (h : InOrder G T) (hg : G i = some g) (ht : g.table = none) :
    InOrder (update G i none) T := by
  have old {j : GuestId} {x : Guest} (hx : update G i none j = some x) : G j = some x := by
    rcases update_eq_some.1 hx with ⟨-, ⟨⟩⟩ | ⟨-, hx⟩
    exact hx
  refine ⟨fun j x hx => h.proper j x (old hx),
    fun j k x y n hx hy => h.unique j k x y n (old hx) (old hy), h.tables,
    h.players_update (fun x hx => ?_) _⟩
  obtain rfl := Option.some.inj (hg.symm.trans hx)
  exact ht

/-- A stranger takes a name that nobody holds, and waits in the lobby. -/
theorem name (h : InOrder G T) (hg : G i = some g) (hn : g.name = none)
    (hl : g.line.isSome = true) {n : String} (hf : (Command.connect n).IsField)
    (hfree : ∀ j x, G j = some x → x.name ≠ some n) :
    InOrder (update G i (some ({ g with name := some n }.settle .waiting))) T := by
  have hp := h.proper i g hg
  have ht := hp.table_of_unnamed hn
  refine ⟨fun j x hx => ?_, fun j k x y m hx hy hnx hny => ?_, h.tables,
    h.players_update (fun x hx => ?_) _⟩
  · rcases update_eq_some.1 hx with ⟨-, ⟨⟩⟩ | ⟨-, hx⟩
    · refine hp.settle rfl rfl rfl rfl (by rintro m ⟨⟩; exact hf) (fun e => by simp [e] at hl)
        (.waiting n (by simp) (by simpa using ht) (Guest.logical_settle rfl))
    · exact h.proper j x hx
  · rcases update_eq_some.1 hx with ⟨rfl, ⟨⟩⟩ | ⟨-, hx'⟩
    · obtain rfl : n = m := by simpa using hnx
      rcases update_eq_some.1 hy with ⟨rfl, -⟩ | ⟨-, hy'⟩
      · rfl
      · exact absurd hny (hfree k y hy')
    · rcases update_eq_some.1 hy with ⟨rfl, ⟨⟩⟩ | ⟨-, hy'⟩
      · obtain rfl : n = m := by simpa using hny
        exact absurd hnx (hfree j x hx')
      · exact h.unique j k x y m hx' hy' hnx hny
  · obtain rfl := Option.some.inj (hg.symm.trans hx)
    exact ht

/-- A stranger takes over the name, the table and the phase of a guest that is away. -/
theorem handOver (h : InOrder G T) (hg : G i = some g) (hn : g.name = none)
    (hl : g.line.isSome = true) (ho : G o = some go) (ha : go.phase.isAway = true)
    (hno : go.name ≠ none) (b : Nat) :
    InOrder (update (update G o (some { go with name := none, table := none, line := none })) i
      (some { g with name := go.name, table := go.table, phase := go.saved, saved := go.saved,
                     decay := b })) T := by
  have hpi := h.proper i g hg
  have hpo := h.proper o go ho
  have hne : i ≠ o := by
    rintro rfl
    obtain rfl := Option.some.inj (hg.symm.trans ho)
    exact hno hn
  have hline : g.line ≠ none := fun e => by simp [e] at hl
  refine ⟨fun j x hx => ?_, fun j k x y m hx hy hnx hny => ?_, h.tables, fun k t s hT => ?_⟩
  · rcases update_eq_some.1 hx with ⟨-, ⟨⟩⟩ | ⟨-, hx⟩
    · refine ⟨hpo.saved, hpo.named, fun e => ?_, fun e => absurd e hline, ?_⟩
      · have := hpo.saved
        rw [show go.saved = _ from e] at this
        cases this
      · have hlog : ∀ x : Guest, x.phase = go.saved → x.logical = go.logical := fun x e => by
          rw [Guest.logical_of_awake (e ▸ hpo.saved), Guest.logical_of_away ha, e]
        cases hpo.stands with
        | stranger hn' | abandoned hn' => exact absurd hn' hno
        | waiting n hn' ht' hp' => exact .waiting n hn' ht' ((hlog _ rfl).trans hp')
        | seated t s hn' ht' hf hp' => exact .seated t s hn' ht' hf ((hlog _ rfl).trans hp')
    · rcases update_eq_some.1 hx with ⟨-, ⟨⟩⟩ | ⟨-, hx⟩
      · exact ⟨hpo.saved, by simp, fun _ => rfl, fun _ => ⟨ha, by simp⟩, .abandoned rfl rfl rfl⟩
      · exact h.proper j x hx
  · -- whoever has the name now has it from `o`, or had it before
    have old {j : GuestId} {x a b : Guest} (hx : update (update G o (some a)) i (some b) j = some x)
        (hnx : x.name = some m) (ha : a.name = none) (hb : b.name = go.name) :
        (j = i ∧ go.name = some m) ∨ (j ≠ o ∧ G j = some x) := by
      rcases update_eq_some.1 hx with ⟨rfl, ⟨⟩⟩ | ⟨-, hx⟩
      · exact .inl ⟨rfl, hb ▸ hnx⟩
      · rcases update_eq_some.1 hx with ⟨rfl, ⟨⟩⟩ | ⟨hj, hx⟩
        · rw [ha] at hnx
          cases hnx
        · exact .inr ⟨hj, hx⟩
    rcases old hx hnx rfl rfl with ⟨rfl, hm⟩ | ⟨hjo, hx'⟩
    · rcases old hy hny rfl rfl with ⟨rfl, -⟩ | ⟨hko, hy'⟩
      · rfl
      · exact absurd (h.unique k o y go m hy' ho hny hm) hko
    · rcases old hy hny rfl rfl with ⟨rfl, hm⟩ | ⟨hko, hy'⟩
      · exact absurd (h.unique j o x go m hx' ho hnx hm) hjo
      · exact h.unique j k x y m hx' hy' hnx hny
  · obtain ⟨j, x, hx, hnx, htx⟩ := h.players k t s hT
    by_cases hj : j = o
    · subst hj
      obtain rfl := Option.some.inj (ho.symm.trans hx)
      exact ⟨i, _, Function.update_self .., hnx, htx⟩
    · have hji : j ≠ i := by
        rintro rfl
        obtain rfl := Option.some.inj (hg.symm.trans hx)
        rw [hn] at hnx
        cases hnx
      exact ⟨j, x, by rwa [Function.update_of_ne hji, Function.update_of_ne hj], hnx, htx⟩

/-! ### Changes at a table -/

theorem table_ne (h : InOrder G T) (d : Duel G T i o gi go t s) {j : GuestId} (hi : j ≠ i)
    (ho : j ≠ o) (hg : G j = some g) : g.table ≠ some t.id := by
  intro hk
  rcases h.eq_or_eq d hg hk with rfl | rfl
  · exact hi rfl
  · exact ho rfl

/-- Two guests and the only table at which they or one of them sits may change together. -/
theorem update_table (h : InOrder G T) (hne : i ≠ o) (hi : G i = some gi) (ho : G o = some go)
    {k : Nat} (hti : ∀ k', gi.table = some k' → k' = k) (hto : ∀ k', go.table = some k' → k' = k)
    (hk : ∀ j g, j ≠ i → j ≠ o → G j = some g → g.table ≠ some k)
    {gi' go' : Guest} {x : Option Table}
    (hpi : gi'.Proper (update T k x)) (hpo : go'.Proper (update T k x))
    (hni : gi'.name = gi.name) (hno : go'.name = go.name)
    (hx : ∀ t, x = some t → (t.id = k ∧ t.winner = none ∧ t.black ≠ t.white) ∧
      ∃ s, (gi'.name = some (t.player s) ∧ gi'.table = some k) ∧
        go'.name = some (t.player s.opponent) ∧ go'.table = some k) :
    InOrder (update (update G i (some gi')) o (some go')) (update T k x) := by
  have hi' : update (update G i (some gi')) o (some go') i = some gi' := by
    rw [Function.update_of_ne hne, Function.update_self]
  refine ⟨fun j y hy => ?_, h.unique_of_old fun j y n hy hny => ?_, fun k' t ht => ?_,
    fun k' t u ht => ?_⟩
  · rcases update_eq_some.1 hy with ⟨-, ⟨⟩⟩ | ⟨hjo, hy⟩
    · exact hpo
    rcases update_eq_some.1 hy with ⟨-, ⟨⟩⟩ | ⟨hji, hy⟩
    · exact hpi
    · refine (h.proper j y hy).mono fun k' hk' => Function.update_of_ne ?_ ..
      rintro rfl
      exact hk j y hji hjo hy hk'
  · rcases update_eq_some.1 hy with ⟨rfl, ⟨⟩⟩ | ⟨-, hy⟩
    · exact ⟨go, ho, hno ▸ hny⟩
    rcases update_eq_some.1 hy with ⟨rfl, ⟨⟩⟩ | ⟨-, hy⟩
    · exact ⟨gi, hi, hni ▸ hny⟩
    · exact ⟨y, hy, hny⟩
  · rcases update_eq_some.1 ht with ⟨rfl, hxt⟩ | ⟨-, ht⟩
    · exact (hx t hxt).1
    · exact h.tables k' t ht
  · rcases update_eq_some.1 ht with ⟨rfl, hxt⟩ | ⟨hk', ht⟩
    · -- the two have the two sides of their table
      obtain ⟨-, s, hs, hs'⟩ := hx t hxt
      by_cases hu : u = s
      · subst hu
        exact ⟨i, gi', hi', hs⟩
      · obtain rfl := Side.eq_opponent_of_ne hu
        exact ⟨o, go', Function.update_self .., hs'⟩
    · -- the players of another table are neither of the two
      obtain ⟨j, y, hy, hny, hty⟩ := h.players k' t u ht
      have hji : j ≠ i := by
        rintro rfl
        obtain rfl := Option.some.inj (hi.symm.trans hy)
        exact hk' (hti _ hty)
      have hjo : j ≠ o := by
        rintro rfl
        obtain rfl := Option.some.inj (ho.symm.trans hy)
        exact hk' (hto _ hty)
      exact ⟨j, y, by rwa [Function.update_of_ne hjo, Function.update_of_ne hji], hny, hty⟩

/-- After a move the table is changed, and each player is settled in a phase of its own. -/
theorem turn (h : InOrder G T) (d : Duel G T i o gi go t s) {t' : Table} (hid : t'.id = t.id)
    (hpl : ∀ s, t'.player s = t.player s) (hw : t'.winner = none) :
    InOrder (update (update G i (some (gi.settle (t'.phaseOf s)))) o
      (some (go.settle (t'.phaseOf s.opponent)))) (update T t.id (some t')) := by
  have hself : update T t.id (some t') t'.id = some t' := by rw [hid, Function.update_self]
  -- either of the two is settled in the same way
  have seated {x : Guest} {u : Side} (hx : x.Proper T) (hn : x.name = some (t.player u))
      (ht : x.table = some t.id) : (x.settle (t'.phaseOf u)).Proper (update T t.id (some t')) := by
    refine hx.settle (t'.isAway_phaseOf u) rfl rfl rfl hx.named (fun _ => rfl) ?_
    exact .seated t' u (by rw [hpl]; simpa using hn) (by rw [hid]; simpa using ht) hself
      (Guest.logical_settle (t'.isAway_phaseOf u))
  refine h.update_table d.ne d.here d.there (k := t.id)
    (fun k hk => Option.some.inj (hk.symm.trans d.table_here))
    (fun k hk => Option.some.inj (hk.symm.trans d.table_there))
    (fun j x hi ho hx => h.table_ne d hi ho hx)
    (seated (h.proper i gi d.here) d.name_here d.table_here)
    (seated (h.proper o go d.there) d.name_there d.table_there) (by simp) (by simp) ?_
  rintro _ ⟨⟩
  exact ⟨⟨hid, hw, Table.apart_of_player hpl d.apart⟩, s,
    ⟨by rw [hpl]; simpa using d.name_here, by simpa using d.table_here⟩,
    by rw [hpl]; simpa using d.name_there, by simpa using d.table_there⟩

/-- When a table is closed, both players go back to the lobby. -/
theorem dissolve (h : InOrder G T) (d : Duel G T i o gi go t s) :
    InOrder (update (update G i (some gi.released)) o (some go.released)) (update T t.id none) := by
  have released {x : Guest} {n : String} (hx : x.Proper T) (hn : x.name = some n) :
      x.released.Proper (update T t.id none) :=
    hx.settle rfl rfl rfl rfl hx.named (fun _ => rfl)
      (.waiting n (x.name_released.trans hn) x.table_released x.logical_released)
  exact h.update_table d.ne d.here d.there
    (fun k hk => Option.some.inj (hk.symm.trans d.table_here))
    (fun k hk => Option.some.inj (hk.symm.trans d.table_there))
    (fun j x hi ho hx => h.table_ne d hi ho hx)
    (released (h.proper i gi d.here) d.name_here) (released (h.proper o go d.there) d.name_there)
    (by simp) (by simp) (by rintro _ ⟨⟩)

/-- When one of two players goes for good, only the other one goes back to the lobby. -/
theorem desert (h : InOrder G T) (d : Duel G T i o gi go t s) :
    InOrder (update (update G i none) o (some go.released)) (update T t.id none) := by
  have := (h.dissolve d).erase (i := i)
    (by rw [Function.update_of_ne d.ne, Function.update_self]) (by simp)
  rwa [Function.update_comm d.ne, Function.update_idem, Function.update_comm d.ne.symm] at this

/-- Two guests of the lobby sit down at a new table, the first one as Black. -/
theorem sit (h : InOrder G T) {k : Nat} (hk : T k = none) (hne : i ≠ o) (hi : G i = some gi)
    (ho : G o = some go) {a b : String} (hni : gi.name = some a) (hno : go.name = some b)
    (hti : gi.table = none) (hto : go.table = none) :
    InOrder (update (update G i (some (gi.sit k .onTurn))) o (some (go.sit k .onStand)))
      (update T k (some { id := k, black := a, white := b })) := by
  have hab : a ≠ b := fun e => hne (h.unique i o gi go b hi ho (e ▸ hni) hno)
  have hpi := h.proper i gi hi
  have hpo := h.proper o go ho
  refine h.update_table hne hi ho (k := k) (by simp [hti]) (by simp [hto])
    (fun j x _ _ hx => h.table_ne_of_eq_none hx hk)
    (hpi.settle rfl rfl rfl rfl hpi.named (fun _ => rfl)
      (.seated { id := k, black := a, white := b } .black (by simpa [Table.player] using hni)
        (by simp) (by simp) (Guest.logical_settle rfl)))
    (hpo.settle rfl rfl rfl rfl hpo.named (fun _ => rfl)
      (.seated { id := k, black := a, white := b } .white (by simpa [Table.player] using hno)
        (by simp) (by simp) (Guest.logical_settle rfl)))
    (by simp [Guest.sit]) (by simp [Guest.sit]) ?_
  rintro _ ⟨⟩
  exact ⟨⟨rfl, rfl, hab⟩, .black, ⟨by simpa [Guest.sit, Table.player] using hni, by simp [Guest.sit]⟩,
    by simpa [Guest.sit, Table.player, Side.opponent] using hno, by simp [Guest.sit]⟩

end InOrder

end Tafl
