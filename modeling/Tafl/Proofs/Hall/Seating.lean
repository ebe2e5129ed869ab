import Tafl.Proofs.Hall.Runs

/-! # Who sits where

`Hall.run_seating`: whatever is asked of a hall, the records of the guests and the tables agree.
Both players of every game are there, each under one record that knows the table and whose turn it
is, and whoever else is there waits or has not given a name. -/

namespace Tafl.Hall

/-- The records and the tables agree on who sits where and whose turn it is. -/
structure Seating (h : Hall) : Prop where
  /-- A game that goes on has two players with different names. -/
  games : ∀ t ∈ h.tables.running, t.winner = none ∧ t.black ≠ t.white
  /-- Each player has one record, and sits at the table by it. -/
  players : ∀ t ∈ h.tables.running, ∀ s, t.player s ≠ "" ∧
    ∃ i g, h.guest? i = some g ∧ g.name = some (t.player s) ∧ g.table = some t.id ∧
      ∀ j x, h.guest? j = some x → x.name = some (t.player s) → j = i
  /-- Whoever has a table is one of the players there. -/
  seated : ∀ i g k, h.guest? i = some g → g.table = some k →
    ∃ t ∈ h.tables.running, t.id = k ∧ ∃ s, g.name = some (t.player s)
  on_turn : ∀ t ∈ h.tables.running, ∀ i g, h.guest? i = some g →
    g.name = some t.playerOnTurn → g.logical = .onTurn
  on_stand : ∀ t ∈ h.tables.running, ∀ i g, h.guest? i = some g →
    g.name = some t.playerOnStand → g.logical = .onStand
  /-- Whoever has no table, and was not left behind by a reconnection, is new or waits. -/
  lobby : ∀ i g, h.guest? i = some g → g.table = none → g.name ≠ none ∨ g.line ≠ none →
    g.logical = .new ∨ g.logical = .waiting

namespace Orderly
variable {h : Hall} {first : Nat} {i : GuestId} {g : Guest} {t : Table} {s : Side}

theorem get?_of_mem (ht : t ∈ h.tables.running) : h.tables.get? t.id = some t :=
  Tables.get?_eq_some_iff.2 ⟨ht, rfl⟩

/-- As long as no table is left over, all tables are in order. -/
theorem inOrder (ho : h.Orderly 0) : InOrder h.guest? h.tables.get? := by
  rw [← Tables.since_zero]
  exact ho

theorem player (ho : h.Orderly 0) (ht : t ∈ h.tables.running) (hg : h.guest? i = some g)
    (hn : g.name = some (t.player s)) : g.table = some t.id ∧ g.logical = t.phaseOf s := by
  have hf := get?_of_mem ht
  obtain ⟨j, x, hx, hnx, htx⟩ := ho.inOrder.players t.id t s hf
  obtain rfl := ho.unique i j g x _ hg hx hn hnx
  obtain rfl := Option.some.inj (hg.symm.trans hx)
  obtain ⟨t', s', -, -, hf', hne, hn', hp⟩ := ho.seat hg htx
  obtain rfl := Option.some.inj (hf.symm.trans hf')
  obtain rfl := Table.player_inj hne (Option.some.inj (hn.symm.trans hn'))
  exact ⟨htx, hp⟩

theorem ne_empty (ho : h.Orderly first) (hg : h.guest? i = some g) {n : String} (hn : g.name = some n) :
    n ≠ "" := by
  rintro rfl
  have hlen := ((ho.proper i g hg).named "" hn).1
  exact absurd hlen (by decide)

theorem seating (ho : h.Orderly 0) : h.Seating where
  games t ht := (ho.inOrder.tables t.id t (get?_of_mem ht)).2
  players t ht s := by
    obtain ⟨i, g, hg, hn, hk⟩ := ho.inOrder.players t.id t s (get?_of_mem ht)
    exact ⟨ho.ne_empty hg hn, i, g, hg, hn, hk, fun j x hx hnx => ho.unique j i x g _ hx hg hnx hn⟩
  seated i g k hg hk := by
    obtain ⟨t, s, hid, -, hf, -, hn, -⟩ := ho.seat hg hk
    exact ⟨t, (Tables.get?_eq_some_iff.1 hf).1, hid, s, hn⟩
  on_turn t ht i g hg hn := by
    rw [(ho.player ht hg hn).2, Table.phaseOf, if_pos rfl]
  on_stand t ht i g hg hn := by
    rw [(ho.player ht hg hn).2, Table.phaseOf, if_neg t.onTurn.opponent_ne]
  lobby i g hg hk hr := by
    cases (ho.proper i g hg).stands with
    | stranger _ _ _ hp => exact .inl hp
    | abandoned hn _ hl => exact absurd hr (by simp [hn, hl])
    | waiting _ _ _ hp => exact .inr hp
    | seated _ _ _ hk' => rw [hk] at hk'; cases hk'

end Orderly

/-- Whatever came over the lines, in whatever order, everybody sits where the tables say. -/
theorem run_seating (capacity maxTables budget : Nat) {steps : List Step}
    (hs : .shutDown ∉ steps) (hids : ((arrivals steps).map Prod.fst).Nodup) :
    ((vacant capacity maxTables budget).run steps).Seating := by
  obtain ⟨as, -, r⟩ := exists_reached capacity maxTables budget hs hids
  exact r.orderly.seating

/-- Two guests are matched, the first one moves, and the other one is swept twice. -/
theorem run_seating_two_players :
    let steps : List Step := [.event (.connected 1 "a" 0), .event (.connected 2 "b" 1),
      .batch [.data 2 (Request.frame [.connect "Bob"]).toUTF8,
        .data 1 (Request.frame [.connect "Ada"]).toUTF8],
      .event (.data 1 (Request.frame [.move ⟨⟨3, 0⟩, ⟨3, 1⟩⟩]).toUTF8), .sweep, .sweep]
    (.shutDown ∉ steps ∧ ((arrivals steps).map Prod.fst).Nodup) ∧
      ((vacant 4 2 3).run steps).tables.running.map Table.playerOnTurn = ["Bob"] ∧
      ((vacant 4 2 3).run steps).Seating := by
  intro steps
  have hs : .shutDown ∉ steps := by simp [steps]
  have hids : ((arrivals steps).map Prod.fst).Nodup := by decide
  exact ⟨⟨hs, hids⟩, by decide +kernel, run_seating 4 2 3 hs hids⟩

end Tafl.Hall
