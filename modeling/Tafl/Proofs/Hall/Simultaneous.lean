import Tafl.Proofs.Hall.Sweeps

/-! # A sweep, all at once

A sweep goes from guest to guest, and what it does to one may concern another: the opponent of a
guest that is removed, which may have had its turn or not. `Hall.sweep_simultaneous` says that it is
all the same as one step of everybody together, read off the hall before the sweep: each guest sinks
by itself (`Guest.sink`), the tables that lose a player are closed, and the players that are left
there go back to the lobby. -/

namespace Tafl

theorem Roster.get?_eq_of_perm {r r' : Roster} (h : r.entries.Perm r'.entries) :
    r.get? = r'.get? := by
  funext i
  apply Option.ext
  intro g
  rw [get?_eq_some_iff, get?_eq_some_iff, h.mem_iff]

namespace Tables
variable {ts : Tables} {p q : Nat → Bool}

/-- The tables without those that `p` picks. -/
def without (ts : Tables) (p : Nat → Bool) : Tables where
  running := ts.running.filter fun t => !p t.id
  limit := ts.limit
  opened := ts.opened
  ascending := ts.ascending.sublist List.filter_sublist
  id_le_opened t ht := ts.id_le_opened t (List.mem_filter.1 ht).1

theorem without_false (ts : Tables) : ts.without (fun _ => false) = ts := by
  obtain ⟨us, limit, opened, ascending, hle⟩ := ts
  simp [without]

theorem without_without (p q : Nat → Bool) :
    (ts.without p).without q = ts.without fun k => p k || q k := by
  simp [without, List.filter_filter, Bool.and_comm]

theorem close_eq_without (ts : Tables) (k : Nat) : ts.close k = ts.without (· = k) := by
  simp [close, without]

theorem without_congr (h : ∀ t ∈ ts.running, p t.id = q t.id) : ts.without p = ts.without q := by
  have hf : ts.running.filter (fun t => !p t.id) = ts.running.filter (fun t => !q t.id) :=
    List.filter_congr fun t ht => by rw [h t ht]
  simp [without, hf]

theorem get?_without (k : Nat) : (ts.without p).get? k = if p k then none else ts.get? k := by
  apply Option.ext
  intro t
  rw [get?_eq_some_iff, without, List.mem_filter]
  split
  · rename_i hp
    simp only [reduceCtorEq, iff_false, not_and, and_imp]
    rintro - hnot rfl
    simp [hp] at hnot
  · rename_i hp
    rw [get?_eq_some_iff]
    constructor
    · exact fun ht => ⟨ht.1.1, ht.2⟩
    · rintro ⟨ht, rfl⟩
      exact ⟨⟨ht, by simpa using hp⟩, rfl⟩

end Tables

namespace Hall
variable {h h' : Hall} {first : Nat} {i j : GuestId} {g : Guest} {k : Nat}

/-! ### Guests and tables only go -/

/-- Some guests and some tables have gone, and the order of the others is as it was. -/
structure Thins (h h' : Hall) : Prop where
  ids : ∃ q : GuestId → Bool, h'.roster.ids = h.roster.ids.filter q
  tables : ∃ p, h'.tables = h.tables.without p

namespace Thins

theorem of_eq (hi : h'.roster.ids = h.roster.ids) (ht : h'.tables = h.tables) : h.Thins h' :=
  ⟨⟨fun _ => true, by simp [hi]⟩, ⟨fun _ => false, by rw [ht, Tables.without_false]⟩⟩

theorem refl (h : Hall) : h.Thins h := of_eq rfl rfl

theorem trans {h'' : Hall} (t : h.Thins h') (t' : h'.Thins h'') : h.Thins h'' := by
  obtain ⟨⟨q, hq⟩, p, hp⟩ := t
  obtain ⟨⟨q', hq'⟩, p', hp'⟩ := t'
  refine ⟨⟨fun i => q i && q' i, ?_⟩, ⟨fun k => p k || p' k, ?_⟩⟩
  · rw [hq', hq, List.filter_filter]
    simp only [Bool.and_comm]
  · rw [hp', hp, Tables.without_without]

theorem revise (t : h.Thins h') (f : Guest → Guest) : h.Thins (h'.revise i f) :=
  t.trans (of_eq (Roster.ids_modify ..) rfl)

theorem send (t : h.Thins h') (n : Notice) : h.Thins (h'.send i n) := by
  refine t.trans ?_
  unfold Hall.send
  cases h'.line? i <;> exact of_eq rfl rfl

theorem hangUp (t : h.Thins h') (l : Option Line) : h.Thins (h'.hangUp l) := by
  refine t.trans ?_
  cases l <;> exact of_eq rfl rfl

theorem sendToOpponent (t : h.Thins h') (n : Notice) : h.Thins (h'.sendToOpponent i n) := by
  unfold Hall.sendToOpponent
  cases h'.opponent? i with
  | none => exact t
  | some o => exact t.send n

theorem close (t : h.Thins h') (k : Nat) :
    h.Thins { h' with tables := h'.tables.close k } :=
  t.trans ⟨⟨fun _ => true, by simp⟩, ⟨(· = k), Tables.close_eq_without ..⟩⟩

theorem breakUp (t : h.Thins h') (n : Notice) : h.Thins (h'.breakUp i n) := by
  unfold Hall.breakUp
  split
  · exact t
  · rename_i k _
    have t' := (t.close k).revise (i := i) fun g => { g with table := none }
    cases h'.opponent? i with
    | none => exact t'
    | some o => exact ((t'.send n).revise _).send _

theorem strike (t : h.Thins h') : h.Thins (h'.strike i) := by
  unfold Hall.strike
  split
  · exact t
  · refine hangUp ?_ _
    exact t.trans ⟨⟨fun j => j ≠ i, Roster.ids_erase⟩, (refl h').tables⟩

theorem drop (t : h.Thins h') : h.Thins (h'.drop i) := (t.breakUp _).strike

theorem sweepGuest (t : h.Thins h') : h.Thins (h'.sweepGuest i) := by
  unfold Hall.sweepGuest
  split
  · exact t
  · split
    · exact t.drop
    · split
      · dsimp only
        split
        · exact ((t.revise _).send _).sendToOpponent _
        · exact (t.revise _).send _
      · exact (((t.send _).revise _).hangUp _).sendToOpponent _
      · dsimp only
        split
        · exact (t.revise _).drop
        · exact t.revise _
      all_goals exact (t.revise _).send _

theorem sweep (h : Hall) : h.Thins h.sweep := by
  have all (is : List GuestId) (k : Hall) : k.Thins (is.foldl Hall.sweepGuest k) := by
    induction is generalizing k with
    | nil => exact refl k
    | cons i is ih => exact (refl k).sweepGuest.trans (ih _)
  exact all h.roster.ids h

/-- Who is there afterwards has come from somebody who was there before, in the same order. -/
theorem entries_eq (t : h.Thins h') {f : GuestId × Guest → Option Guest}
    (hf : ∀ i g, h.guest? i = some g → h'.guest? i = f (i, g)) :
    h'.roster.entries = h.roster.entries.filterMap fun e => (f e).map (e.1, ·) := by
  obtain ⟨q, hq⟩ := t.ids
  -- whoever is not on the list any more is not found either
  have hgone (i : GuestId) (hi : i ∈ h.roster.ids) (hqi : ¬ q i = true) :
      h'.roster.get? i = none := by
    cases hg : h'.roster.get? i with
    | none => rfl
    | some g =>
      have hmem := Roster.mem_ids_iff.2 ⟨g, hg⟩
      rw [hq, List.mem_filter] at hmem
      exact absurd hmem.2 hqi
  rw [h'.roster.entries_eq, hq, List.filterMap_filter, Roster.ids, List.filterMap_map]
  refine List.filterMap_congr fun e he => ?_
  have hget : h'.roster.get? e.1 = f e := hf e.1 e.2 (Roster.get?_eq_some_iff.2 he)
  dsimp only [Function.comp_apply]
  rw [← hget]
  split
  · rfl
  · rename_i hqe
    rw [hgone e.1 (List.mem_map_of_mem he) hqe]
    rfl

end Thins

end Hall

/-! ### What is left of a guest -/

namespace Guest
variable {T : Nat → Option Table} {g g' : Guest} {b : Nat}

theorem Sinks.isAway (s : g.Sinks b g') : g'.phase.isAway = true := by
  cases s with
  | fade hp => dsimp only; rw [hp]; rfl
  | ping | lose | disconnect => rfl

theorem isAbandoned_of_named (hn : g.name ≠ none) : ¬ g.isAbandoned = true := by
  simp [isAbandoned, hn]

/-- Losing its game does not bring a guest nearer to its end. -/
theorem Spared.isSpent_iff (s : g.Spared T g') (hn : g.name = none → g.table = none) :
    g'.IsSpent ↔ g.IsSpent := by
  cases s with
  | same => rfl
  | released hk =>
    have hnamed : g.name ≠ none := fun e => by
      rw [hn e] at hk
      cases hk
    have hab := isAbandoned_of_named hnamed
    have hab' : ¬ g.released.isAbandoned = true :=
      isAbandoned_of_named (by rwa [name_released])
    unfold IsSpent
    rw [or_iff_right hab, or_iff_right hab']
    cases ha : g.phase.isAway with
    | true => rw [released_of_away ha]
    | false =>
      have hp : g.released.phase = .waiting := by simp [Guest.released, phase_settle, ha]
      rw [hp]
      refine iff_of_false (fun hd => by cases hd.1) fun hd => ?_
      rw [hd.1] at ha
      cases ha

/-- It is all the same whether a guest loses its game before its turn comes in a sweep, or after. -/
theorem sink_released (hn : g.name ≠ none) : g.released.sink b =
    (g.sink b).map fun x => { x with table := none, saved := .waiting } := by
  have hab := isAbandoned_of_named hn
  have hab' : ¬ g.released.isAbandoned = true := isAbandoned_of_named (by rwa [name_released])
  cases ha : g.phase.isAway with
  | false =>
    have hr : g.released = { g with table := none, phase := .waiting } := by
      simp [released, settle, ha]
    rw [sink_of_awake hab ha, sink_of_awake hab' (by rw [hr]; rfl), hr]
    rfl
  | true =>
    have hr := released_of_away ha
    have hp : g.released.phase = g.phase := by rw [hr]
    cases hphase : g.phase with
    | pinged =>
      rw [sink_of_pinged hab hphase, sink_of_pinged hab' (hp.trans hphase), lose, lose,
        goAway_of_away ha, goAway_of_away (hp ▸ ha), hr]
      rfl
    | lost =>
      rw [sink_of_lost hab hphase, sink_of_lost hab' (hp.trans hphase), disconnect, disconnect,
        goAway_of_away ha, goAway_of_away (hp ▸ ha), hr]
      rfl
    | disconnected =>
      rw [sink_of_disconnected hab hphase, sink_of_disconnected hab' (hp.trans hphase), hr]
      dsimp only
      split <;> rfl
    | new | waiting | onTurn | onStand =>
      rw [hphase] at ha
      cases ha

end Guest

namespace Hall
variable {h h' : Hall} {first : Nat} {i j : GuestId} {g : Guest} {k : Nat}

/-! ### Which tables are closed -/

/-- The next sweep removes a player at the table `k`. -/
def loses (h : Hall) (k : Nat) : Bool :=
  h.roster.entries.any fun e => e.2.table = some k && (e.2.sink h.decayBudget).isNone

theorem loses_iff : h.loses k = true ↔
    ∃ i g, h.guest? i = some g ∧ g.table = some k ∧ g.IsSpent := by
  simp [loses, guest?, Roster.get?_eq_some_iff, Guest.sink_eq_none_iff]

theorem Orderly.closed_or_spent (ho : h.Orderly first)
    (hk : (h.sweepGuest i).tables.get? k = none) :
    h.tables.get? k = none ∨ ∃ g, h.guest? i = some g ∧ g.table = some k ∧ g.IsSpent := by
  cases hg : h.guest? i with
  | none =>
    rw [sweepGuest, hg] at hk
    exact .inl hk
  | some g =>
    by_cases hs : g.IsSpent
    · rw [ho.get?_sweepGuest_of_spent hg hs] at hk
      split at hk
      · rename_i ht
        exact .inr ⟨g, rfl, ht, hs⟩
      · exact .inl hk
    · rw [tables_sweepGuest_of_sink hg (mt Guest.sink_eq_none_iff.1 hs)] at hk
      exact .inl hk

/-- Only the tables of guests that are removed are closed. -/
theorem Orderly.exists_spent_of_closed {is : List GuestId} (hn : is.Nodup) (ho : h.Orderly first)
    (hk : (is.foldl sweepGuest h).tables.get? k = none) : h.tables.get? k = none ∨
      ∃ i ∈ is, ∃ g, h.guest? i = some g ∧ g.table = some k ∧ g.IsSpent := by
  induction is generalizing h with
  | nil => exact .inl hk
  | cons i is ih =>
    rw [List.nodup_cons] at hn
    rcases ih hn.2 (Row.sweepGuest.orderly ho) hk with hclosed | ⟨j, hj, x, hx, hxk, hspent⟩
    · rcases ho.closed_or_spent hclosed with hclosed | ⟨g, hg⟩
      · exact .inl hclosed
      · exact .inr ⟨i, List.mem_cons_self .., g, hg⟩
    · -- what the sweep of `i` has done to `j` does not change whether `j` is spent
      have hji : j ≠ i := by
        rintro rfl
        exact hn.1 hj
      obtain ⟨g, hg, -⟩ := Row.sweepGuest.evolves.guest j x hx
      obtain ⟨y, hy, s⟩ := ho.spared_sweepGuest hg hji
      obtain rfl := Option.some.inj (hx.symm.trans hy)
      refine .inr ⟨j, List.mem_cons_of_mem _ hj, g, hg, ?_,
        (s.isSpent_iff (ho.proper j g hg).table_of_unnamed).1 hspent⟩
      cases s with
      | same => exact hxk
      | released => rw [Guest.table_released] at hxk; cases hxk

theorem Orderly.get?_sweep_eq_none_iff (ho : h.Orderly first) :
    h.sweep.tables.get? k = none ↔ h.tables.get? k = none ∨ h.loses k = true := by
  rw [loses_iff]
  constructor
  · intro hk
    exact (ho.exists_spent_of_closed h.roster.nodup hk).imp_right fun ⟨i, _, hi⟩ => ⟨i, hi⟩
  · rintro (hk | ⟨i, g, hg, hk, hspent⟩)
    · exact get?_foldl_sweepGuest_eq_none hk _
    · obtain ⟨g₁, s₁, ⟨-, -, hclosed⟩ | ⟨g₂, g₃, hsink, -⟩⟩ := ho.sweep_cases hg
      · exact hclosed k hk
      · have hnone := (Guest.sink_eq_none_iff (b := h.decayBudget)).2
          ((s₁.isSpent_iff (ho.proper i g hg).table_of_unnamed).2 hspent)
        rw [hnone] at hsink
        cases hsink

/-! ### Everybody together -/

/-- What becomes of a guest in a sweep. Whoever loses the opponent loses the game. -/
def sunk (h : Hall) (g : Guest) : Option Guest :=
  (g.sink h.decayBudget).map fun x =>
    if g.table.any h.loses then { x with table := none, saved := .waiting } else x

theorem Orderly.any_loses_iff (ho : h.Orderly first) (hg : h.guest? i = some g) :
    g.table.any h.loses = true ↔ ∃ k, g.table = some k ∧ h.sweep.tables.get? k = none := by
  cases hk : g.table with
  | none => simp
  | some k =>
    obtain ⟨t, s, -, -, hf, -⟩ := ho.seat hg hk
    have hiff := ho.get?_sweep_eq_none_iff (k := k)
    rw [hf] at hiff
    simpa using hiff.symm

theorem Orderly.guest?_sweep (ho : h.Orderly first) (hg : h.guest? i = some g) :
    h.sweep.guest? i = h.sunk g := by
  have hos : h.sweep.Orderly first := ho.foldl_sweepGuest _
  obtain ⟨g₁, s₁, ⟨hnone, hgone, -⟩ | ⟨g₂, g₃, hsink, s₃, hg₃⟩⟩ := ho.sweep_cases hg
  · have hspent := s₁.isSpent_iff (ho.proper i g hg).table_of_unnamed
    rw [Guest.sink_eq_none_iff, hspent, ← Guest.sink_eq_none_iff (b := h.decayBudget)] at hnone
    rw [hgone, sunk, hnone]
    rfl
  rw [hg₃, sunk]
  by_cases hlost : g.table.any h.loses = true
  · -- the guest has lost its game, before its turn came or after
    obtain ⟨k, hk, hc⟩ := (ho.any_loses_iff hg).1 hlost
    obtain ⟨t, s, -, -, -, -, hn, -⟩ := ho.seat hg hk
    simp only [if_pos hlost]
    cases s₁ with
    | released =>
      rw [Guest.sink_released (by simp [hn])] at hsink
      rw [hsink]
      obtain ⟨x, -, rfl⟩ := Option.map_eq_some_iff.1 hsink
      cases s₃ with
      | same => rfl
      | released hk' => cases hk'
    | same =>
      have hsinks := Guest.Sinks.of_sink hsink
      rw [hsink]
      cases s₃ with
      | same => exact absurd (hsinks.table_eq.trans hk) (hos.table_ne_of_eq_none hg₃ hc)
      | released => rw [Guest.released_of_away hsinks.isAway]; rfl
  · have hkeeps {k : Nat} (hk : g.table = some k) (hc : h.sweep.tables.get? k = none) : False :=
      hlost ((ho.any_loses_iff hg).2 ⟨k, hk, hc⟩)
    simp only [if_neg hlost]
    cases s₁ with
    | released hk hc => exact (hkeeps hk hc).elim
    | same =>
      rw [hsink]
      cases s₃ with
      | same => rfl
      | released hk hc =>
        exact (hkeeps ((Guest.Sinks.of_sink hsink).table_eq.symm.trans hk) hc).elim

theorem Orderly.entries_sweep (ho : h.Orderly first) : h.sweep.roster.entries =
    h.roster.entries.filterMap fun e => (h.sunk e.2).map (e.1, ·) :=
  (Thins.sweep h).entries_eq fun _ _ hg => ho.guest?_sweep hg

theorem Orderly.tables_sweep (ho : h.Orderly first) :
    h.sweep.tables = h.tables.without h.loses := by
  obtain ⟨p, hp⟩ := (Thins.sweep h).tables
  rw [hp]
  refine Tables.without_congr fun t ht => ?_
  have hf : h.tables.get? t.id = some t := Tables.get?_eq_some_iff.2 ⟨ht, rfl⟩
  have hiff := ho.get?_sweep_eq_none_iff (k := t.id)
  rw [hp, Tables.get?_without, hf] at hiff
  cases hpt : p t.id <;> cases hl : h.loses t.id <;> simp_all

/-! ### In another order -/

section
variable {r : Roster} (hr : r.entries.Perm h.roster.entries)
include hr

theorem loses_of_perm : ({ h with roster := r } : Hall).loses = h.loses :=
  funext fun _ => hr.any_eq

theorem sunk_of_perm : ({ h with roster := r } : Hall).sunk = h.sunk := by
  funext g
  rw [sunk, sunk, loses_of_perm hr]

theorem Orderly.of_perm (ho : h.Orderly first) : ({ h with roster := r } : Hall).Orderly first := by
  have hG : ({ h with roster := r } : Hall).guest? = h.guest? := Roster.get?_eq_of_perm hr
  unfold Orderly
  rw [hG]
  exact ho

end

/-- A sweep is one step of everybody together, which can be read off the hall before the sweep. In
what order the guests have come makes no difference to it, except that they stay in that order. -/
theorem sweep_simultaneous (capacity maxTables budget : Nat) {xs : List Incident}
    (hp : Incident.Plausible xs) {r : Roster} :
    let h := (vacant capacity maxTables budget).after xs
    let k : Hall := { h with roster := r }
    let together (es : List (GuestId × Guest)) := es.filterMap fun e => (h.sunk e.2).map (e.1, ·)
    r.entries.Perm h.roster.entries →
      (h.sweep.roster.entries = together h.roster.entries ∧
        h.sweep.tables = h.tables.without h.loses) ∧
      k.sweep.roster.entries = together r.entries ∧
      k.sweep.roster.entries.Perm h.sweep.roster.entries ∧ k.sweep.tables = h.sweep.tables := by
  intro h k together hr
  obtain ⟨first, reached⟩ := hp.reached capacity maxTables budget
  have ho : h.Orderly first := Reached.orderly reached
  have hok : k.Orderly first := ho.of_perm hr
  have hk : k.sweep.roster.entries = together r.entries := by
    rw [hok.entries_sweep, sunk_of_perm hr]
  refine ⟨⟨ho.entries_sweep, ho.tables_sweep⟩, hk, ?_, ?_⟩
  · rw [hk, ho.entries_sweep]
    exact hr.filterMap _
  · rw [hok.tables_sweep, ho.tables_sweep, loses_of_perm hr]

/-- Bob has been given up on, and Ada has just been asked. The sweep removes Bob, closes the table
and sends Ada to the lobby, whichever of the two has come first. -/
theorem sweep_simultaneous_reverse :
    let xs : List Incident := [.arrival 1 "a" 0, .command 1 (.connect "Ada"), .arrival 2 "b" 1,
      .command 2 (.connect "Bob"), .matchmake, .sweep, .sweep, .command 1 .pong, .sweep]
    let h := (vacant 4 2 1).after xs
    let r : Roster := ⟨h.roster.entries.reverse, by decide +kernel⟩
    let k : Hall := { h with roster := r }
    (Incident.Plausible xs ∧ r.entries.Perm h.roster.entries) ∧
      h.loses 1 = true ∧ h.sweep.tables.running = [] ∧
      k.sweep.roster.entries = [(1, { name := some "Ada", origin := "a", phase := .lost,
                                      saved := .waiting, decay := 1, line := some 0 })] := by
  intro xs h r k
  have hp : Incident.Plausible xs := by decide +kernel
  have hr : r.entries.Perm h.roster.entries := List.reverse_perm _
  have hloses : h.loses 1 = true := by decide +kernel
  obtain ⟨⟨-, htables⟩, hk, -⟩ := sweep_simultaneous 4 2 1 hp hr
  refine ⟨⟨hp, hr⟩, hloses, ?_, hk.trans (by decide +kernel)⟩
  rw [htables]
  decide +kernel

end Hall

end Tafl
