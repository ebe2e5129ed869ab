import Tafl.Proofs.Hall.Simultaneous
import Tafl.Proofs.Hall.Violations

/-! # A place for a newcomer

When the hall is full, a newcomer gets the place of a disconnected guest with the shortest
countdown, or is turned away if nobody is disconnected (`Hall.after_reclaim`). The countdown is not
all there is to it: what a reconnection has left behind is swept away at once, whatever its
countdown says (`Guest.sweepsLeft`). So somebody whose game could still go on may have to go before
a record that nobody will miss. -/

namespace Tafl

namespace Guest

/-- The number of the sweep that removes a disconnected guest. -/
def sweepsLeft (g : Guest) : Nat := if g.isAbandoned then 1 else g.decay

variable {g : Guest}

theorem sweepsLeft_of_abandoned (h : g.isAbandoned = true) : g.sweepsLeft = 1 := if_pos h

theorem sweepsLeft_of_named (h : ¬ g.isAbandoned = true) : g.sweepsLeft = g.decay := if_neg h

theorem one_le_sweepsLeft (hd : 1 ≤ g.decay) : 1 ≤ g.sweepsLeft := by
  unfold sweepsLeft
  split
  · exact Nat.le_refl 1
  · exact hd

end Guest

namespace Hall

structure IsDisconnected (h : Hall) (i : GuestId) (g : Guest) : Prop where
  there : h.guest? i = some g
  phase : g.phase = .disconnected

/-- Nobody who is disconnected would be swept away before the guest `old`. -/
def IsNext (h : Hall) (old : GuestId) : Prop :=
  ∀ i g, h.IsDisconnected i g →
    ∀ n, (h.sweeps n).guest? i = none → (h.sweeps n).guest? old = none

/-- In the hall `k` the newcomer `id` has got the place of the guest `old`. If `old` was in a game,
the game is over, and its opponent is in the lobby and has been told so. Nothing else has changed
for anybody. -/
structure Reclaims (h k : Hall) (old : GuestId) (go : Guest) (id : GuestId) (origin : Origin)
    (line : Line) : Prop where
  lost : h.IsDisconnected old go
  decay : ∀ i g, h.IsDisconnected i g → go.decay ≤ g.decay
  ids : k.roster.ids = h.roster.ids.filter (· ≠ old) ++ [id]
  newcomer : k.guest? id = some (.arriving origin line h.decayBudget)
  others : ∀ i, i ≠ old → i ≠ id → h.opponent? old ≠ some i → k.guest? i = h.guest? i
  game : ∀ t, go.table = some t → k.tables.get? t = none ∧ ∃ o x, h.opponent? old = some o ∧
    h.guest? o = some x ∧ x.table = some t ∧ k.guest? o = some x.released
  tables : ∀ t, go.table ≠ some t → k.tables.get? t = h.tables.get? t
  told : ∀ l, h.rivalLine old = some l →
    k.sentOn l = h.sentOn l ++ [.frame .opponentGone, .frame .lobby]
  silent : ∀ l, h.rivalLine old ≠ some l → k.sentOn l = h.sentOn l

/-- The newcomer on the line is told that the hall is full, and has to go. -/
structure TurnsAway (h k : Hall) (line : Line) : Prop where
  roster : k.roster = h.roster
  tables : k.tables = h.tables
  told : k.sentOn line = h.sentOn line ++ [.frame .serverFull, .close]
  silent : ∀ l, l ≠ line → k.sentOn l = h.sentOn l

variable {h : Hall} {first : Nat} {i old id : GuestId} {g go : Guest} {origin : Origin}
  {line : Line}

/-! ### The sweeps that are left -/

theorem sweeps_succ (h : Hall) (n : Nat) : h.sweeps (n + 1) = h.sweep.sweeps n := by
  induction n with
  | zero => rfl
  | succ n ih => exact congrArg sweep ih

theorem guest?_sweeps_of_none (hg : h.guest? i = none) (n : Nat) :
    (h.sweeps n).guest? i = none := by
  induction n generalizing h with
  | zero => exact hg
  | succ n ih =>
    rw [sweeps_succ]
    exact ih (guest?_sweep_of_none hg)

/-- Losing its game in a sweep makes no difference to when a guest is removed. -/
theorem exists_sunk {x : Guest} (hs : g.sink h.decayBudget = some x) :
    ∃ y, h.sunk g = some y ∧ y.name = x.name ∧ y.phase = x.phase ∧ y.decay = x.decay := by
  rw [sunk, hs, Option.map_some]
  refine ⟨_, rfl, ?_⟩
  split <;> exact ⟨rfl, rfl, rfl⟩

theorem sunk_disconnected (h : Hall) (hp : g.phase = .disconnected) (hd : 1 ≤ g.decay) :
    h.sunk g = none ∧ g.sweepsLeft = 1 ∨
      ∃ x, h.sunk g = some x ∧ x.phase = .disconnected ∧ 1 ≤ x.decay ∧
        g.sweepsLeft = x.sweepsLeft + 1 := by
  by_cases hab : g.isAbandoned = true
  · refine .inl ⟨?_, Guest.sweepsLeft_of_abandoned hab⟩
    rw [sunk, Guest.sink_of_abandoned hab, Option.map_none]
  rw [Guest.sweepsLeft_of_named hab]
  have hsink := Guest.sink_of_disconnected (b := h.decayBudget) hab hp
  split at hsink
  · rename_i hle
    refine .inl ⟨?_, Nat.le_antisymm hle hd⟩
    rw [sunk, hsink, Option.map_none]
  · rename_i hlt
    obtain ⟨x, hx, hname, hphase, hdecay⟩ := exists_sunk hsink
    have habx : ¬ x.isAbandoned = true := by
      rwa [Guest.isAbandoned, hname, hphase]
    refine .inr ⟨x, hx, hphase.trans hp, ?_, ?_⟩
    · rw [hdecay]
      exact Nat.le_sub_one_of_lt (Nat.lt_of_not_le hlt)
    · rw [Guest.sweepsLeft_of_named habx, hdecay]
      exact (Nat.sub_add_cancel hd).symm

/-- A disconnected guest goes with the last of its sweeps, whatever happens to others meanwhile. -/
theorem Orderly.guest?_sweeps_eq_none_iff (ho : h.Orderly first) (hg : h.IsDisconnected i g)
    (hd : 1 ≤ g.decay) (n : Nat) : (h.sweeps n).guest? i = none ↔ g.sweepsLeft ≤ n := by
  induction n generalizing h g with
  | zero =>
    have hleft := g.one_le_sweepsLeft hd
    have hthere : (h.sweeps 0).guest? i = some g := hg.there
    exact iff_of_false (by simp [hthere]) (by omega)
  | succ n ih =>
    rw [sweeps_succ]
    have hsweep := ho.guest?_sweep hg.there
    rcases h.sunk_disconnected hg.phase hd with ⟨hnone, hleft⟩ | ⟨x, hsome, hpx, hdx, hleft⟩
    · exact iff_of_true (guest?_sweeps_of_none (hsweep.trans hnone) n) (by omega)
    · have hos : h.sweep.Orderly first := ho.foldl_sweepGuest _
      rw [ih hos ⟨hsweep.trans hsome, hpx⟩ hdx]
      omega

/-- The guest with the shortest countdown is the next to be swept away, unless it has more than one
sweep left and somebody else is abandoned. -/
theorem Orderly.isNext_iff (ho : h.Orderly first)
    (hd : ∀ i g, h.IsDisconnected i g → 1 ≤ g.decay) (hold : h.IsDisconnected old go)
    (hmin : ∀ i g, h.IsDisconnected i g → go.decay ≤ g.decay) :
    h.IsNext old ↔
      go.sweepsLeft ≤ 1 ∨ ∀ i g, h.IsDisconnected i g → ¬ g.isAbandoned = true := by
  have gone {i : GuestId} {g : Guest} (hg : h.IsDisconnected i g) (n : Nat) :=
    ho.guest?_sweeps_eq_none_iff hg (hd i g hg) n
  constructor
  · intro hnext
    by_contra hno
    simp only [not_or, not_forall, not_not] at hno
    obtain ⟨hlong, i, g, hg, hab⟩ := hno
    have hone : (h.sweeps 1).guest? i = none :=
      (gone hg 1).2 (Nat.le_of_eq (Guest.sweepsLeft_of_abandoned hab))
    exact hlong ((gone hold 1).1 (hnext i g hg 1 hone))
  · intro hcase i g hg n hn
    rw [gone hg] at hn
    rw [gone hold]
    rcases hcase with hle | hnone
    · exact (hle.trans (g.one_le_sweepsLeft (hd i g hg))).trans hn
    · rw [Guest.sweepsLeft_of_named (hnone i g hg)] at hn
      rw [Guest.sweepsLeft_of_named (hnone old go hold)]
      exact (hmin i g hg).trans hn

/-! ### Making room -/

theorem ids_drop (h : Hall) (i : GuestId) :
    (h.drop i).roster.ids = h.roster.ids.filter (· ≠ i) := by
  obtain ⟨q, hq⟩ := ((Thins.refl h).drop (i := i)).ids
  have hmem (k : Hall) (j : GuestId) : k.badge? j = none ↔ j ∉ k.roster.ids := by
    rw [badge?, Option.map_eq_none_iff]
    exact Roster.get?_eq_none_iff
  rw [hq]
  refine List.filter_congr fun j hj => ?_
  have hb := congrFun (badge?_drop h i) j
  rw [Function.update_apply] at hb
  have hthere : q j = true ↔ (h.drop i).badge? j ≠ none := by
    rw [Ne, hmem, not_not, hq, List.mem_filter, and_iff_right hj]
  rw [Bool.eq_iff_iff, hthere, hb, decide_eq_true_iff]
  split
  · rename_i hji
    exact iff_of_false (· rfl) (· hji)
  · rename_i hji
    exact iff_of_true (fun hnone => (hmem h j).1 hnone hj) hji

theorem guest?_drop_of_none (hg : h.guest? i = none) : (h.drop old).guest? i = none := by
  rw [guest?, Roster.get?_eq_none_iff, ids_drop, List.mem_filter]
  exact fun hi => Roster.get?_eq_none_iff.1 hg hi.1

theorem ids_enrol (hid : h.guest? id = none) (origin : Origin) (line : Line) :
    (h.enrol id origin line).roster.ids = h.roster.ids ++ [id] := by
  have hnot : id ∉ h.roster.ids := Roster.get?_eq_none_iff.1 hid
  rw [enrol, Roster.insert, dif_neg hnot, Roster.ids, List.map_append]
  rfl

/-- A disconnected guest with the shortest countdown makes room for the newcomer. -/
theorem Orderly.reclaims (ho : h.Orderly first) (hid : h.guest? id = none)
    (hold : h.roster.longestDisconnected? = some old) (origin : Origin) (line : Line) :
    ∃ go, h.Reclaims ((h.drop old).enrol id origin line) old go id origin line := by
  obtain ⟨go, hgo, hp, hmin⟩ := Roster.longestDisconnected?_eq_some hold
  have hgo : h.guest? old = some go := hgo
  have hbudget : (h.drop old).decayBudget = h.decayBudget := (Evolves.refl h).drop.budget
  have hgone : (h.drop old).guest? id = none := guest?_drop_of_none hid
  -- a disconnected guest has no line, so nothing is sent but to its opponent
  have hline : h.line? old = none := (line?_of_guest? hgo).trans ((ho.proper old go hgo).cut hp)
  have hsent (l : Line) : ((h.drop old).enrol id origin line).sentOn l =
      h.sentOn l ++ news (h.rivalLine old) [.opponentGone, .lobby] l :=
    ho.sentOn_drop_others hgo (by simp [hline])
  refine ⟨go, {
    lost := ⟨hgo, hp⟩
    decay := fun i g hg => hmin i g hg.there hg.phase
    ids := by rw [ids_enrol hgone, ids_drop]
    newcomer := by rw [guest?_enrol_self, hbudget]
    others := fun i hi hiid hop => ?_
    game := fun t ht => ?_
    tables := fun t ht => (ho.get?_drop hgo t).trans (if_neg ht)
    told := fun l hl => by rw [hsent, hl, news_self]; rfl
    silent := fun l hl => by rw [hsent, news_of_ne hl, List.append_nil] }⟩
  · rw [guest?_enrol_of_ne hiid]
    cases hg : h.guest? i with
    | none => exact guest?_drop_of_none hg
    | some g =>
      refine (ho.drop_stranger hg hi.symm fun hopi => hop ?_).1
      obtain ⟨_, _, _, d⟩ := ho.exists_duel hg hopi
      exact ho.opponent?_eq d.symm
  · obtain ⟨o, x, T, s, rfl, d⟩ := ho.duel hgo ht
    have hoid : o ≠ id := by
      rintro rfl
      cases hid.symm.trans d.there
    refine ⟨ho.drop_self_table hgo ht, o, x, ho.opponent?_eq d, d.there, d.table_there, ?_⟩
    rw [guest?_enrol_of_ne hoid]
    exact (ho.drop_opponent d.there (ho.opponent?_eq d.symm)).1

theorem turnsAway (h : Hall) (line : Line) :
    h.TurnsAway ((h.post line .serverFull).hangUp (some line)) line where
  roster := rfl
  tables := rfl
  told := by rw [sentOn_hangUp, if_pos rfl, sentOn_post, if_pos rfl, List.append_assoc]; rfl
  silent l hl := by rw [sentOn_hangUp, if_neg hl, sentOn_post, if_neg hl]

theorem accept_of_refused (hfull : h.capacity ≤ h.roster.size)
    (hnone : ¬ ∃ i g, h.IsDisconnected i g) (id : GuestId) (origin : Origin) (line : Line) :
    h.accept id origin line = ((h.post line .serverFull).hangUp (some line), false) := by
  have hno : h.roster.longestDisconnected? = none := by
    cases ho : h.roster.longestDisconnected? with
    | none => rfl
    | some o =>
      obtain ⟨g, hg, hp, -⟩ := Roster.longestDisconnected?_eq_some ho
      exact absurd ⟨o, g, hg, hp⟩ hnone
  rw [accept, if_neg (Nat.not_lt.2 hfull), hno]

/-- A newcomer comes to a full hall. If somebody there is disconnected, a guest with the shortest
countdown has to go for it, which is the next that would be swept away, or else has more than one
sweep left while somebody that is abandoned has not. If nobody is disconnected, the newcomer has to
go. -/
theorem after_reclaim (capacity maxTables : Nat) {budget : Nat} (hb : 1 ≤ budget)
    {xs : List Incident} {id : GuestId} {origin : Origin} {line : Line}
    (hp : Incident.Plausible (xs ++ [.arrival id origin line])) :
    let h := (vacant capacity maxTables budget).after xs
    let k := (h.accept id origin line).1
    h.capacity ≤ h.roster.size →
      (∀ i g, h.IsDisconnected i g → ∀ n, (h.sweeps n).guest? i = none ↔ g.sweepsLeft ≤ n) ∧
      ((∃ i g, h.IsDisconnected i g) → (h.accept id origin line).2 = true ∧
        ∃ old go, h.Reclaims k old go id origin line ∧
          (h.IsNext old ↔
            go.sweepsLeft ≤ 1 ∨ ∀ i g, h.IsDisconnected i g → ¬ g.isAbandoned = true)) ∧
      ((¬ ∃ i g, h.IsDisconnected i g) →
        (h.accept id origin line).2 = false ∧ h.TurnsAway k line) := by
  intro h k hfull
  obtain ⟨first, r⟩ := hp.left.reached capacity maxTables budget
  have ho : h.Orderly first := Reached.orderly r
  have hd (i : GuestId) (g : Guest) (hg : h.IsDisconnected i g) : 1 ≤ g.decay :=
    (Reached.timed r hb hg.there).pos
  have hid : h.guest? id = none := Reached.guest?_fresh r (newcomer_notMem hp.ids_concat)
  refine ⟨fun i g hg => ho.guest?_sweeps_eq_none_iff hg (hd i g hg), ?_, fun hnone => ?_⟩
  · rintro ⟨i, g, hg⟩
    obtain ⟨old, hold⟩ := Roster.exists_longestDisconnected? hg.there hg.phase
    have haccept : h.accept id origin line = ((h.drop old).enrol id origin line, true) :=
      accept_of_full hfull hold
    obtain ⟨go, hr⟩ := ho.reclaims hid hold origin line
    refine ⟨by rw [haccept], old, go, ?_, ho.isNext_iff hd hr.lost hr.decay⟩
    rw [show k = (h.drop old).enrol id origin line from congrArg Prod.fst haccept]
    exact hr
  · have haccept := accept_of_refused hfull hnone id origin line
    refine ⟨by rw [haccept], ?_⟩
    rw [show k = _ from congrArg Prod.fst haccept]
    exact h.turnsAway line

/-- Ada has come back from where she was before, and Bob has been away for longer than she was. A
newcomer gets his place. Where the only guest there is answers, a newcomer is turned away. -/
theorem after_reclaim_back_and_away :
    let xs : List Incident := [.arrival 1 "a" 0, .command 1 (.connect "Ada"), .arrival 2 "b" 1,
      .command 2 (.connect "Bob"), .matchmake, .sweep, .command 1 .pong, .sweep, .sweep, .sweep,
      .arrival 3 "a" 2, .command 3 (.connect "Ada")]
    let bob : Guest := { name := some "Bob", origin := "b", table := some 1, phase := .disconnected,
                         saved := .onStand, decay := 2, line := none }
    let h := (vacant 3 2 3).after xs
    let h' := (vacant 1 2 3).after [.arrival 1 "a" 0]
    (1 ≤ 3 ∧ Incident.Plausible (xs ++ [.arrival 4 "d" 3]) ∧ h.capacity ≤ h.roster.size ∧
      Incident.Plausible ([.arrival 1 "a" 0] ++ [.arrival 2 "b" 1]) ∧
      h'.capacity ≤ h'.roster.size) ∧
      h.Reclaims (h.accept 4 "d" 3).1 2 bob 4 "d" 3 ∧ (h.sweeps 2).guest? 2 = none ∧
        h'.TurnsAway (h'.accept 2 "b" 1).1 1 := by
  intro xs bob h h'
  have hp : Incident.Plausible (xs ++ [.arrival 4 "d" 3]) := by decide +kernel
  have hp' : Incident.Plausible ([.arrival 1 "a" 0] ++ [.arrival 2 "b" 1]) := by decide +kernel
  have hfull : h.capacity ≤ h.roster.size := by decide +kernel
  have hfull' : h'.capacity ≤ h'.roster.size := by decide +kernel
  have hbob : h.IsDisconnected 2 bob := ⟨by decide +kernel, rfl⟩
  obtain ⟨hleft, hreclaims, -⟩ := after_reclaim 3 2 (by decide : 1 ≤ 3) hp hfull
  obtain ⟨-, -, haway⟩ := after_reclaim 1 2 (by decide : 1 ≤ 3) hp' hfull'
  obtain ⟨-, old, go, hr, -⟩ := hreclaims ⟨2, bob, hbob⟩
  have hold : 2 = old := by
    by_contra hne
    have hmem : 2 ∈ (h.accept 4 "d" 3).1.roster.ids := by
      rw [hr.ids, List.mem_append, List.mem_filter]
      exact .inl ⟨by decide +kernel, decide_eq_true hne⟩
    revert hmem
    decide +kernel
  subst hold
  obtain rfl := Option.some.inj (hbob.there.symm.trans hr.lost.there)
  refine ⟨⟨by decide, hp, hfull, hp', hfull'⟩, hr, (hleft 2 bob hbob 2).2 (by decide), ?_⟩
  refine (haway ?_).2
  rintro ⟨i, g, hg, hphase⟩
  have hall : h'.roster.entries = [(1, .arriving "a" 0 3)] := by decide +kernel
  have hmem := Roster.get?_eq_some_iff.1 hg
  rw [hall] at hmem
  obtain rfl := congrArg Prod.snd (List.mem_singleton.1 hmem)
  cases hphase

/-- Bob might have come back before the second sweep, and Ada plays on. What she has left behind
would have gone with the first, yet it stays, and Bob has to go. -/
theorem not_isNext_reclaimed :
    let xs : List Incident := [.arrival 1 "a" 0, .command 1 (.connect "Ada"), .arrival 2 "b" 1,
      .command 2 (.connect "Bob"), .matchmake, .sweep, .command 1 .pong, .sweep, .sweep, .sweep,
      .arrival 3 "a" 2, .command 3 (.connect "Ada")]
    let h := (vacant 3 2 3).after xs
    let k := (h.accept 4 "d" 3).1
    Incident.Plausible (xs ++ [.arrival 4 "d" 3]) ∧ h.capacity ≤ h.roster.size ∧
      (h.guest? 2).isSome = true ∧ k.guest? 2 = none ∧ (k.guest? 1).isSome = true ∧
      ¬ h.IsNext 2 := by
  intro xs h k
  refine ⟨by decide +kernel, by decide +kernel, by decide +kernel, by decide +kernel,
    by decide +kernel, fun hnext => ?_⟩
  have hada : h.IsDisconnected 1
      { origin := "a", phase := .disconnected, saved := .onTurn, decay := 3, line := none } :=
    ⟨by decide +kernel, rfl⟩
  have hgone := hnext 1 _ hada 1 (by decide +kernel)
  revert hgone
  decide +kernel

end Hall

end Tafl
