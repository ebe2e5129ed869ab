import Tafl.Proofs.Hall.Leftovers
import Tafl.Proofs.Hall.Lines
import Tafl.Proofs.Hall.Records

/-! # Coming back over a new line

`Hall.after_reconnection`: a guest that comes back over a new line gets exactly what it had
(`HandsOver`), and what is left of its old record goes unnoticed (`Fades`). -/

namespace Tafl
open Function (update)

namespace Guest

/-- The record of a stranger that has taken over from another guest. -/
def heir (g old : Guest) (budget : Nat) : Guest :=
  { g with name := old.name, table := old.table, phase := old.saved, saved := old.saved,
           decay := budget }

/-- What is left of the other one. -/
def relict (g : Guest) : Guest := { g with name := none, table := none, line := none }

end Guest

namespace Hall

/-- The guest `i` has the name `n` and does not answer, and the guest `j`, which calls from the same
address, has no name. -/
structure Returns (h : Hall) (i j : GuestId) (gi gj : Guest) (n : String) : Prop where
  old : h.guest? i = some gi
  name : gi.name = some n
  away : gi.phase.isAway = true
  new : h.guest? j = some gj
  stranger : gj.name = none
  line : gj.line ≠ none
  origin : gi.origin = gj.origin

variable {h k : Hall} {first : Nat} {i j o : GuestId} {g gi gj go : Guest} {n : String}

theorem sentOn_sendToOpponent (m : Notice) (l : Line) : (h.sendToOpponent i m).sentOn l =
    h.sentOn l ++ news ((h.opponent? i).bind h.line?) [m] l := by
  unfold sendToOpponent
  cases h.opponent? i with
  | none => exact (List.append_nil _).symm
  | some o => exact sentOn_send ..

theorem guest?_welcomeBack : (h.welcomeBack i).guest? = h.guest? := by
  rw [welcomeBack, guest?_sendToOpponent, guest?_sendPlace, guest?_send]
  rfl

theorem tables_welcomeBack : (h.welcomeBack i).tables = h.tables := by
  rw [welcomeBack, tables_sendToOpponent, tables_sendPlace, tables_send]

/-- The hall in which `j` has taken over from `i`, but has not been told about it. -/
def resumed (h : Hall) (i j : GuestId) : Hall := (h.roused j).handedOver i j

namespace Returns

theorem ne (r : h.Returns i j gi gj n) : i ≠ j :=
  ne_of_named r.new r.stranger r.old (by simp [r.name])

theorem judge_ne (r : h.Returns i j gi gj n) (hd : 0 < gi.decay) :
    Recognition.judge (some gi) gj.origin ≠ .nameInUse := by
  have haway := r.away
  unfold Recognition.judge
  dsimp only
  rw [if_neg (not_not.2 r.origin)]
  cases hp : gi.phase <;> simp_all [Phase.isAway]

theorem obey (r : h.Returns i j gi gj n) (ho : h.Orderly first) (hd : 0 < gi.decay) :
    h.obey j (.connect n) = ((h.resumed i j).welcomeBack j, .stay) := by
  rw [obey_connect_held r.new r.stranger (ho.findName?_eq r.old r.name) r.old,
    if_neg (r.judge_ne hd)]
  rfl

theorem guest?_resumed (r : h.Returns i j gi gj n) : (h.resumed i j).guest? =
    update (update h.guest? i (some gi.relict)) j (some (gj.heir gi h.decayBudget)) := by
  have hne := r.ne
  rw [resumed, guest?_handedOver (guest?_roused_self r.new)
    ((guest?_roused_of_ne hne).trans r.old) hne, roused, guest?_revise,
    Function.update_comm hne.symm, Function.update_idem]
  rfl

theorem tables_resumed : (h.resumed i j).tables = h.tables := tables_handedOver

theorem orderly_roused (r : h.Returns i j gi gj n) (ho : h.Orderly first) :
    (h.roused j).Orderly first :=
  ho.deed (.rouse r.new (Option.isSome_iff_ne_none.2 r.line))

theorem orderly_resumed (r : h.Returns i j gi gj n) (ho : h.Orderly first) :
    (h.resumed i j).Orderly first :=
  (r.orderly_roused ho).handedOver (guest?_roused_self r.new) r.stranger
    (Option.isSome_iff_ne_none.2 r.line) ((guest?_roused_of_ne r.ne).trans r.old) r.away
    (by simp [r.name])

theorem sentOn_resumed (r : h.Returns i j gi gj n) (l : Line) : (h.resumed i j).sentOn l =
    h.sentOn l ++ if gi.line = some l then [.close] else [] :=
  sentOn_handedOver (guest?_roused_self r.new) ((guest?_roused_of_ne r.ne).trans r.old) r.ne l

/-- The opponent is the same as before. -/
theorem opponentLine (r : h.Returns i j gi gj n) (ho : h.Orderly first) (hk : k.Orderly first)
    (hg : k.guest? = (h.resumed i j).guest?) (ht : k.tables = h.tables) :
    (k.opponent? j).bind k.line? = (h.opponent? i).bind h.line? := by
  rw [r.guest?_resumed] at hg
  have hj : k.guest? j = some (gj.heir gi h.decayBudget) := by rw [hg, Function.update_self]
  cases hti : gi.table with
  | none =>
    rw [opponent?_of_table_eq_none r.old hti,
      opponent?_of_table_eq_none hj (show (gj.heir gi h.decayBudget).table = none from hti)]
    rfl
  | some t =>
    obtain ⟨o, go, t, s, rfl, d⟩ := ho.duel r.old hti
    have hoi : o ≠ i := d.ne.symm
    have hoj : o ≠ j := ne_of_named r.new r.stranger d.there (by simp [d.name_there])
    have hgo : k.guest? o = some go := by
      rw [hg, Function.update_of_ne hoj, Function.update_of_ne hoi, d.there]
    have d' : Duel k.guest? k.tables.get? j o (gj.heir gi h.decayBudget) go t s :=
      { d with
        here := hj
        there := hgo
        table := by rw [ht, d.table]
        logical_here := by
          have hsaved := (InOrder.proper ho i gi r.old).saved
          rw [Guest.logical_of_awake (show (gj.heir gi h.decayBudget).phase.isAway = _ from hsaved),
            ← d.logical_here, Guest.logical_of_away r.away]
          rfl }
    rw [hk.opponent?_eq d', ho.opponent?_eq d, Option.bind_some, Option.bind_some,
      line?_of_guest? hgo, line?_of_guest? d.there]

end Returns

/-- The place of `i` in the hall `h` is handed over to `j`, and nothing else happens. -/
structure HandsOver (h k : Hall) (i j : GuestId) (gi gj : Guest) (n : String) : Prop where
  heir : k.guest? j = some { gj with name := some n, table := gi.table, phase := gi.saved,
                                     saved := gi.saved, decay := h.decayBudget }
  relict : k.guest? i = some { gi with name := none, table := none, line := none }
  abandoned : ∃ g, k.guest? i = some g ∧ g.isAbandoned = true
  found : k.roster.findName? n = some j
  others : ∀ x, x ≠ i → x ≠ j → k.guest? x = h.guest? x
  tables : k.tables = h.tables
  /-- The former line is closed. -/
  stale : ∀ l, gi.line = some l → k.sentOn l = h.sentOn l ++ [.close]
  /-- Whoever comes back is told where it is. -/
  told : ∀ l, gj.line = some l → ∃ ns, Places h.tables.get? gi ns ∧
    k.sentOn l = h.sentOn l ++ (Notice.reconnected :: ns).map .frame
  opponent : ∀ o l, h.opponent? i = some o → h.line? o = some l →
    k.sentOn l = h.sentOn l ++ [.frame .opponentBack]
  silent : ∀ l, gi.line ≠ some l → gj.line ≠ some l →
    (∀ o, h.opponent? i = some o → h.line? o ≠ some l) → k.sentOn l = h.sentOn l

namespace Returns

theorem sentOn (r : h.Returns i j gi gj n) (ho : h.Orderly first) :
    ∃ ns, Places h.tables.get? gi ns ∧ ∀ l, ((h.resumed i j).welcomeBack j).sentOn l =
      h.sentOn l ++ (if gi.line = some l then [.close] else []) ++
        news gj.line (.reconnected :: ns) l ++
        news ((h.opponent? i).bind h.line?) [.opponentBack] l := by
  have hk := r.orderly_resumed ho
  have hj : (h.resumed i j).guest? j = some (gj.heir gi h.decayBudget) := by
    rw [r.guest?_resumed, Function.update_self]
  have hw : ((h.resumed i j).welcome j).guest? = (h.resumed i j).guest? := by simp [welcome]
  have ht : ((h.resumed i j).welcome j).tables = (h.resumed i j).tables := by simp [welcome]
  obtain ⟨ns, hns, hsent⟩ := hk.exists_welcome hj
  refine ⟨ns, ?_, fun l => ?_⟩
  · rw [tables_resumed] at hns
    exact hns.congr rfl rfl
  · have hback : ((h.resumed i j).welcomeBack j).sentOn l =
        (((h.resumed i j).welcome j).sendToOpponent j .opponentBack).sentOn l := rfl
    rw [hback, sentOn_sendToOpponent, hsent, r.sentOn_resumed,
      r.opponentLine ho (hk.of_eq hw ht) hw (ht.trans tables_resumed)]
    rfl

theorem handsOver (r : h.Returns i j gi gj n) (ho : h.Orderly first) (ap : h.Apart) :
    h.HandsOver ((h.resumed i j).welcomeBack j) i j gi gj n := by
  have hguest : ((h.resumed i j).welcomeBack j).guest? = _ :=
    guest?_welcomeBack.trans r.guest?_resumed
  have htables : ((h.resumed i j).welcomeBack j).tables = h.tables :=
    tables_welcomeBack.trans tables_resumed
  obtain ⟨ns, hns, hsent⟩ := r.sentOn ho
  have horderly : ((h.resumed i j).welcomeBack j).Orderly first :=
    (r.orderly_resumed ho).of_eq guest?_welcomeBack tables_welcomeBack
  generalize (h.resumed i j).welcomeBack j = k at hguest htables hsent horderly
  have hj : k.guest? j = some (gj.heir gi h.decayBudget) := by rw [hguest, Function.update_self]
  have hi : k.guest? i = some gi.relict := by
    rw [hguest, Function.update_of_ne r.ne, Function.update_self]
  have hleft : k.Leftover i := ⟨_, hi, rfl, rfl⟩
  -- the lines of the three are all different
  have ap := apart_iff.1 ap
  have hij (l : Line) (hil : gi.line = some l) : gj.line ≠ some l := fun hjl =>
    r.ne (ap i j l ((line?_of_guest? r.old).trans hil) ((line?_of_guest? r.new).trans hjl))
  have hop (l : Line) (hol : (h.opponent? i).bind h.line? = some l) :
      gi.line ≠ some l ∧ gj.line ≠ some l := by
    obtain ⟨o, hopp, hol⟩ := Option.bind_eq_some_iff.1 hol
    obtain ⟨hoi, go, hgo, hno⟩ := ho.opponent?_ne r.old hopp
    refine ⟨fun hil => ?_, fun hjl => ?_⟩
    · exact hoi (ap o i l hol ((line?_of_guest? r.old).trans hil))
    · exact ne_of_named r.new r.stranger hgo hno
        (ap o j l hol ((line?_of_guest? r.new).trans hjl))
  refine ⟨?_, hi, hleft.isAbandoned horderly, horderly.findName?_eq hj r.name, fun x hxi hxj => ?_,
    htables, fun l hil => ?_, fun l hjl => ⟨ns, hns, ?_⟩, fun o l hopp hol => ?_,
    fun l hil hjl hol => ?_⟩
  · rw [hj, ← r.name]
    rfl
  · rw [hguest, Function.update_of_ne hxj, Function.update_of_ne hxi]
  · rw [hsent, if_pos hil, news_of_ne (hij l hil), news_of_ne fun hol => (hop l hol).1 hil,
      List.append_nil, List.append_nil]
  · rw [hsent, if_neg fun hil => hij l hil hjl, hjl, news_self,
      news_of_ne fun hol => (hop l hol).2 hjl, List.append_nil, List.append_nil]
  · have hline : (h.opponent? i).bind h.line? = some l := by rw [hopp, Option.bind_some, hol]
    rw [hsent, if_neg (hop l hline).1, news_of_ne (hop l hline).2, hline, news_self,
      List.append_nil, List.append_nil]
    rfl
  · have hline : (h.opponent? i).bind h.line? ≠ some l := by
      intro e
      obtain ⟨o, hopp, hol'⟩ := Option.bind_eq_some_iff.1 e
      exact hol o hopp hol'
    rw [hsent, if_neg hil, news_of_ne hjl, news_of_ne hline, List.append_nil, List.append_nil,
      List.append_nil]

end Returns

/-- What is left of the guest `i` does nothing, and when it goes, nobody notices. -/
structure Fades (h : Hall) (i : GuestId) : Prop where
  inert : ∀ g, h.guest? i = some g →
    g.name = none ∧ g.table = none ∧ g.line = none ∧ g.isAbandoned = true
  /-- The next sweep takes it away. -/
  swept : h.sweep.guest? i = none
  sweep : ∀ g, h.guest? i = some g → h.sweep = (h.discard i).sweep
  accept : ∀ g id origin line, h.guest? i = some g → h.capacity ≤ h.roster.size →
    h.roster.longestDisconnected? = some i →
      h.accept id origin line = ((h.discard i).enrol id origin line, true)

theorem Leftover.fades (hl : h.Leftover i) (ho : h.Orderly first) : h.Fades i where
  inert g hg := by
    obtain ⟨x, hx, hn, hline⟩ := id hl
    obtain rfl := Option.some.inj (hg.symm.trans hx)
    obtain ⟨y, hy, hab⟩ := hl.isAbandoned ho
    obtain rfl := Option.some.inj (hg.symm.trans hy)
    exact ⟨hn, (InOrder.proper ho i g hg).table_of_unnamed hn, hline, hab⟩
  swept := by
    rw [hl.sweep ho]
    exact guest?_sweep_of_none (by rw [guest?_discard, Function.update_self])
  sweep _ _ := hl.sweep ho
  accept _ id origin line _ hfull hfirst := hl.accept ho hfull hfirst id origin line

theorem fades_of_none (hg : h.guest? i = none) : h.Fades i where
  inert g hg' := by simp [hg] at hg'
  swept := guest?_sweep_of_none hg
  sweep g hg' := by simp [hg] at hg'
  accept g id origin line hg' := by simp [hg] at hg'

/-- Somebody who comes back over a new line gets the name, the table and the phase that it had, and
nothing else changes for anybody. What is left of the old record does nothing. It goes with the next
sweep, or when a newcomer needs its place, and is not missed. -/
theorem after_reconnection (capacity maxTables : Nat) {budget : Nat} (hb : 1 ≤ budget)
    {xs : List Incident} (hp : Incident.Plausible xs) {i j : GuestId} {gi gj : Guest} {n : String}
    (r : ((vacant capacity maxTables budget).after xs).Returns i j gi gj n) :
    let h := (vacant capacity maxTables budget).after xs
    let k := (h.obey j (.connect n)).1
    (h.obey j (.connect n)).2 = .stay ∧ h.HandsOver k i j gi gj n ∧
      ∀ ys, Incident.Plausible (xs ++ .command j (.connect n) :: ys) →
        (k.after ys).Fades i ∧
          ∀ x, Incident.Plausible (xs ++ .command j (.connect n) :: (ys ++ [x])) →
            (k.after ys).guest? i ≠ none → ((k.after ys).meet x).guest? i = none →
              x = .sweep ∨ x = .shutDown ∨ ∃ id origin line, x = .arrival id origin line ∧
                (k.after ys).capacity ≤ (k.after ys).roster.size ∧
                  (k.after ys).roster.longestDisconnected? = some i := by
  intro h k
  obtain ⟨first, r₀⟩ := hp.reached capacity maxTables budget
  have ho : h.Orderly first := Reached.orderly r₀
  have hd : 0 < gi.decay := (Reached.timed r₀ hb r.old).pos
  have hobey := r.obey ho hd
  have hk : k = (h.resumed i j).welcomeBack j := congrArg Prod.fst hobey
  have hands : h.HandsOver k i j gi gj n := hk ▸ r.handsOver ho (Reached.apart r₀ hp.lines)
  refine ⟨congrArg Prod.snd hobey, hands, fun ys hys => ?_⟩
  -- the hall after the hand-over is one that can be reached as well
  have hline : (h.line? j).isSome = true := by
    rw [line?_of_guest? r.new]
    exact Option.isSome_iff_ne_none.2 r.line
  have hafter : (vacant capacity maxTables budget).after (xs ++ [.command j (.connect n)]) = k := by
    rw [after_append]
    exact if_pos hline
  rw [List.append_cons] at hys
  obtain ⟨first₁, r₁⟩ := hys.left.reached capacity maxTables budget
  rw [hafter] at r₁
  obtain ⟨first₂, l⟩ := hys.leads r₁
  have r₂ := r₁.trans l
  have hleft := (l.record (P := Guest.IsLeft) (fun _ _ _ ht hg => hg.touch ht)
    (Reached.came r₁ hands.relict).1 fun g hg => by
      obtain rfl := Option.some.inj (hands.relict.symm.trans hg)
      exact ⟨rfl, rfl⟩).2
  have leftover (hi : (k.after ys).guest? i ≠ none) : (k.after ys).Leftover i := by
    obtain ⟨g, hg⟩ := Option.ne_none_iff_exists'.1 hi
    exact ⟨g, hg, hleft g hg⟩
  refine ⟨?_, fun x hx hthere hgone => ?_⟩
  · by_cases hi : (k.after ys).guest? i = none
    · exact fades_of_none hi
    · exact (leftover hi).fades (Reached.orderly r₂)
  · have hids := hx.ids
    rw [List.append_cons, ← List.append_assoc, List.flatMap_append, List.flatMap_singleton] at hids
    by_contra hno
    simp only [not_or, not_exists, not_and] at hno
    obtain ⟨hsweep, hdown, hplace⟩ := hno
    obtain ⟨g, hg, -⟩ := (leftover hthere).meet r₂ hids hsweep hdown fun id origin line he => by
      by_cases hfull : (k.after ys).roster.size < (k.after ys).capacity
      · exact .inl hfull
      · exact .inr (hplace id origin line he (Nat.le_of_not_lt hfull))
    rw [hg] at hgone
    cases hgone

/-- Two guests play. One of them is swept until its line is given up, and comes back over a new
one. -/
theorem after_reconnection_in_game :
    let xs : List Incident := [.arrival 1 "a" 0, .command 1 (.connect "Ada"), .arrival 2 "b" 1,
      .command 2 (.connect "Bob"), .matchmake, .sweep, .command 1 .pong, .sweep, .command 1 .pong,
      .sweep, .command 1 .pong, .arrival 3 "b" 2]
    let gi : Guest := { name := some "Bob", origin := "b", table := some 1, phase := .disconnected,
                        saved := .onStand, decay := 3, line := none }
    let gj : Guest := { origin := "b", decay := 3, line := some 2 }
    let h := (vacant 4 2 3).after xs
    let k := (h.obey 3 (.connect "Bob")).1
    (1 ≤ 3 ∧ Incident.Plausible (xs ++ .command 3 (.connect "Bob") :: ([.matchmake] ++ [.sweep])) ∧
      h.Returns 2 3 gi gj "Bob") ∧
      k.sentOn 2 = [.frame .reconnected, .frame .game, .frame (.opponentName "Ada"),
        .frame (.playfield Board.start.digits), .frame .opponentsTurn] ∧
      h.HandsOver k 2 3 gi gj "Bob" ∧ (k.after [.matchmake]).Fades 2 := by
  intro xs gi gj h k
  have hp : Incident.Plausible (xs ++ .command 3 (.connect "Bob") ::
      ([.matchmake] ++ [.sweep])) := by decide +kernel
  have r : h.Returns 2 3 gi gj "Bob" :=
    ⟨by decide +kernel, rfl, rfl, by decide +kernel, rfl, by simp [gj], rfl⟩
  obtain ⟨-, hands, hlater⟩ := after_reconnection 4 2 (by decide : 1 ≤ 3) hp.left r
  obtain ⟨fades, -⟩ := hlater [.matchmake] (by decide +kernel)
  exact ⟨⟨by decide, hp, r⟩, by decide +kernel, hands, fades⟩

end Hall

end Tafl
