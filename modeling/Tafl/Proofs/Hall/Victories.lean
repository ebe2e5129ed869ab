import Tafl.Proofs.Board.Simultaneous
import Tafl.Proofs.Game.KingCapture
import Tafl.Proofs.Hall.Countdown
import Tafl.Proofs.Hall.Rights

/-! # The last move of a game

`Hall.after_victory`: a move that ends a game is the winner's, and with it everything is settled.
The table is closed, both players are back in the lobby, wherever on the ladder they stand, and each
of them hears how the game has ended. -/

namespace Tafl
open Function (update)

/-- The record `g'` is `g`, back in the lobby. A guest that is away stays away, and will find itself
in the lobby when it comes back. -/
structure Guest.BackInLobby (g g' : Guest) : Prop where
  table : g'.table = none
  logical : g'.logical = .waiting
  away : g.phase.isAway = true → g'.phase = g.phase
  name : g'.name = g.name
  origin : g'.origin = g.origin
  line : g'.line = g.line
  decay : g'.decay = g.decay

theorem Guest.backInLobby_released (g : Guest) : g.BackInLobby g.released where
  table := table_released
  logical := logical_released
  away h := by rw [released_of_away h]
  name := name_released
  origin := by unfold released settle; split <;> rfl
  line := line_released
  decay := by unfold released settle; split <;> rfl

namespace Hall

/-- The guest `i`, whose record is `g`, may make the move `m` at its table `t`, and the game is over
with it: the table is `t'` then. -/
structure Decides (h : Hall) (i : GuestId) (m : Move) (g : Guest) (t t' : Table) : Prop where
  here : h.guest? i = some g
  allowed : (Command.move m).isAllowed g.phase g.saved g.name.isSome = true
  table : h.table? i = some t
  move : ∃ r, t.play (g.name.getD "") m = .ok (t', r)
  ends : t'.winner ≠ none

/-- The hall `h'` has become of `h` when the guest `i` has won its game against `o` by the move `m`.
Their records were `g` and `go`, and their table was `t` before the move and `t'` after it. -/
structure Settled (h h' : Hall) (i o : GuestId) (g go : Guest) (t t' : Table) (m : Move) :
    Prop where
  won : ∃ s, t'.winner = some s ∧ g.name = some (t'.player s) ∧
    go.name = some (t'.player s.opponent) ∧ t'.sideOf? (t'.player s) = some s
  closed : h'.tables.get? t.id = none
  tables : ∀ k, k ≠ t.id → h'.tables.get? k = h.tables.get? k
  here : ∃ g', h'.guest? i = some g' ∧ g.BackInLobby g'
  there : ∃ g', h'.guest? o = some g' ∧ go.BackInLobby g'
  others : ∀ j, j ≠ i → j ≠ o → h'.guest? j = h.guest? j
  told : ∃ l, g.line = some l ∧ h'.sentOn l = h.sentOn l ++
    [.frame .moveAccepted, .frame (.playfield t'.board.digits), .frame .won, .frame .lobby]
  told_loser : ∀ l, go.line = some l → h'.sentOn l = h.sentOn l ++
    [.frame (.opponentMove m), .frame (.playfield t'.board.digits), .frame .lost, .frame .lobby]
  silent : ∀ l, g.line ≠ some l → go.line ≠ some l → h'.sentOn l = h.sentOn l

variable {h : Hall} {first : Nat} {i o : GuestId} {g go : Guest} {t t' : Table} {m : Move}

/-! ### The move of the winner -/

/-- Whoever plays at a table has a line to hear about it, unless it is disconnected. -/
theorem Decides.line_ne (hd : h.Decides i m g t t') (ho : h.Orderly first) : g.line ≠ none := by
  intro hl
  obtain ⟨o, go, s, d⟩ := ho.duel_of_table? hd.here hd.table
  have hphase : g.phase = .disconnected :=
    ((InOrder.proper ho i g hd.here).away hl).2 (by simp [d.name_here])
  have hallowed := hd.allowed
  rw [Command.isAllowed, hphase] at hallowed
  cases hallowed

/-- A move that ends a game is one of the player on turn, and that player has won. -/
theorem Decides.exists_duel (hd : h.Decides i m g t t') (ho : h.Orderly first) :
    ∃ o go r, Duel h.guest? h.tables.get? i o g go t t.onTurn ∧
      t.play (t.player t.onTurn) m = .ok (t', r) ∧ r.winner = some t.onTurn := by
  obtain ⟨o, go, s, d⟩ := ho.duel_of_table? hd.here hd.table
  obtain ⟨r, hm⟩ := hd.move
  rw [d.name_here, Option.getD_some] at hm
  obtain ⟨rfl, b, hb, rfl⟩ := play_eq_ok_of_duel d hm
  obtain ⟨w, hw⟩ := Option.ne_none_iff_exists'.1 hd.ends
  have hw : r.winner = some w := hw
  obtain rfl := Board.winner_eq_side_of_play hb hw
  exact ⟨o, go, r, d, hm, hw⟩

theorem Orderly.settled (ho : h.Orderly first) (ap : h.Apart) (hl : g.line ≠ none) {r : Report}
    (d : Duel h.guest? h.tables.get? i o g go t t.onTurn)
    (hm : t.play (t.player t.onTurn) m = .ok (t', r)) (hw : r.winner = some t.onTurn) :
    h.Settled (h.onMove i m).1 i o g go t t' m := by
  obtain ⟨-, b, -, rfl⟩ := play_eq_ok_of_duel d hm
  have hapart : (t.after b r).black ≠ (t.after b r).white := d.apart
  have hside : (t.after b r).sideOf? (t.player t.onTurn) = some t.onTurn := by
    rw [← t.player_after b r, Table.sideOf?_player hapart]
  have hmove := congrArg Prod.fst (ho.onMove_finish d hm hw)
  simp only [hside, decide_true] at hmove
  -- the guests, the tables and the lines after the move
  have hguest : (h.onMove i m).1.guest? =
      update (update h.guest? i (some g.released)) o (some go.released) := by
    rw [hmove]
    exact guest?_finish d ..
  have htables : (h.onMove i m).1.tables.get? = update h.tables.get? t.id none := by
    rw [hmove]
    exact tables_finish d (t.after b r) rfl ..
  have hsent (l : Line) : (h.onMove i m).1.sentOn l = h.sentOn l ++
      news g.line [.moveAccepted, .playfield (t.after b r).board.digits] l ++
      news go.line [.opponentMove m, .playfield (t.after b r).board.digits] l ++
      news g.line [.won, .lobby] l ++ news go.line [.lost, .lobby] l := by
    rw [hmove]
    exact sentOn_finish d ..
  have hlines (l : Line) (hi : g.line = some l) : go.line ≠ some l := fun hgo =>
    d.ne (ap i o g go l d.here d.there hi hgo)
  obtain ⟨l, hgl⟩ := Option.ne_none_iff_exists'.1 hl
  refine ⟨⟨t.onTurn, hw, ?_, ?_, Table.sideOf?_player hapart _⟩, ?_, fun k hk => ?_,
    ⟨_, ?_, g.backInLobby_released⟩, ⟨_, ?_, go.backInLobby_released⟩, fun j hi hj => ?_,
    ⟨l, hgl, ?_⟩, fun k hk => ?_, fun k hi hj => ?_⟩
  · rw [t.player_after, d.name_here]
  · rw [t.player_after, d.name_there]
  · rw [htables, Function.update_self]
  · rw [htables, Function.update_of_ne hk]
  · rw [hguest, Function.update_of_ne d.ne, Function.update_self]
  · rw [hguest, Function.update_self]
  · rw [hguest, Function.update_of_ne hj, Function.update_of_ne hi]
  · have hgo := hlines l hgl
    rw [hsent, hgl, news_self, news_self, news_of_ne hgo, news_of_ne hgo]
    simp
  · have hg : g.line ≠ some k := fun hg => hlines k hg hk
    rw [hsent, hk, news_self, news_self, news_of_ne hg, news_of_ne hg]
    simp
  · rw [hsent, news_of_ne hi, news_of_ne hi, news_of_ne hj, news_of_ne hj]
    simp

/-! ### The loser comes back -/

/-- A disconnected guest without a table gives its name over a new line, and waits in the lobby. -/
theorem Reached.comes_to_lobby {c n b : Nat} {as : List (GuestId × Line)} {id : GuestId}
    {line : Line} {name : String} (r : Reached c n b first as h) (a : h.Awaits i g name)
    (hf : ((as ++ [(id, line)]).map Prod.fst).Nodup) (ht : g.table = none)
    (hs : g.logical = .waiting) :
    ∃ x, (h.called id g.origin line name).guest? id = some x ∧ x.name = some name ∧
      x.table = none ∧ x.phase = .waiting := by
  by_cases hup : h.GivesUp i
  · exact (Reached.startsOver r a hf hup).guest
  · obtain ⟨x, hx, hname, htable, hphase, -⟩ := (Reached.resumes r a hf hup).guest
    rw [Guest.logical_of_away (by rw [a.phase]; rfl)] at hs
    exact ⟨x, hx, hname, htable.trans ht, hphase.trans hs⟩

/-- A guest makes a move that it may make, and the game is over. It has won, the table is closed,
and both players are back in the lobby and have been told so, in this order and nobody else. If the
loser was disconnected, it gets to the lobby when it calls and gives its name. -/
theorem after_victory (capacity maxTables budget : Nat) {xs : List Incident}
    (hp : Incident.Plausible xs) {i : GuestId} {m : Move} {g : Guest} {t t' : Table} :
    let h := (vacant capacity maxTables budget).after xs
    let h' := (h.obey i (.move m)).1
    h.Decides i m g t t' → (h.obey i (.move m)).2 = .stay ∧
      ∃ o go, h.opponent? i = some o ∧ h.guest? o = some go ∧ h.Settled h' i o g go t t' m ∧
        ∀ id line name, Incident.Plausible (xs ++ [.arrival id go.origin line]) →
          go.name = some name → go.phase = .disconnected → 0 < go.decay →
          ∃ x, (h'.called id go.origin line name).guest? id = some x ∧ x.name = some name ∧
            x.table = none ∧ x.phase = .waiting := by
  intro h h' hd
  obtain ⟨first, r⟩ := hp.reached capacity maxTables budget
  have ho : h.Orderly first := Reached.orderly r
  obtain ⟨o, go, rep, d, hm, hw⟩ := hd.exists_duel ho
  have hobey : h.obey i (.move m) = h.onMove i m := obey_move hd.here hd.allowed
  have hstay : (h.obey i (.move m)).2 = .stay := by rw [hobey, ho.onMove_finish d hm hw]
  have hsettled : h.Settled h' i o g go t t' m := by
    rw [show h' = (h.onMove i m).1 from congrArg Prod.fst hobey]
    exact ho.settled (Reached.apart r hp.lines) (hd.line_ne ho) d hm hw
  refine ⟨hstay, o, go, ho.opponent?_eq d, d.there, hsettled,
    fun id line name hplausible hname hphase hdecay => ?_⟩
  have r' : Reached capacity maxTables budget first (xs.flatMap Incident.arrivals) h' := by
    rw [show h' = (h.onMove i m).1 from congrArg Prod.fst hobey]
    exact Leads.row r (Deeds.onMove ho hd.here m).row
  obtain ⟨x, hx, back⟩ := hsettled.there
  have a : h'.Awaits o x name := ⟨hx, back.name.trans hname,
    (back.away (by rw [hphase]; rfl)).trans hphase, back.decay ▸ hdecay⟩
  rw [← back.origin]
  exact Reached.comes_to_lobby r' a hplausible.ids_concat back.table back.logical

/-- Ada closes the king in while she is pinged and Bob is disconnected. -/
theorem after_victory_closing_in :
    let plays : List Incident := (Game.kingStepsOut Game.edgeMove).map fun p =>
      .command (if p.1 = "Ada" then 1 else 2) (.move p.2)
    let xs : List Incident := [.arrival 1 "a" 0, .command 1 (.connect "Ada"), .arrival 2 "b" 1,
      .command 2 (.connect "Bob"), .matchmake] ++ plays ++
      [.sweep, .command 1 .pong, .sweep, .command 1 .pong, .sweep]
    let g : Guest := { name := some "Ada", origin := "a", table := some 1, phase := .pinged,
                       saved := .onTurn, decay := 3, line := some 0 }
    let go : Guest := { name := some "Bob", origin := "b", table := some 1, phase := .disconnected,
                        saved := .onStand, decay := 3, line := none }
    let h := (vacant 4 2 3).after xs
    let h' := (h.obey 1 (.move Game.closingMove)).1
    Incident.Plausible (xs ++ [.arrival 3 "b" 2]) ∧
      ∃ t t', h.Decides 1 Game.closingMove g t t' ∧ t'.winner = some .black ∧
        h.Settled h' 1 2 g go t t' Game.closingMove ∧
        ∃ x, (h'.called 3 "b" 2 "Bob").guest? 3 = some x ∧ x.name = some "Bob" ∧ x.table = none ∧
          x.phase = .waiting := by
  intro plays xs g go h h'
  have hp : Incident.Plausible (xs ++ [.arrival 3 "b" 2]) := by decide +kernel
  have hrun : h.guest? 1 = some g ∧ h.guest? 2 = some go ∧ h.opponent? 1 = some 2 ∧
      (h.table? 1).map (fun t => (t.play "Ada" Game.closingMove).map (·.1.winner)) =
        some (.ok (some .black)) := by decide +kernel
  obtain ⟨hg, hgo, hop, htable⟩ := hrun
  obtain ⟨t, ht, hplay⟩ := Option.map_eq_some_iff.1 htable
  obtain ⟨t', r, hm, hw⟩ := Game.exists_of_winner hplay
  have hd : h.Decides 1 Game.closingMove g t t' :=
    ⟨hg, by decide, ht, ⟨r, hm⟩, by rw [hw]; nofun⟩
  obtain ⟨-, o, go', hop', hgo', settled, back⟩ := after_victory 4 2 3 hp.left hd
  obtain rfl := Option.some.inj (hop.symm.trans hop')
  obtain rfl := Option.some.inj (hgo.symm.trans hgo')
  exact ⟨hp, t, t', hd, hw, settled, back 3 2 "Bob" hp rfl rfl (by decide)⟩

end Hall

end Tafl
