import Tafl.Proofs.Hall.Names
import Tafl.Proofs.Hall.Reads
import Tafl.Proofs.Hall.Replies

/-! # Commands before a violation

What a guest sends is carried out command by command, and nothing is taken back when one of the
commands is a violation (`Hall.receive_violation`). Still not much is left of those before it. Being
dropped ends the game of the guest, whatever became of it meanwhile, and sends the opponent back to
the lobby; so the records of others and the tables are the same as if the guest had been dropped at
once (`Hall.Reverts`). What the opponent was told meanwhile is not unsaid, and a guest that has
taken over the place of somebody else has that place to lose (`Hall.after_violation`). -/

namespace Tafl
open Function (update)
open Relation (ReflTransGen)

theorem Guest.released_settle {g : Guest} {p : Phase} (hp : p.isAway = false) :
    (g.settle p).released = g.released := by
  cases ha : g.phase.isAway <;> simp [released, settle, ha, hp]

namespace Hall

/-- The line to the opponent of a guest. -/
def rivalLine (h : Hall) (i : GuestId) : Option Line := (h.opponent? i).bind h.line?

variable {h k k' : Hall} {first : Nat} {i o : GuestId} {g g' gi go : Guest} {t : Table} {s : Side}
  {ns : List Notice} {n : String}

/-! ### What is left when a guest is dropped -/

theorem rivalLine_of_table_eq_none (hg : h.guest? i = some g) (hk : g.table = none) :
    h.rivalLine i = none := by
  rw [rivalLine, opponent?_of_table_eq_none hg hk, Option.bind_none]

theorem Orderly.rivalLine_eq (ho : h.Orderly first)
    (d : Duel h.guest? h.tables.get? i o gi go t s) : h.rivalLine i = go.line := by
  rw [rivalLine, ho.opponent?_eq d, Option.bind_some, line?_of_guest? d.there]

theorem Orderly.sentOn_drop_others (ho : h.Orderly first) (hg : h.guest? i = some g) {l : Line}
    (hl : h.line? i ≠ some l) : (h.drop i).sentOn l =
      h.sentOn l ++ news (h.rivalLine i) [.opponentGone, .lobby] l := by
  rw [line?_of_guest? hg] at hl
  cases hk : g.table with
  | none =>
    rw [drop_of_table_eq_none hg hk, sentOn_strike hg, if_neg hl, rivalLine_of_table_eq_none hg hk]
    rfl
  | some m =>
    obtain ⟨o, go, t, s, -, d⟩ := ho.duel hg hk
    rw [ho.sentOn_drop d, if_neg hl, ho.rivalLine_eq d, List.append_nil]

/-- Whoever sits at the same table is the opponent. -/
theorem Orderly.duel_of_table (ho : h.Orderly first) (hi : h.guest? i = some gi)
    (hoo : h.guest? o = some go) (hne : o ≠ i) {m : Nat} (hti : gi.table = some m)
    (hto : go.table = some m) :
    ∃ t s, t.id = m ∧ Duel h.guest? h.tables.get? i o gi go t s := by
  obtain ⟨o', go', t, s, rfl, d⟩ := ho.duel hi hti
  rcases InOrder.eq_or_eq ho (ho.duel_since d) hoo hto with rfl | rfl
  · exact absurd rfl hne
  · obtain rfl := Option.some.inj (d.there.symm.trans hoo)
    exact ⟨t, s, rfl, d⟩

/-- From the hall `h` to the hall `k`, the guest `i` has told its opponent `ns`, and nobody else
anything. When it is dropped, the records of all others and the tables are the same as if it had
been dropped before. -/
structure Reverts (i : GuestId) (h k : Hall) (ns : List Notice) : Prop where
  line : k.line? i = h.line? i
  guests : (k.drop i).guest? = (h.drop i).guest?
  tables : (k.drop i).tables.get? = (h.drop i).tables.get?
  said : ∀ l, h.line? i ≠ some l → k.sentOn l = h.sentOn l ++ news (h.rivalLine i) ns l
  /-- Without a word to the opponent, the game goes on. -/
  rival : k.rivalLine i = h.rivalLine i ∨ k.rivalLine i = none ∧ ns ≠ []
  parting : ∀ l, h.line? i ≠ some l →
    (k.drop i).sentOn l = k.sentOn l ++ news (k.rivalLine i) [.opponentGone, .lobby] l
  /-- Who was told nothing meanwhile is not told anything else than before. -/
  farewell : ∀ l, h.line? i ≠ some l → ns = [] ∨ h.rivalLine i ≠ some l →
    (k.drop i).sentOn l = (h.drop i).sentOn l

namespace Reverts

theorem refl (ho : h.Orderly first) (hg : h.guest? i = some g) : Reverts i h h [] where
  line := rfl
  guests := rfl
  tables := rfl
  said _ _ := by rw [news_nil, List.append_nil]
  rival := .inl rfl
  parting _ hi := ho.sentOn_drop_others hg hi
  farewell _ _ _ := rfl

theorem trans {ms : List Notice} (r : Reverts i h k ns) (r' : Reverts i k k' ms) :
    ∃ ns, Reverts i h k' ns := by
  have hl {l : Line} (hl : h.line? i ≠ some l) : k.line? i ≠ some l := by rwa [r.line]
  rcases r.rival with hr | ⟨hr, hns⟩
  · refine ⟨ns ++ ms, r'.line.trans r.line, r'.guests.trans r.guests, r'.tables.trans r.tables,
      fun l hi => ?_, ?_, fun l hi => r'.parting l (hl hi), fun l hi hns => ?_⟩
    · rw [r'.said l (hl hi), r.said l hi, hr, append_news_append]
    · rcases r'.rival with hr' | ⟨hr', hms⟩
      · exact .inl (hr'.trans hr)
      · exact .inr ⟨hr', by simp [hms]⟩
    · rw [List.append_eq_nil_iff] at hns
      exact (r'.farewell l (hl hi) (hns.imp And.right hr.trans_ne)).trans
        (r.farewell l hi (hns.imp_left And.left))
  · -- the game was over before
    refine ⟨ns, r'.line.trans r.line, r'.guests.trans r.guests, r'.tables.trans r.tables,
      fun l hi => ?_, .inr ⟨?_, hns⟩, fun l hi => r'.parting l (hl hi), fun l hi hnone => ?_⟩
    · rw [r'.said l (hl hi), r.said l hi, hr, news_none, List.append_nil]
    · exact r'.rival.elim (·.trans hr) And.left
    · exact (r'.farewell l (hl hi) (.inr (by simp [hr]))).trans (r.farewell l hi hnone)

/-- What is told when the guest is dropped follows from what was told before. -/
theorem of_said (ho : h.Orderly first) (hk : k.Orderly first) (hg : h.guest? i = some g)
    (hg' : k.guest? i = some g') (hline : g'.line = g.line)
    (guests : (k.drop i).guest? = (h.drop i).guest?)
    (tables : (k.drop i).tables.get? = (h.drop i).tables.get?)
    (said : ∀ l, h.line? i ≠ some l → k.sentOn l = h.sentOn l ++ news (h.rivalLine i) ns l)
    (rival : k.rivalLine i = h.rivalLine i ∨ k.rivalLine i = none ∧ ns ≠ []) :
    Reverts i h k ns := by
  have hl : k.line? i = h.line? i := by rw [line?_of_guest? hg', line?_of_guest? hg, hline]
  have parting (l : Line) (hi : h.line? i ≠ some l) := hk.sentOn_drop_others hg' (hl ▸ hi)
  refine ⟨hl, guests, tables, said, rival, parting, fun l hi hns => ?_⟩
  rw [parting l hi, ho.sentOn_drop_others hg hi, said l hi]
  rcases hns with rfl | hr
  · rw [news_nil, List.append_nil, rival.resolve_right fun hr => hr.2 rfl]
  · have hr' : k.rivalLine i ≠ some l := by
      rcases rival with he | ⟨he, -⟩
      · rwa [he]
      · simp [he]
    rw [news_of_ne hr, news_of_ne hr, news_of_ne hr', List.append_nil]

/-- A guest without a table changes nothing but its own record. -/
theorem idle (ho : h.Orderly first) (hk : k.Orderly first) (hg : h.guest? i = some g)
    (hguest : k.guest? = update h.guest? i (some g')) (htables : k.tables = h.tables)
    (hline : g'.line = g.line) (ht : g.table = none) (ht' : g'.table = none)
    (said : ∀ l, h.line? i ≠ some l → k.sentOn l = h.sentOn l) : Reverts i h k [] := by
  have hg' : k.guest? i = some g' := by rw [hguest, Function.update_self]
  refine of_said ho hk hg hg' hline ?_ ?_ (fun l hi => ?_) (.inl ?_)
  · rw [drop_of_table_eq_none hg' ht', drop_of_table_eq_none hg ht, guest?_strike, guest?_strike,
      hguest, Function.update_idem]
  · rw [drop_of_table_eq_none hg' ht', drop_of_table_eq_none hg ht, tables_strike, tables_strike,
      htables]
  · rw [said l hi, news_nil, List.append_nil]
  · rw [rivalLine_of_table_eq_none hg' ht', rivalLine_of_table_eq_none hg ht]

/-- As long as the game goes on, dropping the guest ends it. -/
theorem playing {go' : Guest} {x : Option Table} (ho : h.Orderly first) (hk : k.Orderly first)
    (d : Duel h.guest? h.tables.get? i o gi go t s)
    (hguest : k.guest? = update (update h.guest? i (some g')) o (some go'))
    (htables : k.tables.get? = update h.tables.get? t.id x)
    (hline : g'.line = gi.line) (ht : g'.table = gi.table)
    (hrline : go'.line = go.line) (hrt : go'.table = go.table) (hrel : go'.released = go.released)
    (said : ∀ l, h.line? i ≠ some l → k.sentOn l = h.sentOn l ++ news go.line ns l) :
    Reverts i h k ns := by
  have hi : k.guest? i = some g' := by rw [hguest, Function.update_of_ne d.ne, Function.update_self]
  have hoo : k.guest? o = some go' := by rw [hguest, Function.update_self]
  obtain ⟨t', s', hid, d'⟩ := hk.duel_of_table hi hoo d.ne.symm (ht.trans d.table_here)
    (hrt.trans d.table_there)
  have hrival := ho.rivalLine_eq d
  refine of_said ho hk d.here hi hline ?_ ?_ (hrival.symm ▸ said) (.inl ?_)
  · rw [hk.guest?_drop d', ho.guest?_drop d, hguest, hrel, Function.update_comm d.ne,
      Function.update_idem, Function.update_comm d.ne.symm, Function.update_idem,
      Function.update_comm d.ne]
  · rw [hk.tables_drop d', ho.tables_drop d, htables, hid, Function.update_idem]
  · rw [hk.rivalLine_eq d', hrival, hrline]

/-- When the game is over, dropping the guest changes nothing at the table any more. -/
theorem ended (ho : h.Orderly first) (hk : k.Orderly first)
    (d : Duel h.guest? h.tables.get? i o gi go t s)
    (hguest : k.guest? = update (update h.guest? i (some gi.released)) o (some go.released))
    (htables : k.tables.get? = update h.tables.get? t.id none) (hns : ns ≠ [])
    (said : ∀ l, h.line? i ≠ some l → k.sentOn l = h.sentOn l ++ news go.line ns l) :
    Reverts i h k ns := by
  have hi : k.guest? i = some gi.released := by
    rw [hguest, Function.update_of_ne d.ne, Function.update_self]
  have ht : gi.released.table = none := Guest.table_released
  refine of_said ho hk d.here hi Guest.line_released ?_ ?_ ((ho.rivalLine_eq d).symm ▸ said)
    (.inr ⟨rivalLine_of_table_eq_none hi ht, hns⟩)
  · rw [drop_of_table_eq_none hi ht, guest?_strike, ho.guest?_drop d, hguest,
      Function.update_comm d.ne.symm, Function.update_idem]
  · rw [drop_of_table_eq_none hi ht, tables_strike, ho.tables_drop d, htables]

/-- A deed that leaves the place of the guest as it is and tells nobody but the guest anything, or
what does not concern the game to its opponent. -/
theorem own (ho : h.Orderly first) (hk : k.Orderly first) (hg : h.guest? i = some g)
    (hguest : k.guest? = update h.guest? i (some g')) (htables : k.tables = h.tables)
    (hline : g'.line = g.line) (ht : g'.table = g.table)
    (said : ∀ l, h.line? i ≠ some l → k.sentOn l = h.sentOn l ++ news (h.rivalLine i) ns l) :
    ∃ ns, Reverts i h k ns := by
  cases hm : g.table with
  | none =>
    refine ⟨[], .idle ho hk hg hguest htables hline hm (ht.trans hm) fun l hi => ?_⟩
    rw [said l hi, rivalLine_of_table_eq_none hg hm, news_none, List.append_nil]
  | some m =>
    obtain ⟨o, go, t, s, rfl, d⟩ := ho.duel hg hm
    have hoo : update h.guest? i (some g') o = some go := by
      rw [Function.update_of_ne d.ne.symm, d.there]
    have hguest' : k.guest? = update (update h.guest? i (some g')) o (some go) := by
      rw [hguest, ← hoo, Function.update_eq_self]
    have htables' : k.tables.get? = update h.tables.get? t.id (some t) := by
      rw [htables, ← d.table, Function.update_eq_self]
    exact ⟨ns, playing ho hk d hguest' htables' hline ht rfl rfl rfl (ho.rivalLine_eq d ▸ said)⟩

theorem told (ho : h.Orderly first) (hk : k.Orderly first) (hl : h.line? i ≠ none)
    (hguest : k.guest? = h.guest?) (htables : k.tables = h.tables)
    (said : ∀ l, h.line? i ≠ some l → k.sentOn l = h.sentOn l ++ news (h.rivalLine i) ns l) :
    ∃ ns, Reverts i h k ns := by
  obtain ⟨g, hg⟩ := exists_guest?_of_line? (Option.isSome_iff_ne_none.2 hl)
  exact own ho hk hg (by rw [hguest, ← hg, Function.update_eq_self]) htables rfl rfl said

/-! ### Deeds that are undone -/

theorem send (ho : h.Orderly first) (hl : h.line? i ≠ none) {j : GuestId}
    (near : j = i ∨ h.opponent? i = some j) (m : Notice) :
    ∃ ns, Reverts i h (h.send j m) ns := by
  have hguest : (h.send j m).guest? = h.guest? := guest?_send ..
  have htables : (h.send j m).tables = h.tables := tables_send ..
  rcases near with rfl | hop
  · have hsaid : ∀ l, h.line? j ≠ some l →
        (h.send j m).sentOn l = h.sentOn l ++ news (h.rivalLine j) [] l := fun l hi => by
      rw [sentOn_send, news_of_ne hi, news_nil]
    exact told ho (ho.send m) hl hguest htables hsaid
  · have hsaid : ∀ l, h.line? i ≠ some l →
        (h.send j m).sentOn l = h.sentOn l ++ news (h.rivalLine i) [m] l := fun l _ => by
      rw [sentOn_send, rivalLine, hop, Option.bind_some]
    exact told ho (ho.send m) hl hguest htables hsaid

theorem credit (ho : h.Orderly first) (hl : h.line? i ≠ none) (m : Nat) :
    ∃ ns, Reverts i h (h.credit m) ns := by
  have hsaid : ∀ l, h.line? i ≠ some l →
      (h.credit m).sentOn l = h.sentOn l ++ news (h.rivalLine i) [] l := fun l _ => by
    rw [news_nil, List.append_nil]
    rfl
  exact told ho ho hl rfl rfl hsaid

theorem restore (ho : h.Orderly first) (hk : (h.revise i (·.restore h.decayBudget)).Orderly first)
    (hg : h.guest? i = some g) : ∃ ns, Reverts i h (h.revise i (·.restore h.decayBudget)) ns := by
  have hguest : (h.revise i (·.restore h.decayBudget)).guest? =
      update h.guest? i (some (g.restore h.decayBudget)) := by
    rw [guest?_revise, hg]
    rfl
  have hsaid : ∀ l, h.line? i ≠ some l → (h.revise i (·.restore h.decayBudget)).sentOn l =
      h.sentOn l ++ news (h.rivalLine i) [] l := fun l _ => by
    rw [news_nil, List.append_nil]
    rfl
  exact own ho hk hg hguest rfl rfl rfl hsaid

theorem welcome (ho : h.Orderly first) (hg : h.guest? i = some g) (hl : h.line? i ≠ none) :
    ∃ ns, Reverts i h (h.welcome i) ns := by
  have hguest : (h.welcome i).guest? = h.guest? := guest?_welcome ..
  have htables : (h.welcome i).tables = h.tables := tables_welcome ..
  obtain ⟨ns, -, hs⟩ := ho.exists_welcome hg
  have hsaid : ∀ l, h.line? i ≠ some l →
      (h.welcome i).sentOn l = h.sentOn l ++ news (h.rivalLine i) [] l := fun l hi => by
    rw [hs, news_of_ne (line?_of_guest? hg ▸ hi), news_nil]
  exact told ho (ho.of_eq hguest htables) hl hguest htables hsaid

theorem name (ho : h.Orderly first)
    (hk : (((h.revise i fun g => { g with name := some n }.settle .waiting).send i
      .connected).send i .lobby).Orderly first)
    (hg : h.guest? i = some g) (hn : g.name = none) :
    ∃ ns, Reverts i h (((h.revise i fun g => { g with name := some n }.settle .waiting).send i
      .connected).send i .lobby) ns := by
  have ht : g.table = none := (ho.proper i g hg).table_of_unnamed hn
  have hguest : (((h.revise i fun g => { g with name := some n }.settle .waiting).send i
      .connected).send i .lobby).guest? =
        update h.guest? i (some ({ g with name := some n }.settle .waiting)) := by
    simp [guest?_revise, hg]
  refine ⟨[], idle ho hk hg hguest (by simp) (by simp) ht (by simpa using ht) fun l hi => ?_⟩
  have hline : (h.revise i fun g => { g with name := some n }.settle .waiting).line? i =
      h.line? i := line?_revise _ _ _ _ fun _ => Guest.line_settle _
  rw [sentOn_send, sentOn_send, line?_send, hline, news_of_ne hi, news_of_ne hi, List.append_nil,
    List.append_nil]
  rfl

section
variable (ho : h.Orderly first) (d : Duel h.guest? h.tables.get? i o gi go t s) {t' : Table}
  {m : Move} {r : Report} (hm : t.play (t.player s) m = .ok (t', r))
include ho d

theorem quit : ∃ ns, Reverts i h (((h.send i .left).breakUp i .opponentLeft).toLobby i) ns := by
  refine ⟨[.opponentLeft, .lobby], ended ho (ho.deed (.quit d)) d (ho.guest?_quit d)
    (ho.tables_quit d) nofun fun l hi => ?_⟩
  rw [line?_of_guest? d.here] at hi
  rw [ho.sentOn_quit d, news_of_ne hi, news_of_ne hi, List.append_nil, List.append_nil]

include hm

theorem turn (hr : r.winner = none) : ∃ ns, Reverts i h
    (({ h with tables := h.tables.replace t' }.showMove i (some o) m t'.board.digits).passTurn i
      (some o)) ns := by
  obtain ⟨-, b, -, rfl⟩ := play_eq_ok_of_duel d hm
  have hguest := guest?_turn d (h.tables.replace (t.after b r)) m (t.after b r).board.digits
  have htables := tables_turn d (t.after b r) rfl m (t.after b r).board.digits
  refine ⟨[.opponentMove m, .playfield (t.after b r).board.digits, .yourTurn],
    playing ho (ho.turn d hm hr) d hguest htables (Guest.line_settle _) (Guest.table_settle _)
      (Guest.line_settle _) (Guest.table_settle _) (Guest.released_settle rfl) fun l hi => ?_⟩
  rw [line?_of_guest? d.here] at hi
  rw [sentOn_turn d, news_of_ne hi, news_of_ne hi, List.append_nil, List.append_nil,
    append_news_append]
  rfl

theorem finish (won : Bool) : ∃ ns, Reverts i h
    (({ h with tables := h.tables.replace t' }.showMove i (some o) m t'.board.digits).settleGame i
      (some o) t'.id won) ns := by
  obtain ⟨-, b, -, rfl⟩ := play_eq_ok_of_duel d hm
  have hguest := guest?_finish d (h.tables.replace (t.after b r)) m (t.after b r).board.digits
    (t.after b r).id won
  have htables := tables_finish d (t.after b r) rfl m (t.after b r).board.digits won
  refine ⟨[.opponentMove m, .playfield (t.after b r).board.digits, if won then .lost else .won,
    .lobby], ended ho (ho.finish d hm won) d hguest htables nofun fun l hi => ?_⟩
  rw [line?_of_guest? d.here] at hi
  rw [sentOn_finish d, news_of_ne hi, news_of_ne hi, List.append_nil, List.append_nil,
    append_news_append]
  rfl

end

end Reverts

/-! ### The guest takes over from somebody else -/

/-- A deed after which the guest has no name is one that nobody else notices. -/
theorem Orderly.deed_of_stranger (ho : h.Orderly first) (hd : Deed i h k)
    (hg' : k.guest? i = some g') (hn : g'.name = none) :
    ∃ g, h.guest? i = some g ∧ g.badge = g'.badge ∧ k.guest? = update h.guest? i (some g') ∧
      k.tables = h.tables ∧ ∀ l, h.line? i ≠ some l → k.sentOn l = h.sentOn l := by
  have quiet (hguest : k.guest? = h.guest?) (htables : k.tables = h.tables)
      (said : ∀ l, h.line? i ≠ some l → k.sentOn l = h.sentOn l) :
      ∃ g, h.guest? i = some g ∧ g.badge = g'.badge ∧ k.guest? = update h.guest? i (some g') ∧
        k.tables = h.tables ∧ ∀ l, h.line? i ≠ some l → k.sentOn l = h.sentOn l := by
    rw [hguest] at hg'
    exact ⟨g', hg', rfl, by rw [hguest, ← hg', Function.update_eq_self], htables, said⟩
  have named {gi : Guest} (hb : k.badge? i = h.badge? i) (hgi : h.guest? i = some gi)
      (hni : gi.name ≠ none) : False := by
    rw [badge?, badge?, hg', hgi] at hb
    exact hni ((congrArg Prod.fst (Option.some.inj hb)).symm.trans hn)
  cases hd with
  | received m => exact quiet rfl rfl fun l _ => rfl
  | @aside j m near =>
    have hgi : h.guest? i = some g' := by simpa using hg'
    have ht : g'.table = none := (ho.proper i g' hgi).table_of_unnamed hn
    obtain rfl : j = i := near.resolve_right fun hop => by
      rw [opponent?_of_table_eq_none hgi ht] at hop
      cases hop
    refine quiet (guest?_send ..) (tables_send ..) fun l hi => ?_
    rw [sentOn_send, news_of_ne hi, List.append_nil]
  | @rouse g here =>
    have hguest : (h.revise i (·.restore h.decayBudget)).guest? =
        update h.guest? i (some (g.restore h.decayBudget)) := by
      rw [guest?_revise, here]
      rfl
    rw [hguest, Function.update_self] at hg'
    obtain rfl := Option.some.inj hg'
    exact ⟨g, here, rfl, hguest, rfl, fun l _ => rfl⟩
  | name here =>
    obtain rfl : _ = g' := by simpa [guest?_revise, here] using hg'
    cases (Guest.name_settle _).symm.trans hn
  | @welcome g here =>
    obtain ⟨ns, -, hs⟩ := ho.exists_welcome here
    refine quiet (guest?_welcome ..) (tables_welcome ..) fun l hi => ?_
    rw [hs, news_of_ne (line?_of_guest? here ▸ hi), List.append_nil]
  | @resume old g go n here name line found there =>
    have hno := found_name found there
    have hne : old ≠ i := ne_of_named here name there (by simp [hno])
    have hgi : (h.handedOver old i).guest? i = some g' := by simpa using hg'
    rw [guest?_handedOver here there hne, Function.update_self] at hgi
    obtain rfl := Option.some.inj hgi
    cases hno.symm.trans hn
  | turn d => exact (named (by simp) d.here (by simp [d.name_here])).elim
  | finish d => exact (named (by simp) d.here (by simp [d.name_here])).elim
  | quit d => exact (named (by simp) d.here (by simp [d.name_here])).elim

/-- The guest could have taken over before the deed as well. -/
theorem Returns.of_deed (r : k.Returns o i go g' n) (ho : h.Orderly first) (hd : Deed i h k) :
    ∃ g, h.Returns o i go g n ∧ ∃ ns, Reverts i (h.resumed o i) (k.resumed o i) ns := by
  obtain ⟨g, hg, hb, hguest, htables, said⟩ := ho.deed_of_stranger hd r.new r.stranger
  simp only [Guest.badge, Prod.mk.injEq] at hb
  obtain ⟨hn, horigin, hline⟩ := hb
  have hold : h.guest? o = some go := by
    rw [← r.old, hguest, Function.update_of_ne r.ne]
  have r₀ : h.Returns o i go g n :=
    { r with
      old := hold
      new := hg
      stranger := hn.trans r.stranger
      line := hline ▸ r.line
      origin := r.origin.trans horigin.symm }
  refine ⟨g, r₀, ?_⟩
  have here : (h.resumed o i).guest? i = some (g.heir go h.decayBudget) := by
    rw [r₀.guest?_resumed, Function.update_self]
  have hresumed : (k.resumed o i).guest? =
      update (h.resumed o i).guest? i (some (g'.heir go k.decayBudget)) := by
    rw [r.guest?_resumed, r₀.guest?_resumed, hguest, Function.update_idem,
      Function.update_comm r.ne.symm, Function.update_idem]
  have hsaid (l : Line) (hi : (h.resumed o i).line? i ≠ some l) : (k.resumed o i).sentOn l =
      (h.resumed o i).sentOn l ++ news ((h.resumed o i).rivalLine i) [] l := by
    rw [line?_of_guest? here] at hi
    rw [r.sentOn_resumed, r₀.sentOn_resumed, said l (line?_of_guest? hg ▸ hi), news_nil,
      List.append_nil]
  exact Reverts.own (r₀.orderly_resumed ho) (r.orderly_resumed (ho.deed hd)) here hresumed
    (by rw [tables_resumed, tables_resumed, htables]) hline.symm rfl hsaid

theorem Returns.reverts (r : h.Returns o i go g n) (ho : h.Orderly first) :
    ∃ ns, Reverts i (h.resumed o i) ((h.handedOver o i).welcome i) ns := by
  have hover := guest?_handedOver r.new r.old r.ne
  have here : (h.handedOver o i).guest? i = some (g.heir go h.decayBudget) := by
    rw [hover, Function.update_self]
    rfl
  have hl : (h.resumed o i).line? i = g.line := by
    rw [line?, r.guest?_resumed, Function.update_self]
    rfl
  have hho := ho.handedOver r.new r.stranger (Option.isSome_iff_ne_none.2 r.line) r.old r.away
    (by simp [r.name])
  obtain ⟨ns, -, hs⟩ := hho.exists_welcome here
  have hsaid (l : Line) (hi : (h.resumed o i).line? i ≠ some l) :
      ((h.handedOver o i).welcome i).sentOn l =
        (h.resumed o i).sentOn l ++ news ((h.resumed o i).rivalLine i) [] l := by
    have hi : (g.heir go h.decayBudget).line ≠ some l := by rwa [hl] at hi
    rw [hs, news_of_ne hi, sentOn_handedOver r.new r.old r.ne, r.sentOn_resumed, news_nil]
  have hk := hho.of_eq (guest?_welcome _ i) (tables_welcome _ i)
  exact Reverts.told (r.orderly_resumed ho) hk (hl ▸ r.line)
    (by rw [guest?_welcome, hover, r.guest?_resumed]; rfl)
    (by rw [tables_welcome, tables_handedOver, tables_resumed]) hsaid

/-- A name that was given is kept. -/
theorem Deed.holds (hd : Deed i h k) (hn : h.Holds n i) : k.Holds n i := by
  have unnamed {g : Guest} (hg : h.guest? i = some g) (he : g.name = none) : False := by
    obtain ⟨x, hx, hxn⟩ := hn
    obtain rfl := Option.some.inj (hx.symm.trans hg)
    rw [he] at hxn
    cases hxn
  cases hd with
  | received m => exact hn
  | aside => exact hn.of_badge? (by simp)
  | rouse => exact hn.of_badge? (by simp)
  | name here name => exact (unnamed here name).elim
  | welcome => exact hn.of_badge? (congrFun (badge?_congr (guest?_welcome ..)) i)
  | resume here name => exact (unnamed here name).elim
  | turn => exact hn.of_badge? (by simp)
  | finish => exact hn.of_badge? (by simp)
  | quit => exact hn.of_badge? (by simp)

theorem Deeds.holds (hd : Deeds i h k) (hn : h.Holds n i) : k.Holds n i := by
  induction hd with
  | refl => exact hn
  | tail _ hd ih => exact hd.holds ih

theorem Reverts.holds (r : Reverts i h k ns) {j : GuestId} (hj : j ≠ i) (hn : h.Holds n j) :
    k.Holds n j := by
  have hb := congrFun (badge?_congr r.guests) j
  rw [badge?_drop, badge?_drop, Function.update_of_ne hj, Function.update_of_ne hj] at hb
  exact hn.of_badge? hb

/-- A deed is undone when the guest is dropped, unless the guest takes over by it. -/
theorem Deed.reverts (ho : h.Orderly first) (hd : Deed i h k) (hl : h.line? i ≠ none) :
    (∃ ns, Reverts i h k ns) ∨ ∃ o g go n, h.Returns o i go g n ∧ k.Holds n i ∧
      ∃ ns, Reverts i (h.resumed o i) k ns := by
  have hk := ho.deed hd
  cases hd with
  | received m => exact .inl (Reverts.credit ho hl m)
  | aside near => exact .inl (Reverts.send ho hl near _)
  | rouse here => exact .inl (Reverts.restore ho hk here)
  | name here name => exact .inl (Reverts.name ho hk here name)
  | welcome here => exact .inl (Reverts.welcome ho here hl)
  | @resume old g go n here name line found there away origin =>
    have r : h.Returns old i go g n :=
      { old := there
        name := found_name found there
        away := away
        new := here
        stranger := name
        line := Option.isSome_iff_ne_none.1 line
        origin := origin }
    have hself : ((h.handedOver old i).welcome i).guest? i = some (g.heir go h.decayBudget) := by
      rw [guest?_welcome, guest?_handedOver here there r.ne, Function.update_self]
      rfl
    exact .inr ⟨old, g, go, n, r, ⟨_, hself, r.name⟩, r.reverts ho⟩
  | turn d move goes_on => exact .inl (Reverts.turn ho d move goes_on)
  | finish d move => exact .inl (Reverts.finish ho d move _)
  | quit d => exact .inl (Reverts.quit ho d)

theorem Deeds.reverts (ho : h.Orderly first) (hl : h.line? i ≠ none) (hd : Deeds i h k) :
    (∃ ns, Reverts i h k ns) ∨ ∃ o g go n, h.Returns o i go g n ∧ k.Holds n i ∧
      ∃ ns, Reverts i (h.resumed o i) k ns := by
  -- from the last deed back to the first one, so that a takeover is moved to the front
  induction hd using ReflTransGen.head_induction_on with
  | refl =>
    obtain ⟨g, hg⟩ := exists_guest?_of_line? (Option.isSome_iff_ne_none.2 hl)
    exact .inl ⟨[], .refl ho hg⟩
  | @head h h₁ hd hds ih =>
    rcases ih (ho.deed hd) (hd.line?_eq ▸ hl) with ⟨ms, r'⟩ | ⟨o, g', go, n, hr, hn, ms, r'⟩
    · rcases hd.reverts ho hl with ⟨ns, r⟩ | ⟨o, g, go, n, hr, hn, ns, r⟩
      · exact .inl (r.trans r')
      · exact .inr ⟨o, g, go, n, hr, Deeds.holds hds hn, r.trans r'⟩
    · obtain ⟨g, hr₀, ns, r⟩ := hr.of_deed ho hd
      exact .inr ⟨o, g, go, n, hr₀, hn, r.trans r'⟩

/-- Between the two halls the guest `i` has come to a name that `o` had. -/
def TookOver (o i : GuestId) (h k : Hall) : Prop := o ≠ i ∧ ∃ n, h.Holds n o ∧ k.Holds n i

theorem Deeds.reverts_or_resumed (ho : h.Orderly first) (hl : h.line? i ≠ none)
    (hd : Deeds i h k) :
    ((∀ o, ¬ TookOver o i h k) → ∃ ns, Reverts i h k ns) ∧
      ∀ o, TookOver o i h k → ∃ ns, Reverts i (h.resumed o i) k ns := by
  have hk : k.Orderly first := Deeds.orderly hd ho
  rcases Deeds.reverts ho hl hd with ⟨ns, r⟩ | ⟨o, g, go, n, hr, hn, hrev⟩
  · refine ⟨fun _ => ⟨ns, r⟩, fun o ⟨hne, n, hold, hnew⟩ => ?_⟩
    exact absurd (hk.holds_unique (r.holds hne hold) hnew) hne
  · have hold : h.Holds n o := ⟨go, hr.old, hr.name⟩
    refine ⟨fun h => absurd ⟨hr.ne, n, hold, hn⟩ (h o), fun o' ⟨_, n', hold', hn'⟩ => ?_⟩
    obtain ⟨x, hx, hxn⟩ := hn
    obtain ⟨y, hy, hyn⟩ := hn'
    obtain rfl := Option.some.inj (hx.symm.trans hy)
    obtain rfl := Option.some.inj (hxn.symm.trans hyn)
    obtain rfl := ho.holds_unique hold hold'
    exact hrev

/-! ### What came in with a violation -/

/-- The hall after commands of a guest that may stay after each of them. -/
def heed (h : Hall) (i : GuestId) : List Command → Option Hall
  | [] => some h
  | c :: cs => match h.obey i c with
    | (h, .stay) => h.heed i cs
    | (_, .leave _) => none

theorem obeyAll_of_heed {cs : List Command} (hk : h.heed i cs = some k) (ds : List Command) :
    h.obeyAll i (cs ++ ds) = k.obeyAll i ds := by
  induction cs generalizing h with
  | nil =>
    obtain rfl := Option.some.inj hk
    rfl
  | cons c cs ih =>
    rw [heed] at hk
    rw [List.cons_append, obeyAll]
    rcases hc : h.obey i c with ⟨h', v⟩
    rw [hc] at hk
    cases v with
    | stay => exact ih hk
    | leave why => cases hk

theorem Orderly.heed {cs : List Command} (ho : h.Orderly first) (hl : h.line? i ≠ none)
    (hcs : ∀ c ∈ cs, c.IsSent) (hk : h.heed i cs = some k) : Deeds i h k := by
  induction cs generalizing h with
  | nil =>
    obtain rfl := Option.some.inj hk
    exact .refl
  | cons c cs ih =>
    rw [List.forall_mem_cons] at hcs
    have hd := ho.obey (Option.isSome_iff_ne_none.2 hl) hcs.1
    rw [Hall.heed] at hk
    rcases hc : h.obey i c with ⟨h', v⟩
    rw [hc] at hk hd
    cases v with
    | stay => exact hd.trans (ih (hd.orderly ho) (hd.line?_eq ▸ hl) hcs.2 hk)
    | leave why => cases hk

/-- The first command for which a guest has to leave ends its visit. What was before it has been
done, what comes after it is not. -/
theorem receive_violation {bytes : ByteArray} {rs : List Request} {cs ds : List Command}
    {c : Command} {why : Departure} (hd : Request.decode bytes = .ok rs)
    (hrs : rs.flatten = cs ++ c :: ds) (hl : h.line? i ≠ none) (hk : h.heed i cs = some k)
    (hv : (k.obey i c).2 = .leave why) : h.receive i bytes = (k.drop i).credit bytes.size := by
  have hc := fst_obey_of_leave hv
  rw [receive_of_decode hd, if_neg (by simpa using hl), hrs, obeyAll_of_heed hk, obeyAll]
  rcases hkc : k.obey i c with ⟨k', v⟩
  rw [hkc] at hv hc
  obtain rfl : k' = k := hc
  obtain rfl : v = .leave why := hv
  rfl

/-- What a guest sends before a violation is carried out and stays so. Once the guest is dropped for
the violation, the records of all others and the tables are the same as if it had been dropped at
once, and so is what anybody but its opponent has been told. A guest that has taken over from
somebody else by then comes off as if it had been dropped right after that. -/
theorem after_violation (capacity maxTables budget : Nat) {xs : List Incident}
    (hp : Incident.Plausible xs) {i : GuestId} {bytes : ByteArray} {rs : List Request}
    {cs ds : List Command} {c : Command} {k : Hall} :
    let h := (vacant capacity maxTables budget).after xs
    h.line? i ≠ none → Request.decode bytes = .ok rs → rs.flatten = cs ++ c :: ds →
    h.heed i cs = some k → (k.obey i c).2 = .leave .violation →
    h.receive i bytes = (k.drop i).credit bytes.size ∧
      ((∀ o, ¬ TookOver o i h k) → ∃ ns, Reverts i h k ns) ∧
      ∀ o, TookOver o i h k → ∃ ns, Reverts i (h.resumed o i) k ns := by
  intro h hl hd hrs hk hv
  obtain ⟨first, reached⟩ := hp.reached capacity maxTables budget
  have ho := reached.orderly
  have hcs : ∀ x ∈ cs, x.IsSent := fun x hx =>
    isSent_of_decode hd x (hrs ▸ List.mem_append_left _ hx)
  exact ⟨receive_violation hd hrs hl hk hv, Deeds.reverts_or_resumed ho hl (ho.heed hl hcs hk)⟩

/-- Ada moves and chats, and then asks for another name. -/
theorem after_violation_in_game :
    let xs : List Incident := [.arrival 1 "a" 0, .command 1 (.connect "Ada"), .arrival 2 "b" 1,
      .command 2 (.connect "Bob"), .matchmake]
    let cs : List Command := [.move ⟨⟨3, 0⟩, ⟨3, 1⟩⟩, .chat "your turn"]
    let ds : List Command := [.leave]
    let bytes := (Request.frame (cs ++ .connect "Eve" :: ds)).toUTF8
    let h := (vacant 2 1 3).after xs
    ∃ k, (Incident.Plausible xs ∧ h.line? 1 ≠ none ∧
        Request.decode bytes = .ok [cs ++ .connect "Eve" :: ds] ∧ h.heed 1 cs = some k ∧
        (k.obey 1 (.connect "Eve")).2 = .leave .violation ∧ ∀ o, ¬ TookOver o 1 h k) ∧
      (k.sentOn 1 ≠ h.sentOn 1 ∧ k.tables.get? 1 ≠ h.tables.get? 1) ∧
      h.receive 1 bytes = (k.drop 1).credit bytes.size ∧ ∃ ns, Reverts 1 h k ns := by
  intro xs cs ds bytes h
  have hp : Incident.Plausible xs := by decide +kernel
  have hl : h.line? 1 ≠ none := by decide +kernel
  have hd : Request.decode bytes = .ok [cs ++ .connect "Eve" :: ds] := by decide +kernel
  obtain ⟨k, hk⟩ : ∃ k, h.heed 1 cs = some k :=
    Option.isSome_iff_exists.1 (by decide +kernel)
  have hheed : ∀ k ∈ h.heed 1 cs, (k.obey 1 (.connect "Eve")).2 = .leave .violation ∧
      (k.guest? 1).bind Guest.name = some "Ada" ∧ k.sentOn 1 ≠ h.sentOn 1 ∧
      k.tables.get? 1 ≠ h.tables.get? 1 := by
    decide +kernel
  obtain ⟨hv, hname, hchanged⟩ := hheed k hk
  have hada : (h.guest? 1).bind Guest.name = some "Ada" := by decide +kernel
  have hown : ∀ o, ¬ TookOver o 1 h k := by
    rintro o ⟨hne, n, hold, x, hx, hxn⟩
    rw [hx, Option.bind_some, hxn] at hname
    obtain rfl := Option.some.inj hname
    obtain ⟨first, r⟩ := hp.reached 2 1 3
    exact hne (r.orderly.holds_unique hold (Option.bind_eq_some_iff.1 hada))
  obtain ⟨hreceive, hreverts, -⟩ := after_violation 2 1 3 hp hl hd (List.append_nil _) hk hv
  exact ⟨k, ⟨hp, hl, hd, hk, hv, hown⟩, hchanged, hreceive, hreverts hown⟩

/-- Bob is told that Ada has left before she is thrown out for leaving once more. Had she been thrown
out at once, he would have been told that she is gone. Carl, who calls from Ada's address, comes to
her place before he is thrown out, so that both her record and the game are lost. -/
theorem not_unsaid_before_violation :
    let xs : List Incident := [.arrival 1 "a" 0, .command 1 (.connect "Ada"), .arrival 2 "b" 1,
      .command 2 (.connect "Bob"), .matchmake]
    let h := (vacant 3 1 3).after xs
    let bytes := (Request.frame [.leave, .leave]).toUTF8
    let ys := xs ++ [.sweep, .arrival 3 "a" 2]
    let k := (vacant 3 1 3).after ys
    let bytes' := (Request.frame [.connect "Ada", .connect "Eve"]).toUTF8
    (Incident.Plausible xs ∧ h.line? 1 ≠ none ∧
      Request.decode bytes = .ok [[.leave, .leave]] ∧
      (h.heed 1 [.leave]).map (fun h => (h.obey 1 .leave).2) = some (.leave .violation) ∧
      (h.receive 1 bytes).sentOn 1 ≠ (h.drop 1).sentOn 1) ∧
    Incident.Plausible ys ∧ k.line? 3 ≠ none ∧
      Request.decode bytes' = .ok [[.connect "Ada", .connect "Eve"]] ∧
      (k.heed 3 [.connect "Ada"]).map (fun k => (k.obey 3 (.connect "Eve")).2) =
        some (.leave .violation) ∧
      (∀ i ∈ [1, 2], (k.receive 3 bytes').guest? i ≠ (k.drop 3).guest? i) ∧
      (k.receive 3 bytes').tables.get? 1 ≠ (k.drop 3).tables.get? 1 := by
  decide +kernel

end Hall

end Tafl
