import Tafl.Proofs.Hall.Runs

/-! # What the guests see

A guest knows nothing but the notices that came over its line. `Hall.run_screens`: whatever is
asked of a hall, what each guest was told last is how things stand. -/

namespace Tafl

/-! ### The last notice of a kind -/

namespace Notice

def isPlace : Notice → Bool
  | game | lobby => true
  | _ => false

def isBoard : Notice → Bool
  | playfield _ => true
  | _ => false

def isOpponent : Notice → Bool
  | opponentName _ => true
  | _ => false

def isTurn : Notice → Bool
  | yourTurn | opponentsTurn => true
  | _ => false

def lastOf (p : Notice → Bool) (ns : List Notice) : Option Notice := (ns.filter p).getLast?

theorem lastOf_append (p : Notice → Bool) (ns ms : List Notice) :
    lastOf p (ns ++ ms) = (lastOf p ms).or (lastOf p ns) := by
  rw [lastOf, List.filter_append, List.getLast?_append]
  rfl

/-- The notices say that the game of a side at a table goes on, and how it stands. -/
structure ShowsGame (ns : List Notice) (t : Table) (s : Side) : Prop where
  place : lastOf isPlace ns = some game
  board : lastOf isBoard ns = some (playfield t.board.digits)
  opponent : lastOf isOpponent ns = some (opponentName (t.player s.opponent))
  turn : lastOf isTurn ns = some (if t.playerOnTurn = t.player s then yourTurn else opponentsTurn)

/-- The notices say where the guest with a name is, in the lobby or at a table. -/
inductive Shows (ns : List Notice) (name : String) : Option Table → Prop
  | lobby (place : lastOf isPlace ns = some lobby) : Shows ns name none
  | game {t : Table} (s : Side) (player : t.player s = name) (game : ShowsGame ns t s) :
      Shows ns name (some t)

variable {ns ms : List Notice} {t : Table} {s : Side} {name : String}

theorem kinds_of_aside {n : Notice} (h : n.isAside = true) :
    n.isPlace = false ∧ n.isBoard = false ∧ n.isOpponent = false ∧ n.isTurn = false := by
  cases n <;> first | exact ⟨rfl, rfl, rfl, rfl⟩ | cases h

theorem lastOf_append_aside (ns : List Notice) {p : Notice → Bool} (hp : ∀ n ∈ ms, p n = false) :
    lastOf p (ns ++ ms) = lastOf p ns := by
  have : ms.filter p = [] := List.filter_eq_nil_iff.2 fun n hn => by simp [hp n hn]
  rw [lastOf_append, lastOf, this]
  rfl

theorem Shows.append {ot : Option Table} (h : Shows ns name ot) (hms : ∀ n ∈ ms, n.isAside = true) :
    Shows (ns ++ ms) name ot := by
  have kinds := fun n hn => kinds_of_aside (hms n hn)
  have place := lastOf_append_aside ns fun n hn => (kinds n hn).1
  cases h with
  | lobby h => exact .lobby (place.trans h)
  | game s hs h =>
    exact .game s hs ⟨place.trans h.place,
      (lastOf_append_aside ns fun n hn => (kinds n hn).2.1).trans h.board,
      (lastOf_append_aside ns fun n hn => (kinds n hn).2.2.1).trans h.opponent,
      (lastOf_append_aside ns fun n hn => (kinds n hn).2.2.2).trans h.turn⟩

theorem showsGame_briefing (ns : List Notice) (t : Table) (s : Side) :
    ShowsGame (ns ++ t.briefing s) t s := by
  constructor <;> rw [lastOf_append] <;> unfold Table.briefing <;> split <;> rfl

theorem shows_lobby (h : lastOf isPlace ms = some lobby) : Shows (ns ++ ms) name none :=
  .lobby (by rw [lastOf_append, h]; rfl)

theorem ShowsGame.move {t' : Table} (h : ShowsGame ns t s) (hp : ∀ s, t'.player s = t.player s)
    (place : lastOf isPlace ms = none) (opponent : lastOf isOpponent ms = none)
    (board : lastOf isBoard ms = some (playfield t'.board.digits))
    (turn : lastOf isTurn ms =
      some (if t'.playerOnTurn = t'.player s then yourTurn else opponentsTurn)) :
    ShowsGame (ns ++ ms) t' s where
  place := by rw [lastOf_append, place]; exact h.place
  board := by rw [lastOf_append, board]; rfl
  opponent := by rw [lastOf_append, opponent, hp]; exact h.opponent
  turn := by rw [lastOf_append, turn]; rfl

end Notice

/-! ### What each guest was told -/

def Outgoing.notices (os : List Outgoing) : List Notice :=
  os.filterMap fun
    | .frame n => some n
    | .close => none

namespace Hall
open Notice

/-- The notices that were put out on a line, in order. -/
def heardOn (h : Hall) (l : Line) : List Notice := Outgoing.notices (h.sentOn l)

/-- All guests with a name and a line were told where they are and how their games stand. -/
def Informed (h : Hall) : Prop :=
  ∀ i g name l, h.guest? i = some g → g.name = some name → g.line = some l →
    Shows (h.heardOn l) name (h.table? i)

variable {h h' : Hall} {first : Nat} {i j o : GuestId} {g gi go : Guest} {t : Table} {s : Side}
  {l : Line}

theorem notices_append (os qs : List Outgoing) :
    Outgoing.notices (os ++ qs) = Outgoing.notices os ++ Outgoing.notices qs :=
  List.filterMap_append

theorem notices_news (k : Option Line) (ns : List Notice) (l : Line) :
    Outgoing.notices (news k ns l) = if k = some l then ns else [] := by
  unfold news
  split
  · simp [Outgoing.notices, List.filterMap_map]
  · rfl

theorem notices_close (p : Prop) [Decidable p] :
    Outgoing.notices (if p then [.close] else []) = [] := by
  split <;> rfl

/-- Who keeps its record and hears nothing but asides is informed as before. -/
theorem Informed.frame (inf : h.Informed) (ht : h'.tables = h.tables)
    (hg : ∀ j x, h'.guest? j = some x → x.name ≠ none → x.line ≠ none →
      ∃ y, h.guest? j = some y ∧ x.name = y.name ∧ x.table = y.table ∧ x.line = y.line)
    (hs : ∀ l, ∃ ns, (∀ n ∈ ns, n.isAside = true) ∧ h'.heardOn l = h.heardOn l ++ ns) :
    h'.Informed := by
  intro j x name l hx hn hl
  obtain ⟨y, hy, hny, hty, hly⟩ := hg j x hx (by simp [hn]) (by simp [hl])
  obtain ⟨ns, hns, hheard⟩ := hs l
  have htable : h'.table? j = h.table? j := by
    rw [table?_of_guest? hx, table?_of_guest? hy, ht, hty]
  rw [hheard, htable]
  exact (inf j y name l hy (hny ▸ hn) (hly ▸ hl)).append hns

/-- If only some guests are concerned by what is done and said, only they are to be looked at. -/
theorem Informed.of_others (inf : h.Informed) (who : GuestId → Prop)
    (hg : ∀ j, ¬ who j → h'.guest? j = h.guest? j)
    (ht : ∀ j, ¬ who j → h'.table? j = h.table? j)
    (hs : ∀ j x l, ¬ who j → h.guest? j = some x → x.line = some l → h'.heardOn l = h.heardOn l)
    (hwho : ∀ j x name l, who j → h'.guest? j = some x → x.name = some name → x.line = some l →
      Shows (h'.heardOn l) name (h'.table? j)) : h'.Informed := by
  intro j x name l hx hn hl
  by_cases hw : who j
  · exact hwho j x name l hw hx hn hl
  · rw [hg j hw] at hx
    rw [hs j x l hw hx hl, ht j hw]
    exact inf j x name l hx hn hl

theorem Apart.ne (ap : h.Apart) (hi : h.guest? i = some gi) (hj : h.guest? j = some g)
    (hl : g.line = some l) (hne : j ≠ i) : gi.line ≠ some l :=
  fun hil => hne (ap j i g gi l hj hi hl hil)

theorem Informed.one (inf : h.Informed) (ap : h.Apart) (hi : h.guest? i = some gi)
    (ns : List Notice) (hg : ∀ j, j ≠ i → h'.guest? j = h.guest? j)
    (ht : ∀ j, j ≠ i → h'.table? j = h.table? j)
    (hs : ∀ l, h'.heardOn l = h.heardOn l ++ if gi.line = some l then ns else [])
    (hi' : ∀ x name l, h'.guest? i = some x → x.name = some name → x.line = some l →
      gi.line = some l ∧ Shows (h.heardOn l ++ ns) name (h'.table? i)) : h'.Informed := by
  refine inf.of_others (· = i) hg ht (fun j x l hj hx hl => ?_) fun j x name l hj hx hn hl => ?_
  · rw [hs, if_neg (ap.ne hi hx hl hj), List.append_nil]
  · subst hj
    obtain ⟨hil, hshow⟩ := hi' x name l hx hn hl
    rwa [hs, if_pos hil]

theorem Informed.two (inf : h.Informed) (ap : h.Apart) (hi : h.guest? i = some gi)
    (ho : h.guest? o = some go) (hne : i ≠ o) (ns ms : List Notice)
    (hg : ∀ j, j ≠ i → j ≠ o → h'.guest? j = h.guest? j)
    (ht : ∀ j, j ≠ i → j ≠ o → h'.table? j = h.table? j)
    (hs : ∀ l, ¬ (gi.line = some l ∧ go.line = some l) → h'.heardOn l =
      h.heardOn l ++ (if gi.line = some l then ns else []) ++ if go.line = some l then ms else [])
    (hi' : ∀ x name l, h'.guest? i = some x → x.name = some name → x.line = some l →
      gi.line = some l ∧ Shows (h.heardOn l ++ ns) name (h'.table? i))
    (ho' : ∀ x name l, h'.guest? o = some x → x.name = some name → x.line = some l →
      go.line = some l ∧ Shows (h.heardOn l ++ ms) name (h'.table? o)) : h'.Informed := by
  refine inf.of_others (fun j => j = i ∨ j = o) (fun j hj => ?_) (fun j hj => ?_)
    (fun j x l hj hx hl => ?_) fun j x name l hj hx hn hl => ?_
  · rw [not_or] at hj
    exact hg j hj.1 hj.2
  · rw [not_or] at hj
    exact ht j hj.1 hj.2
  · rw [not_or] at hj
    have hil := ap.ne hi hx hl hj.1
    rw [hs l fun e => hil e.1, if_neg hil, if_neg (ap.ne ho hx hl hj.2), List.append_nil,
      List.append_nil]
  · rcases hj with rfl | rfl
    · obtain ⟨hil, hshow⟩ := hi' x name l hx hn hl
      have hol := ap.ne ho hi hil hne
      rwa [hs l fun e => hol e.2, if_pos hil, if_neg hol, List.append_nil]
    · obtain ⟨hol, hshow⟩ := ho' x name l hx hn hl
      have hil := ap.ne hi ho hol hne.symm
      rwa [hs l fun e => hil e.1, if_neg hil, List.append_nil, if_pos hol]

/-- Two players are told something, and only their records and their table change. -/
theorem Informed.duel (inf : h.Informed) (ap : h.Apart) (ho : h.Orderly first)
    (d : Duel h.guest? h.tables.get? i o gi go t s) {xi xo : Option Guest} (ns ms : List Notice)
    (hg : h'.guest? = Function.update (Function.update h.guest? i xi) o xo)
    (ht : ∀ k, k ≠ t.id → h'.tables.get? k = h.tables.get? k)
    (hs : ∀ l, ¬ (gi.line = some l ∧ go.line = some l) → h'.heardOn l =
      h.heardOn l ++ (if gi.line = some l then ns else []) ++ if go.line = some l then ms else [])
    (hxi : ∀ x, xi = some x → x.name = gi.name ∧ x.line = gi.line ∧ ∀ l, gi.line = some l →
      Shows (h.heardOn l ++ ns) (t.player s) (x.table.bind h'.tables.get?))
    (hxo : ∀ x, xo = some x → x.name = go.name ∧ x.line = go.line ∧ ∀ l, go.line = some l →
      Shows (h.heardOn l ++ ms) (t.player s.opponent) (x.table.bind h'.tables.get?)) :
    h'.Informed := by
  have others : ∀ j, j ≠ i → j ≠ o → h'.guest? j = h.guest? j := fun j hj hj' => by
    rw [hg, Function.update_of_ne hj', Function.update_of_ne hj]
  have hgi : h'.guest? i = xi := by rw [hg, Function.update_of_ne d.ne, Function.update_self]
  have hgo : h'.guest? o = xo := by rw [hg, Function.update_self]
  refine inf.two ap d.here d.there d.ne ns ms others (fun j hj hj' => ?_) hs
    (fun x name l hx hn hl => ?_) fun x name l hx hn hl => ?_
  · refine table?_congr (others j hj hj') fun x k hx hk => ht k ?_
    rintro rfl
    exact InOrder.table_ne ho (ho.duel_since d) hj hj' hx hk
  · obtain ⟨hname, hline, hshow⟩ := hxi x (hgi.symm.trans hx)
    obtain rfl := Option.some.inj ((hn.symm.trans hname).trans d.name_here)
    rw [table?_of_guest? hx]
    exact ⟨hline ▸ hl, hshow l (hline ▸ hl)⟩
  · obtain ⟨hname, hline, hshow⟩ := hxo x (hgo.symm.trans hx)
    obtain rfl := Option.some.inj ((hn.symm.trans hname).trans d.name_there)
    rw [table?_of_guest? hx]
    exact ⟨hline ▸ hl, hshow l (hline ▸ hl)⟩

theorem Informed.showsGame (inf : h.Informed) (d : Duel h.guest? h.tables.get? i o gi go t s)
    (hl : gi.line = some l) : ShowsGame (h.heardOn l) t s := by
  have hshow := inf i gi _ l d.here d.name_here hl
  rw [d.table?_eq] at hshow
  cases hshow with
  | game s' hs hshow =>
    obtain rfl := Table.player_inj d.apart hs
    exact hshow

/-! ### No change leaves a guest uninformed -/

/-- Whoever is told at last that it is in the lobby, and is there, is informed. -/
theorem shows_released {T : Nat → Option Table} {ms : List Notice} {n : String}
    (hms : lastOf isPlace ms = some .lobby) : ∀ x, some g.released = some x →
      x.name = g.name ∧ x.line = g.line ∧ ∀ l, g.line = some l →
        Shows (h.heardOn l ++ ms) n (x.table.bind T) := by
  rintro x ⟨⟩
  refine ⟨by simp, by simp, fun l _ => ?_⟩
  rw [Guest.table_released]
  exact shows_lobby hms

theorem Informed.finish (inf : h.Informed) (ap : h.Apart) (ho : h.Orderly first)
    (d : Duel h.guest? h.tables.get? i o gi go t s) {t' : Table} {m : Move} {r : Report}
    (hm : t.play (t.player s) m = .ok (t', r)) (won : Bool) :
    (({ h with tables := h.tables.replace t' }.showMove i (some o) m
      t'.board.digits).settleGame i (some o) t'.id won).Informed := by
  obtain ⟨-, b, -, rfl⟩ := play_eq_ok_of_duel d hm
  have hg := guest?_finish d (h.tables.replace (t.after b r)) m (t.after b r).board.digits
    (t.after b r).id won
  have ht := tables_finish d (t.after b r) rfl m (t.after b r).board.digits won
  have hs := sentOn_finish d (h.tables.replace (t.after b r)) m (t.after b r).board.digits
    (t.after b r).id won
  generalize Hall.settleGame _ i (some o) _ won = h' at hg ht hs ⊢
  refine inf.duel ap ho d
    [.moveAccepted, .playfield (t.after b r).board.digits, if won then .won else .lost, .lobby]
    [.opponentMove m, .playfield (t.after b r).board.digits, if won then .lost else .won, .lobby]
    hg (fun k hk => by rw [ht, Function.update_of_ne hk]) (fun l hl => ?_) ?_ ?_
  · rw [heardOn, hs, append_news_comm _ hl, append_news_append, append_news_append, notices_append,
      notices_append, notices_news, notices_news]
    rfl
  · exact shows_released (by cases won <;> rfl)
  · exact shows_released (by cases won <;> rfl)

theorem Informed.turn (inf : h.Informed) (ap : h.Apart) (ho : h.Orderly first)
    (d : Duel h.guest? h.tables.get? i o gi go t s) {t' : Table} {m : Move} {r : Report}
    (hm : t.play (t.player s) m = .ok (t', r)) (hr : r.winner = none) :
    (({ h with tables := h.tables.replace t' }.showMove i (some o) m
      t'.board.digits).passTurn i (some o)).Informed := by
  obtain ⟨rfl, b, -, rfl⟩ := play_eq_ok_of_duel d hm
  have hp := t.player_after b r
  have hon : (t.after b r).playerOnTurn = t.player t.onTurn.opponent := by
    rw [Table.playerOnTurn, hp]
    simp [Table.after, hr]
  have hne : t.player t.onTurn.opponent ≠ t.player t.onTurn := fun e =>
    t.onTurn.opponent_ne (Table.player_inj d.apart e)
  have hg := guest?_turn d (h.tables.replace (t.after b r)) m (t.after b r).board.digits
  have ht := tables_turn d (t.after b r) rfl m (t.after b r).board.digits
  have hs := sentOn_turn d (h.tables.replace (t.after b r)) m (t.after b r).board.digits
  generalize Hall.passTurn _ i (some o) = h' at hg ht hs ⊢
  refine inf.duel ap ho d [.moveAccepted, .playfield (t.after b r).board.digits, .opponentsTurn]
    [.opponentMove m, .playfield (t.after b r).board.digits, .yourTurn] hg
    (fun k hk => by rw [ht, Function.update_of_ne hk]) (fun l hl => ?_) ?_ ?_
  · rw [heardOn, hs, append_news_comm _ hl, append_news_append, append_news_append, notices_append,
      notices_append, notices_news, notices_news]
    rfl
  · rintro x ⟨⟩
    refine ⟨by simp, by simp, fun l hl => ?_⟩
    rw [Guest.table_settle, d.table_here, ht, Option.bind_some, Function.update_self]
    refine .game t.onTurn (hp _) ((inf.showsGame d hl).move hp rfl rfl rfl ?_)
    rw [hon, hp, if_neg hne]
    rfl
  · rintro x ⟨⟩
    refine ⟨by simp, by simp, fun l hl => ?_⟩
    rw [Guest.table_settle, d.table_there, ht, Option.bind_some, Function.update_self]
    refine .game t.onTurn.opponent (hp _) ((inf.showsGame d.symm hl).move hp rfl rfl rfl ?_)
    rw [hon, hp, if_pos rfl]
    rfl

theorem Informed.quit (inf : h.Informed) (ap : h.Apart) (ho : h.Orderly first)
    (d : Duel h.guest? h.tables.get? i o gi go t s) :
    (((h.send i .left).breakUp i .opponentLeft).toLobby i).Informed := by
  have hg := ho.guest?_quit d
  have ht := ho.tables_quit d
  have hs := ho.sentOn_quit d
  generalize Hall.toLobby _ i = h' at hg ht hs ⊢
  refine inf.duel ap ho d [.left, .lobby] [.opponentLeft, .lobby] hg
    (fun k hk => by rw [ht, Function.update_of_ne hk]) (fun l hl => ?_) (shows_released rfl)
    (shows_released rfl)
  rw [heardOn, hs, append_news_comm _ hl, append_news_append, notices_append, notices_append,
    notices_news, notices_news]
  rfl

theorem Informed.drop (inf : h.Informed) (ap : h.Apart) (ho : h.Orderly first)
    (hg : h.guest? i = some g) : (h.drop i).Informed := by
  cases hk : g.table with
  | none =>
    have hs := sentOn_strike hg
    rw [drop_of_table_eq_none hg hk]
    refine inf.frame tables_strike (fun j x hx _ _ => ?_) fun l => ⟨[], by simp, ?_⟩
    · rw [guest?_strike] at hx
      rcases update_eq_some.1 hx with ⟨-, ⟨⟩⟩ | ⟨-, hx⟩
      exact ⟨x, hx, rfl, rfl, rfl⟩
    · rw [heardOn, hs, notices_append, notices_close]
      rfl
  | some k =>
    obtain ⟨o, go, t, s, rfl, d⟩ := ho.duel hg hk
    have hg' := ho.guest?_drop d
    have ht := ho.tables_drop d
    have hs := ho.sentOn_drop d
    generalize h.drop i = h' at hg' ht hs ⊢
    refine inf.duel ap ho d [] [.opponentGone, .lobby] hg'
      (fun k hk => by rw [ht, Function.update_of_ne hk]) (fun l hl => ?_) (by rintro x ⟨⟩)
      (shows_released rfl)
    simp only [heardOn, hs, notices_append, notices_news, notices_close]
    simp

/-- Whoever is told where it is knows everything anew. -/
theorem Places.shows {ns : List Notice} (hp : Places h.tables.get? g ns) (hg : h.guest? i = some g)
    (old : List Notice) {name : String} (hn : g.name = some name) :
    Shows (old ++ .reconnected :: ns) name (h.table? i) := by
  rw [table?_of_guest? hg]
  cases hp with
  | lobby hk =>
    rw [hk]
    exact shows_lobby rfl
  | game s hs hk hf =>
    rw [hk, Option.bind_some, hf, List.append_cons]
    exact .game s (Option.some.inj (hs.symm.trans hn)) (showsGame_briefing ..)

theorem Informed.welcome (inf : h.Informed) (ap : h.Apart) (ho : h.Orderly first)
    (hg : h.guest? i = some g) : (h.welcome i).Informed := by
  obtain ⟨ns, hplace, hs⟩ := ho.exists_welcome hg
  have hg' : (h.welcome i).guest? = h.guest? := guest?_welcome ..
  have ht : (h.welcome i).table? = h.table? := by
    funext j
    simp [table?]
  refine inf.one ap hg (.reconnected :: ns) (fun j _ => by rw [hg']) (fun j _ => by rw [ht]) (fun l => ?_)
    fun x name l hx hn hl => ?_
  · rw [heardOn, hs, notices_append, notices_news]
    rfl
  · obtain rfl := Option.some.inj (hg.symm.trans (hg' ▸ hx))
    rw [ht]
    exact ⟨hl, hplace.shows hg _ hn⟩

theorem Informed.name (inf : h.Informed) (ap : h.Apart) (hg : h.guest? i = some g)
    (hk : g.table = none) (n : String) :
    (((h.revise i fun g => { g with name := some n }.settle .waiting).send i .connected).send i
      .lobby).Informed := by
  have hg' : (((h.revise i fun g => { g with name := some n }.settle .waiting).send i
      .connected).send i .lobby).guest? =
      Function.update h.guest? i (some ({ g with name := some n }.settle .waiting)) := by
    simp [guest?_revise, hg]
  have hs (l : Line) : (((h.revise i fun g => { g with name := some n }.settle .waiting).send i
      .connected).send i .lobby).sentOn l = h.sentOn l ++ news g.line [.connected, .lobby] l := by
    rw [sentOn_send, sentOn_send, line?_send, line?_revise _ _ _ _ (by simp), line?_of_guest? hg,
      List.append_assoc, ← news_append]
    rfl
  have ht : (((h.revise i fun g => { g with name := some n }.settle .waiting).send i
      .connected).send i .lobby).tables = h.tables := by simp
  generalize Hall.send _ i .lobby = h' at hg' hs ht ⊢
  have others : ∀ j, j ≠ i → h'.guest? j = h.guest? j := fun j hj => by
    rw [hg', Function.update_of_ne hj]
  refine inf.one ap hg [.connected, .lobby] others (fun j hj => ?_) (fun l => ?_)
    fun x name l hx hn hl => ?_
  · simp [table?, others j hj, ht]
  · rw [heardOn, hs, notices_append, notices_news]
    rfl
  · obtain rfl : _ = x := Option.some.inj ((hg' ▸ Function.update_self ..).symm.trans hx)
    have htable : h'.table? i = none := by
      rw [table?_of_guest? hx]
      simp [hk]
    rw [htable]
    exact ⟨by simpa using hl, shows_lobby rfl⟩

theorem Informed.resume (inf : h.Informed) (ap : h.Apart) (hg : h.guest? i = some g)
    (hgo : h.guest? o = some go) (hne : o ≠ i) (ho : (h.handedOver o i).Orderly first) :
    ((h.handedOver o i).welcome i).Informed := by
  have hk := guest?_handedOver hg hgo hne
  obtain ⟨x, hki, hline⟩ : ∃ x, (h.handedOver o i).guest? i = some x ∧ x.line = g.line :=
    ⟨_, (congrFun hk i).trans (Function.update_self ..), rfl⟩
  obtain ⟨ns, hplace, hs⟩ := ho.exists_welcome hki
  have hs' := sentOn_handedOver hg hgo hne
  have hg' : ((h.handedOver o i).welcome i).guest? = (h.handedOver o i).guest? :=
    guest?_welcome ..
  have ht : ((h.handedOver o i).welcome i).tables = h.tables := by
    rw [tables_welcome, tables_handedOver]
  have htk : (h.handedOver o i).tables = h.tables := tables_handedOver
  -- the old record loses its name and its line, so only the new one has to be told anything
  generalize h.handedOver o i = k at *
  generalize k.welcome i = h' at *
  have others : ∀ j, j ≠ o → j ≠ i → h'.guest? j = h.guest? j := fun j hj hj' => by
    rw [hg', hk, Function.update_of_ne hj', Function.update_of_ne hj]
  refine inf.two ap hgo hg hne [] (.reconnected :: ns) others (fun j hj hj' => ?_) (fun l _ => ?_)
    (fun x name l hx hn hl => ?_) fun x name l hx hn hl => ?_
  · simp [table?, others j hj hj', ht]
  · simp only [heardOn, hs, hs', hline, notices_append, notices_news, notices_close]
    simp
  · rw [hg', hk, Function.update_of_ne hne, Function.update_self] at hx
    cases hx
    cases hn
  · rw [hg', hki] at hx
    cases hx
    refine ⟨hline ▸ hl, ?_⟩
    have htable : h'.table? i = k.table? i := by simp [table?, hg', ht, htk]
    rw [htable]
    exact hplace.shows hki _ hn

theorem Informed.pair (inf : h.Informed) (ap : h.Apart) (ho : h.Orderly first) {p : Pair}
    (hne : p.1.1 ≠ p.2.1) (hb : h.Waits p.1) (hw : h.Waits p.2) : (h.pair p).Informed := by
  obtain ⟨gi, hi, hni, -⟩ := hb
  obtain ⟨go, hgo, hno, -⟩ := hw
  have hne' : p.1.2 ≠ p.2.2 := fun e => hne (ho.unique _ _ gi go _ hi hgo hni (e ▸ hno))
  have hg := guest?_pair hi hgo hne
  have ht := tables_pair (h := h) (p := p)
  have hs := sentOn_pair hi hgo hni hno hne hne'
  generalize h.pair p = h' at hg ht hs ⊢
  have others : ∀ j, j ≠ p.1.1 → j ≠ p.2.1 → h'.guest? j = h.guest? j := fun j hj hj' => by
    rw [hg, Function.update_of_ne hj', Function.update_of_ne hj]
  have hi' : h'.guest? p.1.1 = some (gi.sit (h.tables.opened + 1) .onTurn) := by
    rw [hg, Function.update_of_ne hne, Function.update_self]
  have ho' : h'.guest? p.2.1 = some (go.sit (h.tables.opened + 1) .onStand) := by
    rw [hg, Function.update_self]
  have table (x : Guest) (q : Phase) : (x.sit (h.tables.opened + 1) q).table.bind h'.tables.get? =
      some (h.newTable p) := by
    simp [Guest.sit, ht]
  refine inf.two ap hi hgo hne ((h.newTable p).briefing .black) ((h.newTable p).briefing .white)
    others (fun j hj hj' => ?_) (fun l _ => ?_) (fun x name l hx hn hl => ?_)
    fun x name l hx hn hl => ?_
  · refine table?_congr (others j hj hj') fun x k hx hk => ?_
    rw [ht, Function.update_of_ne]
    rintro rfl
    exact ho.table_ne_of_eq_none hx h.tables.get?_next hk
  · simp only [heardOn, hs, notices_append, notices_news]
  · obtain rfl := Option.some.inj (hi'.symm.trans hx)
    have hname : gi.name = some name := by simpa [Guest.sit] using hn
    refine ⟨by simpa [Guest.sit] using hl, ?_⟩
    rw [table?_of_guest? hi', table]
    exact .game .black (Option.some.inj (hni.symm.trans hname)) (showsGame_briefing ..)
  · obtain rfl := Option.some.inj (ho'.symm.trans hx)
    have hname : go.name = some name := by simpa [Guest.sit] using hn
    refine ⟨by simpa [Guest.sit] using hl, ?_⟩
    rw [table?_of_guest? ho', table]
    exact .game .white (Option.some.inj (hno.symm.trans hname)) (showsGame_briefing ..)

theorem Informed.revise (inf : h.Informed) {f : Guest → Guest} (hn : ∀ g, (f g).name = g.name)
    (ht : ∀ g, (f g).table = g.table) (hl : ∀ g, (f g).line = g.line) :
    (h.revise i f).Informed := by
  refine inf.frame rfl (fun j x hx _ _ => ?_) fun l => ⟨[], by simp, by simp [heardOn]⟩
  rw [guest?_revise] at hx
  rcases update_eq_some.1 hx with ⟨rfl, hx⟩ | ⟨-, hx⟩
  · obtain ⟨y, hy, rfl⟩ := Option.map_eq_some_iff.1 hx
    exact ⟨y, hy, hn y, ht y, hl y⟩
  · exact ⟨x, hx, rfl, rfl, rfl⟩

theorem Informed.send (inf : h.Informed) {n : Notice} (hn : n.isAside = true) :
    (h.send i n).Informed := by
  refine inf.frame (tables_send ..) (fun j x hx _ _ => ⟨x, by simpa using hx, rfl, rfl, rfl⟩)
    fun l => ⟨if h.line? i = some l then [n] else [], ?_, ?_⟩
  · split <;> simp [hn]
  · rw [heardOn, sentOn_send, notices_append, notices_news]
    rfl

theorem Informed.deed (inf : h.Informed) (ap : h.Apart) (ho : h.Orderly first) (hd : Deed i h h') :
    h'.Informed := by
  cases hd with
  | received n => exact inf
  | aside _ aside => exact inf.send aside
  | rouse => exact inf.revise (by intro; rfl) (by intro; rfl) (by intro; rfl)
  | @name g n here name => exact inf.name ap here ((ho.proper i g here).table_of_unnamed name) n
  | welcome here => exact inf.welcome ap ho here
  | @resume old g go n here name line found there away =>
    have hno : go.name ≠ none := by simp [found_name found there]
    exact inf.resume ap here there (ne_of_named here name there hno)
      (ho.handedOver here name line there away hno)
  | turn duel move goes_on => exact inf.turn ap ho duel move goes_on
  | finish duel move => exact inf.finish ap ho duel move _
  | quit duel => exact inf.quit ap ho duel

theorem Informed.change (inf : h.Informed) (ap : h.Apart) (ho : h.Orderly first) (hc : Change i h h') :
    h'.Informed := by
  cases hc with
  | deed hd => exact inf.deed ap ho hd
  | ping | lose | fade => exact inf.revise (by intro; rfl) (by intro; rfl) (by intro; rfl)
  | cut here =>
    have hk := inf.send (i := i) (n := .kicked) rfl
    generalize h.send i .kicked = k at hk
    refine hk.frame (by simp) (fun j x hx _ hl => ?_) fun l => ⟨[], by simp, ?_⟩
    · rw [guest?_hangUp, guest?_revise] at hx
      rcases update_eq_some.1 hx with ⟨rfl, hx⟩ | ⟨-, hx⟩
      · obtain ⟨y, -, rfl⟩ := Option.map_eq_some_iff.1 hx
        exact absurd rfl hl
      · exact ⟨x, hx, rfl, rfl, rfl⟩
    · rw [heardOn, sentOn_hangUp_option, notices_append, notices_close]
      rfl
  | @expire g here =>
    have hr := inf.revise (i := i) (f := fun g => { g with decay := g.decay - 1 }) (fun _ => rfl)
      (fun _ => rfl) fun _ => rfl
    have hs : h.Sheds (h.revise i fun g => { g with decay := g.decay - 1 }) := by
      intro j x hx
      rw [guest?_revise, here] at hx
      rcases update_eq_some.1 hx with ⟨rfl, ⟨⟩⟩ | ⟨-, hx⟩
      · exact ⟨g, here, .inl rfl⟩
      · exact ⟨x, hx, .inl rfl⟩
    have hor : (h.revise i fun g => { g with decay := g.decay - 1 }).Orderly first :=
      ho.revise here ((ho.proper i g here).decay _) rfl rfl
    exact hr.drop (hs.apart ap) hor (g := { g with decay := g.decay - 1 })
      (by simp [guest?_revise, here])
  | drop here => exact inf.drop ap ho here

/-! ### What everybody sees in the end -/

namespace Reached
variable {c m b : Nat} {as : List (GuestId × Line)}

theorem informed (r : Reached c m b first as h) (hl : (as.map Prod.snd).Nodup) : h.Informed := by
  induction r with
  | refl =>
    intro i g name l hg
    cases hg
  | change r hc ih => exact (ih hl).change (Reached.apart r hl) (Reached.orderly r) hc
  | pair r hne hb hw ih => exact (ih hl).pair (Reached.apart r hl) (Reached.orderly r) hne hb hw
  | enrol origin line r _ ih =>
    -- the newcomer has no name, and the others do not notice
    rw [List.map_append] at hl
    refine (ih (List.nodup_append.1 hl).1).frame rfl (fun j x hx hn _ => ?_)
      fun l => ⟨[], by simp, (List.append_nil _).symm⟩
    rw [guest?_enrol] at hx
    rcases update_eq_some.1 hx with ⟨-, ⟨⟩⟩ | ⟨-, hx⟩
    · exact absurd rfl hn
    · exact ⟨x, hx, rfl, rfl, rfl⟩
  | refuse id line r _ ih =>
    rw [List.map_append] at hl
    refine (ih (List.nodup_append.1 hl).1).frame (by simp)
      (fun j x hx _ _ => ⟨x, by simpa using hx, rfl, rfl, rfl⟩) fun l =>
      ⟨if l = line then [.serverFull] else [], ?_, ?_⟩
    · split <;> simp [isAside]
    · rw [heardOn, sentOn_hangUp, sentOn_post]
      split <;> simp [heardOn, Outgoing.notices]
  | shutDown =>
    intro i g name l hg
    simp [guest?_shutDown] at hg

end Reached

/-- What a guest with a name has heard tells where it is: in the lobby, or in a game against
somebody, with the board and the turn as they are. -/
structure Screen (h : Hall) (g : Guest) (name : String) (heard : List Notice) : Prop where
  lobby : g.table = none → lastOf isPlace heard = some .lobby
  game : ∀ k, g.table = some k → ∃ t other, h.tables.get? k = some t ∧
    t.opponentOf? name = some other ∧
    lastOf isPlace heard = some .game ∧
    lastOf isBoard heard = some (.playfield t.board.digits) ∧
    lastOf isOpponent heard = some (.opponentName other) ∧
    lastOf isTurn heard = some (if t.playerOnTurn = name then .yourTurn else .opponentsTurn)

theorem Informed.screen (inf : h.Informed) (ho : h.Orderly first) (hg : h.guest? i = some g)
    {name : String} (hn : g.name = some name) (hl : g.line = some l) :
    h.Screen g name (h.heardOn l) := by
  have hshow := inf i g name l hg hn hl
  rw [table?_of_guest? hg] at hshow
  constructor
  · intro hk
    rw [hk] at hshow
    cases hshow with
    | lobby place => exact place
  · intro k hk
    obtain ⟨t, s, rfl, -, hf, hne, -⟩ := ho.seat hg hk
    rw [hk, Option.bind_some, hf] at hshow
    cases hshow with
    | game s hs hshow =>
      subst hs
      exact ⟨t, _, hf, Table.opponentOf?_player hne s, hshow.place,
        hshow.board, hshow.opponent, hshow.turn⟩

/-- Whatever came over the lines, in whatever order, what each guest was told last is how things
stand. Nobody comes twice under one number, and everybody comes on a line of its own. -/
theorem run_screens (capacity maxTables budget : Nat) {steps : List Step}
    (hs : .shutDown ∉ steps) (hids : ((arrivals steps).map Prod.fst).Nodup)
    (hlines : ((arrivals steps).map Prod.snd).Nodup) :
    let h := (vacant capacity maxTables budget).run steps
    ∀ i g name line, h.guest? i = some g → g.name = some name → g.line = some line →
      h.Screen g name (h.heardOn line) := by
  intro h i g name line hg hn hl
  obtain ⟨as, hp, r⟩ := exists_reached capacity maxTables budget hs hids
  exact (r.informed ((hp.map Prod.snd).nodup_iff.2 hlines)).screen r.orderly hg hn hl

/-- Two guests are matched and the first one moves. Both are given up, and the second one comes back
on another line and gives its name. -/
theorem run_screens_comeback :
    let steps : List Step := [.event (.connected 1 "a" 0), .event (.connected 2 "b" 1),
      .event (.data 1 (Request.frame [.connect "Ada"]).toUTF8),
      .event (.data 2 (Request.frame [.connect "Bob"]).toUTF8), .matchmake,
      .event (.data 1 (Request.frame [.move ⟨⟨3, 0⟩, ⟨3, 1⟩⟩]).toUTF8), .sweep, .sweep, .sweep,
      .batch [.connected 3 "b" 2], .event (.data 3 (Request.frame [.connect "Bob"]).toUTF8)]
    let h := (vacant 4 2 3).run steps
    (.shutDown ∉ steps ∧ ((arrivals steps).map Prod.fst).Nodup ∧
      ((arrivals steps).map Prod.snd).Nodup) ∧
    ∃ g, h.guest? 3 = some g ∧ g.name = some "Bob" ∧ g.table = some 1 ∧ g.line = some 2 ∧
      lastOf isTurn (h.heardOn 2) = some .yourTurn ∧ h.Screen g "Bob" (h.heardOn 2) := by
  intro steps h
  have hs : .shutDown ∉ steps := by simp [steps]
  have hids : ((arrivals steps).map Prod.fst).Nodup := by decide
  have hlines : ((arrivals steps).map Prod.snd).Nodup := by decide
  have heval : (h.guest? 3).map (fun g => (g.name, g.table, g.line)) =
      some (some "Bob", some 1, some 2) ∧ lastOf isTurn (h.heardOn 2) = some .yourTurn := by
    decide +kernel
  obtain ⟨g, hg, hfields⟩ := Option.map_eq_some_iff.1 heval.1
  simp only [Prod.mk.injEq] at hfields
  obtain ⟨hn, hk, hl⟩ := hfields
  exact ⟨⟨hs, hids, hlines⟩, g, hg, hn, hk, hl, heval.2,
    run_screens 4 2 3 hs hids hlines 3 g "Bob" 2 hg hn hl⟩

end Hall

end Tafl
