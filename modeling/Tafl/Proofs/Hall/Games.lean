import Tafl.Proofs.Game.Record
import Tafl.Proofs.Hall.Order

/-! # What happens at a table

The operations that concern both players of a game, in a hall in order: what they do to the two
records, to the table and to the two lines. Everything else stays as it is. -/

namespace Tafl
open Function (update)

def Table.briefing (t : Table) (s : Side) : List Notice :=
  [.game, .opponentName (t.player s.opponent), .playfield t.board.digits,
    if t.playerOnTurn = t.player s then .yourTurn else .opponentsTurn]

namespace Hall

/-- The guests and the tables from number `first` on are in order. -/
def Orderly (h : Hall) (first : Nat) : Prop := InOrder h.guest? (h.tables.since first)

section
variable (h : Hall) (i j : GuestId) (n : Notice) (m : Move) (d : String) (o : Option GuestId)
  (k : Nat) (w : Bool)

theorem send_tables (ts : Tables) :
    { h.send i n with tables := ts } = { h with tables := ts }.send i n := by
  have hl : { h with tables := ts }.line? i = h.line? i := rfl
  unfold send
  rw [hl]
  cases h.line? i <;> rfl

theorem settleGame_eq : h.settleGame i o k w =
    let h := ({ h with tables := h.tables.close k }.send i (if w then .won else .lost)).toLobby i
    o.elim h fun o => (h.send o (if w then .lost else .won)).toLobby o := by
  unfold settleGame
  dsimp only
  rw [tables_send, send_tables]

/-! ### What stays -/

@[simp] theorem guest?_sendToOpponent : (h.sendToOpponent i n).guest? = h.guest? := by
  unfold sendToOpponent
  cases h.opponent? i <;> simp

@[simp] theorem guest?_sendGame : (h.sendGame i).guest? = h.guest? := by
  unfold sendGame
  split <;> simp

@[simp] theorem guest?_sendPlace : (h.sendPlace i).guest? = h.guest? := by
  unfold sendPlace
  split <;> simp

@[simp] theorem guest?_showMove : (h.showMove i o m d).guest? = h.guest? := by
  unfold showMove
  cases o <;> simp

@[simp] theorem tables_sendToOpponent : (h.sendToOpponent i n).tables = h.tables := by
  unfold sendToOpponent
  cases h.opponent? i <;> simp

@[simp] theorem tables_sendGame : (h.sendGame i).tables = h.tables := by
  unfold sendGame
  split <;> simp

@[simp] theorem tables_sendPlace : (h.sendPlace i).tables = h.tables := by
  unfold sendPlace
  split <;> simp

@[simp] theorem tables_toLobby : (h.toLobby i).tables = h.tables := by
  simp [toLobby]

@[simp] theorem tables_showMove : (h.showMove i o m d).tables = h.tables := by
  unfold showMove
  cases o <;> simp

@[simp] theorem tables_passTurn : (h.passTurn i o).tables = h.tables := by
  unfold passTurn
  cases o <;> simp

@[simp] theorem decayBudget_sendGame : (h.sendGame i).decayBudget = h.decayBudget := by
  unfold sendGame
  split <;> simp

@[simp] theorem decayBudget_sendPlace : (h.sendPlace i).decayBudget = h.decayBudget := by
  unfold sendPlace
  split <;> simp

@[simp] theorem decayBudget_showMove : (h.showMove i o m d).decayBudget = h.decayBudget := by
  unfold showMove
  cases o <;> simp

theorem decayBudget_strike : (h.strike i).decayBudget = h.decayBudget := by
  unfold strike
  split
  · rfl
  · exact decayBudget_hangUp _ _

theorem tables_settleGame : (h.settleGame i o k w).tables = h.tables.close k := by
  rw [settleGame_eq]
  cases o <;> simp

@[simp] theorem line?_sendPlace : (h.sendPlace i).line? j = h.line? j := by simp [line?]

@[simp] theorem line?_toLobby : (h.toLobby i).line? j = h.line? j := by
  simp [toLobby, line?_revise]

@[simp] theorem line?_breakUp : (h.breakUp i n).line? j = h.line? j := by
  unfold breakUp
  split
  · rfl
  · cases h.opponent? i <;> simp [line?_revise]

@[simp] theorem line?_showMove : (h.showMove i o m d).line? j = h.line? j := by simp [line?]

@[simp] theorem line?_passTurn : (h.passTurn i o).line? j = h.line? j := by
  unfold passTurn
  cases o <;> simp [line?_revise]

@[simp] theorem line?_settleGame : (h.settleGame i o k w).line? j = h.line? j := by
  rw [settleGame_eq]
  cases o <;> simp

end

end Hall

variable {h : Hall} {first : Nat} {i j o : GuestId} {g gi go : Guest} {t t' : Table} {s : Side}

/-! ### Who plays where -/

namespace Hall

theorem table?_of_guest? (hg : h.guest? i = some g) :
    h.table? i = g.table.bind h.tables.get? := by
  simp [table?, hg]

theorem table?_congr {h' : Hall} (hg : h'.guest? i = h.guest? i)
    (ht : ∀ g k, h.guest? i = some g → g.table = some k → h'.tables.get? k = h.tables.get? k) :
    h'.table? i = h.table? i := by
  cases hx : h.guest? i with
  | none => simp [table?, hg, hx]
  | some g =>
    rw [table?_of_guest? hx, table?_of_guest? (hg.trans hx)]
    cases hk : g.table with
    | none => rfl
    | some k => exact ht g k hx hk

end Hall

theorem Duel.table?_eq (d : Duel h.guest? h.tables.get? i o gi go t s) : h.table? i = some t := by
  rw [Hall.table?_of_guest? d.here, d.table_here, Option.bind_some, d.table]

theorem Duel.symm {G : GuestId → Option Guest} {T : Nat → Option Table}
    (d : Duel G T i o gi go t s) : Duel G T o i go gi t s.opponent where
  here := d.there
  there := d.here
  table := d.table
  apart := d.apart
  name_here := d.name_there
  name_there := by rw [s.opponent_opponent]; exact d.name_here
  table_here := d.table_there
  table_there := d.table_here
  logical_here := d.logical_there
  logical_there := by rw [s.opponent_opponent]; exact d.logical_here

theorem Duel.send (d : Duel h.guest? h.tables.get? i o gi go t s) (n : Notice) :
    Duel (h.send j n).guest? (h.send j n).tables.get? i o gi go t s := by
  rwa [Hall.guest?_send, Hall.tables_send]

namespace Hall

theorem Orderly.of_eq {h' : Hall} (ho : h.Orderly first) (hg : h'.guest? = h.guest?)
    (ht : h'.tables = h.tables) : h'.Orderly first := by
  unfold Orderly
  rw [hg, ht]
  exact ho

theorem Orderly.send (ho : h.Orderly first) (n : Notice) : (h.send i n).Orderly first :=
  ho.of_eq (guest?_send ..) (tables_send ..)

/-- A guest with a table sits at it, and the table counts. -/
theorem Orderly.seat (ho : h.Orderly first) (hg : h.guest? i = some g) {k : Nat}
    (hk : g.table = some k) :
    ∃ t s, t.id = k ∧ first ≤ k ∧ h.tables.get? k = some t ∧ t.black ≠ t.white ∧
      g.name = some (t.player s) ∧ g.logical = t.phaseOf s := by
  obtain ⟨t, s, hid, hf, hn, hp⟩ := InOrder.seat ho hg hk
  exact ⟨t, s, hid, Tables.le_of_since hf, Tables.get?_of_since hf, (ho.tables k t hf).2.2, hn, hp⟩

theorem Orderly.duel (ho : h.Orderly first) (hg : h.guest? i = some gi) {k : Nat}
    (hk : gi.table = some k) :
    ∃ o go t s, t.id = k ∧ Duel h.guest? h.tables.get? i o gi go t s := by
  obtain ⟨o, go, t, s, hid, d⟩ := InOrder.duel ho hg hk
  exact ⟨o, go, t, s, hid, { d with table := Tables.get?_of_since d.table }⟩

theorem Orderly.first_le (ho : h.Orderly first)
    (d : Duel h.guest? h.tables.get? i o gi go t s) : first ≤ t.id := by
  obtain ⟨-, -, -, hfirst, -⟩ := ho.seat d.here d.table_here
  exact hfirst

theorem Orderly.duel_since (ho : h.Orderly first)
    (d : Duel h.guest? h.tables.get? i o gi go t s) :
    Duel h.guest? (h.tables.since first) i o gi go t s :=
  { d with table := by rw [Tables.since, if_neg (Nat.not_lt.2 (ho.first_le d)), d.table] }

/-- Nobody sits at a table that is not there. -/
theorem Orderly.table_ne_of_eq_none (ho : h.Orderly first) (hg : h.guest? i = some g) {k : Nat}
    (hk : h.tables.get? k = none) : g.table ≠ some k :=
  InOrder.table_ne_of_eq_none ho hg (Tables.since_eq_none hk)

theorem Orderly.findName?_eq (ho : h.Orderly first) (hg : h.guest? i = some g) {n : String}
    (hn : g.name = some n) : h.roster.findName? n = some i := by
  obtain ⟨j, hj⟩ := Roster.exists_findName? hg hn
  obtain ⟨x, hx, hxn⟩ := Roster.findName?_eq_some hj
  rw [hj, ho.unique j i x g n hx hg hxn hn]

theorem Orderly.opponent?_eq (ho : h.Orderly first) (d : Duel h.guest? h.tables.get? i o gi go t s) :
    h.opponent? i = some o := by
  have : t.opponentOf? (t.player s) = some (t.player s.opponent) :=
    Table.opponentOf?_player d.apart s
  simp [opponent?, d.here, d.table?_eq, d.name_here, this, ho.findName?_eq d.there d.name_there]

theorem opponent?_of_table_eq_none (hg : h.guest? i = some g) (hk : g.table = none) :
    h.opponent? i = none := by
  have ht : h.table? i = none := by rw [table?_of_guest? hg, hk]; rfl
  simp [opponent?, hg, ht]

theorem Orderly.exists_duel (ho : h.Orderly first) (hg : h.guest? i = some gi)
    (hop : h.opponent? i = some o) : ∃ go t s, Duel h.guest? h.tables.get? i o gi go t s := by
  cases hk : gi.table with
  | none =>
    rw [opponent?_of_table_eq_none hg hk] at hop
    cases hop
  | some k =>
    obtain ⟨o', go, t, s, rfl, d⟩ := ho.duel hg hk
    rw [ho.opponent?_eq d] at hop
    obtain rfl := Option.some.inj hop
    exact ⟨go, t, s, d⟩

/-- The opponent of a guest is somebody else, who has a name. -/
theorem Orderly.opponent?_ne (ho : h.Orderly first) (hg : h.guest? i = some g)
    (hop : h.opponent? i = some o) : o ≠ i ∧ ∃ go, h.guest? o = some go ∧ go.name ≠ none := by
  obtain ⟨go, t, s, d⟩ := ho.exists_duel hg hop
  exact ⟨d.ne.symm, go, d.there, by simp [d.name_there]⟩

/-- After a move the players at the table are the same. -/
theorem Orderly.opponent?_replace (ho : h.Orderly first)
    (d : Duel h.guest? h.tables.get? i o gi go t s) (hid : t'.id = t.id)
    (hpl : ∀ s, t'.player s = t.player s) :
    { h with tables := h.tables.replace t' }.opponent? i = some o := by
  have hf : h.tables.get? t'.id = some t := by rw [hid]; exact d.table
  have ht : { h with tables := h.tables.replace t' }.table? i = some t' := by
    rw [table?_of_guest? (h := { h with tables := h.tables.replace t' }) d.here, d.table_here,
      Option.bind_some, ← hid, Tables.get?_replace_update hf, Function.update_self]
  have hne : t'.black ≠ t'.white := Table.apart_of_player hpl d.apart
  have hop : t'.opponentOf? (t.player s) = some (t.player s.opponent) := by
    rw [← hpl s, Table.opponentOf?_player hne, hpl]
  simp [opponent?, d.here, ht, d.name_here, hop, ho.findName?_eq d.there d.name_there]

/-! ### Telling a player about its game -/

theorem sendGame_eq (hg : h.guest? i = some g) (ht : h.table? i = some t)
    (hn : g.name = some (t.player s)) (hne : t.black ≠ t.white) :
    h.sendGame i = h.tell i (t.briefing s) := by
  unfold sendGame
  rw [hg, ht]
  simp only [hn, Option.getD_some, Table.opponentOf?_player hne]
  rfl

/-- The notices that tell a guest where it is, when `T` are the tables. -/
inductive Places (T : Nat → Option Table) (g : Guest) : List Notice → Prop
  | lobby (table : g.table = none) : Places T g [.lobby]
  | game {t : Table} (s : Side) (name : g.name = some (t.player s)) (table : g.table = some t.id)
      (found : T t.id = some t) : Places T g (t.briefing s)

theorem Places.congr {T : Nat → Option Table} {g' : Guest} {ns : List Notice} (hp : Places T g ns)
    (hn : g'.name = g.name) (ht : g'.table = g.table) : Places T g' ns := by
  cases hp with
  | lobby hk => exact .lobby (ht.trans hk)
  | game s hs hk hf => exact .game s (hn.trans hs) (ht.trans hk) hf

theorem Orderly.exists_sendPlace (ho : h.Orderly first) (hg : h.guest? i = some g) :
    ∃ ns, Places h.tables.get? g ns ∧ h.sendPlace i = h.tell i ns := by
  unfold sendPlace
  cases hk : g.table with
  | none =>
    have ht : h.table? i = none := by rw [table?_of_guest? hg, hk]; rfl
    exact ⟨_, .lobby hk, by rw [ht]; rfl⟩
  | some k =>
    obtain ⟨t, s, rfl, -, hf, hne, hn, -⟩ := ho.seat hg hk
    have ht : h.table? i = some t := by rw [table?_of_guest? hg, hk]; exact hf
    refine ⟨_, .game s hn hk hf, ?_⟩
    rw [ht]
    exact sendGame_eq hg ht hn hne

/-! ### Back to the lobby -/

theorem guest?_toLobby (hg : h.guest? i = some g) :
    (h.toLobby i).guest? = update h.guest? i (some g.released) := by
  simp only [toLobby, guest?_send, guest?_revise, hg, Option.map_some]
  rfl

theorem sentOn_toLobby (l : Line) :
    (h.toLobby i).sentOn l = h.sentOn l ++ news (h.line? i) [.lobby] l := by
  have hl : (h.revise i Guest.released).line? i = h.line? i := line?_revise _ _ _ _ (by simp)
  rw [← hl]
  exact sentOn_tell _ i l [.lobby]

theorem sentOn_send_toLobby (n : Notice) (l : Line) :
    ((h.send i n).toLobby i).sentOn l = h.sentOn l ++ news (h.line? i) [n, .lobby] l := by
  rw [sentOn_toLobby, sentOn_send, line?_send, List.append_assoc, ← news_append]
  rfl

theorem breakUp_of_table_eq_none (hg : h.guest? i = some g) (hk : g.table = none) (n : Notice) :
    h.breakUp i n = h := by
  simp [breakUp, hg, hk]

theorem breakUp_eq (hi : h.guest? i = some gi) {k : Nat} (hk : gi.table = some k)
    (ho : h.opponent? i = some o) (n : Notice) :
    h.breakUp i n = ((({ h with tables := h.tables.close k }.revise i fun g =>
      { g with table := none }).send o n).toLobby o) := by
  simp [breakUp, hi, hk, ho]

theorem Orderly.guest?_breakUp (ho : h.Orderly first) (d : Duel h.guest? h.tables.get? i o gi go t s)
    (n : Notice) : (h.breakUp i n).guest? =
      update (update h.guest? i (some { gi with table := none })) o (some go.released) := by
  rw [breakUp_eq d.here d.table_here (ho.opponent?_eq d), guest?_toLobby (g := go)]
  · simp [guest?_revise, d.here]
  · simp [guest?_revise, Function.update_of_ne d.ne.symm, d.there]

theorem Orderly.guest?_breakUp_self (ho : h.Orderly first)
    (d : Duel h.guest? h.tables.get? i o gi go t s) (n : Notice) :
    (h.breakUp i n).guest? i = some { gi with table := none } := by
  rw [ho.guest?_breakUp d, Function.update_of_ne d.ne, Function.update_self]

theorem Orderly.tables_breakUp (ho : h.Orderly first) (d : Duel h.guest? h.tables.get? i o gi go t s)
    (n : Notice) : (h.breakUp i n).tables = h.tables.close t.id := by
  rw [breakUp_eq d.here d.table_here (ho.opponent?_eq d)]
  simp

theorem Orderly.sentOn_breakUp (ho : h.Orderly first) (d : Duel h.guest? h.tables.get? i o gi go t s)
    (n : Notice) (l : Line) :
    (h.breakUp i n).sentOn l = h.sentOn l ++ news go.line [n, .lobby] l := by
  have hl : ({ h with tables := h.tables.close t.id }.revise i fun g =>
      { g with table := none }).line? o = go.line := by
    simpa [line?_revise] using line?_of_guest? d.there
  rw [breakUp_eq d.here d.table_here (ho.opponent?_eq d), sentOn_send_toLobby, hl]
  rfl

/-! ### Leaving a game -/

section
variable (ho : h.Orderly first) (d : Duel h.guest? h.tables.get? i o gi go t s)
include ho d

theorem Orderly.tables_quit : (((h.send i .left).breakUp i .opponentLeft).toLobby i).tables.get? =
    update h.tables.get? t.id none := by
  rw [tables_toLobby, (ho.send _).tables_breakUp (d.send _), Tables.get?_close_update, tables_send]

theorem Orderly.guest?_quit : (((h.send i .left).breakUp i .opponentLeft).toLobby i).guest? =
    update (update h.guest? i (some gi.released)) o (some go.released) := by
  rw [guest?_toLobby ((ho.send _).guest?_breakUp_self (d.send _) _),
    (ho.send _).guest?_breakUp (d.send _), Function.update_comm d.ne.symm, Function.update_idem,
    guest?_send]
  rfl

theorem Orderly.sentOn_quit (l : Line) :
    (((h.send i .left).breakUp i .opponentLeft).toLobby i).sentOn l =
      h.sentOn l ++ news gi.line [.left] l ++ news go.line [.opponentLeft, .lobby] l ++
        news gi.line [.lobby] l := by
  rw [sentOn_toLobby, line?_breakUp, line?_send, (ho.send _).sentOn_breakUp (d.send _),
    sentOn_send, line?_of_guest? d.here]

end

/-! ### Going for good -/

theorem guest?_strike : (h.strike i).guest? = update h.guest? i none := by
  funext j
  unfold strike
  split
  · rename_i hg
    rw [← hg, Function.update_eq_self]
  · simp only [guest?_hangUp, Function.update_apply]
    exact Roster.get?_erase ..

theorem tables_strike : (h.strike i).tables = h.tables := by
  unfold strike
  split
  · rfl
  · exact tables_hangUp _ _

theorem sentOn_strike (hg : h.guest? i = some g) (l : Line) :
    (h.strike i).sentOn l = h.sentOn l ++ if g.line = some l then [.close] else [] := by
  simp only [strike, hg, sentOn_hangUp_option]
  rfl

theorem drop_of_guest?_eq_none (hg : h.guest? i = none) : h.drop i = h := by
  simp [drop, breakUp, strike, hg]

theorem drop_of_table_eq_none (hg : h.guest? i = some g) (hk : g.table = none) :
    h.drop i = h.strike i := by
  rw [drop, breakUp_of_table_eq_none hg hk]

theorem Orderly.guest?_drop (ho : h.Orderly first) (d : Duel h.guest? h.tables.get? i o gi go t s) :
    (h.drop i).guest? = update (update h.guest? i none) o (some go.released) := by
  rw [drop, guest?_strike, ho.guest?_breakUp d,
    Function.update_comm d.ne, Function.update_idem, Function.update_comm d.ne.symm]

theorem Orderly.tables_drop (ho : h.Orderly first) (d : Duel h.guest? h.tables.get? i o gi go t s) :
    (h.drop i).tables.get? = update h.tables.get? t.id none := by
  rw [drop, tables_strike, ho.tables_breakUp d, Tables.get?_close_update]

theorem Orderly.sentOn_drop (ho : h.Orderly first) (d : Duel h.guest? h.tables.get? i o gi go t s)
    (l : Line) : (h.drop i).sentOn l = h.sentOn l ++ news go.line [.opponentGone, .lobby] l ++
      if gi.line = some l then [.close] else [] := by
  rw [drop, sentOn_strike (ho.guest?_breakUp_self d _), ho.sentOn_breakUp d]

theorem guest?_drop_self : (h.drop i).guest? i = none := by
  rw [drop, guest?_strike, Function.update_self]

theorem Orderly.drop_self_table (ho : h.Orderly first) (hg : h.guest? i = some g) {k : Nat}
    (hk : g.table = some k) : (h.drop i).tables.get? k = none := by
  obtain ⟨o, go, t, s, rfl, d⟩ := ho.duel hg hk
  rw [ho.tables_drop d, Function.update_self]

theorem Orderly.drop_opponent (ho : h.Orderly first) (hg : h.guest? i = some gi)
    (hop : h.opponent? i = some o) : (h.drop o).guest? i = some gi.released ∧
      ∃ k, gi.table = some k ∧ (h.drop o).tables.get? k = none := by
  obtain ⟨go, t, s, d⟩ := ho.exists_duel hg hop
  rw [ho.guest?_drop d.symm, Function.update_self, ho.tables_drop d.symm]
  exact ⟨rfl, t.id, d.table_here, Function.update_self ..⟩

/-- A guest that goes takes only its own table with it. -/
theorem Orderly.drop_stranger (ho : h.Orderly first) (hg : h.guest? i = some gi) (hoi : o ≠ i)
    (hop : h.opponent? i ≠ some o) : (h.drop o).guest? i = some gi ∧
      ∀ k, gi.table = some k → (h.drop o).tables.get? k = h.tables.get? k := by
  cases hgo : h.guest? o with
  | none =>
    rw [drop_of_guest?_eq_none hgo]
    exact ⟨hg, fun _ _ => rfl⟩
  | some go =>
    cases hk : go.table with
    | none =>
      rw [drop_of_table_eq_none hgo hk, guest?_strike, Function.update_of_ne hoi.symm,
        tables_strike]
      exact ⟨hg, fun _ _ => rfl⟩
    | some k =>
      obtain ⟨o', go', t, s, -, d⟩ := ho.duel hgo hk
      have hne : i ≠ o' := by
        rintro rfl
        exact hop (ho.opponent?_eq d.symm)
      rw [ho.guest?_drop d, Function.update_of_ne hne, Function.update_of_ne hoi.symm,
        ho.tables_drop d]
      refine ⟨hg, fun k' hk' => Function.update_of_ne ?_ ..⟩
      rintro rfl
      exact InOrder.table_ne ho (ho.duel_since d) hoi.symm hne hg hk'

/-! ### Coming back -/

/-- The hall after a hand-over, with the line that it leaves without an owner closed. -/
def handedOver (h : Hall) (old i : GuestId) : Hall :=
  { h with roster := h.roster.handOver old i h.decayBudget }.hangUp (h.roster.staleLine? old i)

theorem guest?_handedOver (hg : h.guest? i = some g) (hgo : h.guest? o = some go) (hne : o ≠ i) :
    (h.handedOver o i).guest? =
      update (update h.guest? o (some { go with name := none, table := none, line := none })) i
        (some { g with name := go.name, table := go.table, phase := go.saved, saved := go.saved,
                       decay := h.decayBudget }) := by
  funext j
  rw [handedOver, guest?_hangUp, Function.update_apply, Function.update_apply]
  exact Roster.get?_handOver hgo hg hne ..

theorem tables_handedOver : (h.handedOver o i).tables = h.tables := tables_hangUp _ _

theorem sentOn_handedOver (hg : h.guest? i = some g) (hgo : h.guest? o = some go) (hne : o ≠ i)
    (l : Line) : (h.handedOver o i).sentOn l =
      h.sentOn l ++ if go.line = some l then [.close] else [] := by
  rw [handedOver, sentOn_hangUp_option, Roster.staleLine?_eq hgo hg hne]
  rfl

/-! ### A move -/

theorem showMove_eq (m : Move) (digits : String) : h.showMove i (some o) m digits =
    (h.tell i [.moveAccepted, .playfield digits]).tell o [.opponentMove m, .playfield digits] := rfl

theorem guest?_passTurn (hi : h.guest? i = some gi) (ho : h.guest? o = some go) (hne : i ≠ o) :
    (h.passTurn i (some o)).guest? =
      update (update h.guest? i (some (gi.settle .onStand))) o (some (go.settle .onTurn)) := by
  simp [passTurn, guest?_revise, hi, ho, Function.update_of_ne hne.symm]

theorem sentOn_passTurn (l : Line) : (h.passTurn i (some o)).sentOn l =
    h.sentOn l ++ news (h.line? i) [.opponentsTurn] l ++ news (h.line? o) [.yourTurn] l := by
  simp [passTurn, sentOn_send, line?_revise]

theorem guest?_settleGame (hi : h.guest? i = some gi) (ho : h.guest? o = some go) (hne : i ≠ o)
    (k : Nat) (won : Bool) : (h.settleGame i (some o) k won).guest? =
      update (update h.guest? i (some gi.released)) o (some go.released) := by
  rw [settleGame_eq]
  dsimp only [Option.elim_some]
  rw [guest?_toLobby (g := go), guest?_send, guest?_toLobby (g := gi)]
  · simp
  · simpa using hi
  · rw [guest?_send, guest?_toLobby (g := gi) (by simpa using hi), Function.update_of_ne hne.symm]
    simpa using ho

theorem sentOn_settleGame (k : Nat) (won : Bool) (l : Line) :
    (h.settleGame i (some o) k won).sentOn l = h.sentOn l ++
      news (h.line? i) [if won then .won else .lost, .lobby] l ++
      news (h.line? o) [if won then .lost else .won, .lobby] l := by
  rw [settleGame_eq]
  dsimp only [Option.elim_some]
  rw [sentOn_send_toLobby, sentOn_send_toLobby]
  simp

theorem guest?_turn (d : Duel h.guest? h.tables.get? i o gi go t s) (ts : Tables) (m : Move)
    (digits : String) :
    (({ h with tables := ts }.showMove i (some o) m digits).passTurn i (some o)).guest? =
      update (update h.guest? i (some (gi.settle .onStand))) o (some (go.settle .onTurn)) := by
  rw [guest?_passTurn (by simpa using d.here) (by simpa using d.there) d.ne, guest?_showMove,
    guest?_tables]

theorem sentOn_turn (d : Duel h.guest? h.tables.get? i o gi go t s) (ts : Tables) (m : Move)
    (digits : String) (l : Line) :
    (({ h with tables := ts }.showMove i (some o) m digits).passTurn i (some o)).sentOn l =
      h.sentOn l ++ news gi.line [.moveAccepted, .playfield digits] l ++
        news go.line [.opponentMove m, .playfield digits] l ++
        news gi.line [.opponentsTurn] l ++ news go.line [.yourTurn] l := by
  rw [sentOn_passTurn, line?_showMove, line?_showMove, showMove_eq, sentOn_tell, sentOn_tell,
    line?_tell, ← line?_of_guest? d.here, ← line?_of_guest? d.there]
  rfl

theorem guest?_finish (d : Duel h.guest? h.tables.get? i o gi go t s) (ts : Tables) (m : Move)
    (digits : String) (k : Nat) (won : Bool) :
    (({ h with tables := ts }.showMove i (some o) m digits).settleGame i (some o) k won).guest? =
      update (update h.guest? i (some gi.released)) o (some go.released) := by
  rw [guest?_settleGame (by simpa using d.here) (by simpa using d.there) d.ne, guest?_showMove,
    guest?_tables]

theorem sentOn_finish (d : Duel h.guest? h.tables.get? i o gi go t s) (ts : Tables) (m : Move)
    (digits : String) (k : Nat) (won : Bool) (l : Line) :
    (({ h with tables := ts }.showMove i (some o) m digits).settleGame i (some o) k won).sentOn l =
      h.sentOn l ++ news gi.line [.moveAccepted, .playfield digits] l ++
        news go.line [.opponentMove m, .playfield digits] l ++
        news gi.line [if won then .won else .lost, .lobby] l ++
        news go.line [if won then .lost else .won, .lobby] l := by
  rw [sentOn_settleGame, line?_showMove, line?_showMove, showMove_eq, sentOn_tell, sentOn_tell,
    line?_tell, ← line?_of_guest? d.here, ← line?_of_guest? d.there]
  rfl

theorem tables_finish (d : Duel h.guest? h.tables.get? i o gi go t s) (t' : Table)
    (hid : t'.id = t.id) (m : Move) (digits : String) (won : Bool) :
    (({ h with tables := h.tables.replace t' }.showMove i (some o) m digits).settleGame i (some o)
      t'.id won).tables.get? = update h.tables.get? t.id none := by
  have hf : h.tables.get? t'.id = some t := by rw [hid]; exact d.table
  rw [tables_settleGame, tables_showMove, Tables.get?_close_update,
    Tables.get?_replace_update hf, Function.update_idem, hid]

theorem tables_turn (d : Duel h.guest? h.tables.get? i o gi go t s) (t' : Table)
    (hid : t'.id = t.id) (m : Move) (digits : String) :
    (({ h with tables := h.tables.replace t' }.showMove i (some o) m digits).passTurn i
      (some o)).tables.get? = update h.tables.get? t.id (some t') := by
  have hf : h.tables.get? t'.id = some t := by rw [hid]; exact d.table
  rw [tables_passTurn, tables_showMove, Tables.get?_replace_update hf, hid]

end Hall

end Tafl
