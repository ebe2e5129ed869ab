import Tafl.Proofs.Guest.Touches
import Tafl.Proofs.Hall.Games

/-! # The changes of a hall

Whatever happens in a hall is a row of the changes listed here, each of them through one guest.
`Deed` lists what a guest does while it stays, `Change` also what silence and departure do. The
invariants are proved change by change, and those of a single record touch by touch
(`Change.evolves`); the commands, events and sweeps are taken apart into changes once. -/

namespace Tafl

/-- The notices that do not say where a guest is, against whom it plays or how the game stands. -/
def Notice.isAside : Notice → Bool
  | game | lobby | playfield _ | opponentName _ | yourTurn | opponentsTurn => false
  | _ => true

namespace Hall

/-- Counts a reconnection and tells the guest where it is. -/
def welcome (h : Hall) (i : GuestId) : Hall :=
  ({ h with tally.reconnected := h.tally.reconnected + 1 }.send i .reconnected).sendPlace i

@[simp] theorem guest?_welcome (h : Hall) (i : GuestId) : (h.welcome i).guest? = h.guest? := by
  simp [welcome]

@[simp] theorem tables_welcome (h : Hall) (i : GuestId) : (h.welcome i).tables = h.tables := by
  simp [welcome]

inductive Deed (i : GuestId) (h : Hall) : Hall → Prop
  | received (n : Nat) : Deed i h { h with tally.bytesReceived := h.tally.bytesReceived + n }
  /-- Something is said to the guest or to its opponent that does not concern the game. -/
  | aside {j : GuestId} {n : Notice} (near : j = i ∨ h.opponent? i = some j)
      (aside : n.isAside = true) (chat : ∀ text, n = .chat text → (Command.chat text).IsField) :
      Deed i h (h.send j n)
  | rouse {g : Guest} (here : h.guest? i = some g) (line : g.line.isSome = true) :
      Deed i h (h.revise i (·.restore h.decayBudget))
  /-- A stranger takes a name that nobody holds. -/
  | name {g : Guest} {n : String} (here : h.guest? i = some g) (name : g.name = none)
      (line : g.line.isSome = true) (proper : (Command.connect n).IsField)
      (free : h.roster.findName? n = none) :
      Deed i h (((h.revise i fun g => { g with name := some n }.settle .waiting).send i
        .connected).send i .lobby)
  /-- Somebody who was away gives its name over the same line. -/
  | welcome {g : Guest} (here : h.guest? i = some g) : Deed i h (h.welcome i)
  /-- Somebody who was away gives its name over a new line. -/
  | resume {old : GuestId} {g go : Guest} {n : String} (here : h.guest? i = some g)
      (name : g.name = none) (line : g.line.isSome = true)
      (found : h.roster.findName? n = some old) (there : h.guest? old = some go)
      (away : go.phase.isAway = true) (origin : go.origin = g.origin) :
      Deed i h ((h.handedOver old i).welcome i)
  | turn {o : GuestId} {gi go : Guest} {t t' : Table} {s : Side} {m : Move} {r : Report}
      (duel : Duel h.guest? h.tables.get? i o gi go t s)
      (move : t.play (t.player s) m = .ok (t', r)) (goes_on : r.winner = none) :
      Deed i h (({ h with tables := h.tables.replace t' }.showMove i (some o) m
        t'.board.digits).passTurn i (some o))
  | finish {o : GuestId} {gi go : Guest} {t t' : Table} {s winner : Side} {m : Move} {r : Report}
      (duel : Duel h.guest? h.tables.get? i o gi go t s)
      (move : t.play (t.player s) m = .ok (t', r)) (ends : r.winner = some winner) :
      Deed i h (({ h with tables := h.tables.replace t' }.showMove i (some o) m
        t'.board.digits).settleGame i (some o) t'.id (t'.sideOf? (t.player s) = some winner))
  | quit {o : GuestId} {gi go : Guest} {t : Table} {s : Side}
      (duel : Duel h.guest? h.tables.get? i o gi go t s) :
      Deed i h (((h.send i .left).breakUp i .opponentLeft).toLobby i)

/-- Something that happens to the guest `i` or through it. -/
inductive Change (i : GuestId) (h : Hall) : Hall → Prop
  | deed {h' : Hall} (deed : Deed i h h') : Change i h h'
  | ping {g : Guest} (here : h.guest? i = some g) (awake : g.phase.isAway = false) :
      Change i h (h.revise i Guest.ping)
  | lose {g : Guest} (here : h.guest? i = some g) (lost : g.phase ≠ .lost)
      (disconnected : g.phase ≠ .disconnected) : Change i h (h.revise i Guest.lose)
  /-- The line to a lost guest is given up. -/
  | cut {g : Guest} (here : h.guest? i = some g) (lost : g.phase = .lost) (named : g.name ≠ none) :
      Change i h (((h.send i .kicked).revise i (·.disconnect h.decayBudget)).hangUp g.line)
  /-- One more sweep without a sign of a disconnected guest, but not the last one. -/
  | fade {g : Guest} (here : h.guest? i = some g) (disconnected : g.phase = .disconnected)
      (decay : 1 < g.decay) : Change i h (h.revise i fun g => { g with decay := g.decay - 1 })
  | expire {g : Guest} (here : h.guest? i = some g) (disconnected : g.phase = .disconnected)
      (decay : g.decay ≤ 1) : Change i h ((h.revise i fun g => { g with decay := g.decay - 1 }).drop i)
  | drop {g : Guest} (here : h.guest? i = some g) : Change i h (h.drop i)

variable {h h' : Hall} {first : Nat} {i j : GuestId} {g g' : Guest}

/-! ### What becomes of the records

Whatever happens, each record comes from the one that had its number, touch by touch. -/

structure Evolves (h h' : Hall) : Prop where
  budget : h'.decayBudget = h.decayBudget
  opened : h.tables.opened ≤ h'.tables.opened
  guest : ∀ j g', h'.guest? j = some g' → ∃ g, h.guest? j = some g ∧ g.Becomes h.decayBudget g'

namespace Evolves

theorem refl (h : Hall) : h.Evolves h := ⟨rfl, Nat.le_refl _, fun _ g hg => ⟨g, hg, .refl⟩⟩

theorem trans {h'' : Hall} (h₁ : h.Evolves h') (h₂ : h'.Evolves h'') : h.Evolves h'' := by
  refine ⟨h₂.budget.trans h₁.budget, h₁.opened.trans h₂.opened, fun j g'' hg'' => ?_⟩
  obtain ⟨g', hg', hb'⟩ := h₂.guest j g'' hg''
  obtain ⟨g, hg, hb⟩ := h₁.guest j g' hg'
  rw [h₁.budget] at hb'
  exact ⟨g, hg, hb.trans hb'⟩

theorem of_eq (he : h.Evolves h') {h'' : Hall} (hb : h''.decayBudget = h'.decayBudget)
    (ht : h''.tables.opened = h'.tables.opened) (hg : h''.guest? = h'.guest?) :
    h.Evolves h'' := by
  refine ⟨hb.trans he.budget, ht ▸ he.opened, fun j g => ?_⟩
  rw [hg]
  exact he.guest j g

theorem revise (he : h.Evolves h') {f : Guest → Guest}
    (hf : ∀ g, h'.guest? i = some g → g.Becomes h'.decayBudget (f g)) :
    h.Evolves (h'.revise i f) := by
  refine he.trans ⟨rfl, Nat.le_refl _, fun j g' hg' => ?_⟩
  rw [guest?_revise] at hg'
  rcases update_eq_some.1 hg' with ⟨rfl, hg'⟩ | ⟨-, hg'⟩
  · obtain ⟨g, hg, rfl⟩ := Option.map_eq_some_iff.1 hg'
    exact ⟨g, hg, hf g hg⟩
  · exact ⟨g', hg', .refl⟩

/-- It is enough to look at the record that is there. -/
theorem touch (he : h.Evolves h') (hg : h'.guest? i = some g) {f : Guest → Guest}
    (hf : g.Touch h'.decayBudget (f g)) : h.Evolves (h'.revise i f) :=
  he.revise fun x hx => by
    obtain rfl := Option.some.inj (hg.symm.trans hx)
    exact .single hf

theorem send (he : h.Evolves h') {n : Notice} : h.Evolves (h'.send i n) :=
  he.of_eq (decayBudget_send ..) (by rw [tables_send]) (guest?_send ..)

theorem toLobby (he : h.Evolves h') : h.Evolves (h'.toLobby i) :=
  (he.revise fun _ _ => .seat_settle none rfl).send

theorem passTurn (he : h.Evolves h') {o : GuestId} : h.Evolves (h'.passTurn i (some o)) :=
  ((he.revise fun _ _ => .single (.settle rfl)).send.revise fun _ _ => .single (.settle rfl)).send

theorem settleGame (he : h.Evolves h') {o : GuestId} {k : Nat} {won : Bool} :
    h.Evolves (h'.settleGame i (some o) k won) := by
  rw [settleGame_eq]
  have ht : h.Evolves { h' with tables := h'.tables.close k } := he.of_eq rfl rfl rfl
  exact ht.send.toLobby.send.toLobby

theorem breakUp (he : h.Evolves h') {n : Notice} : h.Evolves (h'.breakUp i n) := by
  unfold Hall.breakUp
  split
  · exact he
  · rename_i k _
    have ht : h.Evolves { h' with tables := h'.tables.close k } := he.of_eq rfl rfl rfl
    have hr := ht.revise (i := i) (f := fun g => { g with table := none })
      fun _ _ => .single (.seat none)
    cases h'.opponent? i with
    | none => exact hr
    | some o => exact hr.send.toLobby

theorem strike (he : h.Evolves h') : h.Evolves (h'.strike i) := by
  refine he.trans ⟨decayBudget_strike .., by rw [tables_strike], fun j g' hg' => ⟨g', ?_, .refl⟩⟩
  rw [guest?_strike] at hg'
  rcases update_eq_some.1 hg' with ⟨-, ⟨⟩⟩ | ⟨-, hg'⟩
  exact hg'

theorem drop (he : h.Evolves h') : h.Evolves (h'.drop i) := he.breakUp.strike

end Evolves

/-- A record that is dropped may have been changed before. -/
theorem Evolves.drop_revise (h : Hall) (i : GuestId) (f : Guest → Guest) :
    h.Evolves ((h.revise i f).drop i) := by
  have hd := (Evolves.refl (h.revise i f)).drop (i := i)
  refine ⟨hd.budget, hd.opened, fun j g' hg' => ?_⟩
  obtain ⟨g, hg, hb⟩ := hd.guest j g' hg'
  have hj : j ≠ i := by
    rintro rfl
    rw [Hall.drop, guest?_strike, Function.update_self] at hg'
    cases hg'
  rw [guest?_revise, Function.update_of_ne hj] at hg
  exact ⟨g, hg, hb⟩

theorem ne_of_named {o : GuestId} {go : Guest} (hg : h.guest? i = some g) (hn : g.name = none)
    (ho : h.guest? o = some go) (hno : go.name ≠ none) : o ≠ i := by
  rintro rfl
  obtain rfl := Option.some.inj (hg.symm.trans ho)
  exact hno hn

theorem found_name {n : String} {o : GuestId} {go : Guest} (hf : h.roster.findName? n = some o)
    (ho : h.guest? o = some go) : go.name = some n := by
  obtain ⟨x, hx, hn⟩ := Roster.findName?_eq_some hf
  obtain rfl := Option.some.inj (ho.symm.trans hx)
  exact hn

theorem Evolves.handedOver {o : GuestId} {go : Guest} (hg : h.guest? i = some g)
    (hn : g.name = none) (hl : g.line.isSome = true) (ho : h.guest? o = some go) (hno : go.name ≠ none)
    (ha : go.phase.isAway = true) : h.Evolves (h.handedOver o i) := by
  refine ⟨decayBudget_hangUp .., by rw [tables_handedOver], fun j g' hg' => ?_⟩
  rw [guest?_handedOver hg ho (ne_of_named hg hn ho hno)] at hg'
  rcases update_eq_some.1 hg' with ⟨rfl, ⟨⟩⟩ | ⟨-, hg'⟩
  · exact ⟨g, hg, .single (.inherit go hn hl ha)⟩
  rcases update_eq_some.1 hg' with ⟨rfl, ⟨⟩⟩ | ⟨-, hg'⟩
  · exact ⟨go, ho, .single (.abandon ha)⟩
  · exact ⟨g', hg', .refl⟩

theorem Deed.evolves (hd : Deed i h h') : h.Evolves h' := by
  have he := Evolves.refl h
  cases hd with
  | received n => exact he.of_eq rfl rfl rfl
  | aside => exact he.send
  | rouse here line => exact he.touch here (.restore line)
  | @name g n here name line =>
    refine (he.revise fun x hx => ?_).send.send
    obtain rfl := Option.some.inj (here.symm.trans hx)
    exact .tail (.single (.name n name line)) (.settle rfl)
  | welcome => exact he.of_eq (by simp [Hall.welcome]) (by simp) (by simp)
  | @resume old g go n here name line found there away =>
    exact (Evolves.handedOver here name line there (by simp [found_name found there]) away).of_eq
      (by simp [Hall.welcome]) (by simp) (by simp)
  | turn => exact (he.of_eq (by simp) (by simp; rfl) (by simp)).passTurn
  | finish => exact (he.of_eq (by simp) (by simp; rfl) (by simp)).settleGame
  | quit => exact he.send.breakUp.toLobby

theorem Change.evolves (hc : Change i h h') : h.Evolves h' := by
  have he := Evolves.refl h
  cases hc with
  | deed hd => exact hd.evolves
  | ping here awake => exact he.touch here (.ping awake)
  | lose here lost disconnected => exact he.touch here (.lose lost disconnected)
  | @cut g here lost =>
    have hg : (h.send i .kicked).guest? i = some g := by simpa using here
    have hk : h.Evolves ((h.send i .kicked).revise i (·.disconnect h.decayBudget)) :=
      he.send.touch hg (by rw [decayBudget_send]; exact .disconnect lost)
    exact hk.of_eq (decayBudget_hangUp ..) (by rw [tables_hangUp]) (guest?_hangUp ..)
  | fade here disconnected decay => exact he.touch here (.fade disconnected decay)
  | expire => exact .drop_revise ..
  | drop => exact he.drop

/-! ### Lines

No change gives a guest another line, and a deed leaves the line of the guest as it is. -/

/-- All guests of `h'` are guests of `h`, with the lines they had or without one. -/
def Sheds (h h' : Hall) : Prop :=
  ∀ j g', h'.guest? j = some g' → ∃ g, h.guest? j = some g ∧ (g'.line = g.line ∨ g'.line = none)

theorem Sheds.refl (h : Hall) : h.Sheds h := fun _ g hg => ⟨g, hg, .inl rfl⟩

theorem Sheds.of_eq (he : h'.guest? = h.guest?) : h.Sheds h' := by
  intro j g hg
  rw [he] at hg
  exact ⟨g, hg, .inl rfl⟩

theorem Evolves.sheds (he : h.Evolves h') : h.Sheds h' := fun j g' hg' => by
  obtain ⟨g, hg, hb⟩ := he.guest j g' hg'
  exact ⟨g, hg, hb.line_eq⟩

/-- No two guests have the same line. -/
def Apart (h : Hall) : Prop :=
  ∀ i j gi gj l, h.guest? i = some gi → h.guest? j = some gj → gi.line = some l →
    gj.line = some l → i = j

theorem Sheds.apart (hs : h.Sheds h') (ap : h.Apart) : h'.Apart := by
  intro i j gi gj l hi hj hil hjl
  obtain ⟨x, hx, hxl⟩ := hs i gi hi
  obtain ⟨y, hy, hyl⟩ := hs j gj hj
  rw [hil] at hxl
  rw [hjl] at hyl
  exact ap i j x y l hx hy (by simpa [eq_comm] using hxl) (by simpa [eq_comm] using hyl)

theorem Deed.line?_eq (hd : Deed i h h') : h'.line? i = h.line? i := by
  cases hd with
  | received n => rfl
  | aside => exact line?_send ..
  | rouse => exact line?_revise _ _ _ _ fun _ => rfl
  | name => simp [line?_revise]
  | welcome => simp [Hall.welcome]
  | @resume old g go n here name line found there =>
    have hne : old ≠ i := ne_of_named here name there (by simp [found_name found there])
    have : (h.handedOver old i).line? i = g.line := by
      rw [line?, guest?_handedOver here there hne, Function.update_self]
      rfl
    simp [Hall.welcome, this, line?_of_guest? here]
  | turn => simp
  | finish => simp
  | quit => simp

/-! ### Welcome -/

theorem Orderly.exists_welcome (ho : h.Orderly first) (hg : h.guest? i = some g) :
    ∃ ns, Places h.tables.get? g ns ∧
      ∀ l, (h.welcome i).sentOn l = h.sentOn l ++ news g.line (.reconnected :: ns) l := by
  have hs (l : Line) : ({ h with tally.reconnected := h.tally.reconnected + 1 }.send i
      .reconnected).sentOn l = h.sentOn l ++ news g.line [.reconnected] l := by
    rw [sentOn_send, ← line?_of_guest? hg]
    rfl
  have hg' : ({ h with tally.reconnected := h.tally.reconnected + 1 }.send i
      .reconnected).guest? i = some g := by simpa using hg
  have ho' : ({ h with tally.reconnected := h.tally.reconnected + 1 }.send i
      .reconnected).Orderly first := ho.of_eq (by simp) (by simp)
  have ht : ({ h with tally.reconnected := h.tally.reconnected + 1 }.send i .reconnected).tables =
      h.tables := by simp
  unfold Hall.welcome
  -- what follows needs no more of the hall than these four facts
  generalize Hall.send _ i .reconnected = k at hs hg' ho' ht ⊢
  obtain ⟨ns, hns, hplace⟩ := ho'.exists_sendPlace hg'
  rw [ht] at hns
  refine ⟨ns, hns, fun l => ?_⟩
  rw [hplace, sentOn_tell, hs, line?_of_guest? hg', List.append_assoc, ← news_append]
  rfl

/-! ### The order is kept -/

theorem Orderly.revise (ho : h.Orderly first) (hg : h.guest? i = some g) {f : Guest → Guest}
    (hp : (f g).Proper (h.tables.since first)) (hn : (f g).name = g.name) (ht : (f g).table = g.table) :
    (h.revise i f).Orderly first := by
  unfold Orderly
  rw [guest?_revise, hg]
  exact ho.update_record hg hp hn ht

theorem Orderly.drop (ho : h.Orderly first) (hg : h.guest? i = some g) : (h.drop i).Orderly first := by
  unfold Orderly
  cases hk : g.table with
  | none =>
    rw [drop_of_table_eq_none hg hk, guest?_strike, tables_strike]
    exact ho.erase hg hk
  | some k =>
    obtain ⟨o, go, t, s, rfl, d⟩ := ho.duel hg hk
    rw [ho.guest?_drop d, Tables.since_update (ho.tables_drop d) (ho.first_le d)]
    exact ho.desert (ho.duel_since d)

theorem play_eq_ok_of_duel {G : GuestId → Option Guest} {T : Nat → Option Table} {o : GuestId}
    {gi go : Guest} {t t' : Table} {s : Side} {m : Move} {r : Report}
    (d : Duel G T i o gi go t s) (hm : t.play (t.player s) m = .ok (t', r)) :
    s = t.onTurn ∧ ∃ b, t.board.play s m = .ok (b, r) ∧ t' = t.after b r := by
  obtain ⟨-, hs, b, hb, rfl⟩ := Table.play_eq_ok hm
  obtain rfl : s = t.onTurn := by
    rw [Table.sideOf?_player d.apart] at hs
    exact Option.some.inj hs
  exact ⟨rfl, b, hb, rfl⟩

theorem Orderly.turn (ho : h.Orderly first) {o : GuestId} {gi go : Guest} {t t' : Table} {s : Side}
    {m : Move} {r : Report} (d : Duel h.guest? h.tables.get? i o gi go t s)
    (hm : t.play (t.player s) m = .ok (t', r)) (hr : r.winner = none) :
    (({ h with tables := h.tables.replace t' }.showMove i (some o) m
      t'.board.digits).passTurn i (some o)).Orderly first := by
  obtain ⟨rfl, b, -, rfl⟩ := play_eq_ok_of_duel d hm
  have hon : (t.after b r).onTurn = t.onTurn.opponent := by simp [Table.after, hr]
  have hi : (t.after b r).phaseOf t.onTurn = .onStand := by
    rw [Table.phaseOf, hon, if_neg t.onTurn.opponent_ne.symm]
  have hj : (t.after b r).phaseOf t.onTurn.opponent = .onTurn := by
    rw [Table.phaseOf, hon, if_pos rfl]
  unfold Orderly
  rw [guest?_turn d, Tables.since_update (tables_turn d (t.after b r) rfl ..) (ho.first_le d),
    ← hi, ← hj]
  exact InOrder.turn ho (ho.duel_since d) rfl (t.player_after b r) hr

theorem Orderly.finish (ho : h.Orderly first) {o : GuestId} {gi go : Guest} {t t' : Table} {s : Side}
    {m : Move} {r : Report} (d : Duel h.guest? h.tables.get? i o gi go t s)
    (hm : t.play (t.player s) m = .ok (t', r)) (won : Bool) :
    (({ h with tables := h.tables.replace t' }.showMove i (some o) m
      t'.board.digits).settleGame i (some o) t'.id won).Orderly first := by
  obtain ⟨-, b, -, rfl⟩ := play_eq_ok_of_duel d hm
  unfold Orderly
  rw [guest?_finish d, Tables.since_update (tables_finish d (t.after b r) rfl ..) (ho.first_le d)]
  exact ho.dissolve (ho.duel_since d)

theorem Orderly.handedOver (ho : h.Orderly first) {o : GuestId} {go : Guest} (hg : h.guest? i = some g)
    (hn : g.name = none) (hl : g.line.isSome = true) (hgo : h.guest? o = some go)
    (ha : go.phase.isAway = true) (hno : go.name ≠ none) : (h.handedOver o i).Orderly first := by
  unfold Orderly
  rw [guest?_handedOver hg hgo (ne_of_named hg hn hgo hno), tables_handedOver]
  exact ho.handOver hg hn hl hgo ha hno _

theorem Orderly.deed (ho : h.Orderly first) (hd : Deed i h h') : h'.Orderly first := by
  cases hd with
  | received n => exact ho
  | aside => exact ho.send _
  | rouse here line => exact ho.revise here ((ho.proper i _ here).restore line _) rfl rfl
  | @name g n here name line proper free =>
    refine Orderly.of_eq (h := h.revise i fun g => { g with name := some n }.settle .waiting) ?_
      (by simp) (by simp)
    unfold Orderly
    rw [guest?_revise, here]
    exact ho.name here name line proper fun j x hx => Roster.findName?_eq_none free hx
  | welcome => exact ho.of_eq (guest?_welcome ..) (tables_welcome ..)
  | @resume old g go n here name line found there away =>
    have hno : go.name ≠ none := by simp [found_name found there]
    exact (ho.handedOver here name line there away hno).of_eq
      (guest?_welcome ..) (tables_welcome ..)
  | turn duel move goes_on => exact ho.turn duel move goes_on
  | finish duel move => exact ho.finish duel move _
  | quit d =>
    unfold Orderly
    rw [ho.guest?_quit d, Tables.since_update (ho.tables_quit d) (ho.first_le d)]
    exact ho.dissolve (ho.duel_since d)

theorem Orderly.change (ho : h.Orderly first) (hc : Change i h h') : h'.Orderly first := by
  cases hc with
  | deed hd => exact ho.deed hd
  | ping here awake => exact ho.revise here ((ho.proper i _ here).ping awake) rfl rfl
  | lose here _ disconnected => exact ho.revise here ((ho.proper i _ here).lose disconnected) rfl rfl
  | @cut g here lost named =>
    have hs : (h.send i .kicked).Orderly first := ho.send _
    have hg : (h.send i .kicked).guest? i = some g := by simpa using here
    exact (hs.revise hg ((hs.proper i g hg).disconnect named _) rfl rfl).of_eq (guest?_hangUp ..)
      (tables_hangUp ..)
  | fade here => exact ho.revise here ((ho.proper i _ here).decay _) rfl rfl
  | @expire g here =>
    have hr := ho.revise (f := fun g => { g with decay := g.decay - 1 }) here
      ((ho.proper i g here).decay _) rfl rfl
    exact hr.drop (g := { g with decay := g.decay - 1 }) (by simp [guest?_revise, here])
  | drop here => exact ho.drop here

end Hall

end Tafl
