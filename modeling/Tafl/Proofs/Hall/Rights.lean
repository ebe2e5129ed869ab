import Tafl.Proofs.Board.Moves
import Tafl.Proofs.Hall.Incidents

/-! # Rights and rules agree

Whose turn it is is noted at the table, and once more in the records of the two players. The rights
of a guest go by its record (`Command.isAllowed`), the rules of the game by the table
(`Table.play`). In a hall in order the one cannot say yes where the other says no
(`Orderly.isAllowed_move_iff`), so a move that is refused is refused by the board
(`after_rights`). -/

namespace Tafl

/-! ### The phase that counts -/

namespace Guest
variable {T : Nat → Option Table} {g : Guest}

theorem Proper.effective_eq_logical (hp : g.Proper T) (hl : g.line ≠ none)
    (hlost : g.phase ≠ .lost) : g.phase.effective g.saved = g.logical := by
  unfold Phase.effective
  split
  · rename_i hpinged
    rw [logical_of_away (by rw [hpinged]; rfl)]
  · rename_i hpinged
    refine (logical_of_awake ?_).symm
    cases hphase : g.phase with
    | pinged => exact absurd hphase hpinged
    | lost => exact absurd hphase hlost
    | disconnected => exact absurd (hp.cut hphase) hl
    | new | waiting | onTurn | onStand => rfl

theorem effective_of_lost (hlost : g.phase = .lost) : g.phase.effective g.saved = .lost := by
  rw [Phase.effective, hlost]
  rfl

end Guest

/-! ### What a table refuses -/

theorem Board.legality_ne {b : Board} {side : Side} {m : Move} {e : Refusal}
    (h : b.legality side m = .error e) : e ≠ .gameOver ∧ e ≠ .notSeated ∧ e ≠ .notYourTurn := by
  unfold legality slideLegality at h
  repeat' split at h
  all_goals cases h
  all_goals exact ⟨nofun, nofun, nofun⟩

/-- The player on turn is refused what the board does not allow, and nothing else. -/
theorem Table.play_eq_error_iff {t : Table} (hw : t.winner = none) (hne : t.black ≠ t.white)
    {m : Move} {e : Refusal} :
    t.play t.playerOnTurn m = .error e ↔ t.board.legality t.onTurn m = .error e := by
  rw [play, hw, playerOnTurn, sideOf?_player hne]
  simp only [Option.isSome_none, Bool.false_eq_true, if_false, ne_eq, not_true_eq_false, Board.play]
  cases t.board.legality t.onTurn m with
  | ok _ => exact iff_of_false nofun nofun
  | error e' =>
    constructor <;>
    · rintro ⟨⟩
      rfl

namespace Hall
variable {h h' h'' : Hall} {first : Nat} {i : GuestId} {g : Guest} {c : Command} {t : Table} {k : Nat}

/-! ### Who may move -/

theorem Orderly.isAllowed_move_iff (ho : h.Orderly first) (hg : h.guest? i = some g)
    (hl : g.line ≠ none) (hlost : g.phase ≠ .lost) (hk : g.table = some k)
    (ht : h.tables.get? k = some t) (m : Move) :
    (Command.move m).isAllowed g.phase g.saved g.name.isSome = true ↔
      g.name = some t.playerOnTurn := by
  obtain ⟨t', s, -, -, hf, hne, hn, hs⟩ := ho.seat hg hk
  obtain rfl := Option.some.inj (ht.symm.trans hf)
  rw [Command.isAllowed, decide_eq_true_iff, (ho.proper i g hg).effective_eq_logical hl hlost, hs,
    hn, Option.some.injEq, Table.phaseOf, Table.playerOnTurn]
  constructor
  · intro hturn
    split at hturn
    · rename_i h
      rw [h]
    · cases hturn
  · intro hname
    rw [if_pos (Table.player_inj hne hname)]

/-- Whoever has the rights of a player sits at a table. -/
theorem Orderly.duel_of_isPlaying (ho : h.Orderly first) (hg : h.guest? i = some g)
    (hl : g.line ≠ none) (hp : (g.phase.effective g.saved).isPlaying = true) :
    ∃ o go t s, Duel h.guest? h.tables.get? i o g go t s ∧
      g.phase.effective g.saved = t.phaseOf s := by
  have hproper := ho.proper i g hg
  have hlost : g.phase ≠ .lost := fun e => by
    rw [Guest.effective_of_lost e] at hp
    cases hp
  have heff := hproper.effective_eq_logical hl hlost
  obtain ⟨k, hk⟩ : ∃ k, g.table = some k := by
    rw [heff] at hp
    cases hproper.stands with
    | stranger _ _ _ hs | waiting _ _ _ hs => rw [hs] at hp; cases hp
    | abandoned _ _ hnone => exact absurd hnone hl
    | seated t _ _ hk => exact ⟨_, hk⟩
  obtain ⟨o, go, t, s, -, d⟩ := ho.duel hg hk
  exact ⟨o, go, t, s, d, heff.trans d.logical_here⟩

theorem Orderly.duel_of_isAllowed_move (ho : h.Orderly first) (hg : h.guest? i = some g)
    (hl : g.line ≠ none) {m : Move}
    (ha : (Command.move m).isAllowed g.phase g.saved g.name.isSome = true) :
    ∃ o go t, Duel h.guest? h.tables.get? i o g go t t.onTurn := by
  rw [Command.isAllowed, decide_eq_true_iff] at ha
  obtain ⟨o, go, t, s, d, hs⟩ := ho.duel_of_isPlaying hg hl (by rw [ha]; rfl)
  rw [ha, Table.phaseOf] at hs
  split at hs
  · rename_i hturn
    exact ⟨o, go, t, hturn ▸ d⟩
  · cases hs

/-! ### Who hears of a refusal -/

theorem outbox_send (n : Notice) :
    ∃ sent, (h.send i n).outbox = h.outbox ++ sent ∧ ∀ x ∈ sent, x.2 = .frame n := by
  unfold send
  cases h.line? i with
  | none => exact ⟨[], (List.append_nil _).symm, nofun⟩
  | some l => exact ⟨[(l, .frame n)], rfl, by simp⟩

/-- Nobody was told in the meantime that a move is refused. -/
def Obliges (h h' : Hall) : Prop :=
  ∃ sent, h'.outbox = h.outbox ++ sent ∧ ∀ l, (l, .frame .moveRefused) ∉ sent

namespace Obliges

theorem of_eq (ho : h'.outbox = h.outbox) : h.Obliges h' := ⟨[], by simp [ho], nofun⟩

theorem refl (h : Hall) : h.Obliges h := of_eq rfl

theorem trans (b : h.Obliges h') (b' : h'.Obliges h'') : h.Obliges h'' := by
  obtain ⟨sent, hs, hno⟩ := b
  obtain ⟨sent', hs', hno'⟩ := b'
  refine ⟨sent ++ sent', by rw [hs', hs, List.append_assoc], fun l hl => ?_⟩
  exact (List.mem_append.1 hl).elim (hno l) (hno' l)

/-- Nothing at all was put out by the last step. -/
theorem silent (b : h.Obliges h') (ho : h''.outbox = h'.outbox) : h.Obliges h'' :=
  b.trans (of_eq ho)

theorem revise (b : h.Obliges h') (f : Guest → Guest) : h.Obliges (h'.revise i f) := b.silent rfl

theorem close (b : h.Obliges h') (k : Nat) :
    h.Obliges { h' with tables := h'.tables.close k } := b.silent rfl

theorem send (b : h.Obliges h') {n : Notice} (hn : n ≠ .moveRefused) : h.Obliges (h'.send i n) := by
  obtain ⟨sent, hsent, hall⟩ := outbox_send (h := h') (i := i) n
  refine b.trans ⟨sent, hsent, fun l hl => hn ?_⟩
  exact (Outgoing.frame.inj (hall _ hl)).symm

theorem hangUp (b : h.Obliges h') (l : Option Line) : h.Obliges (h'.hangUp l) := by
  refine b.trans ?_
  cases l with
  | none => exact refl h'
  | some l => exact ⟨[(l, .close)], rfl, by simp⟩

theorem sendToOpponent (b : h.Obliges h') {n : Notice} (hn : n ≠ .moveRefused) :
    h.Obliges (h'.sendToOpponent i n) := by
  unfold Hall.sendToOpponent
  cases h'.opponent? i with
  | none => exact b
  | some o => exact b.send hn

theorem sendGame (b : h.Obliges h') : h.Obliges (h'.sendGame i) := by
  unfold Hall.sendGame
  split
  · refine (((b.send (by nofun)).send (by nofun)).send (by nofun)).send ?_
    split <;> nofun
  · exact b

theorem sendPlace (b : h.Obliges h') : h.Obliges (h'.sendPlace i) := by
  unfold Hall.sendPlace
  split
  · exact b.sendGame
  · exact b.send (by nofun)

theorem toLobby (b : h.Obliges h') : h.Obliges (h'.toLobby i) := (b.revise _).send (by nofun)

theorem breakUp (b : h.Obliges h') {n : Notice} (hn : n ≠ .moveRefused) :
    h.Obliges (h'.breakUp i n) := by
  unfold Hall.breakUp
  split
  · exact b
  · rename_i k _
    have b' := (b.close k).revise (i := i) fun g => { g with table := none }
    cases h'.opponent? i with
    | none => exact b'
    | some o => exact (b'.send hn).toLobby

theorem welcomeBack (b : h.Obliges h') : h.Obliges (h'.welcomeBack i) := by
  have b' : h.Obliges { h' with tally.reconnected := h'.tally.reconnected + 1 } := b.silent rfl
  exact (b'.send (by nofun)).sendPlace.sendToOpponent (by nofun)

theorem onPong (b : h.Obliges h') : h.Obliges (h'.onPong i) := by
  unfold Hall.onPong
  split
  · exact b
  · split
    · dsimp only
      split
      · exact (b.revise _).sendToOpponent (by nofun)
      · exact b.revise _
    · exact b

theorem onConnect (b : h.Obliges h') (n : String) : h.Obliges (h'.onConnect i n).1 := by
  unfold Hall.onConnect
  split
  · exact b
  split
  · unfold Hall.onFirstName
    dsimp only
    split
    · exact (((b.revise _).revise _).send (by nofun)).send (by nofun)
    · exact (b.revise _).send (by nofun)
    · exact b.revise _
    · refine welcomeBack (hangUp ?_ _)
      exact b.silent rfl
  · split
    · unfold Hall.onOwnName
      split
      · exact (b.revise _).welcomeBack
      · exact b.send (by nofun)
    · exact b

theorem onLeave (b : h.Obliges h') : h.Obliges (h'.onLeave i).1 := by
  unfold Hall.onLeave
  split
  · exact ((b.send (by nofun)).breakUp (by nofun)).toLobby
  · exact b

theorem showMove (b : h.Obliges h') (o : Option GuestId) (m : Move) (digits : String) :
    h.Obliges (h'.showMove i o m digits) := by
  unfold Hall.showMove
  have b' : h.Obliges ((h'.send i .moveAccepted).send i (.playfield digits)) :=
    (b.send (by nofun)).send (by nofun)
  cases o with
  | none => exact b'
  | some o => exact (b'.send (by nofun)).send (by nofun)

theorem passTurn (b : h.Obliges h') (o : Option GuestId) : h.Obliges (h'.passTurn i o) := by
  unfold Hall.passTurn
  have b' : h.Obliges ((h'.revise i (·.settle .onStand)).send i .opponentsTurn) :=
    (b.revise _).send (by nofun)
  cases o with
  | none => exact b'
  | some o => exact (b'.revise _).send (by nofun)

theorem settleGame (b : h.Obliges h') (o : Option GuestId) (k : Nat) (won : Bool) :
    h.Obliges (h'.settleGame i o k won) := by
  rw [settleGame_eq]
  have b' : h.Obliges (({ h' with tables := h'.tables.close k }.send i
      (if won then .won else .lost)).toLobby i) :=
    ((b.close k).send (by cases won <;> nofun)).toLobby
  cases o with
  | none => exact b'
  | some o => exact (b'.send (by cases won <;> nofun)).toLobby

theorem obey (hc : ∀ m, c ≠ .move m) : h.Obliges (h.obey i c).1 := by
  have b := refl h
  unfold Hall.obey
  split
  · exact b
  · split
    · exact b
    · cases c with
      | move m => exact absurd rfl (hc m)
      | ping => exact b.send (by nofun)
      | pong => exact b.onPong
      | connect n => exact b.onConnect n
      | leave => exact b.onLeave
      | chat text => exact b.sendToOpponent (by nofun)
      | exit => exact b

end Obliges

/-- The table refuses a move, and its player is told so and nothing else, or the move is made. -/
theorem onMove_cases (hg : h.guest? i = some g) {n : String} (hn : g.name = some n)
    (ht : h.table? i = some t) (m : Move) :
    (∃ e, t.play n m = .error e ∧ h.onMove i m = (h.send i .moveRefused, .stay)) ∨
      h.Obliges (h.onMove i m).1 ∧ (h.onMove i m).2 = .stay := by
  unfold onMove
  rw [hg]
  dsimp only
  rw [ht, hn, Option.getD_some]
  dsimp only
  cases hp : t.play n m with
  | error e => exact .inl ⟨e, rfl, rfl⟩
  | ok p =>
    obtain ⟨t', r⟩ := p
    have b : h.Obliges { h with tables := h.tables.replace t' } := (Obliges.refl h).silent rfl
    refine .inr ?_
    dsimp only
    cases r.winner with
    | none => exact ⟨(b.showMove ..).passTurn _, rfl⟩
    | some w => exact ⟨(b.showMove ..).settleGame .., rfl⟩

/-! ### What comes of a right -/

/-- What comes of a command that the guest `i`, whose record is `g`, may give. Nothing is missing
that it needs, and if a move is refused then the board does not allow it. -/
structure Grants (h : Hall) (i : GuestId) (g : Guest) (c : Command) : Prop where
  leave : c = .leave → g.table ≠ none ∧ (h.obey i c).2 = .stay
  move : ∀ m, c = .move m → ∃ k t n, g.table = some k ∧ h.tables.get? k = some t ∧
    g.name = some n ∧ (h.obey i c).2 = .stay ∧ ∀ e, t.play n m = .error e →
      e ≠ .gameOver ∧ e ≠ .notSeated ∧ e ≠ .notYourTurn ∧ t.board.legality t.onTurn m = .error e
  refusal : ∃ sent, (h.obey i c).1.outbox = h.outbox ++ sent ∧
    ∀ l, (l, .frame .moveRefused) ∈ sent →
      ∃ m t e, c = .move m ∧ h.table? i = some t ∧ t.board.legality t.onTurn m = .error e

theorem obey_move (hg : h.guest? i = some g) {m : Move}
    (ha : (Command.move m).isAllowed g.phase g.saved g.name.isSome = true) :
    h.obey i (.move m) = h.onMove i m := by
  rw [obey, hg]
  simp [ha]

theorem obey_leave (hg : h.guest? i = some g)
    (ha : Command.leave.isAllowed g.phase g.saved g.name.isSome = true) :
    h.obey i .leave = h.onLeave i := by
  rw [obey, hg]
  simp [ha]

theorem Orderly.grants_move (ho : h.Orderly first) (hg : h.guest? i = some g) (hl : g.line ≠ none)
    {m : Move} (ha : (Command.move m).isAllowed g.phase g.saved g.name.isSome = true) :
    h.Grants i g (.move m) := by
  obtain ⟨o, go, t, d⟩ := ho.duel_of_isAllowed_move hg hl ha
  have hf := d.table
  have ht : h.table? i = some t := by
    rw [table?_of_guest? hg, d.table_here]
    exact hf
  have hw : t.winner = none := (ho.tables _ t (ho.duel_since d).table).2.1
  have herror (e : Refusal) : t.play (t.player t.onTurn) m = .error e ↔
      t.board.legality t.onTurn m = .error e := Table.play_eq_error_iff hw d.apart
  have hcases := onMove_cases hg d.name_here ht m
  rw [← obey_move hg ha] at hcases
  refine ⟨nofun, ?_, ?_⟩
  · rintro _ ⟨⟩
    refine ⟨_, t, _, d.table_here, hf, d.name_here, ?_, fun e he => ?_⟩
    · rcases hcases with ⟨e, -, he⟩ | ⟨-, hstay⟩
      · rw [he]
      · exact hstay
    · have hlegality := (herror e).1 he
      obtain ⟨h₁, h₂, h₃⟩ := Board.legality_ne hlegality
      exact ⟨h₁, h₂, h₃, hlegality⟩
  · rcases hcases with ⟨e, he, hsend⟩ | ⟨⟨sent, hsent, hno⟩, -⟩
    · obtain ⟨sent, hsent, -⟩ := outbox_send (h := h) (i := i) .moveRefused
      refine ⟨sent, ?_, fun l _ => ⟨m, t, e, rfl, ht, (herror e).1 he⟩⟩
      rw [hsend, hsent]
    · exact ⟨sent, hsent, fun l hl => absurd hl (hno l)⟩

theorem Orderly.grants (ho : h.Orderly first) (hg : h.guest? i = some g) (hl : g.line ≠ none)
    (ha : c.isAllowed g.phase g.saved g.name.isSome = true) : h.Grants i g c := by
  by_cases hc : ∃ m, c = .move m
  · obtain ⟨m, rfl⟩ := hc
    exact ho.grants_move hg hl ha
  have hc (m : Move) : c ≠ .move m := fun e => hc ⟨m, e⟩
  refine ⟨?_, fun m hm => absurd hm (hc m), ?_⟩
  · rintro rfl
    obtain ⟨o, go, t, s, d, -⟩ := ho.duel_of_isPlaying hg hl ha
    refine ⟨by simp [d.table_here], ?_⟩
    rw [obey_leave hg ha]
    simp [onLeave, hg, d.table_here]
  · obtain ⟨sent, hsent, hno⟩ := Obliges.obey (h := h) (i := i) hc
    exact ⟨sent, hsent, fun l hl => absurd hl (hno l)⟩

/-- The rights that a guest has by its record are the ones that it has at its table. What it may do,
it can do, and a move that it may make is refused only if it is against the rules of the board. -/
theorem after_rights (capacity maxTables budget : Nat) {xs : List Incident}
    (hp : Incident.Plausible xs) {i : GuestId} {g : Guest} :
    let h := (vacant capacity maxTables budget).after xs
    h.guest? i = some g → g.line ≠ none →
      (∀ k, g.table = some k → ∃ t, h.tables.get? k = some t ∧ (g.phase ≠ .lost →
        ∀ m, (Command.move m).isAllowed g.phase g.saved g.name.isSome = true ↔
          g.name = some t.playerOnTurn)) ∧
      ∀ c, c.isAllowed g.phase g.saved g.name.isSome = true → h.Grants i g c := by
  intro h hg hl
  obtain ⟨first, r⟩ := hp.reached capacity maxTables budget
  have ho : h.Orderly first := Reached.orderly r
  refine ⟨fun k hk => ?_, fun c => ho.grants hg hl⟩
  obtain ⟨t, s, rfl, -, hf, -⟩ := ho.seat hg hk
  exact ⟨t, hf, fun hlost => ho.isAllowed_move_iff hg hl hlost hk hf⟩

/-- Ada is on turn, and has been asked for a sign of life. She may move before she answers. -/
theorem after_rights_pinged :
    let xs : List Incident := [.arrival 1 "a" 0, .command 1 (.connect "Ada"), .arrival 2 "b" 1,
      .command 2 (.connect "Bob"), .matchmake, .sweep]
    let g : Guest := { name := some "Ada", origin := "a", table := some 1, phase := .pinged,
                       saved := .onTurn, decay := 3, line := some 0 }
    let h := (vacant 4 2 3).after xs
    (Incident.Plausible xs ∧ h.guest? 1 = some g ∧ g.line ≠ none) ∧
      (∃ t, h.tables.get? 1 = some t ∧ g.name = some t.playerOnTurn) ∧
      h.Grants 1 g (.move ⟨⟨3, 0⟩, ⟨4, 1⟩⟩) := by
  intro xs g h
  have hp : Incident.Plausible xs := by decide +kernel
  have hg : h.guest? 1 = some g := by decide +kernel
  have ha : (Command.move ⟨⟨3, 0⟩, ⟨4, 1⟩⟩).isAllowed g.phase g.saved g.name.isSome = true := by
    decide
  obtain ⟨hseat, hgrants⟩ := after_rights 4 2 3 hp hg nofun
  obtain ⟨t, ht, hturn⟩ := hseat 1 rfl
  exact ⟨⟨hp, hg, nofun⟩, ⟨t, ht, (hturn nofun _).1 ha⟩, hgrants _ ha⟩

end Hall

end Tafl
