import Tafl.Proofs.Board.Playfield
import Tafl.Proofs.Hall.Screens
import Tafl.Proofs.Wire.Notices

/-! # What is written can be read

Names and texts of one guest go into the frames of another, and nothing is escaped. `Lettered` says
why that does no harm: names are names, whoever has a table sits at it by its name, and all that was
put out is sound. For each operation there is one lemma, and none of them asks whether the hall is
in order. Main statement: `run_letters`. -/

namespace Tafl

/-! ### Sound notices -/

theorem Square.point_le (s : Square) : s.point.x ≤ 10 ∧ s.point.y ≤ 10 := by
  have key : ∀ k : Fin 11, k.val.toUInt8 ≤ 10 := by decide
  exact ⟨key s.col, key s.row⟩

theorem Move.isShort_ofSquares (s t : Square) : (ofSquares s t).IsShort := by
  have lt {n : UInt8} (h : n ≤ 10) : n < 100 := UInt8.lt_of_le_of_lt h (by decide)
  exact ⟨lt s.point_le.1, lt s.point_le.2, lt t.point_le.1, lt t.point_le.2⟩

namespace Notice
variable {n : Notice}

/-- The boards, names, moves and texts that a hall writes about. -/
def IsSound : Notice → Prop
  | playfield digits => ∃ b : Board, digits = b.digits
  | opponentName name => (Command.connect name).IsField
  | opponentMove m => ∃ s t, m = .ofSquares s t
  | chat text => (Command.chat text).IsField
  | _ => True

/-- A notice as it should be on the wire. -/
structure IsLegible (n : Notice) : Prop where
  frame : ∃ p, n.frame.toList = '{' :: (p ++ ['}']) ∧ ∀ c ∈ p, c ≠ '{' ∧ c ≠ '}'
  parse : parse n.frame.toList = [n]
  board : ∀ digits, n = .playfield digits →
    digits.length = 121 ∧ ∀ c ∈ digits.toList, c ∈ ['0', '1', '2', '3', '4', '5']
  name : ∀ name, n = .opponentName name →
    3 ≤ name.length ∧ name.length ≤ 20 ∧ ∀ c ∈ name.toList, c.isAlphanum = true
  move : ∀ m, n = .opponentMove m →
    m.source.x ≤ 10 ∧ m.source.y ≤ 10 ∧ m.target.x ≤ 10 ∧ m.target.y ≤ 10

namespace IsSound

theorem isPlain_value (h : n.IsSound) {v : String} (hv : n.value? = some v) :
    Frame.IsPlain v.toList := by
  -- names, moves and texts can stand in a field of a player, and so they are plain
  have field {k : FieldKey} {c : Command} (hc : c.IsField) (hk : c.field = k.text ++ ":" ++ v) :
      Frame.IsPlain v.toList := by
    intro x hx
    refine hc.isInner_field.isPlain x ?_
    rw [hk, Command.toList_field_keyed]
    simp [hx]
  cases n with
  | playfield digits =>
    obtain rfl := Option.some.inj hv
    obtain ⟨b, rfl⟩ := h
    intro c hc
    obtain ⟨x, rfl⟩ := Board.exists_digit_of_mem hc
    cases x <;> decide
  | opponentName name =>
    obtain rfl := Option.some.inj hv
    exact field (k := .connect) (c := .connect name) h rfl
  | opponentMove m =>
    obtain rfl := Option.some.inj hv
    obtain ⟨s, t, rfl⟩ := h
    exact field (k := .move) (c := .move _) (Move.isShort_ofSquares s t) rfl
  | chat text =>
    obtain rfl := Option.some.inj hv
    exact field (k := .chat) (c := .chat text) h rfl
  | _ => cases hv

theorem isPlain_payload (h : n.IsSound) : Frame.IsPlain n.payload.toList := by
  rw [toList_payload]
  intro c hc
  rcases List.mem_append.1 hc with hc | hc
  · exact n.key_safe.2 c hc
  · cases hv : n.value? with
    | none =>
      rw [hv] at hc
      cases hc
    | some v =>
      rw [hv] at hc
      rcases List.mem_cons.1 hc with rfl | hc
      · decide
      · exact h.isPlain_value hv c hc

theorem isClean (h : n.IsSound) : n.IsClean := by
  have close {v : String} (hv : n.value? = some v) : '}' ∉ v.toList :=
    fun hc => (h.isPlain_value hv _ hc).2 rfl
  cases n with
  | playfield | opponentName | chat => exact close rfl
  | opponentMove m =>
    obtain ⟨s, t, rfl⟩ := h
    exact Move.isShort_ofSquares s t
  | _ => exact trivial

theorem isLegible (h : n.IsSound) : n.IsLegible where
  frame := ⟨n.payload.toList, toList_frame n, h.isPlain_payload⟩
  parse := by
    have := h.isClean.parse_frame_append []
    rwa [List.append_nil] at this
  board := by
    rintro digits rfl
    obtain ⟨b, rfl⟩ := h
    refine ⟨b.length_digits, fun c hc => ?_⟩
    obtain ⟨x, rfl⟩ := Board.exists_digit_of_mem hc
    cases x <;> decide
  name := by
    rintro name rfl
    exact h
  move := by
    rintro m rfl
    obtain ⟨s, t, rfl⟩ := h
    exact ⟨s.point_le.1, s.point_le.2, t.point_le.1, t.point_le.2⟩

end IsSound

end Notice

namespace Table
variable {t : Table} {s : Side}

/-- A player has an opponent, who is a player too, whether or not the two are different. -/
theorem exists_opponentOf?_player (t : Table) (s : Side) :
    ∃ u, t.opponentOf? (t.player s) = some (t.player u) := by
  cases s with
  | black => exact ⟨.white, by simp [opponentOf?, sideOf?, player, Side.opponent]⟩
  | white =>
    by_cases h : t.white = t.black
    · exact ⟨.white, by simp [opponentOf?, sideOf?, player, Side.opponent, h]⟩
    · exact ⟨.black, by simp [opponentOf?, sideOf?, player, Side.opponent, h]⟩

end Table

namespace Hall
variable {h h' : Hall} {i : GuestId} {o : Option GuestId} {g : Guest} {n : Notice}

/-- The names in a hall are names, whoever has a table that is still there sits at it by its name,
and what was put out is sound. -/
structure Lettered (h : Hall) : Prop where
  name : ∀ i g n, h.guest? i = some g → g.name = some n → (Command.connect n).IsField
  players : ∀ k t, h.tables.get? k = some t → ∀ s, (Command.connect (t.player s)).IsField
  seat : ∀ i g k t, h.guest? i = some g → g.table = some k → h.tables.get? k = some t →
    ∃ s, g.name = some (t.player s)
  /-- No record waits for a table that is opened later. -/
  opened : ∀ i g k, h.guest? i = some g → g.table = some k → k ≤ h.tables.opened
  sent : ∀ l n, .frame n ∈ h.sentOn l → n.IsSound

namespace Lettered

theorem vacant (capacity maxTables budget : Nat) :
    (Hall.vacant capacity maxTables budget).Lettered where
  name i g n hg := by cases hg
  players k t ht := by cases ht
  seat i g k t hg := by cases hg
  opened i g k hg := by cases hg
  sent l n hn := by cases hn

/-! ### The small operations -/

/-- Records may be struck, moved to other numbers and taken from their tables. -/
theorem of_records (hl : h.Lettered)
    (hg : ∀ j g', h'.guest? j = some g' → g'.name = none ∧ g'.table = none ∨
      ∃ i g, h.guest? i = some g ∧ g'.name = g.name ∧ (g'.table = g.table ∨ g'.table = none))
    (ht : h'.tables = h.tables)
    (hs : ∀ l n, .frame n ∈ h'.sentOn l → .frame n ∈ h.sentOn l) : h'.Lettered where
  name j g' n hj hn := by
    rcases hg j g' hj with ⟨hn', -⟩ | ⟨i, g, hi, hn', -⟩
    · rw [hn] at hn'
      cases hn'
    · exact hl.name i g n hi (hn' ▸ hn)
  players := ht ▸ hl.players
  seat j g' k t hj hk := by
    rcases hg j g' hj with ⟨-, hk'⟩ | ⟨i, g, hi, hn', hk' | hk'⟩
    · rw [hk] at hk'
      cases hk'
    · rw [ht, hn']
      exact hl.seat i g k t hi (hk' ▸ hk)
    · rw [hk] at hk'
      cases hk'
  opened j g' k hj hk := by
    rcases hg j g' hj with ⟨-, hk'⟩ | ⟨i, g, hi, -, hk' | hk'⟩
    · rw [hk] at hk'
      cases hk'
    · rw [ht]
      exact hl.opened i g k hi (hk' ▸ hk)
    · rw [hk] at hk'
      cases hk'
  sent l n hn := hl.sent l n (hs l n hn)

/-- Tables may be closed, and what stands on their boards may change. -/
theorem of_tables (hl : h.Lettered) {ts : Tables}
    (ht : ∀ k t', ts.get? k = some t' → ∃ t, h.tables.get? k = some t ∧
      ∀ s, t'.player s = t.player s) (ho : ts.opened = h.tables.opened) :
    { h with tables := ts }.Lettered where
  name := hl.name
  players k t' hk s := by
    obtain ⟨t, hf, hp⟩ := ht k t' hk
    rw [hp]
    exact hl.players k t hf s
  seat i g k t' hi hk hf := by
    obtain ⟨t, hf, hp⟩ := ht k t' hf
    simp only [hp]
    exact hl.seat i g k t hi hk hf
  opened i g k hi hk := by
    rw [ho]
    exact hl.opened i g k hi hk
  sent := hl.sent

theorem tally (hl : h.Lettered) (t : Tally) : { h with tally := t }.Lettered :=
  ⟨hl.name, hl.players, hl.seat, hl.opened, hl.sent⟩

theorem revise (hl : h.Lettered) {f : Guest → Guest} (hn : ∀ g, (f g).name = g.name)
    (ht : ∀ g, (f g).table = g.table ∨ (f g).table = none) : (h.revise i f).Lettered := by
  refine hl.of_records (fun j g' hg' => .inr ?_) rfl fun _ _ hm => hm
  rw [guest?_revise] at hg'
  rcases update_eq_some.1 hg' with ⟨rfl, hg'⟩ | ⟨-, hg'⟩
  · obtain ⟨g, hg, rfl⟩ := Option.map_eq_some_iff.1 hg'
    exact ⟨_, g, hg, hn g, ht g⟩
  · exact ⟨j, g', hg', rfl, .inl rfl⟩

theorem settle (hl : h.Lettered) (p : Phase) : (h.revise i (·.settle p)).Lettered :=
  hl.revise (fun _ => Guest.name_settle p) fun _ => .inl (Guest.table_settle p)

theorem restore (hl : h.Lettered) : (h.revise i (·.restore h.decayBudget)).Lettered :=
  hl.revise (fun _ => rfl) fun _ => .inl rfl

theorem post (hl : h.Lettered) {l : Line} (hn : n.IsSound) : (h.post l n).Lettered where
  name := hl.name
  players := hl.players
  seat := hl.seat
  opened := hl.opened
  sent k m hm := by
    rw [sentOn_post] at hm
    split at hm
    · rcases List.mem_append.1 hm with hm | hm
      · exact hl.sent k m hm
      · obtain ⟨⟩ := List.mem_singleton.1 hm
        exact hn
    · exact hl.sent k m hm

theorem hangUp (hl : h.Lettered) (l : Option Line) : (h.hangUp l).Lettered := by
  refine hl.of_records (fun j g' hg' => .inr ⟨j, g', ?_, rfl, .inl rfl⟩) (tables_hangUp ..)
    fun k m hm => ?_
  · rwa [guest?_hangUp] at hg'
  · rw [sentOn_hangUp_option] at hm
    rcases List.mem_append.1 hm with hm | hm
    · exact hm
    · split at hm <;> simp at hm

theorem close (hl : h.Lettered) (k : Nat) :
    { h with tables := h.tables.close k }.Lettered := by
  refine hl.of_tables (fun j t ht => ⟨t, ?_, fun _ => rfl⟩) rfl
  rw [Tables.get?_close] at ht
  split at ht
  · cases ht
  · exact ht

theorem send (hl : h.Lettered) (hn : n.IsSound) : (h.send i n).Lettered := by
  unfold Hall.send
  cases h.line? i with
  | none => exact hl
  | some l => exact hl.post hn

theorem sendToOpponent (hl : h.Lettered) (hn : n.IsSound) : (h.sendToOpponent i n).Lettered := by
  unfold Hall.sendToOpponent
  cases h.opponent? i with
  | none => exact hl
  | some o => exact hl.send hn

/-- Whoever is told about its game sits at the table, so that its opponent has a name. -/
theorem sendGame (hl : h.Lettered) : (h.sendGame i).Lettered := by
  unfold Hall.sendGame
  split
  · rename_i g t hg ht
    obtain ⟨k, hk, hf⟩ := Option.bind_eq_some_iff.1 (table?_of_guest? hg ▸ ht)
    obtain ⟨s, hs⟩ := hl.seat i g k t hg hk hf
    obtain ⟨u, hu⟩ := t.exists_opponentOf?_player s
    have hname : (Notice.opponentName ((t.opponentOf? (g.name.getD "")).getD "")).IsSound := by
      rw [hs, Option.getD_some, hu]
      exact hl.players k t hf u
    have hturn (c : Prop) [Decidable c] :
        (if c then Notice.yourTurn else .opponentsTurn).IsSound := by
      split <;> exact trivial
    exact (((hl.send (by trivial)).send hname).send (by exact ⟨t.board, rfl⟩)).send (hturn _)
  · exact hl

theorem sendPlace (hl : h.Lettered) : (h.sendPlace i).Lettered := by
  unfold Hall.sendPlace
  split
  · exact hl.sendGame
  · exact hl.send (by trivial)

/-! ### Leaving -/

theorem toLobby (hl : h.Lettered) : (h.toLobby i).Lettered :=
  (hl.revise (fun _ => Guest.name_released) fun _ => .inr Guest.table_released).send (by trivial)

theorem breakUp (hl : h.Lettered) (hn : n.IsSound) : (h.breakUp i n).Lettered := by
  unfold Hall.breakUp
  split
  · exact hl
  · rename_i k _
    have hr := (hl.close k).revise (i := i) (f := fun g => { g with table := none })
      (fun _ => rfl) fun _ => .inr rfl
    cases h.opponent? i with
    | none => exact hr
    | some o => exact (hr.send hn).toLobby

theorem strike (hl : h.Lettered) : (h.strike i).Lettered := by
  cases hg : h.guest? i with
  | none => rwa [Hall.strike, hg]
  | some g =>
    refine hl.of_records (fun j g' hg' => .inr ⟨j, g', ?_, rfl, .inl rfl⟩) tables_strike
      fun l m hm => ?_
    · rw [guest?_strike] at hg'
      rcases update_eq_some.1 hg' with ⟨-, ⟨⟩⟩ | ⟨-, hg'⟩
      exact hg'
    · rw [sentOn_strike hg] at hm
      rcases List.mem_append.1 hm with hm | hm
      · exact hm
      · split at hm <;> simp at hm

theorem drop (hl : h.Lettered) : (h.drop i).Lettered := (hl.breakUp (by trivial)).strike

theorem shutDown (hl : h.Lettered) : h.shutDown.Lettered := by
  unfold Hall.shutDown
  generalize h.roster.ids = is
  induction is generalizing h with
  | nil => exact hl
  | cons i is ih => exact ih (hl.send (by trivial)).strike

/-! ### Commands -/

theorem onPong (hl : h.Lettered) : (h.onPong i).Lettered := by
  unfold Hall.onPong
  split
  · exact hl
  · split
    · split
      · exact hl.restore.sendToOpponent (by trivial)
      · exact hl.restore
    · exact hl

theorem welcomeBack (hl : h.Lettered) : (h.welcomeBack i).Lettered :=
  ((hl.tally _).send (by trivial)).sendPlace.sendToOpponent (by trivial)

theorem onOwnName (hl : h.Lettered) : (h.onOwnName i g).Lettered := by
  unfold Hall.onOwnName
  split
  · exact hl.restore.welcomeBack
  · exact hl.send (by trivial)

/-- A stranger has no table that is still there. -/
theorem takeName (hl : h.Lettered) (hg : h.guest? i = some g) (hn : g.name = none) {name : String}
    (hf : (Command.connect name).IsField) :
    (h.revise i fun g => { g with name := some name }.settle .waiting).Lettered := by
  have hguest {j : GuestId} {g' : Guest}
      (hj : (h.revise i fun g => { g with name := some name }.settle .waiting).guest? j = some g') :
      j = i ∧ g'.name = some name ∧ g'.table = g.table ∨ h.guest? j = some g' := by
    rw [guest?_revise, hg, Option.map_some] at hj
    rcases update_eq_some.1 hj with ⟨rfl, ⟨⟩⟩ | ⟨-, hj⟩
    · exact .inl ⟨rfl, Guest.name_settle _, Guest.table_settle _⟩
    · exact .inr hj
  refine ⟨fun j g' m hj hm => ?_, hl.players, fun j g' k t hj hk hf => ?_, fun j g' k hj hk => ?_,
    hl.sent⟩
  · rcases hguest hj with ⟨-, hn', -⟩ | hj
    · obtain rfl := Option.some.inj (hn'.symm.trans hm)
      exact hf
    · exact hl.name j g' m hj hm
  · rcases hguest hj with ⟨rfl, -, hk'⟩ | hj
    · obtain ⟨s, hs⟩ := hl.seat j g k t hg (hk' ▸ hk) hf
      rw [hn] at hs
      cases hs
    · exact hl.seat j g' k t hj hk hf
  · rcases hguest hj with ⟨rfl, -, hk'⟩ | hj
    · exact hl.opened j g k hg (hk' ▸ hk)
    · exact hl.opened j g' k hj hk

theorem handOver (hl : h.Lettered) (old : GuestId) (b : Nat) :
    { h with roster := h.roster.handOver old i b }.Lettered := by
  refine hl.of_records (fun j g' hg' => ?_) rfl fun _ _ hm => hm
  have same (hg' : h.guest? j = some g') : g'.name = none ∧ g'.table = none ∨
      ∃ i g, h.guest? i = some g ∧ g'.name = g.name ∧ (g'.table = g.table ∨ g'.table = none) :=
    .inr ⟨j, g', hg', rfl, .inl rfl⟩
  cases ho : h.roster.get? old with
  | none =>
    refine same ?_
    rwa [guest?, Roster.handOver, ho] at hg'
  | some go =>
    by_cases hback : old = i ∨ (!h.roster.contains i) = true
    · refine same ?_
      simpa only [guest?, Roster.handOver, ho, if_pos hback] using hg'
    · rw [not_or] at hback
      obtain ⟨gi, hi⟩ := Roster.contains_iff.1 (by simpa using hback.2)
      rw [guest?, Roster.get?_handOver ho hi hback.1] at hg'
      split at hg'
      · obtain rfl := Option.some.inj hg'
        exact .inr ⟨old, go, ho, rfl, .inl rfl⟩
      · split at hg'
        · obtain rfl := Option.some.inj hg'
          exact .inl ⟨rfl, rfl⟩
        · exact same hg'

theorem onFirstName (hl : h.Lettered) (hg : h.guest? i = some g) (hn : g.name = none)
    {name : String} (hf : (Command.connect name).IsField) : (h.onFirstName i g name).Lettered := by
  have hl' : (h.revise i (·.restore h.decayBudget)).Lettered := hl.restore
  have hg' : (h.revise i (·.restore h.decayBudget)).guest? i = some (g.restore h.decayBudget) := by
    simp [guest?_revise, hg]
  unfold Hall.onFirstName
  generalize h.revise i (·.restore h.decayBudget) = k at hl' hg' ⊢
  dsimp only
  split
  · exact ((hl'.takeName hg' hn hf).send (by trivial)).send (by trivial)
  · exact hl'.send (by trivial)
  · exact hl'
  · exact ((hl'.handOver _ _).hangUp _).welcomeBack

theorem onConnect (hl : h.Lettered) {name : String} (hf : (Command.connect name).IsField) :
    (h.onConnect i name).1.Lettered := by
  unfold Hall.onConnect
  split
  · exact hl
  · rename_i g hg
    split
    · exact hl.onFirstName hg ‹_› hf
    · split
      · exact hl.onOwnName
      · exact hl

theorem showMove (hl : h.Lettered) {m : Move} (hm : (Notice.opponentMove m).IsSound)
    (b : Board) : (h.showMove i o m b.digits).Lettered := by
  unfold Hall.showMove
  have hs := (hl.send (i := i) (n := .moveAccepted) (by trivial)).send (i := i)
    (n := .playfield b.digits) ⟨b, rfl⟩
  cases o with
  | none => exact hs
  | some o => exact (hs.send hm).send ⟨b, rfl⟩

theorem passTurn (hl : h.Lettered) : (h.passTurn i o).Lettered := by
  unfold Hall.passTurn
  have hs := (hl.settle (i := i) .onStand).send (i := i) (n := .opponentsTurn) (by trivial)
  cases o with
  | none => exact hs
  | some o => exact (hs.settle _).send (by trivial)

theorem settleGame (hl : h.Lettered) (k : Nat) (won : Bool) :
    (h.settleGame i o k won).Lettered := by
  have hend (c : Bool) : (if c then Notice.won else .lost).IsSound ∧
      (if c then Notice.lost else .won).IsSound := by
    cases c <;> exact ⟨trivial, trivial⟩
  rw [settleGame_eq]
  have hs := ((hl.close k).send (i := i) (hend won).1).toLobby (i := i)
  cases o with
  | none => exact hs
  | some o => exact (hs.send (hend won).2).toLobby

theorem onMove (hl : h.Lettered) (m : Move) : (h.onMove i m).1.Lettered := by
  unfold Hall.onMove
  split
  · exact hl
  · split
    · exact hl
    · rename_i g _ t ht
      dsimp only
      split
      · exact hl.send (by trivial)
      · rename_i t' r hplay
        obtain ⟨-, -, b, hb, rfl⟩ := Table.play_eq_ok hplay
        -- only a move from square to square is played
        obtain ⟨s, u, rfl, -, -⟩ := Board.play_eq_ok_iff.1 hb
        have hr : { h with tables := h.tables.replace (t.after b r) }.Lettered := by
          obtain ⟨k, -, hk⟩ := Option.bind_eq_some_iff.1 (table?_of_guest? ‹_› ▸ ht)
          obtain ⟨-, rfl⟩ := Tables.get?_eq_some_iff.1 hk
          refine hl.of_tables (fun j t' ht' => ?_) rfl
          rw [Tables.get?_replace_update (t := t.after b r) hk] at ht'
          rcases update_eq_some.1 ht' with ⟨rfl, ⟨⟩⟩ | ⟨-, ht'⟩
          · exact ⟨t, hk, t.player_after b r⟩
          · exact ⟨t', ht', fun _ => rfl⟩
        split
        · exact (hr.showMove ⟨s, u, rfl⟩ _).settleGame _ _
        · exact (hr.showMove ⟨s, u, rfl⟩ _).passTurn

theorem onLeave (hl : h.Lettered) : (h.onLeave i).1.Lettered := by
  unfold Hall.onLeave
  split
  · exact ((hl.send (by trivial)).breakUp (by trivial)).toLobby
  · exact hl

theorem obey (hl : h.Lettered) {c : Command} (hc : c.IsSent) : (h.obey i c).1.Lettered := by
  have field (hp : c ≠ .ping) (hq : c ≠ .pong) : c.IsField := (hc.resolve_left hp).resolve_left hq
  unfold Hall.obey
  split
  · exact hl
  · split
    · exact hl
    · cases c with
      | ping => exact hl.send (by trivial)
      | pong => exact hl.onPong
      | connect name => exact hl.onConnect (field (by simp) (by simp))
      | move m => exact hl.onMove m
      | leave => exact hl.onLeave
      | chat text => exact hl.sendToOpponent (field (by simp) (by simp))
      | exit => exact hl

theorem obeyAll (hl : h.Lettered) {cs : List Command} (hcs : ∀ c ∈ cs, c.IsSent) :
    (h.obeyAll i cs).Lettered := by
  induction cs generalizing h with
  | nil => exact hl
  | cons c cs ih =>
    have hc : (h.obey i c).1.Lettered := hl.obey (hcs c (by simp))
    unfold Hall.obeyAll
    split
    · rename_i k hk
      rw [hk] at hc
      exact ih hc fun c hc => hcs c (by simp [hc])
    · rename_i k why hk
      rw [hk] at hc
      exact hc.drop

/-! ### Events and sweeps -/

theorem receive (hl : h.Lettered) (bytes : ByteArray) : (h.receive i bytes).Lettered := by
  unfold Hall.receive
  have ht := hl.tally { h.tally with bytesReceived := h.tally.bytesReceived + bytes.size }
  dsimp only
  split
  · exact ht
  · split
    · exact ht.drop
    · rename_i rs hrs
      exact ht.obeyAll (isSent_of_decode hrs)

theorem lineClosed (hl : h.Lettered) : (h.lineClosed i).Lettered := by
  unfold Hall.lineClosed
  split
  · exact hl.drop
  · exact hl

theorem writeFailed (hl : h.Lettered) : (h.writeFailed i).Lettered := by
  have hlose : (h.revise i Guest.lose).Lettered := hl.revise (fun _ => rfl) fun _ => .inl rfl
  unfold Hall.writeFailed
  split
  · exact hl
  · split
    · exact hl
    · dsimp only
      split
      · exact hlose.sendToOpponent (by trivial)
      · exact hlose

theorem sweepGuest (hl : h.Lettered) : (h.sweepGuest i).Lettered := by
  have hping := (hl.revise (i := i) (f := Guest.ping) (fun _ => rfl) fun _ => .inl rfl).send
    (i := i) (n := .ping) trivial
  unfold Hall.sweepGuest
  split
  · exact hl
  · split
    · exact hl.drop
    · split
      · have hlose := (hl.revise (i := i) (f := Guest.lose) (fun _ => rfl) fun _ => .inl rfl).send
          (i := i) (n := .ping) (by trivial)
        dsimp only
        split
        · exact hlose.sendToOpponent (by trivial)
        · exact hlose
      · have hcut := (hl.send (i := i) (n := .kicked) trivial).revise (i := i)
          (f := (·.disconnect h.decayBudget)) (fun _ => rfl) fun _ => .inl rfl
        exact (hcut.hangUp _).sendToOpponent trivial
      · have hfade := hl.revise (i := i) (f := fun g => { g with decay := g.decay - 1 })
          (fun _ => rfl) fun _ => .inl rfl
        dsimp only
        split
        · exact hfade.drop
        · exact hfade
      all_goals exact hping

theorem sweep (hl : h.Lettered) : h.sweep.Lettered := by
  unfold Hall.sweep
  generalize h.roster.ids = is
  induction is generalizing h with
  | nil => exact hl
  | cons i is ih => exact ih hl.sweepGuest

theorem enrol (hl : h.Lettered) (origin : Origin) (line : Line) :
    (h.enrol i origin line).Lettered := by
  refine hl.of_records (fun j g' hg' => ?_) rfl fun _ _ hm => hm
  rw [guest?_enrol] at hg'
  rcases update_eq_some.1 hg' with ⟨rfl, ⟨⟩⟩ | ⟨-, hg'⟩
  · exact .inl ⟨rfl, rfl⟩
  · exact .inr ⟨j, g', hg', rfl, .inl rfl⟩

theorem accept (hl : h.Lettered) (origin : Origin) (line : Line) :
    (h.accept i origin line).1.Lettered := by
  unfold Hall.accept
  split
  · exact hl.enrol origin line
  · split
    · exact hl.drop.enrol origin line
    · exact (hl.post (l := line) (n := .serverFull) trivial).hangUp (some line)

theorem handle (hl : h.Lettered) (e : Event) : (h.handle e).Lettered := by
  cases e with
  | connected id origin line => exact hl.accept origin line
  | data id bytes => exact hl.receive bytes
  | closed id => exact hl.lineClosed
  | writeFailed id => exact hl.writeFailed

/-! ### Matchmaking -/

theorem seat_pair {p : Pair} (hl : h.Lettered) (hne : p.1.1 ≠ p.2.1) (hb : h.Waits p.1)
    (hw : h.Waits p.2) : (h.seat p).Lettered := by
  obtain ⟨gi, hi, hni, -⟩ := hb
  obtain ⟨go, ho, hno, -⟩ := hw
  have htables (k : Nat) : (h.seat p).tables.get? k =
      if k = h.tables.opened + 1 then some (h.newTable p) else h.tables.get? k := by
    refine (h.tables.get?_openFor p.1.2 p.2.2 k).trans ?_
    split
    · rename_i e
      rw [e]
      rfl
    · rfl
  -- who is seated has the new table and keeps its name, and it is a player there
  have hguest {j : GuestId} {g' : Guest} (hj : (h.seat p).guest? j = some g') :
      (∃ s, g'.name = some ((h.newTable p).player s) ∧ g'.table = some (h.tables.opened + 1) ∧
        (Command.connect ((h.newTable p).player s)).IsField) ∨ h.guest? j = some g' := by
    rw [guest?_seat hi ho hne] at hj
    rcases update_eq_some.1 hj with ⟨rfl, ⟨⟩⟩ | ⟨-, hj⟩
    · exact .inl ⟨.white, (Guest.name_settle _).trans hno, Guest.table_settle _,
        hl.name _ _ _ ho hno⟩
    rcases update_eq_some.1 hj with ⟨rfl, ⟨⟩⟩ | ⟨-, hj⟩
    · exact .inl ⟨.black, (Guest.name_settle _).trans hni, Guest.table_settle _,
        hl.name _ _ _ hi hni⟩
    · exact .inr hj
  refine ⟨fun j g' m hj hm => ?_, fun k t ht s => ?_, fun j g' k t hj hk ht => ?_,
    fun j g' k hj hk => ?_, hl.sent⟩
  · rcases hguest hj with ⟨s, hn, -, hf⟩ | hj
    · obtain rfl := Option.some.inj (hn.symm.trans hm)
      exact hf
    · exact hl.name j g' m hj hm
  · rw [htables] at ht
    split at ht
    · obtain rfl := Option.some.inj ht
      cases s with
      | black => exact hl.name _ _ _ hi hni
      | white => exact hl.name _ _ _ ho hno
    · exact hl.players k t ht s
  · rw [htables] at ht
    rcases hguest hj with ⟨s, hn, hk', -⟩ | hj
    · obtain rfl := Option.some.inj (hk'.symm.trans hk)
      rw [if_pos rfl] at ht
      obtain rfl := Option.some.inj ht
      exact ⟨s, hn⟩
    · have hle := hl.opened j g' k hj hk
      rw [if_neg (by omega)] at ht
      exact hl.seat j g' k t hj hk ht
  · have hopened : (h.seat p).tables.opened = h.tables.opened + 1 := rfl
    rw [hopened]
    rcases hguest hj with ⟨-, -, hk', -⟩ | hj
    · exact (Option.some.inj (hk'.symm.trans hk)).symm.le
    · exact Nat.le_succ_of_le (hl.opened j g' k hj hk)

theorem foldl_seat {ps : List Pair} (hl : h.Lettered) (hps : h.Lineup ps) :
    (ps.foldl Hall.seat h).Lettered := by
  induction ps generalizing h with
  | nil => exact hl
  | cons p ps ih =>
    obtain ⟨hb, hw⟩ := hps.waits p (List.mem_cons_self ..)
    exact ih (hl.seat_pair hps.ne hb hw) hps.tail_seat

theorem matchmake (hl : h.Lettered) : h.matchmake.Lettered := by
  rw [matchmake_eq_announce]
  have hs := hl.foldl_seat h.lineup_pairs
  generalize h.pairs.foldl Hall.seat h = k at hs
  generalize pairings h.tables.opened h.pairs = qs
  induction qs generalizing k with
  | nil => exact hs
  | cons q qs ih => exact ih _ (hs.tally _).sendGame.sendGame

/-! ### Whole runs -/

theorem foldl_handle (hl : h.Lettered) (es : List Event) : (es.foldl Hall.handle h).Lettered := by
  induction es generalizing h with
  | nil => exact hl
  | cons e es ih => exact ih (hl.handle e)

theorem step (hl : h.Lettered) (s : Step) : (h.step s).Lettered := by
  cases s with
  | event e => exact hl.handle e
  | batch es => exact (hl.foldl_handle _).matchmake
  | matchmake => exact hl.matchmake
  | sweep => exact hl.sweep
  | shutDown => exact hl.shutDown

theorem run (hl : h.Lettered) (steps : List Step) : (h.run steps).Lettered := by
  induction steps generalizing h with
  | nil => exact hl
  | cons s steps ih => exact ih (hl.step s)

end Lettered

theorem mem_heardOn {l : Line} : n ∈ h.heardOn l ↔ .frame n ∈ h.sentOn l := by
  simp only [heardOn, Outgoing.notices, List.mem_filterMap]
  constructor
  · rintro ⟨(m | -), hm, he⟩
    · obtain rfl := Option.some.inj he
      exact hm
    · cases he
  · exact fun hn => ⟨_, hn, rfl⟩

/-- Whatever is asked of a hall, each frame that it puts out is one frame, and is read as the notice
that it was written for: with a whole board, a name and a move on the board, if any. What comes over
a line, one frame after the other, is read as the notices that went out over it, in order. -/
theorem run_letters (capacity maxTables budget : Nat) (steps : List Step) (l : Line) :
    let h := (vacant capacity maxTables budget).run steps
    (∀ n, .frame n ∈ h.sentOn l → n.IsLegible) ∧
      Notice.parse (String.join ((h.heardOn l).map Notice.frame)).toList = h.heardOn l := by
  intro h
  have hl : h.Lettered := (Lettered.vacant capacity maxTables budget).run steps
  refine ⟨fun n hn => (hl.sent l n hn).isLegible, ?_⟩
  have := Notice.parse_frames_append (fun n hn => (hl.sent l n (mem_heardOn.1 hn)).isClean) []
  rwa [List.append_nil, show Notice.parse [] = [] from rfl, List.append_nil] at this

end Hall

end Tafl
