import Tafl.Proofs.Hall.Effects
import Tafl.Proofs.Hall.Incidents

/-! # Parties

What comes from a guest with a name is for its party only: the guest, its opponent, their table and
their two lines. `Tandem` says so of two halls at once that look the same to the party: the same
effects are made in both of them, and all are the party's. For one hall this is the isolation of the
games (`Hall.after_isolated`). -/

namespace Tafl

namespace Party

/-- All that the party of a guest with a name can come to touch is part of `p`. -/
structure Fits (p : Party) (h : Hall) : Prop where
  named : ∀ g, h.guest? p.host = some g → g.name ≠ none
  home : ∀ g k, h.guest? p.host = some g → g.table = some k → p.table = some k
  seated : ∀ i g k, h.guest? i = some g → g.table = some k → p.table = some k → p.Member i
  hostLine : ∀ g l, h.guest? p.host = some g → g.line = some l → p.hostLine = some l
  rivalLine : ∀ o g l, p.rival = some o → h.guest? o = some g → g.line = some l →
    p.rivalLine = some l

/-- To the party the two halls look the same. -/
structure Alike (p : Party) (h k : Hall) : Prop where
  guests : ∀ i, p.Member i → k.guest? i = h.guest? i
  tables : ∀ j, p.table = some j → k.tables.get? j = h.tables.get? j
  budget : k.decayBudget = h.decayBudget

variable {p : Party} {h k : Hall} {e : Effect} {o : GuestId} {gi go : Guest} {t : Table} {s : Side}

theorem host_member : p.Member p.host := .inl rfl

theorem Alike.refl (p : Party) (h : Hall) : p.Alike h h := ⟨fun _ _ => rfl, fun _ _ => rfl, rfl⟩

theorem Alike.act (a : p.Alike h k) (e : Effect) : p.Alike (h.act e) (k.act e) where
  guests i hi := by
    have hsame : k.roster.get? i = h.roster.get? i := a.guests i hi
    show (e.onRoster k.roster).get? i = (e.onRoster h.roster).get? i
    rw [Hall.get?_onRoster, Hall.get?_onRoster, hsame]
  tables j hj := by
    show (e.onTables k.tables).get? j = (e.onTables h.tables).get? j
    rw [Hall.get?_onTables, Hall.get?_onTables, a.tables j hj]
  budget := a.budget

/-- Whoever is there after an effect of a party was there before, and has nothing new. -/
theorem exists_of_act (hw : e.Within p) {i : GuestId} {g' : Guest}
    (hg' : (h.act e).guest? i = some g') : ∃ g, h.guest? i = some g ∧ g'.name = g.name ∧
      g'.line = g.line ∧ (g'.table = g.table ∨ g'.table = none) := by
  have hget : (h.act e).guest? i = _ := Hall.get?_onRoster e h.roster i
  rw [hg'] at hget
  have same (hget : h.guest? i = some g') : ∃ g, h.guest? i = some g ∧ g'.name = g.name ∧
      g'.line = g.line ∧ (g'.table = g.table ∨ g'.table = none) := ⟨g', hget, rfl, rfl, .inl rfl⟩
  cases e with
  | revise j f =>
    dsimp only at hget
    split at hget
    · obtain ⟨g, hg, rfl⟩ := Option.map_eq_some_iff.1 hget.symm
      exact ⟨g, hg, hw.2 g⟩
    · exact same hget.symm
  | erase j =>
    dsimp only at hget
    split at hget
    · cases hget
    · exact same hget.symm
  | close | replace | put | count => exact same hget.symm

theorem Fits.act (f : p.Fits h) (hw : e.Within p) : p.Fits (h.act e) where
  named g' hg' := by
    obtain ⟨g, hg, hn, -⟩ := exists_of_act hw hg'
    exact hn ▸ f.named g hg
  home g' j hg' hj := by
    obtain ⟨g, hg, -, -, ht | ht⟩ := exists_of_act hw hg'
    · exact f.home g j hg (ht ▸ hj)
    · cases ht.symm.trans hj
  seated i g' j hg' hj hp := by
    obtain ⟨g, hg, -, -, ht | ht⟩ := exists_of_act hw hg'
    · exact f.seated i g j hg (ht ▸ hj) hp
    · cases ht.symm.trans hj
  hostLine g' l hg' hl := by
    obtain ⟨g, hg, -, hline, -⟩ := exists_of_act hw hg'
    exact f.hostLine g l hg (hline ▸ hl)
  rivalLine o g' l ho hg' hl := by
    obtain ⟨g, hg, -, hline, -⟩ := exists_of_act hw hg'
    exact f.rivalLine o g l ho hg (hline ▸ hl)

/-- The game of the party is the same in both halls. -/
theorem Alike.duel (a : p.Alike h k) (f : p.Fits h)
    (d : Duel h.guest? h.tables.get? p.host o gi go t s) :
    p.rival = some o ∧ Duel k.guest? k.tables.get? p.host o gi go t s := by
  have hhome := f.home gi t.id d.here d.table_here
  have ho : p.Member o := f.seated o go t.id d.there d.table_there hhome
  exact ⟨ho.resolve_left d.ne.symm, { d with
    here := (a.guests _ host_member).trans d.here
    there := (a.guests o ho).trans d.there
    table := (a.tables _ hhome).trans d.table }⟩

end Party

namespace Hall

/-- The halls `h` and `k` have become `h'` and `k'` by the same effects, all of which are those of
the party `p`, and still look the same to it. -/
structure Tandem (p : Party) (h k h' k' : Hall) : Prop where
  fits : p.Fits h'
  alike : p.Alike h' k'
  effects : ∃ es : List Effect, (∀ e ∈ es, e.Within p) ∧ h' = h.perform es ∧ k' = k.perform es

variable {p : Party} {h k h' k' : Hall} {first : Nat} {i o : GuestId} {g : Guest} {n : Notice}

namespace Tandem

theorem refl (f : p.Fits h) (a : p.Alike h k) : Tandem p h k h k :=
  ⟨f, a, [], fun _ he => absurd he List.not_mem_nil, rfl, rfl⟩

theorem act (t : Tandem p h k h' k') {e : Effect} (hw : e.Within p) :
    Tandem p h k (h'.act e) (k'.act e) := by
  obtain ⟨es, hes, hh, hk⟩ := t.effects
  refine ⟨t.fits.act hw, t.alike.act e, es ++ [e], ?_, ?_, ?_⟩
  · rw [List.forall_mem_append, List.forall_mem_singleton]
    exact ⟨hes, hw⟩
  · rw [perform_append, ← hh]
    rfl
  · rw [perform_append, ← hk]
    rfl

theorem guest?_eq (t : Tandem p h k h' k') (hi : p.Member i) : k'.guest? i = h'.guest? i :=
  t.alike.guests i hi

theorem line?_eq (t : Tandem p h k h' k') (hi : p.Member i) : k'.line? i = h'.line? i := by
  rw [line?, t.guest?_eq hi, line?]

theorem table?_eq (t : Tandem p h k h' k') : k'.table? p.host = h'.table? p.host :=
  table?_congr (t.guest?_eq Party.host_member) fun g j hg hj =>
    t.alike.tables j (t.fits.home g j hg hj)

/-! ### The small operations -/

theorem revise (t : Tandem p h k h' k') (hi : p.Member i) {f : Guest → Guest} (hf : Keeps f) :
    Tandem p h k (h'.revise i f) (k'.revise i f) :=
  t.act (e := .revise i f) ⟨hi, hf⟩

theorem count (t : Tandem p h k h' k') (n : Tally) :
    Tandem p h k (h'.act (.count n)) (k'.act (.count n)) :=
  t.act (e := .count n) trivial

theorem send (t : Tandem p h k h' k') (hi : p.Member i)
    (hn : p.rival = some i ∨ n.isChat = false) :
    Tandem p h k (h'.send i n) (k'.send i n) := by
  rw [← perform_say, ← perform_say, t.line?_eq hi]
  cases hl : h'.line? i with
  | none => exact t
  | some l =>
    obtain ⟨g, hg, hgl⟩ := (line?_eq_some_iff h' i l).1 hl
    refine (t.act (e := .put l (.frame n)) ?_).count _
    rcases hn with hr | hchat
    · exact .inl (t.fits.rivalLine i g l hr hg hgl)
    · rcases hi with rfl | hr
      · refine .inr ⟨t.fits.hostLine g l hg hgl, ?_⟩
        rintro text ⟨⟩
        cases hchat
      · exact .inl (t.fits.rivalLine i g l hr hg hgl)

theorem toLobby (t : Tandem p h k h' k') (hi : p.Member i) :
    Tandem p h k (h'.toLobby i) (k'.toLobby i) :=
  (t.revise hi fun _ => ⟨Guest.name_released, Guest.line_released, .inr Guest.table_released⟩).send
    hi (.inr rfl)

theorem settle (t : Tandem p h k h' k') (hi : p.Member i) (q : Phase) :
    Tandem p h k (h'.revise i (·.settle q)) (k'.revise i (·.settle q)) :=
  t.revise hi fun _ => ⟨Guest.name_settle q, Guest.line_settle q, .inl (Guest.table_settle q)⟩

theorem showMove (t : Tandem p h k h' k') (hr : p.rival = some o) (m : Move) (d : String) :
    Tandem p h k (h'.showMove p.host (some o) m d) (k'.showMove p.host (some o) m d) :=
  (((t.send Party.host_member (.inr rfl)).send Party.host_member (.inr rfl)).send (.inr hr)
    (.inl hr)).send (.inr hr) (.inl hr)

theorem passTurn (t : Tandem p h k h' k') (hr : p.rival = some o) :
    Tandem p h k (h'.passTurn p.host (some o)) (k'.passTurn p.host (some o)) :=
  (((t.settle Party.host_member _).send Party.host_member (.inr rfl)).settle (.inr hr) _).send
    (.inr hr) (.inl hr)

theorem settleGame (t : Tandem p h k h' k') (hr : p.rival = some o) {j : Nat}
    (hj : p.table = some j) (won : Bool) :
    Tandem p h k (h'.settleGame p.host (some o) j won) (k'.settleGame p.host (some o) j won) := by
  rw [settleGame_eq, settleGame_eq]
  have hsaid : (if won then Notice.won else .lost).isChat = false := by cases won <;> rfl
  have ht : Tandem p h k { h' with tables := h'.tables.close j }
      { k' with tables := k'.tables.close j } := t.act (e := .close j) hj
  exact (((ht.send Party.host_member (.inr hsaid)).toLobby Party.host_member).send (.inr hr)
    (.inl hr)).toLobby (.inr hr)

theorem strike (t : Tandem p h k h' k') : Tandem p h k (h'.strike p.host) (k'.strike p.host) := by
  unfold Hall.strike
  rw [t.guest?_eq Party.host_member]
  cases hg : h'.guest? p.host with
  | none => exact t
  | some g =>
    have he := (t.act (e := .erase p.host) rfl).count { disconnected := 1 }
    dsimp only
    cases hl : g.line with
    | none => exact he
    | some l => exact he.act (e := .put l .close) (.inr ⟨t.fits.hostLine g l hg hl, nofun⟩)

theorem sendGame (t : Tandem p h k h' k') :
    Tandem p h k (h'.sendGame p.host) (k'.sendGame p.host) := by
  unfold Hall.sendGame
  rw [t.guest?_eq Party.host_member, t.table?_eq]
  split
  · have hsaid (c : Prop) [Decidable c] :
        (if c then Notice.yourTurn else .opponentsTurn).isChat = false := by split <;> rfl
    exact (((t.send Party.host_member (.inr rfl)).send Party.host_member (.inr rfl)).send
      Party.host_member (.inr rfl)).send Party.host_member (.inr (hsaid _))
  · exact t

theorem sendPlace (t : Tandem p h k h' k') :
    Tandem p h k (h'.sendPlace p.host) (k'.sendPlace p.host) := by
  unfold Hall.sendPlace
  rw [t.table?_eq]
  split
  · exact t.sendGame
  · exact t.send Party.host_member (.inr rfl)

/-! ### Operations that look for the opponent -/

/-- The host plays in both halls, and against the same opponent, or it plays in neither. -/
theorem cases_table (t : Tandem p h k h' k') (ho : h'.Orderly first)
    (hg : h'.guest? p.host = some g) : g.table = none ∨
    ∃ o go tb s, p.rival = some o ∧ p.table = some tb.id ∧
      Duel h'.guest? h'.tables.get? p.host o g go tb s ∧
      Duel k'.guest? k'.tables.get? p.host o g go tb s := by
  cases hj : g.table with
  | none => exact .inl rfl
  | some j =>
    obtain ⟨o, go, tb, s, rfl, d⟩ := ho.duel hg hj
    obtain ⟨hr, d'⟩ := t.alike.duel t.fits d
    exact .inr ⟨o, go, tb, s, hr, t.fits.home g tb.id hg hj, d, d'⟩

section
variable (t : Tandem p h k h' k') (ho : h'.Orderly first) (hk : k'.Orderly first)
include t ho hk

theorem sendToOpponent (n : Notice) :
    Tandem p h k (h'.sendToOpponent p.host n) (k'.sendToOpponent p.host n) := by
  have hsame := t.guest?_eq Party.host_member
  unfold Hall.sendToOpponent
  cases hg : h'.guest? p.host with
  | none =>
    rw [hg] at hsame
    simpa [opponent?, hg, hsame] using t
  | some g =>
    rw [hg] at hsame
    rcases t.cases_table ho hg with hj | ⟨o, go, tb, s, hr, -, d, d'⟩
    · rw [opponent?_of_table_eq_none hg hj, opponent?_of_table_eq_none hsame hj]
      exact t
    · rw [ho.opponent?_eq d, hk.opponent?_eq d']
      exact t.send (.inr hr) (.inl hr)

theorem breakUp (n : Notice) :
    Tandem p h k (h'.breakUp p.host n) (k'.breakUp p.host n) := by
  have hsame := t.guest?_eq Party.host_member
  cases hg : h'.guest? p.host with
  | none =>
    rw [hg] at hsame
    simpa [Hall.breakUp, hg, hsame] using t
  | some g =>
    rw [hg] at hsame
    rcases t.cases_table ho hg with hj | ⟨o, go, tb, s, hr, htb, d, d'⟩
    · rwa [breakUp_of_table_eq_none hg hj, breakUp_of_table_eq_none hsame hj]
    · rw [breakUp_eq d.here d.table_here (ho.opponent?_eq d),
        breakUp_eq d'.here d'.table_here (hk.opponent?_eq d')]
      have hc : Tandem p h k { h' with tables := h'.tables.close tb.id }
          { k' with tables := k'.tables.close tb.id } := t.act (e := .close tb.id) htb
      have hrisen := hc.revise Party.host_member (f := fun g => { g with table := none })
        fun _ => ⟨rfl, rfl, .inr rfl⟩
      exact (hrisen.send (.inr hr) (.inl hr)).toLobby (.inr hr)

theorem drop : Tandem p h k (h'.drop p.host) (k'.drop p.host) := (t.breakUp ho hk _).strike

theorem welcomeBack : Tandem p h k (h'.welcomeBack p.host) (k'.welcomeBack p.host) := by
  have hw : Tandem p h k (h'.welcome p.host) (k'.welcome p.host) :=
    ((t.count { reconnected := 1 }).send Party.host_member (.inr rfl)).sendPlace
  exact hw.sendToOpponent (ho.of_eq (guest?_welcome ..) (tables_welcome ..))
    (hk.of_eq (guest?_welcome ..) (tables_welcome ..)) _

/-! ### Commands -/

theorem restore (hg : h'.guest? p.host = some g) (hl : g.line.isSome = true) :
    Tandem p h k (h'.revise p.host (·.restore h'.decayBudget))
      (k'.revise p.host (·.restore k'.decayBudget)) ∧
      (h'.revise p.host (·.restore h'.decayBudget)).Orderly first ∧
        (k'.revise p.host (·.restore k'.decayBudget)).Orderly first := by
  refine ⟨?_, ho.deed (.rouse hg hl), hk.deed (.rouse ((t.guest?_eq Party.host_member).trans hg) hl)⟩
  rw [t.alike.budget]
  exact t.revise Party.host_member fun _ => ⟨rfl, rfl, .inl rfl⟩

theorem onPong (hg : h'.guest? p.host = some g) (hl : g.line.isSome = true) :
    Tandem p h k (h'.onPong p.host) (k'.onPong p.host) := by
  obtain ⟨hr, hor, hkr⟩ := t.restore ho hk hg hl
  unfold Hall.onPong
  rw [t.guest?_eq Party.host_member, hg]
  dsimp only
  split
  · split
    · exact hr.sendToOpponent hor hkr _
    · exact hr
  · exact t

theorem onOwnName (hg : h'.guest? p.host = some g) (hl : g.line.isSome = true) :
    Tandem p h k (h'.onOwnName p.host g) (k'.onOwnName p.host g) := by
  obtain ⟨hr, hor, hkr⟩ := t.restore ho hk hg hl
  unfold Hall.onOwnName
  split
  · exact hr.welcomeBack hor hkr
  · exact t.send Party.host_member (.inr rfl)

theorem onConnect (hg : h'.guest? p.host = some g) (hl : g.line.isSome = true) (m : String) :
    Tandem p h k (h'.onConnect p.host m).1 (k'.onConnect p.host m).1 ∧
      (k'.onConnect p.host m).2 = (h'.onConnect p.host m).2 := by
  unfold Hall.onConnect
  rw [t.guest?_eq Party.host_member, hg]
  dsimp only
  cases hn : g.name with
  | none => exact absurd hn (t.fits.named g hg)
  | some own =>
    dsimp only
    split
    · exact ⟨t.onOwnName ho hk hg hl, rfl⟩
    · exact ⟨t, rfl⟩

theorem onMove (m : Move) : Tandem p h k (h'.onMove p.host m).1 (k'.onMove p.host m).1 ∧
    (k'.onMove p.host m).2 = (h'.onMove p.host m).2 := by
  have hsame := t.guest?_eq Party.host_member
  unfold Hall.onMove
  rw [hsame, t.table?_eq]
  cases hg : h'.guest? p.host with
  | none => exact ⟨t, rfl⟩
  | some g =>
    dsimp only
    rcases t.cases_table ho hg with hj | ⟨o, go, tb, s, hr, htb, d, d'⟩
    · rw [table?_of_guest? hg, hj]
      exact ⟨t, rfl⟩
    · rw [d.table?_eq]
      dsimp only
      rw [d.name_here, Option.getD_some]
      cases hp : tb.play (tb.player s) m with
      | error e => exact ⟨t.send Party.host_member (.inr rfl), rfl⟩
      | ok q =>
        obtain ⟨tb', r⟩ := q
        obtain ⟨-, b, -, rfl⟩ := play_eq_ok_of_duel d hp
        have hc : Tandem p h k { h' with tables := h'.tables.replace (tb.after b r) }
            { k' with tables := k'.tables.replace (tb.after b r) } :=
          t.act (e := .replace (tb.after b r)) htb
        have hop : { h' with tables := h'.tables.replace (tb.after b r) }.opponent? p.host = some o :=
          ho.opponent?_replace d rfl (tb.player_after b r)
        have hop' : { k' with tables := k'.tables.replace (tb.after b r) }.opponent? p.host = some o :=
          hk.opponent?_replace d' rfl (tb.player_after b r)
        dsimp only
        rw [hop, hop']
        cases r.winner with
        | none =>
          dsimp only
          exact ⟨(hc.showMove hr m _).passTurn hr, rfl⟩
        | some w =>
          dsimp only
          exact ⟨(hc.showMove hr m _).settleGame hr htb _, rfl⟩

theorem onLeave : Tandem p h k (h'.onLeave p.host).1 (k'.onLeave p.host).1 ∧
    (k'.onLeave p.host).2 = (h'.onLeave p.host).2 := by
  unfold Hall.onLeave
  rw [t.guest?_eq Party.host_member]
  split
  · have hs := t.send (n := .left) Party.host_member (.inr rfl)
    exact ⟨(hs.breakUp (ho.send _) (hk.send _) _).toLobby Party.host_member, rfl⟩
  · exact ⟨t, rfl⟩

/-- A command of the host does the same in both halls, and the host may stay in both or in none. -/
theorem obey (hl : (h'.line? p.host).isSome = true) (c : Command) :
    Tandem p h k (h'.obey p.host c).1 (k'.obey p.host c).1 ∧
      (k'.obey p.host c).2 = (h'.obey p.host c).2 := by
  obtain ⟨g, hg⟩ := exists_guest?_of_line? hl
  rw [line?_of_guest? hg] at hl
  unfold Hall.obey
  rw [t.guest?_eq Party.host_member, hg]
  dsimp only
  split
  · exact ⟨t, rfl⟩
  · cases c with
    | ping => exact ⟨t.send Party.host_member (.inr rfl), rfl⟩
    | pong => exact ⟨t.onPong ho hk hg hl, rfl⟩
    | connect m => exact t.onConnect ho hk hg hl m
    | move m => exact t.onMove ho hk m
    | leave => exact t.onLeave ho hk
    | chat text => exact ⟨t.sendToOpponent ho hk _, rfl⟩
    | exit => exact ⟨t, rfl⟩

theorem obeyAll {cs : List Command} (hcs : ∀ c ∈ cs, c.IsSent)
    (hl : (h'.line? p.host).isSome = true) :
    Tandem p h k (h'.obeyAll p.host cs) (k'.obeyAll p.host cs) := by
  induction cs generalizing h' k' with
  | nil => exact t
  | cons c cs ih =>
    rw [List.forall_mem_cons] at hcs
    have hl' := t.line?_eq Party.host_member ▸ hl
    have hd := ho.obey hl hcs.1
    have hd' := hk.obey hl' hcs.1
    obtain ⟨hc, hv⟩ := t.obey ho hk hl c
    have hstill := hd.line?_eq.symm ▸ hl
    unfold Hall.obeyAll
    rcases hh : h'.obey p.host c with ⟨h'', v⟩
    rcases hkk : k'.obey p.host c with ⟨k'', v'⟩
    rw [hh, hkk] at hc hv
    rw [hh] at hd hstill
    rw [hkk] at hd'
    obtain rfl : v' = v := hv
    cases v' with
    | stay => exact ih hc (hd.orderly ho) (hd'.orderly hk) hcs.2 hstill
    | leave why => exact hc.drop (hd.orderly ho) (hd'.orderly hk)

/-! ### Events -/

theorem receive (bytes : ByteArray) :
    Tandem p h k (h'.receive p.host bytes) (k'.receive p.host bytes) := by
  have hc : Tandem p h k { h' with tally.bytesReceived := h'.tally.bytesReceived + bytes.size }
      { k' with tally.bytesReceived := k'.tally.bytesReceived + bytes.size } :=
    t.count { bytesReceived := bytes.size }
  unfold Hall.receive
  dsimp only
  generalize hh : { h' with tally.bytesReceived := h'.tally.bytesReceived + bytes.size } = h'' at hc
  generalize hkk : { k' with tally.bytesReceived := k'.tally.bytesReceived + bytes.size } = k'' at hc
  have ho : h''.Orderly first := by subst hh; exact ho
  have hk : k''.Orderly first := by subst hkk; exact hk
  rw [hc.line?_eq Party.host_member]
  split
  · exact hc
  · rename_i hl
    rw [Option.isNone_iff_eq_none, ← ne_eq, ← Option.isSome_iff_ne_none] at hl
    split
    · exact hc.drop ho hk
    · rename_i rs hd
      exact hc.obeyAll ho hk (isSent_of_decode hd) hl

theorem lineClosed : Tandem p h k (h'.lineClosed p.host) (k'.lineClosed p.host) := by
  unfold Hall.lineClosed
  rw [t.line?_eq Party.host_member]
  split
  · exact t.drop ho hk
  · exact t

theorem writeFailed : Tandem p h k (h'.writeFailed p.host) (k'.writeFailed p.host) := by
  have hsame := t.guest?_eq Party.host_member
  unfold Hall.writeFailed
  rw [hsame]
  cases hg : h'.guest? p.host with
  | none => exact t
  | some g =>
    rw [hg] at hsame
    dsimp only
    split
    · exact t
    · rename_i hp
      rw [not_or] at hp
      have hr := t.revise Party.host_member (f := Guest.lose) fun _ => ⟨rfl, rfl, .inl rfl⟩
      split
      · exact hr.sendToOpponent (ho.change (.lose hg hp.1 hp.2)) (hk.change (.lose hsame hp.1 hp.2)) _
      · exact hr

theorem handle {e : Event} (he : e.guest = p.host) (hno : e.arrivals = []) :
    Tandem p h k (h'.handle e) (k'.handle e) := by
  cases e with
  | connected => cases hno
  | data i bytes =>
    obtain rfl : i = p.host := he
    exact t.receive ho hk bytes
  | closed i =>
    obtain rfl : i = p.host := he
    exact t.lineClosed ho hk
  | writeFailed i =>
    obtain rfl : i = p.host := he
    exact t.writeFailed ho hk

end

end Tandem

/-! ### The games are isolated -/

def partyOf (h : Hall) (i : GuestId) : Party where
  host := i
  rival := h.opponent? i
  table := (h.guest? i).bind Guest.table
  hostLine := h.line? i
  rivalLine := (h.opponent? i).bind h.line?

theorem Orderly.fits (ho : h.Orderly first) (hg : h.guest? i = some g) (hn : g.name ≠ none) :
    (h.partyOf i).Fits h where
  named x hx := by
    obtain rfl := Option.some.inj (hg.symm.trans hx)
    exact hn
  home x j hx hj := Option.bind_eq_some_iff.2 ⟨x, hx, hj⟩
  seated j x k hx hk hp := by
    obtain ⟨y, hy, hyk⟩ := Option.bind_eq_some_iff.1 hp
    obtain ⟨o, go, t, s, rfl, d⟩ := ho.duel hy hyk
    rcases InOrder.eq_or_eq ho (ho.duel_since d) hx hk with hj | hj
    · exact .inl hj
    · exact .inr (hj ▸ ho.opponent?_eq d)
  hostLine x l hx hl := (line?_of_guest? hx).trans hl
  rivalLine o x l hop hx hl := Option.bind_eq_some_iff.2 ⟨o, hop, (line?_of_guest? hx).trans hl⟩

/-- From the hall `h` to the hall `h'` nothing has changed for anybody but the guest `i` and its
opponent, and what was chatted has come to the opponent alone. -/
structure Isolated (h h' : Hall) (i : GuestId) : Prop where
  guests : ∀ j, j ≠ i → h.opponent? i ≠ some j → h'.guest? j = h.guest? j
  tables : ∀ k, (h.guest? i).bind Guest.table ≠ some k → h'.tables.get? k = h.tables.get? k
  /-- No table is opened. -/
  running : (h'.tables.running.map Table.id).Sublist (h.tables.running.map Table.id)
  /-- Nobody comes, and nobody changes places. -/
  order : h'.roster.ids.Sublist h.roster.ids
  lines : ∀ l, h.line? i ≠ some l → (h.opponent? i).bind h.line? ≠ some l → h'.sentOn l = h.sentOn l
  chat : ∀ l, (h.opponent? i).bind h.line? ≠ some l →
    ∃ os, h'.sentOn l = h.sentOn l ++ os ∧ ∀ text, .frame (.chat text) ∉ os

theorem Tandem.isolated (t : Tandem (h.partyOf i) h k h' k') : h.Isolated h' i := by
  obtain ⟨es, hes, rfl, -⟩ := t.effects
  refine ⟨fun j hj hop => guest?_perform hes ?_, fun j hj => get?_perform hes hj,
    running_perform h es, ids_perform h es, fun l hl hr => sentOn_perform_of_not hes ?_,
    fun l hl => ⟨_, sentOn_perform h es l, fun text => ?_⟩⟩
  · rintro (rfl | hr)
    · exact hj rfl
    · exact hop hr
  · rintro (hhost | hrival)
    · exact hl hhost
    · exact hr hrival
  · rw [List.mem_flatMap]
    rintro ⟨e, he, hchat⟩
    exact chat_notMem_said (hes e he) hl text hchat

/-- Whatever comes over the line of a guest with a name, and also when its line is closed or fails,
nothing changes for anybody but the guest and its opponent. -/
theorem after_isolated (capacity maxTables budget : Nat) {xs : List Incident}
    (hp : Incident.Plausible xs) {i : GuestId} {g : Guest} {e : Event} :
    let h := (vacant capacity maxTables budget).after xs
    h.guest? i = some g → g.name ≠ none → e.guest = i → e.arrivals = [] →
      h.Isolated (h.handle e) i := by
  intro h hg hn he hno
  obtain ⟨first, r⟩ := hp.reached capacity maxTables budget
  have ho : h.Orderly first := Reached.orderly r
  have t : Tandem (h.partyOf i) h h h h := .refl (ho.fits hg hn) (.refl _ _)
  exact (t.handle ho ho he hno).isolated

/-- While two others play, Ada and Bob do. Ada makes her move, chats, leaves, and sends something
that she may not send. -/
theorem after_isolated_two_games :
    let xs : List Incident := [.arrival 1 "a" 0, .command 1 (.connect "Ada"), .arrival 2 "b" 1,
      .command 2 (.connect "Bob"), .arrival 3 "c" 2, .command 3 (.connect "Carl"),
      .arrival 4 "d" 3, .command 4 (.connect "Dora"), .matchmake]
    let g : Guest := { name := some "Ada", origin := "a", table := some 1, phase := .onTurn,
                       saved := .new, decay := 3, line := some 0 }
    let e : Event := .data 1 (Request.frame [.move ⟨⟨3, 0⟩, ⟨3, 1⟩⟩, .chat "bye", .leave,
      .leave]).toUTF8
    let h := (vacant 4 2 3).after xs
    (Incident.Plausible xs ∧ h.guest? 1 = some g ∧ g.name ≠ none ∧ e.guest = 1 ∧
        e.arrivals = []) ∧
      ((h.handle e).roster.ids = [2, 3, 4] ∧ (h.handle e).tables.running.map Table.id = [2]) ∧
      h.Isolated (h.handle e) 1 := by
  intro xs g e h
  have hp : Incident.Plausible xs := by decide +kernel
  have hg : h.guest? 1 = some g := by decide +kernel
  have hn : g.name ≠ none := by simp [g]
  exact ⟨⟨hp, hg, hn, rfl, rfl⟩, ⟨by decide +kernel, by decide +kernel⟩,
    after_isolated 4 2 3 hp hg hn rfl rfl⟩

end Hall

end Tafl
