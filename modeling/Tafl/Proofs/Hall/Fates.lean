import Tafl.Proofs.Hall.Replies
import Tafl.Proofs.Hall.Sweeps

/-! # What becomes of a record

When something happens in a hall, each record goes for one of four reasons (`Gone`), or there are
ten things that can have become of it (`Fate`). What is true of every record, whatever happens, is
proved by looking at these (`Reached.fate`). -/

namespace Tafl
open Function (update)

namespace Hall

/-- Why the game of the guest `i` can end when `x` happens. -/
inductive Ends (h : Hall) (x : Incident) (i : GuestId) : Prop
  /-- One of the two players has ended it by a command, or has left. -/
  | player {j : GuestId} (author : x.author? = some j) (near : j = i ∨ h.opponent? i = some j)
  /-- The opponent had to make room for a newcomer. -/
  | reclaimed {id : GuestId} {origin : Origin} {line : Line} {o : GuestId}
      (arrival : x = .arrival id origin line) (full : h.capacity ≤ h.roster.size)
      (first : h.roster.longestDisconnected? = some o) (opponent : h.opponent? i = some o)
  | swept (sweep : x = .sweep)

/-- Why the guest `i`, whose record is `g`, can be gone after `x` has led from `h` to `h'`. -/
inductive Gone (h : Hall) (x : Incident) (h' : Hall) (i : GuestId) (g : Guest) : Prop
  | left (author : x.author? = some i)
  | reclaimed {id : GuestId} {origin : Origin} {line : Line} (arrival : x = .arrival id origin line)
      (full : h.capacity ≤ h.roster.size) (first : h.roster.longestDisconnected? = some i)
  | swept {g₁ : Guest} (sweep : x = .sweep) (before : g.Spared h'.tables.get? g₁)
      (spent : g₁.IsSpent) (closed : ∀ k, g.table = some k → h'.tables.get? k = none)
  | shutDown (down : x = .shutDown)

/-- What the record `g` of the guest `i` can be after `x` has led from `h` to `h'`. -/
inductive Fate (h : Hall) (x : Incident) (h' : Hall) (i : GuestId) (g : Guest) : Guest → Prop
  | same : Fate h x h' i g g
  /-- The guest has answered. -/
  | back (asked : x = .command i .pong ∨ ∃ n, x = .command i (.connect n)) (line : g.line ≠ none) :
      Fate h x h' i g (g.restore h.decayBudget)
  | name {n : String} (asked : x = .command i (.connect n)) (stranger : g.name = none)
      (line : g.line ≠ none) :
      Fate h x h' i g ({ g.restore h.decayBudget with name := some n }.settle .waiting)
  | inherit {n : String} {o : GuestId} {go : Guest} (asked : x = .command i (.connect n))
      (returns : h.Returns o i go g n) : Fate h x h' i g (g.heir go h.decayBudget)
  | abandon {n : String} {j : GuestId} {gj : Guest} (asked : x = .command j (.connect n))
      (returns : h.Returns i j g gj n) : Fate h x h' i g g.relict
  /-- One of the players has moved, and each has the phase that the other one had. -/
  | turn {o : GuestId} {go : Guest} {t t' : Table} {s : Side} {m : Move} {r : Report}
      (duel : Duel h.guest? h.tables.get? i o g go t s)
      (asked : x = .command (if s = t.onTurn then i else o) (.move m))
      (move : t.play t.playerOnTurn m = .ok (t', r)) (goes_on : r.winner = none)
      (there : h'.guest? o = some (go.settle (t.phaseOf s))) :
      Fate h x h' i g (g.settle (t.phaseOf s.opponent))
  | released {k : Nat} (table : g.table = some k) (closed : h'.tables.get? k = none)
      (ends : h.Ends x i) : Fate h x h' i g g.released
  | sat {k : Nat} {p : Phase} (matched : x = .matchmake) (waiting : g.phase = .waiting)
      (plays : p.isPlaying = true) : Fate h x h' i g (g.sit k p)
  | lost (failed : x = .writeFailed i) (lost : g.phase ≠ .lost)
      (disconnected : g.phase ≠ .disconnected) : Fate h x h' i g g.lose
  | swept {g₁ g₂ g₃ : Guest} (sweep : x = .sweep) (before : g.Spared h'.tables.get? g₁)
      (sinks : g₁.Sinks h.decayBudget g₂) (after : g₂.Spared h'.tables.get? g₃) :
      Fate h x h' i g g₃

/-- What comes of the guest `i`, whose record is `g`, when `x` leads from `h` to `h'`. -/
inductive Ensues (h : Hall) (x : Incident) (h' : Hall) (i : GuestId) (g : Guest) : Prop
  | gone (absent : h'.guest? i = none) (why : h.Gone x h' i g)
  | stays {g' : Guest} (there : h'.guest? i = some g') (fate : h.Fate x h' i g g')

variable {h h' : Hall} {first : Nat} {i j o id : GuestId} {g gj go : Guest} {x : Incident}
  {ps : List Pair}

theorem Ensues.same (hg : h.guest? i = some g) (hi : h'.guest? i = h.guest? i) :
    h.Ensues x h' i g := .stays (hi.trans hg) .same

/-- If nothing has changed but the record of `j`, what becomes of it is all there is to say. -/
theorem Ensues.of_update {gj' : Guest} (hg : h.guest? i = some g) (hgj : h.guest? j = some gj)
    (guests : h'.guest? = update h.guest? j (some gj')) (fate : h.Fate x h' j gj gj') :
    h.Ensues x h' i g := by
  by_cases hij : i = j
  · subst hij
    obtain rfl := Option.some.inj (hg.symm.trans hgj)
    exact .stays (by rw [guests, Function.update_self]) fate
  · exact .same hg (by rw [guests, Function.update_of_ne hij])

theorem Ensues.of_updates {gj' go' : Guest} (hg : h.guest? i = some g) (hgj : h.guest? j = some gj)
    (hgo : h.guest? o = some go) (hjo : j ≠ o)
    (guests : h'.guest? = update (update h.guest? j (some gj')) o (some go'))
    (fate : h.Fate x h' j gj gj') (fate' : h.Fate x h' o go go') : h.Ensues x h' i g := by
  by_cases hio : i = o
  · subst hio
    obtain rfl := Option.some.inj (hg.symm.trans hgo)
    exact .stays (by rw [guests, Function.update_self]) fate'
  by_cases hij : i = j
  · subst hij
    obtain rfl := Option.some.inj (hg.symm.trans hgj)
    exact .stays (by rw [guests, Function.update_of_ne hio, Function.update_self]) fate
  · exact .same hg (by rw [guests, Function.update_of_ne hio, Function.update_of_ne hij])

/-! ### Commands -/

theorem Orderly.fate_reply {c : Command} (ho : h.Orderly first) (hg : h.guest? i = some g)
    (hgj : h.guest? j = some gj) (hl : gj.line ≠ none) (hr : h.Reply j gj c h') :
    h.Ensues (.command j c) h' i g := by
  cases hr with
  | same guests => exact .same hg (congrFun guests i)
  | back asked guests =>
    refine .of_update hg hgj guests (.back ?_ hl)
    rcases asked with rfl | ⟨n, rfl⟩
    · exact .inl rfl
    · exact .inr ⟨n, rfl⟩
  | name asked stranger guests =>
    subst asked
    exact .of_update hg hgj guests (.name rfl stranger hl)
  | resume asked returns guests =>
    subst asked
    exact .of_updates hg returns.old hgj returns.ne guests (.abandon rfl returns)
      (.inherit rfl returns)
  | @turn o go t t' m r asked duel move goes_on guests table =>
    subst asked
    have hon : t.phaseOf t.onTurn = .onTurn := if_pos rfl
    have hstand : t.phaseOf t.onTurn.opponent = .onStand := if_neg t.onTurn.opponent_ne
    -- the one who moves has the phase of the other side from now on, and so has the opponent
    rw [← hon, ← hstand] at guests
    refine .of_updates hg hgj duel.there duel.ne guests ?_ ?_
    · exact .turn duel (by rw [if_pos rfl]) move goes_on (by rw [guests, Function.update_self])
    · have hback := Fate.turn duel.symm (by rw [if_neg t.onTurn.opponent_ne]) move goes_on
        (by rw [guests, Function.update_of_ne duel.ne, Function.update_self])
      rwa [t.onTurn.opponent_opponent] at hback
  | @ended o go t s asked duel guests closed =>
    exact .of_updates hg hgj duel.there duel.ne guests
      (.released duel.table_here closed (.player rfl (.inl rfl)))
      (.released duel.table_there closed (.player rfl (.inr (ho.opponent?_eq duel.symm))))

theorem Orderly.fate_obey (ho : h.Orderly first) (hg : h.guest? i = some g)
    (hl : (h.line? j).isSome = true) (c : Command) : h.Ensues (.command j c) (h.obey j c).1 i g := by
  obtain ⟨gj, hgj⟩ := exists_guest?_of_line? hl
  rw [line?_of_guest? hgj, Option.isSome_iff_ne_none] at hl
  exact ho.fate_reply hg hgj hl (ho.reply hgj hl c)

/-! ### Somebody goes -/

theorem Orderly.fate_drop (ho : h.Orderly first) (hg : h.guest? i = some g)
    (hx : x.author? = some j) : h.Ensues x (h.drop j) i g := by
  by_cases hij : i = j
  · subst hij
    exact .gone guest?_drop_self (.left hx)
  · rcases ho.drop_cases hg hij with hsame | ⟨hop, hreleased, k, hk, hclosed⟩
    · exact .same hg (hsame.trans hg.symm)
    · exact .stays hreleased (.released hk hclosed (.player hx (.inr hop)))

/-- Whoever comes is somebody else. The guest itself or its opponent may have to make room. -/
theorem Orderly.fate_accept (ho : h.Orderly first) (hg : h.guest? i = some g) (hid : i ≠ id)
    (origin : Origin) (line : Line) :
    h.Ensues (.arrival id origin line) (h.accept id origin line).1 i g := by
  by_cases hroom : h.roster.size < h.capacity
  · rw [accept_of_room hroom]
    exact .same hg (guest?_enrol_of_ne hid)
  have hfull := Nat.le_of_not_lt hroom
  cases hold : h.roster.longestDisconnected? with
  | none =>
    rw [accept, if_neg hroom, hold]
    exact .same hg rfl
  | some old =>
    rw [accept_of_full hfull hold]
    have henrol : ((h.drop old).enrol id origin line).guest? i = (h.drop old).guest? i :=
      guest?_enrol_of_ne hid
    by_cases hio : i = old
    · subst hio
      exact .gone (henrol.trans guest?_drop_self) (.reclaimed rfl hfull hold)
    · rcases ho.drop_cases hg hio with hsame | ⟨hop, hreleased, k, hk, hclosed⟩
      · exact .same hg (henrol.trans (hsame.trans hg.symm))
      · exact .stays (henrol.trans hreleased)
          (.released hk hclosed (.reclaimed rfl hfull hold hop))

/-! ### Matchmaking -/

theorem guest?_foldl_pair_of_notMem (hl : h.Lineup ps) (hi : i ∉ Pair.ids ps) :
    (ps.foldl pair h).guest? i = h.guest? i := by
  induction ps generalizing h with
  | nil => rfl
  | cons p ps ih =>
    simp only [Pair.ids, List.flatMap_cons, List.cons_append, List.nil_append, List.mem_cons,
      not_or] at hi
    rw [List.foldl_cons, ih hl.tail_pair hi.2.2, pair, guest?_announce,
      guest?_seat_of_ne hi.1 hi.2.1]

/-- Nobody is in two pairs, so a guest sits down at most once. -/
theorem guest?_foldl_pair (hl : h.Lineup ps) (hg : h.guest? i = some g) :
    (ps.foldl pair h).guest? i = some g ∨ g.phase = .waiting ∧
      ∃ k p, p.isPlaying = true ∧ (ps.foldl pair h).guest? i = some (g.sit k p) := by
  induction ps generalizing h with
  | nil => exact .inl hg
  | cons p ps ih =>
    obtain ⟨⟨gi, hi, -, hpi⟩, ⟨go, ho, -, hpo⟩⟩ := hl.waits p (List.mem_cons_self ..)
    have hpair := guest?_pair hi ho hl.ne
    rw [List.foldl_cons]
    by_cases hib : i = p.1.1
    · obtain rfl := Option.some.inj (hg.symm.trans (hib ▸ hi))
      refine .inr ⟨hpi, h.tables.opened + 1, .onTurn, rfl, ?_⟩
      rw [guest?_foldl_pair_of_notMem hl.tail_pair (hib ▸ hl.not_mem_ids.1), hpair,
        Function.update_of_ne (hib ▸ hl.ne), hib, Function.update_self]
    by_cases hiw : i = p.2.1
    · obtain rfl := Option.some.inj (hg.symm.trans (hiw ▸ ho))
      refine .inr ⟨hpo, h.tables.opened + 1, .onStand, rfl, ?_⟩
      rw [guest?_foldl_pair_of_notMem hl.tail_pair (hiw ▸ hl.not_mem_ids.2), hpair, hiw,
        Function.update_self]
    · refine ih hl.tail_pair ?_
      rw [hpair, Function.update_of_ne hiw, Function.update_of_ne hib, hg]

theorem Reached.fate_matchmake {c m b : Nat} {as : List (GuestId × Line)}
    (r : Reached c m b first as h) (hg : h.guest? i = some g) :
    h.Ensues .matchmake h.matchmake i g := by
  have hpairs := guest?_foldl_pair h.lineup_pairs hg
  rw [← matchmake_eq (Reached.orderly r) (Reached.first_le r)] at hpairs
  rcases hpairs with hsame | ⟨hwaits, k, p, hp, hsat⟩
  · exact .stays hsame .same
  · exact .stays hsat (.sat rfl hwaits hp)

/-! ### Silence -/

theorem guest?_writeFailed (hgj : h.guest? j = some gj) : (h.writeFailed j).guest? =
    if gj.phase = .lost ∨ gj.phase = .disconnected then h.guest?
    else update h.guest? j (some gj.lose) := by
  unfold writeFailed
  rw [hgj]
  dsimp only
  split
  · rfl
  · split <;> simp [guest?_revise, hgj]

theorem fate_writeFailed (hg : h.guest? i = some g) (j : GuestId) :
    h.Ensues (.writeFailed j) (h.writeFailed j) i g := by
  cases hgj : h.guest? j with
  | none => exact .same hg (by simp [writeFailed, hgj])
  | some gj =>
    have hguest := guest?_writeFailed hgj
    split at hguest
    · exact .same hg (congrFun hguest i)
    · rename_i hp
      rw [not_or] at hp
      exact .of_update hg hgj hguest (.lost rfl hp.1 hp.2)

theorem Orderly.fate_sweep (ho : h.Orderly first) (hg : h.guest? i = some g) :
    h.Ensues .sweep h.sweep i g := by
  obtain ⟨g₁, s₁, ⟨hspent, hnone, hclosed⟩ | ⟨g₂, g₃, hsinks, s₃, hg₃⟩⟩ := ho.sweep_cases hg
  · exact .gone hnone (.swept rfl s₁ (Guest.sink_eq_none_iff.1 hspent) hclosed)
  · exact .stays hg₃ (.swept rfl s₁ (.of_sink hsinks) s₃)

/-! ### Whatever happens -/

theorem Reached.fate {c m b : Nat} {as : List (GuestId × Line)} (r : Reached c m b first as h)
    (hf : ((as ++ x.arrivals).map Prod.fst).Nodup) (hg : h.guest? i = some g) :
    h.Ensues x (h.meet x) i g := by
  have ho := Reached.orderly r
  cases x with
  | received n => exact .same hg rfl
  | command j c =>
    unfold Hall.meet
    dsimp only
    split
    · rename_i hl
      exact ho.fate_obey hg hl c
    · exact .same hg rfl
  | leave j =>
    unfold Hall.meet lineClosed
    dsimp only
    split
    · exact ho.fate_drop hg rfl
    · exact .same hg rfl
  | arrival id origin line => exact ho.fate_accept hg (Reached.ne_newcomer r hf hg) origin line
  | writeFailed j => exact fate_writeFailed hg j
  | matchmake => exact Reached.fate_matchmake r hg
  | sweep => exact ho.fate_sweep hg
  | shutDown => exact .gone (congrFun (guest?_shutDown h) i) (.shutDown rfl)

end Hall

end Tafl
