import Tafl.Proofs.Hall.Fates

/-! # From phase to phase

`Hall.after_edges`: whatever happens in a hall, the phase of a guest changes along the edges of
`Phase.Edge` only, and the phase that counts in its game along those of `Hall.GameEdge`. -/

namespace Tafl

/-- The edges along which the phase of the guest `i` can change when `x` happens. -/
inductive Phase.Edge (x : Incident) (i : GuestId) : Phase → Phase → Prop
  | stay (p : Phase) : Edge x i p p
  /-- A guest that answers goes on in its game or in the lobby. -/
  | play {p q : Phase} (awake : p.isAway = false) (awake' : q.isAway = false) : Edge x i p q
  | ping {p : Phase} (sweep : x = .sweep) (awake : p.isAway = false) : Edge x i p .pinged
  | miss (sweep : x = .sweep) : Edge x i .pinged .lost
  | fail {p : Phase} (failed : x = .writeFailed i) (lost : p ≠ .lost)
      (disconnected : p ≠ .disconnected) : Edge x i p .lost
  | cut (sweep : x = .sweep) : Edge x i .lost .disconnected
  | back {p q : Phase} (asked : x = .command i .pong ∨ ∃ n, x = .command i (.connect n))
      (away : p = .pinged ∨ p = .lost) (awake : q.isAway = false) : Edge x i p q

namespace Hall

/-- What happens, and what follows at once: who breaks the rules by a command is dropped. -/
def undergo (h : Hall) : Incident → Hall
  | .command id c => if (h.line? id).isSome then h.obeyAll id [c] else h
  | x => h.meet x

/-- The edges along which the phase that counts for the guest `i` can change when `x` leads from `h`
to `h'`, and the record `g` becomes `g'`. -/
inductive GameEdge (h : Hall) (x : Incident) (h' : Hall) (i : GuestId) (g g' : Guest) : Prop
  | stay (same : g'.logical = g.logical)
  | name {n : String} (asked : x = .command i (.connect n)) (stranger : g.name = none)
      (named : g'.name = some n) (before : g.logical = .new) (after : g'.logical = .waiting)
  /-- A stranger takes over from a guest that is away. -/
  | inherit {n : String} {o : GuestId} {go : Guest} (asked : x = .command i (.connect n))
      (returns : h.Returns o i go g n) (named : g'.name = some n) (before : g.logical = .new)
      (after : g'.logical = go.saved)
  | sit (matched : x = .matchmake) (before : g.logical = .waiting)
      (after : g'.logical.isPlaying = true)
  /-- The two players have changed places by a move that was accepted. -/
  | turn {o : GuestId} {go go' : Guest} {t t' : Table} {s : Side} {m : Move} {r : Report}
      (duel : Duel h.guest? h.tables.get? i o g go t s)
      (asked : x = .command (if s = t.onTurn then i else o) (.move m))
      (move : t.play t.playerOnTurn m = .ok (t', r)) (goes_on : r.winner = none)
      (there : h'.guest? o = some go')
      (swapped : g'.logical = go.logical ∧ go'.logical = g.logical)
      (phases : (g.logical, g'.logical) ∈ [(.onTurn, .onStand), (.onStand, .onTurn)])
  /-- The table of the guest was closed. -/
  | rise {k : Nat} (table : g.table = some k) (closed : h'.tables.get? k = none)
      (free : g'.table = none) (ends : h.Ends x i) (before : g.logical.isPlaying = true)
      (after : g'.logical = .waiting)

variable {h h' : Hall} {first : Nat} {i : GuestId} {g g' : Guest} {x : Incident}

/-! ### The phase -/

/-- The phase of a game is noted as the saved one while the guest is away. -/
theorem edge_settle {p : Phase} (hp : p.isAway = false) :
    Phase.Edge x i g.phase (g.settle p).phase := by
  rw [Guest.phase_settle]
  split
  · exact .stay _
  · exact .play (Bool.eq_false_of_not_eq_true ‹_›) hp

/-- A guest that has a line is not disconnected, so that it can answer. -/
theorem edge_answer {T : Nat → Option Table} (hp : g.Proper T) (hl : g.line ≠ none)
    (asked : x = .command i .pong ∨ ∃ n, x = .command i (.connect n)) {q : Phase}
    (hq : q.isAway = false) : Phase.Edge x i g.phase q := by
  by_cases ha : g.phase.isAway = true
  · refine .back asked ?_ hq
    have hcut := hp.cut
    cases hphase : g.phase <;> simp_all [Phase.isAway]
  · exact .play (Bool.eq_false_of_not_eq_true ha) hq

theorem Fate.edge (ho : h.Orderly first) (hg : h.guest? i = some g) (f : h.Fate x h' i g g') :
    Phase.Edge x i g.phase g'.phase := by
  have hp := ho.proper i g hg
  cases f with
  | same | abandon => exact .stay _
  | back asked line => exact edge_answer hp line asked (hp.isAway_restore _)
  | name asked stranger line =>
    refine edge_answer hp line (.inr ⟨_, asked⟩) ?_
    rw [Guest.phase_settle]
    split
    · exact hp.isAway_restore h.decayBudget
    · rfl
  | inherit asked returns =>
    exact edge_answer hp returns.line (.inr ⟨_, asked⟩) (ho.proper _ _ returns.old).saved
  | turn => exact edge_settle (Table.isAway_phaseOf ..)
  | released => exact edge_settle (g := { g with table := none }) rfl
  | @sat k p matched waiting plays =>
    exact edge_settle (g := { g with table := some k }) (Phase.isAway_of_isPlaying plays)
  | lost failed lost disconnected => exact .fail failed lost disconnected
  | @swept g₁ g₂ g₃ sweep before sinks after =>
    cases sinks with
    | ping awake =>
      rw [after.phase_eq rfl]
      exact .ping sweep (before.isAway_eq ▸ awake)
    | lose pinged =>
      have hg₁ := before.phase_eq (by rw [← before.isAway_eq, pinged]; rfl)
      rw [after.phase_eq rfl, ← hg₁, pinged]
      exact .miss sweep
    | disconnect lost =>
      have hg₁ := before.phase_eq (by rw [← before.isAway_eq, lost]; rfl)
      rw [after.phase_eq rfl, ← hg₁, lost]
      exact .cut sweep
    | fade disconnected =>
      have hg₁ := before.phase_eq (by rw [← before.isAway_eq, disconnected]; rfl)
      rw [after.phase_eq (by rw [disconnected]; rfl), ← hg₁]
      exact .stay _

/-! ### The phase that counts -/

theorem Fate.gameEdge (ho : h.Orderly first) (hg : h.guest? i = some g)
    (f : h.Fate x h' i g g') : h.GameEdge x h' i g g' := by
  have hp := ho.proper i g hg
  cases f with
  | same | abandon => exact .stay rfl
  | back => exact .stay (Guest.logical_restore hp.saved _)
  | name asked stranger line =>
    exact .name asked stranger (Guest.name_settle _) (hp.logical_of_stranger stranger line)
      (Guest.logical_settle rfl)
  | inherit asked returns =>
    exact .inherit asked returns returns.name
      (hp.logical_of_stranger returns.stranger returns.line)
      (Guest.logical_of_awake (ho.proper _ _ returns.old).saved)
  | @turn o go t t' s m r duel asked move goes_on there =>
    have hswap := Guest.logical_settle (g := g) (t.isAway_phaseOf s.opponent)
    refine .turn duel asked move goes_on there
      ⟨hswap.trans duel.logical_there.symm, ?_⟩ ?_
    · rw [Guest.logical_settle (t.isAway_phaseOf s), duel.logical_here]
    · rw [hswap, duel.logical_here]
      cases s <;> cases hon : t.onTurn <;> simp [Table.phaseOf, hon, Side.opponent]
  | released table closed ends =>
    exact .rise table closed Guest.table_released ends (hp.isPlaying_logical table)
      Guest.logical_released
  | @sat k p matched waiting plays =>
    refine .sit matched ?_ ?_
    · rw [Guest.logical_of_awake (by rw [waiting]; rfl), waiting]
    · rw [Guest.sit, Guest.logical_settle (Phase.isAway_of_isPlaying plays)]
      exact plays
  | lost => exact .stay (Guest.logical_goAway rfl)
  | @swept g₁ g₂ g₃ sweep before sinks after =>
    -- the game of the guest can end before its turn comes or after that
    have hrise {k : Nat} (hk : g.table = some k) (hc : h'.tables.get? k = none)
        (hfree : g'.table = none) (hlog : g'.logical = .waiting) : h.GameEdge x h' i g g' :=
      .rise hk hc hfree (.swept sweep) (hp.isPlaying_logical hk) hlog
    cases before with
    | released hk hc =>
      have hfree := sinks.table_eq.trans Guest.table_released
      cases after with
      | same => exact hrise hk hc hfree (sinks.logical_eq.trans Guest.logical_released)
      | released hk' =>
        rw [hfree] at hk'
        cases hk'
    | same =>
      cases after with
      | same => exact .stay sinks.logical_eq
      | released hk hc =>
        exact hrise (sinks.table_eq ▸ hk) hc Guest.table_released Guest.logical_released

/-! ### One thing, and what follows at once -/

theorem obeyAll_single (h : Hall) (i : GuestId) (c : Command) :
    h.obeyAll i [c] = (h.obey i c).1 ∨ h.obeyAll i [c] = h.drop i := by
  unfold obeyAll
  rcases hv : h.obey i c with ⟨k, v⟩
  cases v with
  | stay => exact .inl rfl
  | leave why =>
    obtain rfl : k = h := by simpa [hv] using fst_obey_of_leave (congrArg Prod.snd hv)
    exact .inr rfl

theorem Reached.fate_undergo {c m b : Nat} {as : List (GuestId × Line)}
    (r : Reached c m b first as h) (hf : ((as ++ x.arrivals).map Prod.fst).Nodup)
    (hg : h.guest? i = some g) : h.Ensues x (h.undergo x) i g := by
  cases x with
  | command j c =>
    have ho := Reached.orderly r
    unfold undergo
    dsimp only
    split
    · rename_i hl
      rcases h.obeyAll_single j c with e | e
      · rw [e]
        exact ho.fate_obey hg hl c
      · rw [e]
        exact ho.fate_drop hg rfl
    · exact .same hg rfl
  | received | leave | arrival | writeFailed | matchmake | sweep | shutDown =>
    exact Reached.fate r hf hg

/-- Whatever happens in a hall, every guest that is there before and after it has changed its phase
along the edges, or not at all. -/
theorem after_edges (capacity maxTables budget : Nat) {xs : List Incident} {x : Incident}
    (hp : Incident.Plausible (xs ++ [x])) {i : GuestId} {g g' : Guest} :
    let h := (vacant capacity maxTables budget).after xs
    h.guest? i = some g → (h.undergo x).guest? i = some g' →
      Phase.Edge x i g.phase g'.phase ∧ h.GameEdge x (h.undergo x) i g g' := by
  intro h hg hg'
  obtain ⟨first, r⟩ := hp.left.reached capacity maxTables budget
  have ho : h.Orderly first := Reached.orderly r
  have hids := hp.ids
  rw [List.flatMap_append, List.flatMap_singleton] at hids
  cases Reached.fate_undergo r hids hg with
  | gone absent => cases absent.symm.trans hg'
  | stays there fate =>
    obtain rfl := Option.some.inj (there.symm.trans hg')
    exact ⟨fate.edge ho hg, fate.gameEdge ho hg⟩

/-- Bob does not answer, and Ada moves. It is his turn when he comes back. -/
theorem after_edges_move :
    let xs : List Incident := [.arrival 1 "a" 0, .command 1 (.connect "Ada"), .arrival 2 "b" 1,
      .command 2 (.connect "Bob"), .matchmake, .sweep, .command 1 .pong]
    let x : Incident := .command 1 (.move ⟨⟨3, 0⟩, ⟨3, 1⟩⟩)
    let h := (vacant 4 2 3).after xs
    let g : Guest := { name := some "Bob", origin := "b", table := some 1, phase := .pinged,
                       saved := .onStand, decay := 3, line := some 1 }
    (Incident.Plausible (xs ++ [x]) ∧ h.guest? 2 = some g ∧
        (h.undergo x).guest? 2 = some { g with saved := .onTurn }) ∧
      Phase.Edge x 2 g.phase .pinged ∧ h.GameEdge x (h.undergo x) 2 g { g with saved := .onTurn } := by
  intro xs x h g
  have hp : Incident.Plausible (xs ++ [x]) := by decide +kernel
  have hg : h.guest? 2 = some g := by decide +kernel
  have hg' : (h.undergo x).guest? 2 = some { g with saved := .onTurn } := by decide +kernel
  exact ⟨⟨hp, hg, hg'⟩, after_edges 4 2 3 hp hg hg'⟩

end Hall

end Tafl
