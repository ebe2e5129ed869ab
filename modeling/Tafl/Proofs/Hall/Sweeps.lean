import Tafl.Proofs.Hall.Badges

/-! # One guest in a sweep

A sweep comes to every guest once. What it makes of the guest it comes to is `Guest.sink`, or step
by step `Guest.Sinks`, and of all others `Guest.Spared`. Together they say what becomes of a guest
in a sweep (`Orderly.sweep_cases`), whoever else is swept before or after it. -/

namespace Tafl

namespace Guest

/-- While others go, a guest stays as it is, unless its game ends with one of them. `T` are the
tables that are left. -/
inductive Spared (T : Nat → Option Table) (g : Guest) : Guest → Prop
  | same : Spared T g g
  | released {k : Nat} (table : g.table = some k) (closed : T k = none) : Spared T g g.released

/-- What a sweep makes of a guest that it comes to, where a disconnected guest is waited for through
`b` sweeps. -/
inductive Sinks (b : Nat) (g : Guest) : Guest → Prop
  | ping (awake : g.phase.isAway = false) : Sinks b g g.ping
  | lose (pinged : g.phase = .pinged) : Sinks b g g.lose
  | disconnect (lost : g.phase = .lost) : Sinks b g (g.disconnect b)
  | fade (disconnected : g.phase = .disconnected) (decay : 1 < g.decay) :
      Sinks b g { g with decay := g.decay - 1 }

/-- The next sweep removes the guest. -/
def IsSpent (g : Guest) : Prop := g.isAbandoned = true ∨ g.phase = .disconnected ∧ g.decay ≤ 1

/-- What a sweep makes of a guest taken by itself. Nothing is left of one whose time is up. -/
def sink (g : Guest) (b : Nat) : Option Guest :=
  if g.isAbandoned then none
  else match g.phase with
    | .pinged => some { g with phase := .lost }
    | .lost => some { g with phase := .disconnected, decay := b, line := none }
    | .disconnected => if g.decay ≤ 1 then none else some { g with decay := g.decay - 1 }
    | .new | .waiting | .onTurn | .onStand => some { g with phase := .pinged, saved := g.phase }

namespace Spared
variable {T T' : Nat → Option Table} {g g' g'' : Guest}

theorem mono (s : Spared T g g') (hT : ∀ k, T k = none → T' k = none) : Spared T' g g' := by
  cases s with
  | same => exact .same
  | released hk hc => exact .released hk (hT _ hc)

theorem trans (s : Spared T g g') (s' : Spared T g' g'') : Spared T g g'' := by
  cases s with
  | same => exact s'
  | released hk hc =>
    cases s' with
    | same => exact .released hk hc
    | released hk' => rw [table_released] at hk'; cases hk'

theorem name_eq (s : Spared T g g') : g'.name = g.name := by
  cases s with
  | same => rfl
  | released => exact name_released

theorem isAway_eq (s : Spared T g g') : g'.phase.isAway = g.phase.isAway := by
  cases s with
  | same => rfl
  | released =>
    rw [Guest.released, phase_settle]
    split
    · rfl
    · rename_i ha
      exact (Bool.eq_false_of_not_eq_true ha).symm

/-- Who loses the opponent keeps the phase that it has while it is away. -/
theorem phase_eq (s : Spared T g g') (ha : g.phase.isAway = true) : g'.phase = g.phase := by
  cases s with
  | same => rfl
  | released => rw [released_of_away ha]

theorem decay_eq (s : Spared T g g') : g'.decay = g.decay := by
  cases s with
  | same => rfl
  | released => exact decay_settle _

end Spared

theorem Sinks.logical_eq {b : Nat} {g g' : Guest} (s : Sinks b g g') : g'.logical = g.logical := by
  cases s with
  | ping awake => exact logical_ping awake
  | lose => exact logical_goAway rfl
  | disconnect => exact logical_goAway rfl
  | fade => rfl

theorem goAway_of_away {g : Guest} (ha : g.phase.isAway = true) (p : Phase) :
    g.goAway p = { g with phase := p } := by
  rw [goAway, if_pos ha]

section
variable {b : Nat} {g : Guest} (hab : ¬ g.isAbandoned = true)
include hab

theorem sink_of_awake (ha : g.phase.isAway = false) : g.sink b = some g.ping := by
  rw [sink, if_neg hab, ping]
  cases hp : g.phase with
  | pinged | lost | disconnected => rw [hp] at ha; cases ha
  | new | waiting | onTurn | onStand => rfl

theorem sink_of_pinged (hp : g.phase = .pinged) : g.sink b = some g.lose := by
  rw [lose, goAway_of_away (by rw [hp]; rfl), sink, if_neg hab, hp]

theorem sink_of_lost (hp : g.phase = .lost) : g.sink b = some (g.disconnect b) := by
  rw [disconnect, goAway_of_away (by rw [hp]; rfl), sink, if_neg hab, hp]

theorem sink_of_disconnected (hp : g.phase = .disconnected) :
    g.sink b = if g.decay ≤ 1 then none else some { g with decay := g.decay - 1 } := by
  rw [sink, if_neg hab]
  split <;> rename_i hp' <;> first | rfl | exact absurd (hp.symm.trans hp') (by decide)

end

theorem sink_of_abandoned {b : Nat} {g : Guest} (hab : g.isAbandoned = true) : g.sink b = none :=
  if_pos hab

theorem sink_eq_none_iff {b : Nat} {g : Guest} : g.sink b = none ↔ g.IsSpent := by
  unfold IsSpent
  by_cases hab : g.isAbandoned = true
  · simp [sink_of_abandoned hab, hab]
  · cases hp : g.phase with
    | pinged => simp [sink_of_pinged hab hp, hab]
    | lost => simp [sink_of_lost hab hp, hab]
    | disconnected => simp [sink_of_disconnected hab hp, hab]
    | new | waiting | onTurn | onStand => simp [sink_of_awake hab (by rw [hp]; rfl), hab]

theorem Sinks.of_sink {b : Nat} {g g' : Guest} (h : g.sink b = some g') : g.Sinks b g' := by
  have hab : ¬ g.isAbandoned = true := fun hab => by
    rw [sink_of_abandoned hab] at h
    cases h
  cases hp : g.phase with
  | pinged =>
    rw [sink_of_pinged hab hp] at h
    exact Option.some.inj h ▸ .lose hp
  | lost =>
    rw [sink_of_lost hab hp] at h
    exact Option.some.inj h ▸ .disconnect hp
  | disconnected =>
    rw [sink_of_disconnected hab hp] at h
    split at h
    · cases h
    · rename_i hd
      exact Option.some.inj h ▸ .fade hp (Nat.lt_of_not_le hd)
  | new | waiting | onTurn | onStand =>
    have ha : g.phase.isAway = false := by rw [hp]; rfl
    rw [sink_of_awake hab ha] at h
    exact Option.some.inj h ▸ .ping ha

theorem Sinks.name_eq {b : Nat} {g g' : Guest} (s : Sinks b g g') : g'.name = g.name := by
  cases s <;> rfl

theorem Sinks.table_eq {b : Nat} {g g' : Guest} (s : Sinks b g g') : g'.table = g.table := by
  cases s <;> rfl

end Guest

namespace Hall
variable {h h' : Hall} {first : Nat} {i j : GuestId} {g : Guest} {k : Nat}

/-! ### Tables that are closed stay closed -/

theorem get?_drop_eq_none (hk : h.tables.get? k = none) : (h.drop j).tables.get? k = none := by
  rw [drop, tables_strike]
  unfold breakUp
  split
  · exact hk
  · cases h.opponent? j <;> simp [Tables.get?_close, hk]

theorem get?_sweepGuest_eq_none (hk : h.tables.get? k = none) :
    (h.sweepGuest j).tables.get? k = none := by
  unfold sweepGuest
  split
  · exact hk
  · split
    · exact get?_drop_eq_none hk
    · split
      · dsimp only
        split <;> simpa using hk
      · simpa using hk
      · dsimp only
        split
        · exact get?_drop_eq_none hk
        · exact hk
      all_goals simpa using hk

theorem get?_foldl_sweepGuest_eq_none (hk : h.tables.get? k = none) (is : List GuestId) :
    (is.foldl sweepGuest h).tables.get? k = none := by
  induction is generalizing h with
  | nil => exact hk
  | cons i is ih => exact ih (get?_sweepGuest_eq_none hk)

/-! ### Others go -/

/-- A guest that goes takes nobody's game with it but that of its opponent. -/
theorem Orderly.drop_cases (ho : h.Orderly first) (hg : h.guest? i = some g) (hij : i ≠ j) :
    (h.drop j).guest? i = some g ∨ h.opponent? i = some j ∧
      (h.drop j).guest? i = some g.released ∧
        ∃ k, g.table = some k ∧ (h.drop j).tables.get? k = none := by
  by_cases hop : h.opponent? i = some j
  · exact .inr ⟨hop, ho.drop_opponent hg hop⟩
  · exact .inl (ho.drop_stranger hg hij.symm hop).1

theorem Orderly.spared_drop (ho : h.Orderly first) (hg : h.guest? i = some g) (hij : i ≠ j) :
    ∃ g', (h.drop j).guest? i = some g' ∧ g.Spared (h.drop j).tables.get? g' := by
  rcases ho.drop_cases hg hij with hsame | ⟨-, hreleased, k, hk, hclosed⟩
  · exact ⟨g, hsame, .same⟩
  · exact ⟨_, hreleased, .released hk hclosed⟩

theorem Orderly.spared_sweepGuest (ho : h.Orderly first) (hg : h.guest? i = some g) (hij : i ≠ j) :
    ∃ g', (h.sweepGuest j).guest? i = some g' ∧ g.Spared (h.sweepGuest j).tables.get? g' := by
  have same {h' : Hall} (hi : h'.guest? i = h.guest? i) :
      ∃ g', h'.guest? i = some g' ∧ g.Spared h'.tables.get? g' := ⟨g, hi.trans hg, .same⟩
  have revised (f : Guest → Guest) : (h.revise j f).guest? i = h.guest? i := by
    rw [guest?_revise, Function.update_of_ne hij]
  unfold sweepGuest
  cases hgj : h.guest? j with
  | none => exact same rfl
  | some gj =>
    dsimp only
    split
    · exact ho.spared_drop hg hij
    · cases gj.phase with
      | pinged =>
        dsimp only
        split
        · exact same (by rw [guest?_sendToOpponent, guest?_send, revised])
        · exact same (by rw [guest?_send, revised])
      | lost =>
        refine same ?_
        rw [guest?_sendToOpponent, guest?_hangUp, guest?_revise, Function.update_of_ne hij,
          guest?_send]
      | disconnected =>
        have hr := ho.revise (f := fun g => { g with decay := g.decay - 1 }) hgj
          ((ho.proper j gj hgj).decay _) rfl rfl
        dsimp only
        split
        · exact hr.spared_drop ((revised _).trans hg) hij
        · exact same (revised _)
      | new | waiting | onTurn | onStand => exact same (by rw [guest?_send, revised])

theorem Orderly.spared_foldl_sweepGuest (ho : h.Orderly first) (hg : h.guest? i = some g)
    {is : List GuestId} (hi : i ∉ is) : ∃ g', (is.foldl sweepGuest h).guest? i = some g' ∧
      g.Spared (is.foldl sweepGuest h).tables.get? g' := by
  induction is generalizing h g with
  | nil => exact ⟨g, hg, .same⟩
  | cons j is ih =>
    rw [List.mem_cons, not_or] at hi
    obtain ⟨g', hg', s⟩ := ho.spared_sweepGuest hg hi.1
    obtain ⟨g'', hg'', s'⟩ := ih (Row.sweepGuest.orderly ho) hg' hi.2
    exact ⟨g'', hg'', (s.mono fun k hk => get?_foldl_sweepGuest_eq_none hk is).trans s'⟩

/-! ### The guest itself -/

theorem guest?_sweepGuest_self (hg : h.guest? i = some g) :
    (h.sweepGuest i).guest? i = g.sink h.decayBudget := by
  have revised (f : Guest → Guest) : (h.revise i f).guest? i = some (f g) := by
    rw [guest?_revise, Function.update_self, hg, Option.map_some]
  unfold sweepGuest
  rw [hg]
  dsimp only
  split
  · rename_i hab
    rw [Guest.sink_of_abandoned hab, guest?_drop_self]
  · rename_i hab
    cases hp : g.phase with
    | pinged =>
      rw [Guest.sink_of_pinged hab hp]
      dsimp only
      split
      · rw [guest?_sendToOpponent, guest?_send, revised]
      · rw [guest?_send, revised]
    | lost =>
      rw [Guest.sink_of_lost hab hp]
      dsimp only
      rw [guest?_sendToOpponent, guest?_hangUp, guest?_revise, Function.update_self, guest?_send,
        hg, Option.map_some]
    | disconnected =>
      rw [Guest.sink_of_disconnected hab hp]
      dsimp only
      split
      · exact guest?_drop_self
      · exact revised _
    | new | waiting | onTurn | onStand =>
      rw [Guest.sink_of_awake hab (by rw [hp]; rfl)]
      dsimp only
      rw [guest?_send, revised]

/-- Only a guest that is removed takes its table with it. -/
theorem tables_sweepGuest_of_sink (hg : h.guest? i = some g) (hs : g.sink h.decayBudget ≠ none) :
    (h.sweepGuest i).tables = h.tables := by
  have hspent : ¬ g.IsSpent := mt Guest.sink_eq_none_iff.2 hs
  rw [Guest.IsSpent, not_or] at hspent
  unfold sweepGuest
  rw [hg]
  dsimp only
  rw [if_neg hspent.1]
  cases hp : g.phase with
  | pinged =>
    dsimp only
    split <;> simp
  | lost => simp
  | disconnected =>
    dsimp only
    rw [if_neg fun hd => hspent.2 ⟨hp, hd⟩]
    rfl
  | new | waiting | onTurn | onStand => simp

theorem Orderly.get?_drop (ho : h.Orderly first) (hg : h.guest? i = some g) (k : Nat) :
    (h.drop i).tables.get? k = if g.table = some k then none else h.tables.get? k := by
  cases ht : g.table with
  | none =>
    rw [drop_of_table_eq_none hg ht, tables_strike]
    rfl
  | some k' =>
    obtain ⟨o, go, t, s, rfl, d⟩ := ho.duel hg ht
    rw [ho.tables_drop d, Function.update_apply]
    simp only [Option.some.injEq, eq_comm]

theorem Orderly.get?_sweepGuest_of_spent (ho : h.Orderly first) (hg : h.guest? i = some g)
    (hs : g.IsSpent) (k : Nat) : (h.sweepGuest i).tables.get? k =
      if g.table = some k then none else h.tables.get? k := by
  unfold sweepGuest
  rw [hg]
  dsimp only
  split
  · exact ho.get?_drop hg k
  · rename_i hab
    obtain ⟨hp, hd⟩ := hs.resolve_left hab
    have hr := ho.revise (f := fun g => { g with decay := g.decay - 1 }) hg
      ((ho.proper i g hg).decay _) rfl rfl
    rw [hp]
    dsimp only
    rw [if_pos hd, hr.get?_drop (g := { g with decay := g.decay - 1 })]
    · rfl
    · rw [guest?_revise, Function.update_self, hg, Option.map_some]

/-! ### The whole sweep -/

theorem Row.evolves (hr : Row i h h') : h.Evolves h' := by
  induction hr with
  | refl => exact .refl h
  | tail _ hc ih => exact ih.trans hc.evolves

theorem decayBudget_foldl_sweepGuest (h : Hall) (is : List GuestId) :
    (is.foldl sweepGuest h).decayBudget = h.decayBudget := by
  induction is generalizing h with
  | nil => rfl
  | cons i is ih => rw [List.foldl_cons, ih, Row.sweepGuest.evolves.budget]

/-- A guest comes into a sweep as it is, or it has lost its game before its turn comes. Then the
sweep removes it and closes its table, or it sinks and can only lose its game after that. -/
theorem Orderly.sweep_cases (ho : h.Orderly first) (hg : h.guest? i = some g) :
    ∃ g₁, g.Spared h.sweep.tables.get? g₁ ∧
      ((g₁.sink h.decayBudget = none ∧ h.sweep.guest? i = none ∧
          ∀ k, g.table = some k → h.sweep.tables.get? k = none) ∨
        ∃ g₂ g₃, g₁.sink h.decayBudget = some g₂ ∧ g₂.Spared h.sweep.tables.get? g₃ ∧
          h.sweep.guest? i = some g₃) := by
  obtain ⟨before, after, -, hbefore, hafter, hsweep⟩ := exists_sweep_split hg
  obtain ⟨g₁, hg₁, s₁⟩ := ho.spared_foldl_sweepGuest hg hbefore
  have ho₁ := ho.foldl_sweepGuest before
  have hbudget := decayBudget_foldl_sweepGuest h before
  generalize before.foldl sweepGuest h = h₁ at hg₁ s₁ ho₁ hbudget hsweep
  have closed₁ (k : Nat) (hk : h₁.tables.get? k = none) : h.sweep.tables.get? k = none := by
    rw [hsweep]
    exact get?_foldl_sweepGuest_eq_none (get?_sweepGuest_eq_none hk) after
  have hself := guest?_sweepGuest_self hg₁
  rw [hbudget] at hself
  refine ⟨g₁, s₁.mono closed₁, ?_⟩
  cases hsink : g₁.sink h.decayBudget with
  | none =>
    rw [hsink] at hself
    refine .inl ⟨rfl, ?_, fun k hk => ?_⟩
    · have hb : h.sweep.badge? i = (h₁.sweepGuest i).badge? i := by
        rw [hsweep, badge?_foldl_sweepGuest hafter]
      rw [badge?, badge?, hself] at hb
      exact Option.map_eq_none_iff.1 hb
    · cases s₁ with
      | same =>
        rw [hsweep]
        refine get?_foldl_sweepGuest_eq_none ?_ after
        rw [ho₁.get?_sweepGuest_of_spent hg₁ (Guest.sink_eq_none_iff.1 hsink), if_pos hk]
      | released hk' hc =>
        obtain rfl := Option.some.inj (hk.symm.trans hk')
        exact closed₁ k hc
  | some g₂ =>
    rw [hsink] at hself
    obtain ⟨g₃, hg₃, s₃⟩ :=
      (Row.sweepGuest.orderly ho₁).spared_foldl_sweepGuest hself hafter
    rw [← hsweep] at hg₃ s₃
    exact .inr ⟨g₂, g₃, rfl, s₃, hg₃⟩

end Hall

end Tafl
