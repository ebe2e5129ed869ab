import Tafl.Proofs.Hall.Fates

/-! # A guest that keeps silent

`Hall.after_silence`: whatever others do, a guest of which nothing is heard takes one rung of the
ladder with each sweep, and stays on it until the next one. Where a disconnected guest is waited for
through `b` sweeps, it is gone with sweep number `b + 3`, and its game with it. -/

namespace Tafl

def Incident.isSweep : Incident → Bool
  | sweep => true
  | _ => false

namespace Guest

/-- The rungs of the ladder. On rung `k` a guest has been silent for `k` sweeps, where a disconnected
guest is waited for through `b` sweeps. -/
def IsOn (g : Guest) (b : Nat) : Nat → Prop
  | 0 => g.phase.isAway = false
  | 1 => g.phase = .pinged
  | 2 => g.phase = .lost
  | k + 3 => g.phase = .disconnected ∧ g.decay = b - k

namespace IsOn
variable {g g' : Guest} {b k : Nat} {p : Phase} {T : Nat → Option Table}

/-- The phase and the countdown decide on which rung a guest is, and one phase of the game is as good
as another. -/
theorem congr (h : g.IsOn b k) (ha : g'.phase.isAway = g.phase.isAway)
    (hp : g.phase.isAway = true → g'.phase = g.phase) (hd : g'.decay = g.decay) : g'.IsOn b k := by
  rcases k with _ | _ | _ | k
  · exact ha.trans h
  · exact (hp (by rw [show g.phase = .pinged from h]; rfl)).trans h
  · exact (hp (by rw [show g.phase = .lost from h]; rfl)).trans h
  · exact ⟨(hp (by rw [h.1]; rfl)).trans h.1, hd.trans h.2⟩

theorem settle (h : g.IsOn b k) (hp : p.isAway = false) : (g.settle p).IsOn b k := by
  refine h.congr ?_ (fun ha => ?_) (decay_settle p)
  · rw [phase_settle]
    split
    · rfl
    · rename_i ha
      rw [hp, Bool.eq_false_of_not_eq_true ha]
  · rw [phase_settle, if_pos ha]

theorem seat (h : g.IsOn b k) (t : Option Nat) : { g with table := t }.IsOn b k :=
  h.congr rfl (fun _ => rfl) rfl

theorem spared (h : g.IsOn b k) (s : g.Spared T g') : g'.IsOn b k :=
  h.congr s.isAway_eq s.phase_eq s.decay_eq

/-- A sweep takes a guest to the next rung. -/
theorem sinks (h : g.IsOn b k) (hb : 1 ≤ b) (s : g.Sinks b g') : g'.IsOn b (k + 1) ∧ k < b + 2 := by
  -- on each rung there is one way to sink
  rcases k with _ | _ | _ | k
  · have h : g.phase.isAway = false := h
    cases s with
    | ping => exact ⟨rfl, by omega⟩
    | lose hp | disconnect hp | fade hp => rw [hp] at h; cases h
  · have h : g.phase = .pinged := h
    cases s with
    | lose => exact ⟨rfl, by omega⟩
    | ping awake => rw [h] at awake; cases awake
    | disconnect hp | fade hp => rw [h] at hp; cases hp
  · have h : g.phase = .lost := h
    cases s with
    | disconnect => exact ⟨⟨rfl, rfl⟩, by omega⟩
    | ping awake => rw [h] at awake; cases awake
    | lose hp | fade hp => rw [h] at hp; cases hp
  · obtain ⟨hphase, hdecay⟩ := h
    cases s with
    | fade _ decay => exact ⟨⟨hphase, by dsimp only; omega⟩, by omega⟩
    | ping awake => rw [hphase] at awake; cases awake
    | lose hp | disconnect hp => rw [hphase] at hp; cases hp

/-- Only a guest on the last rung is removed. -/
theorem of_spent (h : g.IsOn b k) (hn : g.name ≠ none) (hs : g.IsSpent) : b + 2 ≤ k := by
  rcases hs with hab | ⟨hphase, hdecay⟩
  · simp [isAbandoned, hn] at hab
  · rcases k with _ | _ | _ | k
    · have h : g.phase.isAway = false := h
      rw [hphase] at h
      cases h
    · cases hphase.symm.trans h
    · cases hphase.symm.trans h
    · have := h.2
      omega

end IsOn

end Guest

namespace Hall

/-- What happens is not of the guest's doing, and nobody takes its place. -/
structure LeavesAlone (h : Hall) (y : Incident) (i : GuestId) : Prop where
  others : y.author? ≠ some i
  written : y ≠ .writeFailed i
  /-- Nobody comes back under its name. -/
  name : ∀ j gi gj n, y = .command j (.connect n) → ¬ h.Returns i j gi gj n
  /-- It does not have to make room for a newcomer. -/
  place : ∀ id origin line, y = .arrival id origin line → h.capacity ≤ h.roster.size →
    h.roster.longestDisconnected? ≠ some i
  opened : y ≠ .shutDown

/-- Nothing of what happens is of the guest's doing, and nobody takes its place meanwhile. -/
def Forgets (i : GuestId) : Hall → List Incident → Prop
  | _, [] => True
  | h, y :: ys => h.LeavesAlone y i ∧ (h.meet y).Forgets i ys

/-- The guest `i` with the name `n` has been silent for `k` sweeps: it is on rung `k`, or there is
no such rung, and it is gone. -/
structure Descends (h : Hall) (i : GuestId) (n : String) (b k : Nat) : Prop where
  there : k ≤ b + 2 → ∃ g, h.guest? i = some g ∧ g.name = some n ∧ g.IsOn b k
  gone : b + 3 ≤ k → h.guest? i = none

variable {h : Hall} {first : Nat} {i : GuestId} {g : Guest} {y : Incident} {ys zs : List Incident}
  {n : String} {b k : Nat}

namespace LeavesAlone

theorem sweep : h.LeavesAlone .sweep i :=
  ⟨nofun, nofun, by rintro _ _ _ _ ⟨⟩, by rintro _ _ _ ⟨⟩, nofun⟩

theorem command {j : GuestId} {c : Command} (hj : j ≠ i) (hc : ∀ n, c ≠ .connect n) :
    h.LeavesAlone (.command j c) i := by
  refine ⟨by simpa [Incident.author?] using hj, nofun, ?_, by rintro _ _ _ ⟨⟩, nofun⟩
  rintro _ _ _ n ⟨⟩
  exact absurd rfl (hc n)

theorem arrival {id : GuestId} {origin : Origin} {line : Line}
    (hroom : h.roster.size < h.capacity) : h.LeavesAlone (.arrival id origin line) i :=
  ⟨nofun, nofun, by rintro _ _ _ _ ⟨⟩, fun _ _ _ _ hfull => absurd hroom (Nat.not_lt.2 hfull),
    nofun⟩

end LeavesAlone

theorem Forgets.left (hf : h.Forgets i (zs ++ ys)) : h.Forgets i zs := by
  induction zs generalizing h with
  | nil => trivial
  | cons z zs ih => exact ⟨hf.1, ih hf.2⟩

namespace Reached
variable {c m : Nat} {as : List (GuestId × Line)}

/-- Between two sweeps a guest stays on its rung. -/
theorem isOn_meet (r : Reached c m b first as h) (hf : ((as ++ y.arrivals).map Prod.fst).Nodup)
    (a : h.LeavesAlone y i) (hg : h.guest? i = some g) (hk : g.IsOn b k) (hy : y ≠ .sweep) :
    ∃ g', (h.meet y).guest? i = some g' ∧ g'.name = g.name ∧ g'.IsOn b k := by
  cases Reached.fate r hf hg with
  | gone absent why =>
    cases why with
    | left e => exact absurd e a.others
    | reclaimed e full first => exact absurd first (a.place _ _ _ e full)
    | swept e => exact absurd e hy
    | shutDown e => exact absurd e a.opened
  | stays there fate =>
    refine ⟨_, there, ?_⟩
    cases fate with
    | same => exact ⟨rfl, hk⟩
    | turn => exact ⟨Guest.name_settle _, hk.settle (Table.isAway_phaseOf ..)⟩
    | released => exact ⟨Guest.name_released, (hk.seat none).settle rfl⟩
    | @sat k p _ _ plays =>
      exact ⟨Guest.name_settle p, (hk.seat (some k)).settle (Phase.isAway_of_isPlaying plays)⟩
    | abandon e returns => exact absurd returns (a.name _ _ _ _ e)
    | lost e => exact absurd e a.written
    | swept e => exact absurd e hy
    | back e =>
      rcases e with rfl | ⟨n, rfl⟩
      · exact absurd rfl a.others
      · exact absurd rfl a.others
    | name e | inherit e =>
      subst e
      exact absurd rfl a.others

/-- A sweep takes a guest to the next rung, or from the last one out of the hall. -/
theorem isOn_sweep (r : Reached c m b first as h) (hb : 1 ≤ b) (hg : h.guest? i = some g)
    (hn : g.name ≠ none) (hk : g.IsOn b k) :
    (k < b + 2 ∧ ∃ g', h.sweep.guest? i = some g' ∧ g'.name = g.name ∧ g'.IsOn b (k + 1)) ∨
      (b + 2 ≤ k ∧ h.sweep.guest? i = none ∧
        ∀ t, g.table = some t → h.sweep.tables.get? t = none) := by
  obtain ⟨g₁, s₁, ⟨hspent, hnone, hclosed⟩ | ⟨g₂, g₃, hsinks, s₃, hg₃⟩⟩ :=
    (Reached.orderly r).sweep_cases hg
  · have hspent := Guest.sink_eq_none_iff.1 hspent
    exact .inr ⟨(hk.spared s₁).of_spent (s₁.name_eq ▸ hn) hspent, hnone, hclosed⟩
  · rw [Reached.decayBudget r] at hsinks
    have hsinks := Guest.Sinks.of_sink hsinks
    obtain ⟨hk₂, hlt⟩ := (hk.spared s₁).sinks hb hsinks
    exact .inl ⟨hlt, g₃, hg₃, by rw [s₃.name_eq, hsinks.name_eq, s₁.name_eq], hk₂.spared s₃⟩

/-- Whoever is gone does not come back under its number. -/
theorem guest?_after_eq_none (r : Reached c m b first as h)
    (hids : ((as ++ ys.flatMap Incident.arrivals).map Prod.fst).Nodup) (hs : ∀ y ∈ ys, y.IsSent)
    (hi : i ∈ as.map Prod.fst) (hnone : h.guest? i = none) : (h.after ys).guest? i = none := by
  obtain ⟨_, l⟩ := Reached.after r hids hs
  have hrecord := l.record (P := fun _ => False) (fun _ _ _ _ h => h) hi fun x hx => by
    cases hnone.symm.trans hx
  exact Option.eq_none_iff_forall_ne_some.2 fun x hx => hrecord.2 x hx

theorem descends_after (r : Reached c m b first as h) (hb : 1 ≤ b)
    (hids : ((as ++ ys.flatMap Incident.arrivals).map Prod.fst).Nodup) (hs : ∀ y ∈ ys, y.IsSent)
    (hf : h.Forgets i ys) (hg : h.guest? i = some g) (hn : g.name = some n) (hk : g.IsOn b k)
    (hle : k ≤ b + 2) : (h.after ys).Descends i n b (k + ys.countP Incident.isSweep) := by
  induction ys generalizing h as first g k with
  | nil => exact ⟨fun _ => ⟨g, hg, hn, hk⟩, fun hgt => absurd (Nat.le_trans hgt hle) (by omega)⟩
  | cons y ys ih =>
    obtain ⟨ha, hf⟩ := hf
    rw [List.flatMap_cons, ← List.append_assoc] at hids
    have hidy : ((as ++ y.arrivals).map Prod.fst).Nodup := nodup_ids_left hids
    have hs' : ∀ y ∈ ys, y.IsSent := fun y hy => hs y (List.mem_cons_of_mem _ hy)
    obtain ⟨first₁, l₁⟩ := Reached.meet r hidy (hs y (List.mem_cons_self ..))
    have r₁ := r.trans l₁
    by_cases hy : y = .sweep
    · subst hy
      rw [List.countP_cons_of_pos rfl]
      rcases Reached.isOn_sweep r hb hg (by simp [hn]) hk with
        ⟨hlt, g', hg', hname, hk'⟩ | ⟨hlast, hnone, -⟩
      · have hlater := ih r₁ hids hs' hf hg' (hname.trans hn) hk' hlt
        rwa [Nat.add_right_comm, Nat.add_assoc] at hlater
      · have hi : i ∈ (as ++ Incident.sweep.arrivals).map Prod.fst := by
          rw [List.map_append]
          exact List.mem_append_left _ (Reached.came r hg).1
        have hgone : ((h.meet .sweep).after ys).guest? i = none :=
          Reached.guest?_after_eq_none r₁ hids hs' hi hnone
        exact ⟨fun hle => by omega, fun _ => hgone⟩
    · rw [List.countP_cons_of_neg (by cases y <;> simp_all [Incident.isSweep])]
      obtain ⟨g', hg', hname, hk'⟩ := Reached.isOn_meet r hidy ha hg hk hy
      exact ih r₁ hids hs' hf hg' (hname.trans hn) hk' hle

/-- The sweep that comes to a guest on the last rung closes its table. -/
theorem table_closed_of_descends (r : Reached c m b first as h) (hb : 1 ≤ b)
    (hd : h.Descends i n b (b + 2)) (hg : h.guest? i = some g) {t : Nat} (ht : g.table = some t) :
    h.tables.get? t ≠ none ∧ h.sweep.tables.get? t = none := by
  obtain ⟨x, hx, hname, hlast⟩ := hd.there (Nat.le_refl _)
  obtain rfl := Option.some.inj (hx.symm.trans hg)
  obtain ⟨T, -, -, -, hT, -⟩ := (Reached.orderly r).seat hx ht
  rcases Reached.isOn_sweep r hb hx (by simp [hname]) hlast with ⟨hlt, -⟩ | ⟨-, -, hclosed⟩
  · omega
  · exact ⟨by rw [hT]; simp, hclosed t ht⟩

end Reached

/-- A guest with a name that is there, and of which nothing is heard from now on, descends by one
rung with every sweep, whatever others do. The sweep that removes it closes its table, if it still
has one. -/
theorem after_silence (capacity maxTables : Nat) {budget : Nat} (hb : 1 ≤ budget)
    {xs ys : List Incident} (hp : Incident.Plausible (xs ++ ys)) {i : GuestId} {g : Guest}
    {n : String} :
    let h := (vacant capacity maxTables budget).after xs
    h.guest? i = some g → g.name = some n → g.phase.isAway = false → h.Forgets i ys →
      (h.after ys).Descends i n budget (ys.countP Incident.isSweep) ∧
        ∀ zs, ys = zs ++ [.sweep] → zs.countP Incident.isSweep = budget + 2 →
          ∀ g' t, (h.after zs).guest? i = some g' → g'.table = some t →
            (h.after zs).tables.get? t ≠ none ∧ (h.after ys).tables.get? t = none := by
  intro h hg hn hawake hf
  obtain ⟨first, r⟩ := hp.left.reached capacity maxTables budget
  have hids := hp.ids
  rw [List.flatMap_append] at hids
  have hs : ∀ y ∈ ys, y.IsSent := fun y hy => hp.sent y (List.mem_append_right _ hy)
  have hdescends := Reached.descends_after r hb hids hs hf hg hn (k := 0) hawake (by omega)
  rw [Nat.zero_add] at hdescends
  refine ⟨hdescends, fun zs hzs hcount g' t hg' ht => ?_⟩
  subst hzs
  rw [List.flatMap_append, ← List.append_assoc] at hids
  have hids' := nodup_ids_left hids
  have hs' : ∀ z ∈ zs, z.IsSent := fun z hz => hs z (List.mem_append_left _ hz)
  have hbefore := Reached.descends_after r hb hids' hs' hf.left hg hn (k := 0) hawake (by omega)
  rw [Nat.zero_add, hcount] at hbefore
  obtain ⟨_, l⟩ := Reached.after r hids' hs'
  rw [after_append]
  exact Reached.table_closed_of_descends (r.trans l) hb hbefore hg' ht

/-- Ada answers, makes her move and sees somebody else come. Bob does nothing, and with the fourth
sweep he is gone, and the game with him. -/
theorem after_silence_in_game :
    let xs : List Incident := [.arrival 1 "a" 0, .command 1 (.connect "Ada"), .arrival 2 "b" 1,
      .command 2 (.connect "Bob"), .matchmake]
    let zs : List Incident := [.sweep, .command 1 .pong, .command 1 (.move ⟨⟨3, 0⟩, ⟨3, 1⟩⟩), .sweep,
      .command 1 .pong, .arrival 3 "c" 2, .sweep, .command 1 .pong]
    let g : Guest := { name := some "Bob", origin := "b", table := some 1, phase := .onStand,
                       saved := .new, decay := 1, line := some 1 }
    let h := (vacant 4 2 1).after xs
    (1 ≤ 1 ∧ Incident.Plausible (xs ++ (zs ++ [.sweep])) ∧ h.guest? 2 = some g ∧
        g.phase.isAway = false ∧ h.Forgets 2 (zs ++ [.sweep])) ∧
      (h.after (zs ++ [.sweep])).Descends 2 "Bob" 1 4 ∧
      (h.after zs).tables.get? 1 ≠ none ∧ (h.after (zs ++ [.sweep])).tables.get? 1 = none := by
  intro xs zs g h
  have hp : Incident.Plausible (xs ++ (zs ++ [.sweep])) := by decide +kernel
  have hg : h.guest? 2 = some g := by decide +kernel
  have ada : 1 ≠ 2 := by decide
  have hf : h.Forgets 2 (zs ++ [.sweep]) :=
    ⟨.sweep, .command ada nofun, .command ada nofun, .sweep, .command ada nofun,
      .arrival (by decide +kernel), .sweep, .command ada nofun, .sweep, trivial⟩
  obtain ⟨hdescends, hlast⟩ := after_silence 4 2 (by decide : 1 ≤ 1) hp hg rfl rfl hf
  obtain ⟨x, hx, hk⟩ : ∃ x, (h.after zs).guest? 2 = some x ∧ x.table = some 1 := by
    decide +kernel
  exact ⟨⟨by decide, hp, hg, rfl, hf⟩, hdescends, hlast zs rfl (by decide) x 1 hx hk⟩

end Hall

end Tafl
