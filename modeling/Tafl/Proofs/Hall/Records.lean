import Tafl.Proofs.Hall.Runs

/-! # What the records look like

`Hall.run_records`: whatever is asked of a hall, no two records have the same name, and each of them
belongs to a stranger, was left behind by a reconnection, or has a name, a phase and a countdown
that fit together. What is known of a record at any moment is that it is proper
(`Reached.orderly`); what its history adds is the countdown (`Reached.timed`). -/

namespace Tafl

namespace Guest

inductive Kind where
  /-- Somebody who has not given a name yet. -/
  | stranger
  /-- What a reconnection has left behind. -/
  | abandoned
  | named
deriving DecidableEq

/-- What the records of a kind are like where a disconnected guest is waited for through `b`
sweeps. -/
def IsOf (g : Guest) (b : Nat) : Kind → Prop
  | .stranger => g.name = none ∧ g.line ≠ none ∧ g.table = none ∧ g.logical = .new
  | .abandoned => g.name = none ∧ g.line = none ∧ g.table = none ∧
      (g.phase = .pinged ∨ g.phase = .lost ∨ g.phase = .disconnected)
  | .named => (∃ n, g.name = some n ∧ (Command.connect n).IsField) ∧
      (g.logical = .waiting ∨ g.logical = .onTurn ∨ g.logical = .onStand) ∧
      (g.line = none ↔ g.phase = .disconnected) ∧
      (1 ≤ g.decay ∧ g.decay ≤ b) ∧ (g.phase ≠ .disconnected → g.decay = b)

variable {b : Nat} {g : Guest} {T : Nat → Option Table}

theorem IsOf.unique {k k' : Kind} (h : g.IsOf b k) (h' : g.IsOf b k') : k = k' := by
  cases k <;> cases k' <;> first | rfl | simp_all [IsOf]

namespace Proper

theorem isOf_named (h : g.Proper T) (ht : g.Timed b) {n : String} (hn : g.name = some n)
    (hl : g.logical = .waiting ∨ g.logical = .onTurn ∨ g.logical = .onStand) :
    g.IsOf b .named :=
  ⟨⟨n, hn, h.named n hn⟩, hl, ⟨fun e => (h.away e).2 (by simp [hn]), h.cut⟩, ⟨ht.pos, ht.le⟩,
    ht.full⟩

theorem existsUnique_kind (h : g.Proper T) (ht : g.Timed b) : ∃! k, g.IsOf b k := by
  have hkind : ∃ k, g.IsOf b k := by
    cases h.stands with
    | stranger hn hk hl hp => exact ⟨.stranger, hn, fun e => by simp [e] at hl, hk, hp⟩
    | abandoned hn hk hl =>
      have haway := (h.away hl).1
      refine ⟨.abandoned, hn, hl, hk, ?_⟩
      cases hp : g.phase <;> simp_all [Phase.isAway]
    | waiting n hn _ hp => exact ⟨.named, h.isOf_named ht hn (.inl hp)⟩
    | seated t s hn _ _ hp =>
      refine ⟨.named, h.isOf_named ht hn (.inr ?_)⟩
      rw [hp, Table.phaseOf]
      split
      · exact .inl rfl
      · exact .inr rfl
  obtain ⟨k, hk⟩ := hkind
  exact ⟨k, hk, fun k' hk' => hk'.unique hk⟩

theorem saved_mem (h : g.Proper T) : g.saved ∈ [.new, .waiting, .onTurn, .onStand] := by
  have := h.saved
  cases hs : g.saved <;> simp_all [Phase.isAway]

end Proper

end Guest

namespace Hall

namespace Reached
variable {c m b first : Nat} {as : List (GuestId × Line)} {h : Hall} {i : GuestId} {g : Guest}

theorem decayBudget (r : Reached c m b first as h) : h.decayBudget = b := by
  induction r with
  | refl => rfl
  | change _ hc ih => rw [hc.evolves.budget, ih]
  | pair _ _ _ _ ih => rw [(Evolves.pair _).budget, ih]
  | enrol _ _ _ _ ih => exact ih
  | refuse _ _ _ _ ih => rwa [decayBudget_hangUp]
  | shutDown _ ih => rw [decayBudget_shutDown, ih]

theorem timed (r : Reached c m b first as h) (hb : 1 ≤ b) (hg : h.guest? i = some g) : g.Timed b := by
  -- a record comes from one that was timed before
  have keep {h h' : Hall} {first : Nat} {as : List (GuestId × Line)} {j : GuestId} {x : Guest}
      (r : Reached c m b first as h) (ih : ∀ {i g}, h.guest? i = some g → g.Timed b) (he : h.Evolves h')
      (hx : h'.guest? j = some x) : x.Timed b := by
    obtain ⟨y, hy, hbecomes⟩ := he.guest j x hx
    rw [r.decayBudget] at hbecomes
    exact (ih hy).becomes hb hbecomes
  induction r generalizing i g with
  | refl => cases hg
  | change r hc ih => exact keep r ih hc.evolves hg
  | pair r _ _ _ ih => exact keep r ih (.pair _) hg
  | enrol origin line r _ ih =>
    rw [guest?_enrol] at hg
    rcases update_eq_some.1 hg with ⟨-, ⟨⟩⟩ | ⟨-, hg⟩
    · exact .of_full hb (Reached.decayBudget r)
    · exact ih hg
  | refuse id line r _ ih => exact ih (by simpa using hg)
  | shutDown => simp [guest?_shutDown] at hg

end Reached

/-- The names are all different, and every record is of one kind. -/
structure Recorded (b : Nat) (h : Hall) : Prop where
  unique : ∀ i j gi gj n, h.guest? i = some gi → h.guest? j = some gj → gi.name = some n →
    gj.name = some n → i = j
  saved : ∀ i g, h.guest? i = some g → g.saved ∈ [.new, .waiting, .onTurn, .onStand]
  kind : ∀ i g, h.guest? i = some g → ∃! k, g.IsOf b k

/-- Whatever came over the lines, in whatever order, the records are as they should be. -/
theorem run_records (capacity maxTables : Nat) {budget : Nat} (hb : 1 ≤ budget)
    {steps : List Step} (hs : .shutDown ∉ steps) (hids : ((arrivals steps).map Prod.fst).Nodup) :
    ((vacant capacity maxTables budget).run steps).Recorded budget := by
  obtain ⟨as, -, r⟩ := exists_reached capacity maxTables budget hs hids
  exact {
    unique := r.orderly.unique
    saved := fun i g hg => (r.orderly.proper i g hg).saved_mem
    kind := fun i g hg => (r.orderly.proper i g hg).existsUnique_kind (r.timed hb hg) }

/-- A guest is swept until it is disconnected, and comes back over a new line. What is left of it
is abandoned, and somebody else has not given a name. -/
theorem run_records_each_kind :
    let steps : List Step := [.event (.connected 1 "a" 0),
      .event (.data 1 (Request.frame [.connect "Ada"]).toUTF8), .sweep, .sweep, .sweep,
      .event (.connected 2 "a" 1), .event (.connected 3 "b" 2),
      .event (.data 2 (Request.frame [.connect "Ada"]).toUTF8)]
    (1 ≤ 3 ∧ .shutDown ∉ steps ∧ ((arrivals steps).map Prod.fst).Nodup) ∧
      ((vacant 4 2 3).run steps).roster.entries.map (fun e => (e.1, e.2.name, e.2.line)) =
        [(1, none, none), (2, some "Ada", some 1), (3, none, some 2)] ∧
      ((vacant 4 2 3).run steps).Recorded 3 := by
  intro steps
  have hs : .shutDown ∉ steps := by simp [steps]
  have hids : ((arrivals steps).map Prod.fst).Nodup := by decide
  exact ⟨⟨by decide, hs, hids⟩, by decide +kernel, run_records 4 2 (by decide) hs hids⟩

end Hall

end Tafl
