import Tafl.Proofs.Hall.Accounts
import Tafl.Proofs.Tables.Pairings

/-! # How long tables are counted

Tables are opened by matchmaking alone, and each time no more of them than there is room for
(`Hall.Opens.run`). So their numbers have 32 bits unless guests are matched very often. Main
statement: `Hall.run_isCounted`. -/

namespace Tafl

/-- How often guests are matched. -/
def Step.rounds : Step → Nat
  | batch _ | matchmake => 1
  | event _ | sweep | shutDown => 0

namespace Hall
variable {h h' h'' : Hall} {k n : Nat}

theorem tables_foldl_announce (ps : List Pairing) :
    (ps.foldl matchmake.announce h).tables = h.tables := by
  induction ps generalizing h with
  | nil => rfl
  | cons p ps ih => rw [List.foldl_cons, ih, tables_announce]

/-- Guests were matched so many times, and never at more tables than there is room for. -/
structure Opens (n : Nat) (h h' : Hall) : Prop where
  limit : h'.tables.limit = h.tables.limit
  opened_le : h'.tables.opened ≤ h.tables.opened + n * h.tables.limit

theorem Closes.opens (c : h.Closes h') : Opens 0 h h' :=
  ⟨c.limit, by rw [c.opened, Nat.zero_mul]; exact Nat.le_refl _⟩

namespace Opens

theorem trans (o : Opens n h h') (o' : Opens k h' h'') : Opens (n + k) h h'' where
  limit := o'.limit.trans o.limit
  opened_le := by
    have hle := o.opened_le
    have hle' := o'.opened_le
    rw [o.limit] at hle'
    rw [Nat.add_mul]
    omega

theorem matchmake (h : Hall) : Opens 1 h h.matchmake := by
  have htables : h.matchmake.tables = (Matching.run h.tables h.roster).tables :=
    tables_foldl_announce _
  have s := Matching.run_seats h.tables h.roster
  have hfree : h.tables.free ≤ h.tables.limit := Nat.sub_le ..
  refine ⟨by rw [htables, s.limit], ?_⟩
  rw [htables, s.opened, Nat.one_mul]
  omega

theorem step (s : Step) : Opens s.rounds h (h.step s) := by
  cases s with
  | event e => exact (Closes.handle e).opens
  | batch es => exact (Closes.foldl_handle _).opens.trans (matchmake _)
  | matchmake => exact matchmake h
  | sweep => exact Balances.sweep.closes.opens
  | shutDown => exact Balances.shutDown.closes.opens

theorem run (steps : List Step) : Opens (steps.map Step.rounds).sum h (h.run steps) := by
  induction steps generalizing h with
  | nil => exact (Closes.of_eq rfl).opens
  | cons s steps ih => exact (step s).trans ih

end Opens

/-- In a hall that is not too large for how often guests are matched in it, the tables are counted,
and the numbers of all tables have 32 bits. With room for ten tables, that is so for more than 400
million times. -/
theorem run_isCounted (capacity maxTables budget : Nat) {steps : List Step}
    (hfew : (steps.map Step.rounds).sum * maxTables < UInt32.size) :
    let h := (vacant capacity maxTables budget).run steps
    h.tables.IsCounted ∧ ∀ t ∈ h.tables.running, t.id.toUInt32.toNat = t.id := by
  intro h
  have hle : h.tables.opened ≤ 0 + (steps.map Step.rounds).sum * maxTables :=
    (Opens.run steps).opened_le
  have hcounted : h.tables.IsCounted := by
    rw [Nat.zero_add] at hle
    exact Nat.lt_of_le_of_lt hle hfew
  exact ⟨hcounted, fun t ht => hcounted.toNat_toUInt32 (h.tables.id_le_opened t ht)⟩

end Hall

end Tafl
