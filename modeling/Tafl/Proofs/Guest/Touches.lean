import Mathlib.Logic.Relation
import Tafl.Proofs.Guest.Standing

/-! # How a record becomes another

`Guest.Touch b` lists all that is ever done to a record at once, in a hall that waits for a
disconnected guest through `b` sweeps, and `Guest.Becomes b` is a row of these. What is true of the
history of a record is proved touch by touch: here that lines are only lost (`Becomes.line_eq`),
and that the countdown runs while the guest is disconnected and at no other time (`Timed`). -/

namespace Tafl.Guest
open Relation (ReflTransGen)

inductive Touch (b : Nat) (g : Guest) : Guest → Prop
  | settle {p : Phase} (settled : p.isAway = false) : Touch b g (g.settle p)
  | seat (k : Option Nat) : Touch b g { g with table := k }
  | name (n : String) (stranger : g.name = none) (line : g.line.isSome = true) :
      Touch b g { g with name := some n }
  | ping (awake : g.phase.isAway = false) : Touch b g g.ping
  | lose (lost : g.phase ≠ .lost) (disconnected : g.phase ≠ .disconnected) : Touch b g g.lose
  | disconnect (lost : g.phase = .lost) : Touch b g (g.disconnect b)
  | fade (disconnected : g.phase = .disconnected) (decay : 1 < g.decay) :
      Touch b g { g with decay := g.decay - 1 }
  | restore (line : g.line.isSome = true) : Touch b g (g.restore b)
  /-- Somebody else takes over. -/
  | abandon (away : g.phase.isAway = true) :
      Touch b g { g with name := none, table := none, line := none }
  /-- A stranger takes over from `old`. -/
  | inherit (old : Guest) (stranger : g.name = none) (line : g.line.isSome = true)
      (away : old.phase.isAway = true) :
      Touch b g { g with name := old.name, table := old.table, phase := old.saved,
                         saved := old.saved, decay := b }

abbrev Becomes (b : Nat) : Guest → Guest → Prop := ReflTransGen (Touch b)

variable {b : Nat} {g g' : Guest}

theorem Becomes.seat_settle (k : Option Nat) {p : Phase} (hp : p.isAway = false) :
    g.Becomes b ({ g with table := k }.settle p) :=
  .tail (.single (.seat k)) (.settle hp)

/-! ### Lines -/

theorem Touch.line_eq (h : g.Touch b g') : g'.line = g.line ∨ g'.line = none := by
  cases h with
  | settle => exact .inl (line_settle _)
  | disconnect | abandon => exact .inr rfl
  | seat | name | ping | lose | fade | restore | inherit => exact .inl rfl

theorem Becomes.line_eq (h : g.Becomes b g') : g'.line = g.line ∨ g'.line = none := by
  induction h with
  | refl => exact .inl rfl
  | tail _ ht ih =>
    rcases ht.line_eq with e | e
    · rwa [e]
    · exact .inr e

/-! ### Names -/

/-- What a reconnection has left behind: neither a name nor a line. -/
def IsLeft (g : Guest) : Prop := g.name = none ∧ g.line = none

theorem IsLeft.touch (h : g.IsLeft) (ht : g.Touch b g') : g'.IsLeft := by
  obtain ⟨hn, hl⟩ := h
  cases ht with
  | settle => exact ⟨by rwa [name_settle], by rwa [line_settle]⟩
  | name _ _ line | inherit _ _ line =>
    rw [hl] at line
    cases line
  | disconnect => exact ⟨hn, rfl⟩
  | abandon => exact ⟨rfl, rfl⟩
  | seat | ping | lose | fade | restore => exact ⟨hn, hl⟩

/-! ### The countdown -/

/-- The countdown is not over, and it runs only while the guest is disconnected. -/
structure Timed (b : Nat) (g : Guest) : Prop where
  pos : 1 ≤ g.decay
  le : g.decay ≤ b
  full : g.phase ≠ .disconnected → g.decay = b

theorem decay_settle (p : Phase) : (g.settle p).decay = g.decay := by
  unfold settle; split <;> rfl

theorem Timed.of_full (hb : 1 ≤ b) (h : g.decay = b) : g.Timed b :=
  ⟨h ▸ hb, Nat.le_of_eq h, fun _ => h⟩

theorem Timed.touch (hb : 1 ≤ b) (h : g.Timed b) (ht : g.Touch b g') : g'.Timed b := by
  cases ht with
  | settle =>
    refine ⟨by rw [decay_settle]; exact h.pos, by rw [decay_settle]; exact h.le, fun hd => ?_⟩
    rw [decay_settle]
    refine h.full fun e => hd ?_
    rw [phase_settle, e]
    rfl
  | seat | name | abandon => exact ⟨h.pos, h.le, h.full⟩
  | ping awake => exact .of_full hb (h.full fun e => by rw [e] at awake; cases awake)
  | lose _ disconnected => exact .of_full hb (h.full disconnected)
  | fade disconnected decay =>
    exact ⟨Nat.le_sub_one_of_lt decay, Nat.le_trans (Nat.sub_le _ 1) h.le, fun hd => absurd disconnected hd⟩
  | disconnect | restore | inherit => exact .of_full hb rfl

theorem Timed.becomes (hb : 1 ≤ b) (h : g.Timed b) (hg : g.Becomes b g') : g'.Timed b := by
  induction hg with
  | refl => exact h
  | tail _ ht ih => exact ih.touch hb ht

end Tafl.Guest
