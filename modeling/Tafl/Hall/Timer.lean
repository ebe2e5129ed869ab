import Tafl.Hall.Sweep

/-! # Regular sweeps

A timer sweeps a hall each time a period is over, until it is stopped. The first sweep comes one
period after the start. -/

namespace Tafl

structure Timer where
  /-- The time from one sweep to the next, in milliseconds. -/
  period : Nat
  /-- The time since the start, in milliseconds. -/
  elapsed : Nat := 0
  running : Bool := true

namespace Timer

/-- How many sweeps become due within the next `ms` milliseconds. -/
def due (t : Timer) (ms : Nat) : Nat :=
  if t.running then (t.elapsed + ms) / t.period - t.elapsed / t.period else 0

def advance (t : Timer) (ms : Nat) : Timer := { t with elapsed := t.elapsed + ms }

def stop (t : Timer) : Timer := { t with running := false }

end Timer

/-- Lets time pass in a hall, with all the sweeps that become due. -/
def Hall.wait (h : Hall) (t : Timer) (ms : Nat) : Hall := h.sweeps (t.due ms)

end Tafl
