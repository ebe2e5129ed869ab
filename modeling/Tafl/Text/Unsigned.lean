/-! # Unsigned decimal numbers

An unsigned number is one or more ASCII digits behind an optional plus sign. Leading zeros do not
matter. A reader has a largest value and refuses what exceeds it. -/

namespace Tafl.Text

/-- The number that a row of ASCII digits stands for. -/
def valueOf (digits : List Char) : Nat := digits.foldl (fun n c => 10 * n + (c.toNat - '0'.toNat)) 0

/-- One or more ASCII digits, and nothing else. -/
def digits? (s : List Char) : Option Nat :=
  if s ≠ [] ∧ s.all Char.isDigit then some (valueOf s) else none

/-- Reads an unsigned number that is at most `largest`. -/
def unsigned? (largest : Nat) (s : List Char) : Option Nat :=
  (digits? (unsign s)).filter (· ≤ largest)
where
  unsign : List Char → List Char
    | '+' :: r => r
    | s => s

end Tafl.Text
