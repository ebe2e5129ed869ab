import Tafl.Text.Unsigned

/-! # Addresses of interfaces

An address is four bytes, written as decimal numbers between dots, without leading zeros. -/

namespace Tafl

structure Address where
  a : UInt8
  b : UInt8
  c : UInt8
  d : UInt8
deriving DecidableEq, Repr

namespace Address

def loopback : Address := ⟨127, 0, 0, 1⟩

def text (x : Address) : String :=
  String.intercalate "." ([x.a, x.b, x.c, x.d].map fun n => toString n.toNat)

/-- Reads one of the four numbers: at most three digits, no leading zero, no more than a byte. -/
def byte? (s : List Char) : Option UInt8 :=
  if s.length ≤ 3 ∧ (s.length = 1 ∨ s.head? ≠ some '0') then
    ((Text.digits? s).filter (· ≤ 255)).map Nat.toUInt8
  else none

def ofText? (s : List Char) : Option Address :=
  match (s.splitOn '.').mapM byte? with
  | some [a, b, c, d] => some ⟨a, b, c, d⟩
  | _ => none

end Address

end Tafl
