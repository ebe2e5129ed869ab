import Tafl.Move

/-! # The wire form of a move

A move travels as eight ASCII digits, two for each coordinate: column and row of the source, column
and row of the target. A coordinate above 99 takes three digits, so such a move is written, but no
reader takes it for another one: its text is too long. -/

namespace Tafl

inductive MoveTextError where
  /-- The text does not have eight bytes. It holds `found` characters. -/
  | length (found : Nat)
  | notDigit
deriving DecidableEq, Repr

def MoveTextError.message : MoveTextError → String
  | length n => "move must be exactly 8 digits, got " ++ toString n ++ " characters"
  | notDigit => "move contains a non-digit character"

namespace Move

/-- A coordinate in at least two digits. -/
def twoDigits (n : UInt8) : String := if n < 10 then "0" ++ toString n.toNat else toString n.toNat

def digits (m : Move) : String :=
  twoDigits m.source.x ++ twoDigits m.source.y ++ twoDigits m.target.x ++ twoDigits m.target.y

def digit? (c : Char) : Option UInt8 :=
  if c.isDigit then some (c.toNat - '0'.toNat).toUInt8 else none

/-- Reads a move from exactly eight ASCII digits. -/
def ofDigits? (s : String) : Except MoveTextError Move :=
  if s.utf8ByteSize ≠ 8 then .error (.length s.length)
  else match s.toList.mapM digit? with
    | some [a, b, c, d, e, f, g, h] =>
      .ok ⟨⟨10 * a + b, 10 * c + d⟩, ⟨10 * e + f, 10 * g + h⟩⟩
    | _ => .error .notDigit

end Move

end Tafl
