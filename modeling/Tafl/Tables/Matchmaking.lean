import Tafl.Roster
import Tafl.Tables

/-! # Matchmaking

Waiting guests are paired in the order of the roster, the earlier one as Black, as long as there
are tables left for them. -/

namespace Tafl

/-- A table that was just opened, and who sits at it. -/
structure Pairing where
  table : Nat
  black : GuestId
  white : GuestId
deriving DecidableEq, Repr

/-- The elements of a list two by two. A last one without a partner is left out. -/
def pairUp {α : Type} : List α → List (α × α)
  | a :: b :: r => (a, b) :: pairUp r
  | _ => []

/-- The guests that wait for a game, with their names. -/
def Roster.waiting (r : Roster) : List (GuestId × String) :=
  r.entries.filterMap fun e => if e.2.phase = .waiting then e.2.name.map (e.1, ·) else none

def Guest.sit (g : Guest) (t : Nat) (p : Phase) : Guest := { g with table := some t }.settle p

/-- Tables and guests while they are matched, and the pairings made so far. -/
structure Matching where
  tables : Tables
  roster : Roster
  pairings : List Pairing := []

namespace Matching

def seat (m : Matching) (p : (GuestId × String) × (GuestId × String)) : Matching :=
  let tables := m.tables.openFor p.1.2 p.2.2
  let table := tables.opened
  { tables
    roster := (m.roster.modify p.1.1 (·.sit table .onTurn)).modify p.2.1 (·.sit table .onStand)
    pairings := m.pairings ++ [⟨table, p.1.1, p.2.1⟩] }

/-- Seats as many waiting guests as there is room for. -/
def run (ts : Tables) (r : Roster) : Matching :=
  ((pairUp r.waiting).take ts.free).foldl seat { tables := ts, roster := r }

end Matching

end Tafl
