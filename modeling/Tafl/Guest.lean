import Tafl.Guest.Phase
import Tafl.Table

/-! # Guests

A guest is the record of a player, or of a connection that has not given a name yet. While the
guest is away its former phase is saved, and what happens in its game is noted there, so that it
finds everything in order when it comes back. -/

namespace Tafl

/-- The number of a record. Numbers are never given twice. -/
abbrev GuestId := Nat

def GuestId.text (id : GuestId) : String := "#" ++ toString id

/-- The address a connection comes from. It is compared, and nothing else. -/
abbrev Origin := String

/-- The number of a line: the way out to one connection. -/
abbrev Line := Nat

structure Guest where
  /-- Missing until the guest gives it, and again once somebody else has taken over. -/
  name : Option String := none
  origin : Origin
  /-- The table the guest sits at. Without one, it is in the lobby. -/
  table : Option Nat := none
  phase : Phase := .new
  /-- The phase to return to. -/
  saved : Phase := .new
  /-- The sweeps left until a disconnected guest is given up. -/
  decay : Nat
  /-- The line to the guest, while it is open. -/
  line : Option Line
deriving DecidableEq, Repr

namespace Guest

def arriving (origin : Origin) (line : Line) (budget : Nat) : Guest :=
  { origin, decay := budget, line := some line }

/-- Abandoned records have lost their name to a reconnection, and wait to be swept away. -/
def isAbandoned (g : Guest) : Bool := g.name.isNone && g.phase ≠ .new

/-- Notes a phase of the game, as the saved one while the guest is away. -/
def settle (g : Guest) (p : Phase) : Guest :=
  if g.phase.isAway then { g with saved := p } else { g with phase := p }

def ping (g : Guest) : Guest := { g with phase := .pinged, saved := g.phase }

/-- Goes away, and saves the phase unless the guest was away before. -/
def goAway (g : Guest) (p : Phase) : Guest :=
  { g with phase := p, saved := if g.phase.isAway then g.saved else g.phase }

def lose (g : Guest) : Guest := g.goAway .lost

/-- Gives up the line, and starts the countdown. -/
def disconnect (g : Guest) (budget : Nat) : Guest :=
  { g.goAway .disconnected with decay := budget, line := none }

def restore (g : Guest) (budget : Nat) : Guest :=
  { g with phase := if g.phase.isAway then g.saved else g.phase, decay := budget }

end Guest

end Tafl
