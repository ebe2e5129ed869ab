/-! # The phases of a guest

A guest is new, waits in the lobby, or plays; a guest that does not answer is pinged, then lost,
then disconnected. There is no phase for a guest that has gone: the record is no more. -/

namespace Tafl

inductive Phase where
  | new
  | waiting
  | onTurn
  | onStand
  /-- Asked for a sign of life. -/
  | pinged
  /-- Asked in vain. -/
  | lost
  /-- The line is closed; the record stays for a while, so that the guest can come back. -/
  | disconnected
deriving DecidableEq, Repr

namespace Phase

def all : List Phase := [new, waiting, onTurn, onStand, pinged, lost, disconnected]

theorem mem_all (p : Phase) : p ∈ all := by cases p <;> decide

def text : Phase → String
  | new => "new"
  | waiting => "waiting"
  | onTurn => "playing, on turn"
  | onStand => "playing, on stand"
  | pinged => "pinged"
  | lost => "lost"
  | disconnected => "disconnected"

def isPlaying : Phase → Bool
  | onTurn | onStand => true
  | _ => false

/-- The phases of a guest that does not answer. They stand in for the phase before. -/
def isAway : Phase → Bool
  | pinged | lost | disconnected => true
  | _ => false

end Phase

end Tafl
