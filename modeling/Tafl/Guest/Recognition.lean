import Tafl.Guest

/-! # What it means to give a name

A guest that gives a name is new, or comes back, or asks for a name that is taken. It comes back
if it calls from the address of the guest that holds the name, and that one does not answer. -/

namespace Tafl

/-- What a guest that gives a name is taken for. -/
inductive Recognition where
  /-- Nobody holds the name. -/
  | fresh
  | nameInUse
  /-- The holder has left a ping or two unanswered. -/
  | shortAbsence
  /-- The holder is disconnected, and its time is not up yet. -/
  | longAbsence
deriving DecidableEq, Repr

/-- What somebody who calls from `origin` is taken for, given the guest that holds the name. -/
def Recognition.judge (holder : Option Guest) (origin : Origin) : Recognition :=
  match holder with
  | none => fresh
  | some g =>
    if g.origin ≠ origin then nameInUse
    else match g.phase with
      | .pinged | .lost => shortAbsence
      | .disconnected => if 0 < g.decay then longAbsence else nameInUse
      | _ => nameInUse

end Tafl
