import Tafl.Guest.Phase
import Tafl.Wire.Command

/-! # What a guest may do

| command             | allowed                                                 |
|---------------------|---------------------------------------------------------|
| ping, pong, connect | always                                                  |
| move                | on turn, or pinged while on turn                        |
| leave, chat         | playing, or pinged while playing                        |
| exit                | with a name                                             |

Anything else breaks the rules of the house, and the guest is thrown out. -/

namespace Tafl

namespace Phase

/-- The phase that counts: a pinged guest keeps the rights it had. -/
def effective (phase saved : Phase) : Phase := if phase = pinged then saved else phase

end Phase

namespace Command

def isAllowed (c : Command) (phase saved : Phase) (named : Bool) : Bool :=
  match c with
  | ping | pong | connect _ => true
  | move _ => phase.effective saved = .onTurn
  | leave | chat _ => (phase.effective saved).isPlaying
  | exit => named

/-- Whether a command is allowed in a phase: for each saved phase, first without a name and then
with one. -/
def rightsIn (c : Command) (phase : Phase) : List Bool :=
  Phase.all.flatMap fun saved => [c.isAllowed phase saved false, c.isAllowed phase saved true]

end Command

inductive Departure where
  /-- What came in was not made of frames. -/
  | invalidData
  /-- A command that was not allowed. -/
  | violation
  /-- The guest said goodbye. -/
  | exit
  /-- The guest closed the connection. -/
  | logout
  /-- The guest did not come back in time, or the record was abandoned. -/
  | evicted
  /-- A new connection needed the place. -/
  | reclaimed
deriving DecidableEq, Repr

def Departure.text : Departure → String
  | invalidData => "invalid data"
  | violation => "violation of protocol"
  | exit => "exit"
  | logout => "logout"
  | evicted => "evicted"
  | reclaimed => "reclaimed for a new connection"

end Tafl
