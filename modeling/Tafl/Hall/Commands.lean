import Tafl.Guest.Recognition
import Tafl.Guest.Rights
import Tafl.Hall

/-! # What a guest's commands do

Each command is checked against the rights of the guest first. `Hall.obey` carries it out and says
whether the guest may stay. -/

namespace Tafl

/-- Whether a guest may stay after a command. -/
inductive Verdict where
  | stay
  | leave (why : Departure)
deriving DecidableEq, Repr

namespace Hall

/-- A sign of life: the guest is back, and an opponent that had lost it is told so. -/
def onPong (h : Hall) (id : GuestId) : Hall :=
  match h.guest? id with
  | none => h
  | some g =>
    if g.phase = .pinged ∨ g.phase = .lost then
      let h' := h.revise id (·.restore h.decayBudget)
      if g.phase = .lost ∧ g.saved.isPlaying then h'.sendToOpponent id .opponentBack else h'
    else h

/-- Tells a guest that has come back where it is, and its opponent that it is back. -/
def welcomeBack (h : Hall) (id : GuestId) : Hall :=
  { h with tally.reconnected := h.tally.reconnected + 1 }.send id .reconnected
    |>.sendPlace id
    |>.sendToOpponent id .opponentBack

def onOwnName (h : Hall) (id : GuestId) (g : Guest) : Hall :=
  match Recognition.judge (some g) g.origin with
  | .shortAbsence => (h.revise id (·.restore h.decayBudget)).welcomeBack id
  | _ => h.send id .nameInUse

def onFirstName (h : Hall) (id : GuestId) (g : Guest) (name : String) : Hall :=
  -- whoever answers is there
  let h := h.revise id (·.restore h.decayBudget)
  let holder := h.roster.findName? name
  match Recognition.judge (holder.bind h.guest?) g.origin, holder with
  | .fresh, _ =>
    h.revise id (fun g => { g with name := some name }.settle .waiting)
      |>.send id .connected
      |>.send id .lobby
  | .nameInUse, _ => h.send id .nameInUse
  | _, none => h
  | _, some old =>
    { h with roster := h.roster.handOver old id h.decayBudget }.hangUp (h.roster.staleLine? old id)
      |>.welcomeBack id

def onConnect (h : Hall) (id : GuestId) (name : String) : Hall × Verdict :=
  match h.guest? id with
  | none => (h, .stay)
  | some g => match g.name with
    | none => (h.onFirstName id g name, .stay)
    | some own => if own = name then (h.onOwnName id g, .stay) else (h, .leave .violation)

/-- Ends a game that the guest `id` has won or lost against `opponent`. -/
def settleGame (h : Hall) (id : GuestId) (opponent : Option GuestId) (table : Nat)
    (won : Bool) : Hall :=
  let h := h.send id (if won then .won else .lost)
  let h := { h with tables := h.tables.close table }.toLobby id
  opponent.elim h fun o => (h.send o (if won then .lost else .won)).toLobby o

def passTurn (h : Hall) (id : GuestId) (opponent : Option GuestId) : Hall :=
  let h := (h.revise id (·.settle .onStand)).send id .opponentsTurn
  opponent.elim h fun o => (h.revise o (·.settle .onTurn)).send o .yourTurn

/-- Shows a move that was made, and the board after it, to both players. -/
def showMove (h : Hall) (id : GuestId) (opponent : Option GuestId) (m : Move) (digits : String) :
    Hall :=
  let h := (h.send id .moveAccepted).send id (.playfield digits)
  opponent.elim h fun o => (h.send o (.opponentMove m)).send o (.playfield digits)

def onMove (h : Hall) (id : GuestId) (m : Move) : Hall × Verdict :=
  match h.guest? id with
  | none => (h, .stay)
  | some g => match h.table? id with
    | none => (h, .leave .violation)
    | some table =>
      let name := g.name.getD ""
      match table.play name m with
      | .error _ => (h.send id .moveRefused, .stay)
      | .ok (table, report) =>
        let h := { h with tables := h.tables.replace table }
        let opponent := h.opponent? id
        let h := h.showMove id opponent m table.board.digits
        match report.winner with
        | some winner =>
          (h.settleGame id opponent table.id (table.sideOf? name = some winner), .stay)
        | none => (h.passTurn id opponent, .stay)

def onLeave (h : Hall) (id : GuestId) : Hall × Verdict :=
  if ((h.guest? id).bind Guest.table).isSome then
    (((h.send id .left).breakUp id .opponentLeft).toLobby id, .stay)
  else (h, .leave .violation)

/-- Carries out a command of a guest, if the guest may give it. -/
def obey (h : Hall) (id : GuestId) (c : Command) : Hall × Verdict :=
  match h.guest? id with
  | none => (h, .stay)
  | some g =>
    if !c.isAllowed g.phase g.saved g.name.isSome then (h, .leave .violation)
    else match c with
      | .ping => (h.send id .pong, .stay)
      | .pong => (h.onPong id, .stay)
      | .connect name => h.onConnect id name
      | .move m => h.onMove id m
      | .leave => h.onLeave id
      | .chat text => (h.sendToOpponent id (.chat text), .stay)
      | .exit => (h, .leave .exit)

/-- Carries out commands one after the other, until the guest has to leave. -/
def obeyAll (h : Hall) (id : GuestId) : List Command → Hall
  | [] => h
  | c :: cs => match h.obey id c with
    | (h, .stay) => h.obeyAll id cs
    | (h, .leave _) => h.drop id

end Hall

end Tafl
