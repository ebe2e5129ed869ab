import Tafl.Tables.Matchmaking
import Tafl.Wire.Notice

/-! # The hall

The hall holds all guests and all tables, and answers what happens at its doors. It writes to no
connection itself: what is to be sent goes to the outbox, line by line, in order. -/

namespace Tafl

inductive Outgoing where
  | frame (n : Notice)
  /-- Send what is left and close the line. -/
  | close
deriving DecidableEq, Repr

/-- What has happened in the hall since it was opened, in numbers. -/
structure Tally where
  connected : Nat := 0
  disconnected : Nat := 0
  reconnected : Nat := 0
  bytesReceived : Nat := 0
  bytesSent : Nat := 0
  tablesOpened : Nat := 0
deriving DecidableEq, Repr

structure Hall where
  roster : Roster := .empty
  tables : Tables
  tally : Tally := {}
  capacity : Nat
  /-- How many sweeps a disconnected guest is waited for. -/
  decayBudget : Nat
  outbox : List (Line × Outgoing) := []
deriving DecidableEq, Repr

namespace Hall

def vacant (capacity maxTables decayBudget : Nat) : Hall :=
  { tables := { limit := maxTables }, capacity, decayBudget }

/-- All that was ever put out on a line, in order. -/
def sentOn (h : Hall) (line : Line) : List Outgoing :=
  h.outbox.filterMap fun e => if e.1 = line then some e.2 else none

/-! ### Guests, their tables and their opponents -/

def guest? (h : Hall) (id : GuestId) : Option Guest := h.roster.get? id

def revise (h : Hall) (id : GuestId) (f : Guest → Guest) : Hall :=
  { h with roster := h.roster.modify id f }

/-- The line to a guest, if it is open. -/
def line? (h : Hall) (id : GuestId) : Option Line := (h.guest? id).bind Guest.line

def table? (h : Hall) (id : GuestId) : Option Table := do h.tables.get? (← (← h.guest? id).table)

def opponent? (h : Hall) (id : GuestId) : Option GuestId := do
  let g ← h.guest? id
  let t ← h.table? id
  h.roster.findName? (← t.opponentOf? (← g.name))

/-! ### Sending -/

def post (h : Hall) (line : Line) (n : Notice) : Hall :=
  { h with
    outbox := h.outbox ++ [(line, .frame n)]
    tally.bytesSent := h.tally.bytesSent + n.frame.utf8ByteSize }

def hangUp (h : Hall) (line : Option Line) : Hall :=
  line.elim h fun l => { h with outbox := h.outbox ++ [(l, .close)] }

/-- Sends a notice to a guest. Without a line to it, nothing happens. -/
def send (h : Hall) (id : GuestId) (n : Notice) : Hall := (h.line? id).elim h (h.post · n)

def sendToOpponent (h : Hall) (id : GuestId) (n : Notice) : Hall :=
  (h.opponent? id).elim h (h.send · n)

theorem sentOn_post (h : Hall) (i j : Line) (n : Notice) :
    (h.post i n).sentOn j = if j = i then h.sentOn j ++ [.frame n] else h.sentOn j := by
  by_cases hij : j = i
  · simp [post, sentOn, hij]
  · simp [post, sentOn, hij, Ne.symm hij]

theorem sentOn_hangUp (h : Hall) (i j : Line) :
    (h.hangUp (some i)).sentOn j = if j = i then h.sentOn j ++ [.close] else h.sentOn j := by
  by_cases hij : j = i
  · simp [hangUp, sentOn, hij]
  · simp [hangUp, sentOn, hij, Ne.symm hij]

/-! ### Telling a guest where it is -/

/-- Tells a guest about its game: the opponent's name, the board and whose turn it is. -/
def sendGame (h : Hall) (id : GuestId) : Hall :=
  match h.guest? id, h.table? id with
  | some g, some t =>
    let name := g.name.getD ""
    let turn := if t.playerOnTurn = name then .yourTurn else .opponentsTurn
    h.send id .game
      |>.send id (.opponentName ((t.opponentOf? name).getD ""))
      |>.send id (.playfield t.board.digits)
      |>.send id turn
  | _, _ => h

def sendPlace (h : Hall) (id : GuestId) : Hall :=
  if (h.table? id).isSome then h.sendGame id else h.send id .lobby

/-! ### Leaving a table, and leaving the hall -/

def toLobby (h : Hall) (id : GuestId) : Hall :=
  (h.revise id fun g => { g with table := none }.settle .waiting).send id .lobby

/-- Closes the table of a guest. The opponent gets the notice and goes back to the lobby. -/
def breakUp (h : Hall) (id : GuestId) (n : Notice) : Hall :=
  match (h.guest? id).bind Guest.table with
  | none => h
  | some table =>
    let h' := { h with tables := h.tables.close table }
      |>.revise id fun g => { g with table := none }
    (h.opponent? id).elim h' fun o => (h'.send o n).toLobby o

def strike (h : Hall) (id : GuestId) : Hall :=
  match h.guest? id with
  | none => h
  | some g =>
    { h with
      roster := h.roster.erase id
      tally.disconnected := h.tally.disconnected + 1 }.hangUp g.line

/-- Removes a guest for good. Its game ends with it. -/
def drop (h : Hall) (id : GuestId) : Hall := (h.breakUp id .opponentGone).strike id

/-- Opens tables for waiting guests and tells them about their games. -/
def matchmake (h : Hall) : Hall :=
  let m := Matching.run h.tables h.roster
  m.pairings.foldl announce { h with tables := m.tables, roster := m.roster }
where
  announce (h : Hall) (p : Pairing) : Hall :=
    { h with tally.tablesOpened := h.tally.tablesOpened + 1 }
      |>.sendGame p.black
      |>.sendGame p.white

def shutDown (h : Hall) : Hall :=
  h.roster.ids.foldl (fun h id => (h.send id .shutdown).strike id) h

end Hall

end Tafl
