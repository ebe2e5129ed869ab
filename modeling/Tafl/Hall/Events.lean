import Tafl.Hall.Commands
import Tafl.Wire.Request

/-! # What happens on the lines

Connections come in, bytes arrive, lines break. Events that arrive together are dealt with guest
by guest, in the order of the roster, and each guest's events in the order in which they came;
newcomers come last. Then the waiting guests are matched. -/

namespace Tafl

inductive Event where
  /-- Somebody has called, and can be reached on the line. -/
  | connected (id : GuestId) (origin : Origin) (line : Line)
  /-- What came in at once. -/
  | data (id : GuestId) (bytes : ByteArray)
  | closed (id : GuestId)
  | writeFailed (id : GuestId)

def Event.guest : Event → GuestId
  | connected id _ _ | data id _ | closed id | writeFailed id => id

namespace Hall

def enrol (h : Hall) (id : GuestId) (origin : Origin) (line : Line) : Hall :=
  { h with
    roster := h.roster.insert id (.arriving origin line h.decayBudget)
    tally.connected := h.tally.connected + 1 }

/-- Takes a newcomer in, if there is a place, or if there is a disconnected guest whose place it
can have. Says whether it was taken in. -/
def accept (h : Hall) (id : GuestId) (origin : Origin) (line : Line) : Hall × Bool :=
  if h.roster.size < h.capacity then (h.enrol id origin line, true)
  else match h.roster.longestDisconnected? with
    | some old => ((h.drop old).enrol id origin line, true)
    | none => ((h.post line .serverFull).hangUp (some line), false)

/-- Reads what came in from a guest and carries it out. What does not consist of requests ends
the guest's visit; what comes in on a line that was given up is ignored. -/
def receive (h : Hall) (id : GuestId) (bytes : ByteArray) : Hall :=
  let h := { h with tally.bytesReceived := h.tally.bytesReceived + bytes.size }
  if (h.line? id).isNone then h
  else match Request.decode bytes with
    | .error _ => h.drop id
    | .ok requests => h.obeyAll id requests.flatten

def lineClosed (h : Hall) (id : GuestId) : Hall :=
  if (h.line? id).isSome then h.drop id else h

/-- Nothing can be written to a guest: it counts as lost. -/
def writeFailed (h : Hall) (id : GuestId) : Hall :=
  match h.guest? id with
  | none => h
  | some g =>
    if g.phase = .lost ∨ g.phase = .disconnected then h
    else
      let h := h.revise id Guest.lose
      if g.lose.saved.isPlaying then h.sendToOpponent id .opponentLost else h

def handle (h : Hall) : Event → Hall
  | .connected id origin line => (h.accept id origin line).1
  | .data id bytes => h.receive id bytes
  | .closed id => h.lineClosed id
  | .writeFailed id => h.writeFailed id

def arrange (r : Roster) (events : List Event) : List Event :=
  (r.ids.flatMap fun id => events.filter (·.guest = id)) ++
    events.filter fun e => !r.contains e.guest

def handleBatch (h : Hall) (events : List Event) : Hall :=
  ((arrange h.roster events).foldl handle h).matchmake

end Hall

end Tafl
