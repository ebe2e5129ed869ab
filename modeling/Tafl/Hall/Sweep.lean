import Tafl.Hall

/-! # Sweeps

A sweep takes every guest one step down the ladder: pinged, lost, disconnected, and at last
removed. An answer takes a guest back up. Guests without a name have nothing to come back to, and
once somebody has taken over the name of a record, it goes with the next sweep. -/

namespace Tafl.Hall

def sweepGuest (h : Hall) (id : GuestId) : Hall :=
  match h.guest? id with
  | none => h
  | some g =>
    if g.isAbandoned then h.drop id
    else match g.phase with
      | .pinged =>
        let h := (h.revise id Guest.lose).send id .ping
        if g.saved.isPlaying then h.sendToOpponent id .opponentLost else h
      | .lost =>
        (h.send id .kicked).revise id (·.disconnect h.decayBudget)
          |>.hangUp g.line
          |>.sendToOpponent id .opponentDisconnected
      | .disconnected =>
        let h := h.revise id fun g => { g with decay := g.decay - 1 }
        if g.decay ≤ 1 then h.drop id else h
      | .new | .waiting | .onTurn | .onStand => (h.revise id Guest.ping).send id .ping

def sweep (h : Hall) : Hall := h.roster.ids.foldl sweepGuest h

def sweeps (h : Hall) (n : Nat) : Hall := n.repeat sweep h

end Tafl.Hall
