import Tafl.Move.Digits
import Tafl.Text.Cut
import Tafl.Wire.Frame

/-! # Notices of the server

A notice is one frame: a key, and for some notices a value behind a colon. `Notice.frame` writes
it, `Notice.ofPayload?` reads it, and `Notice.parse` picks the notices out of a text. -/

namespace Tafl

inductive Notice where
  | ping
  | pong
  /-- The player's name is taken down. -/
  | connected
  /-- The player is back where he was. -/
  | reconnected
  | lobby
  | game
  | moveAccepted
  | moveRefused
  | yourTurn
  | opponentsTurn
  | playfield (digits : String)
  | won
  | lost
  | left
  | opponentName (name : String)
  | opponentMove (m : Move)
  | opponentLeft
  /-- The opponent will not come back. -/
  | opponentGone
  /-- The opponent does not answer. -/
  | opponentLost
  | opponentDisconnected
  | opponentBack
  | chat (text : String)
  | serverFull
  | nameInUse
  | kicked
  | shutdown
deriving DecidableEq, Repr

namespace Notice

def key : Notice → String
  | ping => "?"
  | pong => "!"
  | connected => "conn_ok"
  | reconnected => "recn_ok"
  | lobby => "lobby"
  | game => "game"
  | moveAccepted => "mv_ok"
  | moveRefused => "mv_bad"
  | yourTurn => "turn_you"
  | opponentsTurn => "turn_opn"
  | playfield _ => "pf"
  | won => "win"
  | lost => "loss"
  | left => "leave_ok"
  | opponentName _ => "opn_name"
  | opponentMove _ => "opn_move"
  | opponentLeft => "opn_leave"
  | opponentGone => "opn_gone"
  | opponentLost => "opn_lost"
  | opponentDisconnected => "opn_disc"
  | opponentBack => "opn_recn"
  | chat _ => "chat"
  | serverFull => "many"
  | nameInUse => "name_used"
  | kicked => "kick"
  | shutdown => "shutdown"

def value? : Notice → Option String
  | playfield d => some d
  | opponentName n => some n
  | opponentMove m => some m.digits
  | chat t => some t
  | _ => none

def payload (n : Notice) : String := n.value?.elim n.key (n.key ++ ":" ++ ·)

def frame (n : Notice) : String := Frame.wrap n.payload

def ofKeyed? (key value : String) : Option Notice :=
  match key with
  | "pf" => some (playfield value)
  | "opn_name" => some (opponentName value)
  | "opn_move" => (Move.ofDigits? value).toOption.map opponentMove
  | "chat" => some (chat value)
  | _ => none

def ofBare? (key : String) : Option Notice :=
  match key with
  | "conn_ok" => some connected
  | "recn_ok" => some reconnected
  | "lobby" => some lobby
  | "game" => some game
  | "mv_ok" => some moveAccepted
  | "mv_bad" => some moveRefused
  | "turn_you" => some yourTurn
  | "turn_opn" => some opponentsTurn
  | "win" => some won
  | "loss" => some lost
  | "leave_ok" => some left
  | "opn_leave" => some opponentLeft
  | "opn_gone" => some opponentGone
  | "opn_lost" => some opponentLost
  | "opn_disc" => some opponentDisconnected
  | "opn_recn" => some opponentBack
  | "many" => some serverFull
  | "name_used" => some nameInUse
  | "kick" => some kicked
  | "shutdown" => some shutdown
  | _ => none

/-- The keys without a value are read as they are written, apart from those of a ping and a pong. -/
theorem ofBare?_eq_some_iff {key : String} {n : Notice} : ofBare? key = some n ↔
    n.key = key ∧ n.value? = none ∧ n ≠ ping ∧ n ≠ pong := by
  constructor
  · intro h
    unfold ofBare? at h
    split at h
    case h_21 => cases h
    all_goals
      obtain rfl := Option.some.inj h
      exact ⟨rfl, rfl, Notice.noConfusion, Notice.noConfusion⟩
  · rintro ⟨rfl, hvalue, hping, hpong⟩
    cases n with
    | ping => exact absurd rfl hping
    | pong => exact absurd rfl hpong
    | playfield | opponentName | opponentMove | chat => cases hvalue
    | _ => rfl

def ofPayload? (p : List Char) : Option Notice :=
  if p = ['?'] then some ping
  else if p = ['!'] then some pong
  else match Text.cut ':' p with
    | (key, some value) => ofKeyed? (String.ofList key) (String.ofList value)
    | (key, none) => ofBare? (String.ofList key)

/-- The notices in a text. Frames that are none are skipped. -/
def parse (s : List Char) : List Notice := (Frame.closedPayloads s).filterMap ofPayload?

end Notice

end Tafl
