import Tafl.Proofs.Hall.Guises

/-! # Halls under a veil

A veil is drawn over a hall by pinging some of the guests that are awake, and by putting what was
sent long ago before what was sent since. It is a guise (`Guise.veil`), under which everybody has
the rights it had. So what a guest does, unless it answers the ping or gives a name, comes to the
same whether it is done before the veil is drawn or after (`receive_veil`). -/

namespace Tafl

namespace Guest

/-- Pings a guest that is awake, if `b` says so. -/
def veiled (b : Bool) (g : Guest) : Guest := if b && !g.phase.isAway then g.ping else g

variable (b : Bool) (g : Guest)

@[simp] theorem name_veiled : (g.veiled b).name = g.name := by
  unfold veiled; split <;> rfl

@[simp] theorem table_veiled : (g.veiled b).table = g.table := by
  unfold veiled; split <;> rfl

@[simp] theorem line_veiled : (g.veiled b).line = g.line := by
  unfold veiled; split <;> rfl

@[simp] theorem veiled_false : g.veiled false = g := rfl

theorem veiled_of_awake {g : Guest} (h : g.phase.isAway = false) : g.veiled true = g.ping := by
  simp [veiled, h]

/-- A pinged guest is settled in the phase that it will return to. -/
theorem settle_veiled {p : Phase} (hp : p.isAway = false) :
    (g.veiled b).settle p = (g.settle p).veiled b := by
  have hping : Phase.isAway .pinged = true := rfl
  cases ha : g.phase.isAway <;> cases b <;> simp [veiled, settle, ping, ha, hp, hping]

theorem seat_veiled (k : Option Nat) :
    { g.veiled b with table := k } = { g with table := k }.veiled b := by
  unfold veiled
  cases b && !g.phase.isAway <;> simp [ping]

/-- A pinged guest has the rights it had. -/
theorem isAllowed_veiled (c : Command) (named : Bool) :
    c.isAllowed (g.veiled b).phase (g.veiled b).saved named = c.isAllowed g.phase g.saved named := by
  unfold veiled
  split
  · rename_i h
    have ha : g.phase.isAway = false := by simpa using (Bool.and_eq_true_iff.1 h).2
    have hne : g.phase ≠ .pinged := fun e => by rw [e] at ha; cases ha
    have he : Phase.effective .pinged g.phase = g.phase.effective g.saved := by
      rw [Phase.effective, Phase.effective, if_pos rfl, if_neg hne]
    cases c <;> simp only [Command.isAllowed, ping, he]
  · rfl

end Guest

namespace Roster

def veil (S : GuestId → Bool) (r : Roster) : Roster where
  entries := r.entries.map fun e => (e.1, e.2.veiled (S e.1))
  nodup := by simpa [Function.comp_def] using r.nodup

variable {S : GuestId → Bool} {r : Roster} {i : GuestId}

@[simp] theorem get?_veil : (r.veil S).get? i = (r.get? i).map (Guest.veiled (S i)) :=
  get?_disguise (f := fun i g => g.veiled (S i))

@[simp] theorem ids_veil : (r.veil S).ids = r.ids :=
  ids_disguise (f := fun i g => g.veiled (S i))

/-- Without anybody to be pinged, nothing changes. -/
theorem veil_false : r.veil (fun _ => false) = r := by
  simp [veil]

end Roster

namespace Hall

/-- Pings the guests in `S` that are awake, and puts `past` before what was sent. -/
def veil (S : GuestId → Bool) (past : List (Line × Outgoing)) (h : Hall) : Hall :=
  { h with roster := h.roster.veil S, outbox := past ++ h.outbox }

variable {S : GuestId → Bool} {past : List (Line × Outgoing)} {h : Hall} {i : GuestId}

@[simp] theorem guest?_veil : (h.veil S past).guest? i = (h.guest? i).map (Guest.veiled (S i)) :=
  Roster.get?_veil

end Hall

/-- A veil is a guise, though not a discreet one: somebody else may take over from a guest that is
pinged. -/
def Guise.veil (S : GuestId → Bool) (past : List (Line × Outgoing)) : Guise where
  record i g := g.veiled (S i)
  past := past

theorem Guise.decent_veil (S : GuestId → Bool) (past : List (Line × Outgoing)) :
    (Guise.veil S past).Decent where
  name _ g := g.name_veiled _
  table _ g := g.table_veiled _
  line _ g := g.line_veiled _
  settle _ g _ hp := g.settle_veiled _ hp
  seat _ g k := g.seat_veiled _ k

/-- Commands by which a guest neither says that it is there nor who it is. -/
def Command.IsQuiet (c : Command) : Prop := c ≠ .pong ∧ ∀ n, c ≠ .connect n

namespace Hall
variable {S : GuestId → Bool} {past : List (Line × Outgoing)} {h : Hall} {i : GuestId}

theorem veil_eq_disguise : h.veil S past = h.disguise (.veil S past) := rfl

theorem drop_veil : (h.veil S past).drop i = (h.drop i).veil S past := by
  rw [veil_eq_disguise, veil_eq_disguise, drop_disguise (Guise.decent_veil S past)]

/-- A hall under the veil, with the same verdict. -/
def veilAnswer (S : GuestId → Bool) (past : List (Line × Outgoing)) (a : Hall × Verdict) :
    Hall × Verdict := (a.1.veil S past, a.2)

theorem obey_veil {c : Command} (hc : c.IsQuiet) :
    (h.veil S past).obey i c = veilAnswer S past (h.obey i c) := by
  have hG := Guise.decent_veil S past
  unfold obey
  rw [guest?_veil]
  cases h.guest? i with
  | none => rfl
  | some g =>
    simp only [Option.map_some, Guest.name_veiled, Guest.isAllowed_veiled]
    split
    · rfl
    · cases c with
      | ping => exact congrArg (·, Verdict.stay) (send_disguise hG)
      | pong => exact absurd rfl hc.1
      | connect n => exact absurd rfl (hc.2 n)
      | move m => exact onMove_disguise hG m
      | leave => exact onLeave_disguise hG
      | chat text => exact congrArg (·, Verdict.stay) (sendToOpponent_disguise hG)
      | exit => rfl

theorem obeyAll_veil {cs : List Command} (hcs : ∀ c ∈ cs, c.IsQuiet) :
    (h.veil S past).obeyAll i cs = (h.obeyAll i cs).veil S past := by
  induction cs generalizing h with
  | nil => rfl
  | cons c cs ih =>
    unfold obeyAll
    rw [obey_veil (hcs c (List.mem_cons_self ..))]
    rcases h.obey i c with ⟨k, v⟩
    cases v with
    | stay => exact ih fun c hc => hcs c (List.mem_cons_of_mem _ hc)
    | leave why => exact drop_veil

theorem receive_veil {bytes : ByteArray}
    (hq : ∀ rs, Request.decode bytes = .ok rs → ∀ c ∈ rs.flatten, c.IsQuiet) :
    (h.veil S past).receive i bytes = (h.receive i bytes).veil S past := by
  have hG := Guise.decent_veil S past
  unfold receive
  have htally : { h.veil S past with
      tally.bytesReceived := (h.veil S past).tally.bytesReceived + bytes.size } =
      { h with tally.bytesReceived := h.tally.bytesReceived + bytes.size }.veil S past := rfl
  rw [htally]
  dsimp only
  rw [veil_eq_disguise, line?_disguise hG, ← veil_eq_disguise]
  split
  · rfl
  · cases hd : Request.decode bytes with
    | error e => exact drop_veil
    | ok rs => exact obeyAll_veil (hq rs hd)

end Hall

end Tafl
