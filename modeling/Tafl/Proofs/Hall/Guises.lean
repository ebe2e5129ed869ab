import Tafl.Proofs.Hall.Matchmaking

/-! # Halls in disguise

A `Guise` shows a hall as another one: with other records for the same guests, with something that
was sent before, and with more bytes that have come in. As long as it leaves names, tables and
lines alone (`Guise.Decent`), what goes on at the tables comes to the same whether it is done before
the guise is put on or after; and if it does not mislead those who look for a guest either
(`Guise.Discreet`), so does all that is done by guests whose own records are shown as they are
(`Guise.Plain`), by newcomers, and by matchmaking. For each operation there is one lemma, which
moves the guise outwards. -/

namespace Tafl

structure Guise where
  record : GuestId → Guest → Guest := fun _ g => g
  /-- What was sent before everything else. -/
  past : List (Line × Outgoing) := []
  /-- How many bytes more have come in. -/
  bytes : Nat := 0

namespace Guise

/-- The record of this guest is shown as it is. -/
def Plain (G : Guise) (i : GuestId) : Prop := ∀ g, G.record i g = g

/-- Names, tables and lines are shown as they are, and guests that are settled or seated are shown
as they would be if they had been settled or seated before. -/
structure Decent (G : Guise) : Prop where
  name : ∀ i g, (G.record i g).name = g.name
  table : ∀ i g, (G.record i g).table = g.table
  line : ∀ i g, (G.record i g).line = g.line
  settle : ∀ i g p, p.isAway = false → (G.record i g).settle p = G.record i (g.settle p)
  seat : ∀ i g k, { G.record i g with table := k } = G.record i { g with table := k }

/-- Besides, nobody who looks for a guest by its name, by how long it has been away or among those
that wait finds another one, and newcomers are shown as they are. -/
structure Discreet (G : Guise) : Prop extends G.Decent where
  saved : ∀ i g, (G.record i g).saved = g.saved
  decay : ∀ i g, (G.record i g).decay = g.decay
  disconnected : ∀ i g, (G.record i g).phase = .disconnected ↔ g.phase = .disconnected
  waiting : ∀ i g, (G.record i g).phase = .waiting ↔ g.phase = .waiting
  judge : ∀ i g origin,
    Recognition.judge (some (G.record i g)) origin = Recognition.judge (some g) origin
  abandon : ∀ i g, { G.record i g with name := none, table := none, line := none } =
    G.record i { g with name := none, table := none, line := none }
  arriving : ∀ i origin line b,
    G.record i (.arriving origin line b) = .arriving origin line b

end Guise

namespace Roster

def disguise (f : GuestId → Guest → Guest) (r : Roster) : Roster where
  entries := r.entries.map fun e => (e.1, f e.1 e.2)
  nodup := by simpa [Function.comp_def] using r.nodup

variable {f : GuestId → Guest → Guest} {r : Roster} {i : GuestId}

@[simp] theorem get?_disguise : (r.disguise f).get? i = (r.get? i).map (f i) := by
  apply Option.ext
  intro x
  simp only [get?_eq_some_iff, disguise, List.mem_map, Prod.exists, Prod.mk.injEq,
    Option.map_eq_some_iff]
  constructor
  · rintro ⟨j, g, hg, rfl, rfl⟩
    exact ⟨g, hg, rfl⟩
  · rintro ⟨g, hg, rfl⟩
    exact ⟨i, g, hg, rfl, rfl⟩

@[simp] theorem ids_disguise : (r.disguise f).ids = r.ids := by
  simp [ids, disguise, Function.comp_def]

@[simp] theorem size_disguise : (r.disguise f).size = r.size := List.length_map _

@[simp] theorem contains_disguise : (r.disguise f).contains i = r.contains i := by
  rw [contains, ids_disguise, contains]

theorem disguise_eq_self (hf : ∀ i g, f i g = g) : r.disguise f = r := by
  simp [disguise, hf]

theorem findName?_disguise (hf : ∀ i g, (f i g).name = g.name) (n : String) :
    (r.disguise f).findName? n = r.findName? n := by
  simp [findName?, disguise, List.find?_map, Function.comp_def, hf]

theorem modify_disguise {p : Guest → Guest} (hp : ∀ g, p (f i g) = f i (p g)) :
    (r.disguise f).modify i p = (r.modify i p).disguise f := by
  simp only [modify, disguise, List.map_map, Roster.mk.injEq]
  refine List.map_congr_left fun e _ => ?_
  simp only [Function.comp_apply]
  split
  · rename_i he
    rw [he, hp]
  · rfl

theorem erase_disguise : (r.disguise f).erase i = (r.erase i).disguise f := by
  simp only [erase, disguise, List.filter_map, Function.comp_def]

theorem insert_disguise {g : Guest} (hg : f i g = g) :
    (r.disguise f).insert i g = (r.insert i g).disguise f := by
  unfold insert
  by_cases hi : i ∈ r.ids
  · rw [dif_pos (by rwa [ids_disguise]), dif_pos hi]
    exact modify_disguise fun _ => hg.symm
  · rw [dif_neg (by rwa [ids_disguise]), dif_neg hi]
    simp [disguise, hg]

theorem foldl_sooner_map {m : GuestId × Guest → GuestId × Guest}
    (hm : ∀ e, (m e).2.decay = e.2.decay) (o : Option (GuestId × Guest))
    (es : List (GuestId × Guest)) :
    (es.map m).foldl longestDisconnected?.sooner (o.map m) =
      (es.foldl longestDisconnected?.sooner o).map m := by
  induction es generalizing o with
  | nil => rfl
  | cons e es ih =>
    rw [List.map_cons, List.foldl_cons, List.foldl_cons, ← ih]
    congr 1
    cases o with
    | none => rfl
    | some b =>
      simp only [Option.map_some, longestDisconnected?.sooner, hm]
      split <;> rfl

theorem longestDisconnected?_disguise
    (hp : ∀ i g, (f i g).phase = .disconnected ↔ g.phase = .disconnected)
    (hd : ∀ i g, (f i g).decay = g.decay) :
    (r.disguise f).longestDisconnected? = r.longestDisconnected? := by
  have hm := foldl_sooner_map (m := fun e => (e.1, f e.1 e.2)) (fun e => hd e.1 e.2) none
    (r.entries.filter (·.2.phase = .disconnected))
  have hfilter : (r.disguise f).entries.filter (·.2.phase = .disconnected) =
      (r.entries.filter (·.2.phase = .disconnected)).map fun e => (e.1, f e.1 e.2) := by
    simp only [disguise, List.filter_map, Function.comp_def, hp]
  rw [longestDisconnected?, hfilter, longestDisconnected?]
  rw [Option.map_none] at hm
  rw [hm, Option.map_map]
  rfl

/-- Whoever takes over a name is shown as it is, and what it leaves behind as it would be. -/
theorem handOver_disguise {G : Guise} (hG : G.Discreet) (hi : G.Plain i) (r : Roster)
    (old : GuestId) (b : Nat) :
    (r.disguise G.record).handOver old i b = (r.handOver old i b).disguise G.record := by
  unfold handOver
  rw [get?_disguise]
  cases r.get? old with
  | none => rfl
  | some go =>
    simp only [Option.map_some, contains_disguise, hG.name, hG.table, hG.saved]
    split
    · rfl
    · rw [modify_disguise fun g => hG.abandon old g, modify_disguise]
      intro g
      rw [hi, hi]

theorem staleLine?_disguise (hl : ∀ i g, (f i g).line = g.line) (old heir : GuestId) :
    (r.disguise f).staleLine? old heir = r.staleLine? old heir := by
  unfold staleLine?
  rw [contains_disguise, get?_disguise]
  cases r.get? old with
  | none => rfl
  | some g => simp only [Option.map_some, Option.bind_some, hl]

theorem waiting_disguise (hn : ∀ i g, (f i g).name = g.name)
    (hp : ∀ i g, (f i g).phase = .waiting ↔ g.phase = .waiting) :
    (r.disguise f).waiting = r.waiting := by
  simp only [waiting, disguise, List.filterMap_map, Function.comp_def, hn, hp]

end Roster

namespace Hall

/-- Shows a hall in a guise. -/
def disguise (G : Guise) (h : Hall) : Hall :=
  { h with
    roster := h.roster.disguise G.record
    outbox := G.past ++ h.outbox
    tally.bytesReceived := h.tally.bytesReceived + G.bytes }

variable {G : Guise} {h : Hall} {i : GuestId} {o : Option GuestId} {n : Notice}

/-! ### What is seen -/

@[simp] theorem guest?_disguise : (h.disguise G).guest? i = (h.guest? i).map (G.record i) :=
  Roster.get?_disguise

@[simp] theorem ids_disguise : (h.disguise G).roster.ids = h.roster.ids := Roster.ids_disguise

@[simp] theorem tables_disguise : (h.disguise G).tables = h.tables := rfl

@[simp] theorem decayBudget_disguise : (h.disguise G).decayBudget = h.decayBudget := rfl

theorem tables_disguise_eq (ts : Tables) :
    { h.disguise G with tables := ts } = { h with tables := ts }.disguise G := rfl

theorem hangUp_disguise (l : Option Line) : (h.disguise G).hangUp l = (h.hangUp l).disguise G := by
  cases l with
  | none => rfl
  | some l => simp [hangUp, disguise]

theorem post_disguise (l : Line) : (h.disguise G).post l n = (h.post l n).disguise G := by
  simp [post, disguise]

theorem revise_disguise {f : Guest → Guest} (hf : ∀ g, f (G.record i g) = G.record i (f g)) :
    (h.disguise G).revise i f = (h.revise i f).disguise G := by
  simp only [revise, disguise, Roster.modify_disguise hf]

theorem strike_disguise (hl : ∀ i g, (G.record i g).line = g.line) :
    (h.disguise G).strike i = (h.strike i).disguise G := by
  unfold strike
  rw [guest?_disguise]
  cases h.guest? i with
  | none => rfl
  | some g =>
    simp only [Option.map_some, hl]
    rw [← hangUp_disguise]
    simp only [disguise, Roster.erase_disguise]

section Decent
variable (hG : G.Decent)
include hG

theorem bind_table_disguise :
    ((h.disguise G).guest? i).bind Guest.table = (h.guest? i).bind Guest.table := by
  rw [guest?_disguise]
  cases h.guest? i with
  | none => rfl
  | some g => exact hG.table i g

theorem line?_disguise : (h.disguise G).line? i = h.line? i := by
  rw [line?, line?, guest?_disguise]
  cases h.guest? i with
  | none => rfl
  | some g => exact hG.line i g

theorem table?_disguise : (h.disguise G).table? i = h.table? i := by
  rw [table?, table?, guest?_disguise]
  cases h.guest? i with
  | none => rfl
  | some g => exact congrArg (·.bind h.tables.get?) (hG.table i g)

theorem opponent?_disguise : (h.disguise G).opponent? i = h.opponent? i := by
  have hf (n : String) : (h.disguise G).roster.findName? n = h.roster.findName? n :=
    Roster.findName?_disguise hG.name n
  simp only [opponent?, guest?_disguise, table?_disguise hG, hf]
  cases h.guest? i with
  | none => rfl
  | some g => simp only [Option.map_some, Option.bind_eq_bind, Option.bind_some, hG.name]

/-! ### At the tables -/

theorem send_disguise : (h.disguise G).send i n = (h.send i n).disguise G := by
  unfold send
  rw [line?_disguise hG]
  cases h.line? i with
  | none => rfl
  | some l => exact post_disguise l

theorem sendToOpponent_disguise :
    (h.disguise G).sendToOpponent i n = (h.sendToOpponent i n).disguise G := by
  unfold sendToOpponent
  rw [opponent?_disguise hG]
  cases h.opponent? i with
  | none => rfl
  | some o => exact send_disguise hG

theorem sendGame_disguise : (h.disguise G).sendGame i = (h.sendGame i).disguise G := by
  unfold sendGame
  rw [guest?_disguise, table?_disguise hG]
  cases h.guest? i with
  | none => rfl
  | some g =>
    cases h.table? i with
    | none => rfl
    | some t => simp only [Option.map_some, hG.name, send_disguise hG]

theorem sendPlace_disguise : (h.disguise G).sendPlace i = (h.sendPlace i).disguise G := by
  unfold sendPlace
  rw [table?_disguise hG]
  split
  · exact sendGame_disguise hG
  · exact send_disguise hG

theorem settle_disguise {p : Phase} (hp : p.isAway = false) :
    (h.disguise G).revise i (·.settle p) = (h.revise i (·.settle p)).disguise G :=
  revise_disguise fun g => hG.settle i g p hp

theorem toLobby_disguise : (h.disguise G).toLobby i = (h.toLobby i).disguise G := by
  unfold toLobby
  rw [revise_disguise, send_disguise hG]
  intro g
  rw [hG.seat, hG.settle _ _ _ rfl]

theorem breakUp_disguise : (h.disguise G).breakUp i n = (h.breakUp i n).disguise G := by
  unfold breakUp
  rw [bind_table_disguise hG, opponent?_disguise hG]
  cases (h.guest? i).bind Guest.table with
  | none => rfl
  | some k =>
    dsimp only
    rw [tables_disguise, tables_disguise_eq, revise_disguise fun g => hG.seat i g none]
    cases h.opponent? i with
    | none => rfl
    | some o => simp only [Option.elim_some, send_disguise hG, toLobby_disguise hG]

theorem drop_disguise : (h.disguise G).drop i = (h.drop i).disguise G := by
  unfold drop
  rw [breakUp_disguise hG, strike_disguise hG.line]

theorem showMove_disguise (m : Move) (digits : String) :
    (h.disguise G).showMove i o m digits = (h.showMove i o m digits).disguise G := by
  unfold showMove
  cases o <;> simp only [Option.elim_none, Option.elim_some, send_disguise hG]

theorem passTurn_disguise : (h.disguise G).passTurn i o = (h.passTurn i o).disguise G := by
  unfold passTurn
  cases o <;> simp only [Option.elim_none, Option.elim_some, send_disguise hG,
    settle_disguise hG (p := .onStand) rfl, settle_disguise hG (p := .onTurn) rfl]

theorem settleGame_disguise (k : Nat) (won : Bool) :
    (h.disguise G).settleGame i o k won = (h.settleGame i o k won).disguise G := by
  unfold settleGame
  cases o <;> simp only [Option.elim_none, Option.elim_some, send_disguise hG, tables_disguise,
    tables_disguise_eq, toLobby_disguise hG]

theorem welcomeBack_disguise : (h.disguise G).welcomeBack i = (h.welcomeBack i).disguise G := by
  have htally : { h.disguise G with tally.reconnected := (h.disguise G).tally.reconnected + 1 } =
      { h with tally.reconnected := h.tally.reconnected + 1 }.disguise G := rfl
  simp only [welcomeBack, htally, send_disguise hG, sendPlace_disguise hG,
    sendToOpponent_disguise hG]

end Decent

/-- A hall in a guise, with the same verdict. -/
def disguiseAnswer (G : Guise) (a : Hall × Verdict) : Hall × Verdict := (a.1.disguise G, a.2)

theorem onMove_disguise (hG : G.Decent) (m : Move) :
    (h.disguise G).onMove i m = disguiseAnswer G (h.onMove i m) := by
  unfold onMove
  rw [guest?_disguise, table?_disguise hG]
  cases h.guest? i with
  | none => rfl
  | some g =>
    cases h.table? i with
    | none => rfl
    | some t =>
      simp only [Option.map_some, hG.name]
      cases t.play (g.name.getD "") m with
      | error e => simp only [send_disguise hG, disguiseAnswer]
      | ok x =>
        simp only [tables_disguise, tables_disguise_eq, opponent?_disguise hG, showMove_disguise hG]
        cases x.2.winner <;>
          simp only [settleGame_disguise hG, passTurn_disguise hG, disguiseAnswer]

theorem onLeave_disguise (hG : G.Decent) :
    (h.disguise G).onLeave i = disguiseAnswer G (h.onLeave i) := by
  unfold onLeave
  rw [bind_table_disguise hG]
  split
  · simp only [send_disguise hG, breakUp_disguise hG, toLobby_disguise hG, disguiseAnswer]
  · rfl

theorem lineClosed_disguise (hG : G.Decent) :
    (h.disguise G).lineClosed i = (h.lineClosed i).disguise G := by
  unfold lineClosed
  rw [line?_disguise hG]
  split
  · exact drop_disguise hG
  · rfl

end Hall

/-! ### Guests that are shown as they are -/

namespace Guise.Plain
open Hall
variable {G : Guise} {h : Hall} {i : GuestId}

theorem guest? (hi : G.Plain i) : (h.disguise G).guest? i = h.guest? i := by
  rw [guest?_disguise]
  cases h.guest? i with
  | none => rfl
  | some g => rw [Option.map_some, hi]

theorem revise (hi : G.Plain i) (f : Guest → Guest) :
    (h.disguise G).revise i f = (h.revise i f).disguise G :=
  revise_disguise fun g => by rw [hi, hi]

theorem onPong (hG : G.Decent) (hi : G.Plain i) :
    (h.disguise G).onPong i = (h.onPong i).disguise G := by
  unfold Hall.onPong
  rw [hi.guest?]
  cases h.guest? i with
  | none => rfl
  | some g =>
    simp only [hi.revise, decayBudget_disguise, sendToOpponent_disguise hG]
    split
    · split <;> rfl
    · rfl

theorem onOwnName (hG : G.Decent) (hi : G.Plain i) (g : Guest) :
    (h.disguise G).onOwnName i g = (h.onOwnName i g).disguise G := by
  unfold Hall.onOwnName
  simp only [hi.revise, decayBudget_disguise, welcomeBack_disguise hG, send_disguise hG]
  split <;> rfl

theorem onFirstName (hG : G.Discreet) (hi : G.Plain i) (g : Guest) (name : String) :
    (h.disguise G).onFirstName i g name = (h.onFirstName i g name).disguise G := by
  have hD := hG.toDecent
  unfold Hall.onFirstName
  rw [decayBudget_disguise, hi.revise]
  generalize h.revise i (·.restore h.decayBudget) = k
  have hfind : (k.disguise G).roster.findName? name = k.roster.findName? name :=
    Roster.findName?_disguise hD.name name
  simp only [hfind, hi.revise, send_disguise hD, decayBudget_disguise]
  cases k.roster.findName? name with
  | none => rfl
  | some old =>
    have hjudge : Recognition.judge ((some old).bind (k.disguise G).guest?) g.origin =
        Recognition.judge ((some old).bind k.guest?) g.origin := by
      simp only [Option.bind_some, guest?_disguise]
      cases k.guest? old with
      | none => rfl
      | some go => exact hG.judge old go g.origin
    have hback : ({ k.disguise G with
          roster := (k.disguise G).roster.handOver old i k.decayBudget }.hangUp
            ((k.disguise G).roster.staleLine? old i)).welcomeBack i =
        (({ k with roster := k.roster.handOver old i k.decayBudget }.hangUp
            (k.roster.staleLine? old i)).welcomeBack i).disguise G := by
      rw [← welcomeBack_disguise hD, ← hangUp_disguise]
      simp only [disguise, Roster.handOver_disguise hG hi, Roster.staleLine?_disguise hD.line]
    rw [hjudge]
    cases Recognition.judge ((some old).bind k.guest?) g.origin with
    | fresh | nameInUse => rfl
    | shortAbsence | longAbsence => exact hback

theorem onConnect (hG : G.Discreet) (hi : G.Plain i) (name : String) :
    (h.disguise G).onConnect i name = disguiseAnswer G (h.onConnect i name) := by
  unfold Hall.onConnect
  rw [hi.guest?]
  cases h.guest? i with
  | none => rfl
  | some g =>
    simp only [hi.onFirstName hG, hi.onOwnName hG.toDecent]
    cases g.name with
    | none => rfl
    | some own =>
      dsimp only
      split <;> rfl

theorem obey (hG : G.Discreet) (hi : G.Plain i) (c : Command) :
    (h.disguise G).obey i c = disguiseAnswer G (h.obey i c) := by
  have hD := hG.toDecent
  unfold Hall.obey
  rw [hi.guest?]
  cases h.guest? i with
  | none => rfl
  | some g =>
    dsimp only
    split
    · rfl
    · cases c with
      | ping => simp only [send_disguise hD, disguiseAnswer]
      | pong => simp only [hi.onPong hD, disguiseAnswer]
      | connect name => exact hi.onConnect hG name
      | move m => exact onMove_disguise hD m
      | leave => exact onLeave_disguise hD
      | chat text => simp only [sendToOpponent_disguise hD, disguiseAnswer]
      | exit => rfl

theorem obeyAll (hG : G.Discreet) (hi : G.Plain i) (cs : List Command) :
    (h.disguise G).obeyAll i cs = (h.obeyAll i cs).disguise G := by
  induction cs generalizing h with
  | nil => rfl
  | cons c cs ih =>
    unfold Hall.obeyAll
    rw [hi.obey hG]
    rcases h.obey i c with ⟨k, v⟩
    cases v with
    | stay => exact ih
    | leave why => exact drop_disguise hG.toDecent

theorem receive (hG : G.Discreet) (hi : G.Plain i) (bytes : ByteArray) :
    (h.disguise G).receive i bytes = (h.receive i bytes).disguise G := by
  have hD := hG.toDecent
  have htally : { h.disguise G with
      tally.bytesReceived := (h.disguise G).tally.bytesReceived + bytes.size } =
      { h with tally.bytesReceived := h.tally.bytesReceived + bytes.size }.disguise G := by
    simp only [disguise, Nat.add_right_comm]
  unfold Hall.receive
  rw [htally]
  dsimp only
  rw [line?_disguise hD]
  split
  · rfl
  · cases Request.decode bytes with
    | error e => exact drop_disguise hD
    | ok rs => exact hi.obeyAll hG _

theorem writeFailed (hG : G.Decent) (hi : G.Plain i) :
    (h.disguise G).writeFailed i = (h.writeFailed i).disguise G := by
  unfold Hall.writeFailed
  rw [hi.guest?]
  cases h.guest? i with
  | none => rfl
  | some g =>
    simp only [hi.revise, sendToOpponent_disguise hG]
    split
    · rfl
    · split <;> rfl

theorem sweepGuest (hG : G.Decent) (hi : G.Plain i) :
    (h.disguise G).sweepGuest i = (h.sweepGuest i).disguise G := by
  unfold Hall.sweepGuest
  rw [hi.guest?]
  cases h.guest? i with
  | none => rfl
  | some g =>
    simp only [hi.revise, send_disguise hG, sendToOpponent_disguise hG, drop_disguise hG,
      hangUp_disguise, decayBudget_disguise]
    split
    · rfl
    · cases g.phase with
      | pinged | disconnected =>
        dsimp only
        split <;> rfl
      | lost | new | waiting | onTurn | onStand => rfl

end Guise.Plain

namespace Hall
variable {G : Guise} {h : Hall} {i : GuestId}

/-! ### Newcomers, matchmaking and closing time -/

theorem enrol_disguise (hG : G.Discreet) (origin : Origin) (line : Line) :
    (h.disguise G).enrol i origin line = (h.enrol i origin line).disguise G := by
  have hroster : (h.roster.disguise G.record).insert i (.arriving origin line h.decayBudget) = _ :=
    Roster.insert_disguise (hG.arriving i origin line h.decayBudget)
  simp only [enrol, disguise, hroster]

theorem accept_disguise (hG : G.Discreet) (origin : Origin) (line : Line) :
    ((h.disguise G).accept i origin line).1 = (h.accept i origin line).1.disguise G := by
  have hsize : (h.disguise G).roster.size = h.roster.size := Roster.size_disguise
  have hold : (h.disguise G).roster.longestDisconnected? = h.roster.longestDisconnected? :=
    Roster.longestDisconnected?_disguise hG.disconnected hG.decay
  have hcapacity : (h.disguise G).capacity = h.capacity := rfl
  unfold accept
  rw [hsize, hold, hcapacity]
  split
  · exact enrol_disguise hG origin line
  · cases h.roster.longestDisconnected? with
    | none => simp only [post_disguise, hangUp_disguise]
    | some old => simp only [drop_disguise hG.toDecent, enrol_disguise hG]

theorem sit_disguise (hG : G.Decent) (k : Nat) {p : Phase} (hp : p.isAway = false) :
    (h.disguise G).revise i (·.sit k p) = (h.revise i (·.sit k p)).disguise G := by
  refine revise_disguise fun g => ?_
  rw [Guest.sit, hG.seat, hG.settle _ _ _ hp, Guest.sit]

theorem seat_disguise (hG : G.Decent) (p : Pair) :
    (h.disguise G).seat p = (h.seat p).disguise G := by
  simp only [seat, tables_disguise, tables_disguise_eq, sit_disguise hG _ (p := .onTurn) rfl,
    sit_disguise hG _ (p := .onStand) rfl]

theorem announce_disguise (hG : G.Decent) (q : Pairing) :
    matchmake.announce (h.disguise G) q = (matchmake.announce h q).disguise G := by
  have htally : { h.disguise G with tally.tablesOpened := (h.disguise G).tally.tablesOpened + 1 } =
      { h with tally.tablesOpened := h.tally.tablesOpened + 1 }.disguise G := rfl
  simp only [matchmake.announce, htally, sendGame_disguise hG]

theorem foldl_disguise {α : Type} {f : Hall → α → Hall} {as : List α}
    (hf : ∀ h, ∀ a ∈ as, f (h.disguise G) a = (f h a).disguise G) :
    as.foldl f (h.disguise G) = (as.foldl f h).disguise G := by
  induction as generalizing h with
  | nil => rfl
  | cons a as ih =>
    rw [List.foldl_cons, List.foldl_cons, hf h a (List.mem_cons_self ..)]
    exact ih fun h b hb => hf h b (List.mem_cons_of_mem _ hb)

theorem matchmake_disguise (hG : G.Discreet) :
    (h.disguise G).matchmake = h.matchmake.disguise G := by
  have hpairs : (h.disguise G).pairs = h.pairs := by
    rw [pairs, pairs, tables_disguise]
    exact congrArg (fun ws => (pairUp ws).take h.tables.free)
      (Roster.waiting_disguise hG.name hG.waiting)
  rw [matchmake_eq_announce, matchmake_eq_announce, hpairs, tables_disguise,
    foldl_disguise fun h p _ => seat_disguise hG.toDecent p,
    foldl_disguise fun h q _ => announce_disguise hG.toDecent q]

theorem shutDown_disguise (hG : G.Decent) :
    (h.disguise G).shutDown = h.shutDown.disguise G := by
  unfold shutDown
  rw [ids_disguise]
  exact foldl_disguise fun h i _ => by rw [send_disguise hG, strike_disguise hG.line]

end Hall

end Tafl
