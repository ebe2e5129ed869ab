import Tafl.Proofs.Hall.Runs
import Tafl.Proofs.Hall.Veils

/-! # Being pinged is not noticed

`Hall.receiveAll_pinged`: let two halls be the same but for some guests that are awake in the one
and pinged in the other. As long as nobody answers or gives a name, whatever comes in is answered
alike and leaves the two halls so related, and who answers in the end is where it would have been
anyway. Two such halls are one hall under two veils (`PingedIn.exists_veil`). -/

namespace Tafl

/-- The record `x` is that of `g`, who may be pinged. -/
structure Guest.StandsFor (x g : Guest) : Prop where
  name : x.name = g.name
  table : x.table = g.table
  line : x.line = g.line
  phase : x.phase = g.phase ∨ x.phase = .pinged ∧ x.saved = g.phase

namespace Hall

/-- The halls are the same, except that some guests that are awake in `h` are pinged in `h'`. What
was sent so far is left open. -/
structure PingedIn (h h' : Hall) : Prop where
  ids : h'.roster.ids = h.roster.ids
  guest : ∀ i g, h.guest? i = some g →
    h'.guest? i = some g ∨ g.phase.isAway = false ∧ h'.guest? i = some g.ping
  tables : h'.tables = h.tables
  tally : h'.tally = h.tally
  capacity : h'.capacity = h.capacity
  decayBudget : h'.decayBudget = h.decayBudget

/-- What comes in from the guests, one read after the other. -/
def receiveAll (h : Hall) (reads : List (GuestId × ByteArray)) : Hall :=
  reads.foldl (fun h r => h.receive r.1 r.2) h

/-- A read that is undecodable, or in which no command answers a ping or gives a name. -/
def IsQuiet (bytes : ByteArray) : Prop :=
  ∀ rs, Request.decode bytes = .ok rs → ∀ c ∈ rs.flatten, c.IsQuiet

variable {h h' : Hall} {i j : GuestId} {g : Guest} {bytes : ByteArray}
  {reads pongs : List (GuestId × ByteArray)}

/-! ### One hall under two veils -/

theorem veil_false (past : List (Line × Outgoing)) :
    h.veil (fun _ => false) past = { h with outbox := past ++ h.outbox } := by
  rw [veil, Roster.veil_false]

/-- The same guests are gone. -/
theorem PingedIn.guest?_eq_none_iff (hp : h.PingedIn h') :
    h'.guest? i = none ↔ h.guest? i = none := by
  rw [guest?, guest?, Roster.get?_eq_none_iff, Roster.get?_eq_none_iff, hp.ids]

theorem PingedIn.exists_roster (hp : h.PingedIn h') : ∃ S, h'.roster = h.roster.veil S := by
  classical
  let S : GuestId → Bool := fun i =>
    decide (∃ g, h.guest? i = some g ∧ g.phase.isAway = false ∧ h'.guest? i = some g.ping)
  refine ⟨S, Roster.ext_get? (by rw [hp.ids, Roster.ids_veil]) fun i => ?_⟩
  rw [Roster.get?_veil]
  change h'.guest? i = (h.guest? i).map _
  cases hg : h.guest? i with
  | none => exact hp.guest?_eq_none_iff.2 hg
  | some g =>
    rw [Option.map_some]
    by_cases hS : g.phase.isAway = false ∧ h'.guest? i = some g.ping
    · have hin : S i = true := decide_eq_true ⟨g, hg, hS⟩
      rw [hin, Guest.veiled_of_awake hS.1, hS.2]
    · have hout : S i = false := by
        refine decide_eq_false ?_
        rintro ⟨x, hx, hxS⟩
        obtain rfl := Option.some.inj (hg.symm.trans hx)
        exact hS hxS
      rw [hout, Guest.veiled_false]
      exact (hp.guest i g hg).resolve_right hS

theorem PingedIn.exists_veil (hp : h.PingedIn h') :
    h = { h with outbox := [] }.veil (fun _ => false) h.outbox ∧
      ∃ S, h' = { h with outbox := [] }.veil S h'.outbox := by
  obtain ⟨S, hroster⟩ := hp.exists_roster
  refine ⟨by rw [veil_false, List.append_nil], S, ?_⟩
  have hfields : h' = ⟨h'.roster, h'.tables, h'.tally, h'.capacity, h'.decayBudget, h'.outbox⟩ :=
    rfl
  rw [hfields, hroster, hp.tables, hp.tally, hp.capacity, hp.decayBudget]
  simp only [veil, List.append_nil]

theorem pingedIn_veil (k : Hall) (S : GuestId → Bool) (past past' : List (Line × Outgoing)) :
    (k.veil (fun _ => false) past).PingedIn (k.veil S past') where
  ids := by simp [veil]
  guest i g hg := by
    have hg : k.guest? i = some g := by
      obtain ⟨x, hx, rfl⟩ := Option.map_eq_some_iff.1 (guest?_veil ▸ hg)
      exact hx
    rw [guest?_veil, hg, Option.map_some, Guest.veiled]
    split
    · rename_i hv
      exact .inr ⟨by simpa using (Bool.and_eq_true_iff.1 hv).2, rfl⟩
    · exact .inl rfl
  tables := rfl
  tally := rfl
  capacity := rfl
  decayBudget := rfl

theorem pingedIn_of_veil (h : Hall) (S : GuestId → Bool) : h.PingedIn (h.veil S []) := by
  have hp := pingedIn_veil h S [] []
  rwa [veil_false] at hp

theorem receiveAll_veil {S : GuestId → Bool} {past : List (Line × Outgoing)}
    (hq : ∀ r ∈ reads, IsQuiet r.2) :
    (h.veil S past).receiveAll reads = (h.receiveAll reads).veil S past := by
  induction reads generalizing h with
  | nil => rfl
  | cons r reads ih =>
    have hr : (h.veil S past).receive r.1 r.2 = (h.receive r.1 r.2).veil S past :=
      receive_veil (hq r (List.mem_cons_self ..))
    change ((h.veil S past).receive r.1 r.2).receiveAll reads = _
    rw [hr]
    exact ih fun r hr => hq r (List.mem_cons_of_mem _ hr)

/-! ### An answer in the end -/

theorem obeyAll_pong : h.obeyAll j [.pong] = h.onPong j := by
  have hobey : h.obey j .pong = (h.onPong j, .stay) := by
    unfold obey onPong
    cases h.guest? j <;> rfl
  rw [obeyAll, hobey]
  rfl

theorem guest?_receive_pong (hd : Request.decode bytes = .ok [[.pong]]) :
    (h.receive j bytes).guest? = h.guest? ∧ h.line? j = none ∨
      ∃ g, h.guest? j = some g ∧ (h.receive j bytes).guest? =
        if g.phase = .pinged ∨ g.phase = .lost then
          Function.update h.guest? j (some (g.restore h.decayBudget))
        else h.guest? := by
  unfold receive
  rw [hd]
  dsimp only
  rw [line?_tally]
  cases hl : h.line? j with
  | none => exact .inl ⟨rfl, rfl⟩
  | some l =>
    obtain ⟨g, hg, -⟩ := (line?_eq_some_iff h j l).1 hl
    refine .inr ⟨g, hg, ?_⟩
    have hflat : ([[.pong]] : List Request).flatten = [.pong] := rfl
    rw [hflat, obeyAll_pong]
    exact guest?_onPong hg

/-- A pong brings a guest back to where `g` is, and the pongs of others do not concern it. -/
theorem standsFor_receive_pong {x : Guest} (hs : x.StandsFor g) (ha : g.phase.isAway = false)
    (hl : g.line ≠ none) (hx : h.guest? i = some x) (hd : Request.decode bytes = .ok [[.pong]]) :
    ∃ y, (h.receive j bytes).guest? i = some y ∧ y.StandsFor g ∧
      (j = i ∨ x.phase = g.phase → y.phase = g.phase) := by
  have hrestore : (x.restore h.decayBudget).phase = g.phase := by
    rcases hs.phase with e | ⟨e, hsaved⟩
    · rw [Guest.restore, e, ha]
      rfl
    · rw [Guest.restore, e, hsaved]
      rfl
  rcases guest?_receive_pong (h := h) (j := j) hd with ⟨hsame, hnone⟩ | ⟨g', hg', hafter⟩
  · refine ⟨x, by rw [hsame, hx], hs, ?_⟩
    rintro (rfl | e)
    · rw [line?_of_guest? hx, hs.line] at hnone
      exact absurd hnone hl
    · exact e
  · rw [hafter]
    by_cases hji : j = i
    · subst hji
      obtain rfl := Option.some.inj (hx.symm.trans hg')
      split
      · exact ⟨_, Function.update_self .., ⟨hs.name, hs.table, hs.line, .inl hrestore⟩,
          fun _ => hrestore⟩
      · rename_i hback
        refine ⟨x, hx, hs, fun _ => hs.phase.resolve_right ?_⟩
        exact fun e => hback (.inl e.1)
    · refine ⟨x, ?_, hs, fun e => e.resolve_left hji⟩
      split
      · rw [Function.update_of_ne (Ne.symm hji), hx]
      · exact hx

theorem standsFor_receiveAll_pongs {x : Guest} (hs : x.StandsFor g) (ha : g.phase.isAway = false)
    (hl : g.line ≠ none) (hx : h.guest? i = some x)
    (hpongs : ∀ r ∈ pongs, Request.decode r.2 = .ok [[.pong]]) :
    ∃ y, (h.receiveAll pongs).guest? i = some y ∧ y.StandsFor g ∧
      (i ∈ pongs.map Prod.fst ∨ x.phase = g.phase → y.phase = g.phase) := by
  induction pongs generalizing h x with
  | nil => exact ⟨x, hx, hs, by simp⟩
  | cons r pongs ih =>
    obtain ⟨y, hy, hsy, hr⟩ :=
      standsFor_receive_pong hs ha hl hx (j := r.1) (hpongs r (List.mem_cons_self ..))
    obtain ⟨z, hz, hsz, hall⟩ := ih hsy hy fun r hr => hpongs r (List.mem_cons_of_mem _ hr)
    refine ⟨z, hz, hsz, fun e => hall ?_⟩
    rw [List.map_cons, List.mem_cons] at e
    rcases e with (e | e) | e
    · exact .inr (hr (.inl e.symm))
    · exact .inl e
    · exact .inr (hr (.inr e))

theorem PingedIn.standsFor (hp : h.PingedIn h') (hg : h.guest? i = some g) :
    ∃ x, h'.guest? i = some x ∧ x.StandsFor g := by
  rcases hp.guest i g hg with hx | ⟨-, hx⟩
  · exact ⟨g, hx, rfl, rfl, rfl, .inl rfl⟩
  · exact ⟨g.ping, hx, rfl, rfl, rfl, .inr ⟨rfl, rfl⟩⟩

/-! ### Any number of reads -/

/-- Whatever comes in without an answer to a ping or a name, in two halls of which one has more
guests pinged than the other, the same is sent over the same lines, and the halls stay so related:
the same guests are left, and the tables and the numbers are the same. Whoever is connected and
answers then is where it is in the hall without the pings. -/
theorem receiveAll_pinged (hp : h.PingedIn h') (hq : ∀ r ∈ reads, IsQuiet r.2) :
    (h.receiveAll reads).PingedIn (h'.receiveAll reads) ∧
    (∃ sent, (h.receiveAll reads).outbox = h.outbox ++ sent ∧
      (h'.receiveAll reads).outbox = h'.outbox ++ sent) ∧
    ∀ pongs : List (GuestId × ByteArray), (∀ r ∈ pongs, Request.decode r.2 = .ok [[.pong]]) →
      ∀ i ∈ pongs.map Prod.fst, ∀ g, (h.receiveAll reads).guest? i = some g →
        g.phase.isAway = false → g.line ≠ none →
        ∃ x, ((h'.receiveAll reads).receiveAll pongs).guest? i = some x ∧
          x.phase = g.phase ∧ x.name = g.name ∧ x.table = g.table := by
  obtain ⟨hh, S, hh'⟩ := hp.exists_veil
  have hrun : h.receiveAll reads =
      ({ h with outbox := [] }.receiveAll reads).veil (fun _ => false) h.outbox := by
    conv_lhs => rw [hh]
    exact receiveAll_veil hq
  have hrun' : h'.receiveAll reads =
      ({ h with outbox := [] }.receiveAll reads).veil S h'.outbox := by
    conv_lhs => rw [hh']
    exact receiveAll_veil hq
  have hpinged : (h.receiveAll reads).PingedIn (h'.receiveAll reads) := by
    rw [hrun, hrun']
    exact pingedIn_veil ..
  refine ⟨hpinged, ⟨({ h with outbox := [] }.receiveAll reads).outbox, ?_, ?_⟩, ?_⟩
  · rw [hrun]
    rfl
  · rw [hrun']
    rfl
  · intro pongs hpongs i hi g hg ha hl
    obtain ⟨x, hx, hs⟩ := hpinged.standsFor hg
    obtain ⟨y, hy, hsy, hphase⟩ := standsFor_receiveAll_pongs hs ha hl hx hpongs
    exact ⟨y, hy, hphase (.inl hi), hsy.name, hsy.table⟩

/-- Two players have been matched, and the one on turn is pinged. It moves, and then answers. -/
theorem receiveAll_pinged_move :
    let h := (vacant 4 2 3).run [.event (.connected 1 "a" 0), .event (.connected 2 "b" 1),
      .batch [.data 1 (Request.frame [.connect "Ada"]).toUTF8,
        .data 2 (Request.frame [.connect "Bob"]).toUTF8]]
    let h' := h.veil (· = 1) []
    let reads := [(1, (Request.frame [.move ⟨⟨3, 0⟩, ⟨3, 1⟩⟩]).toUTF8)]
    let pongs := [(1, (Frame.wrap "!").toUTF8)]
    (h.PingedIn h' ∧ ∀ r ∈ reads, IsQuiet r.2) ∧
      (h'.guest? 1).map Guest.phase = some .pinged ∧
      (h'.receiveAll reads).tables = (h.receiveAll reads).tables ∧
      (h'.receiveAll reads).tables.running.map Table.playerOnTurn = ["Bob"] ∧
      ∃ x, ((h'.receiveAll reads).receiveAll pongs).guest? 1 = some x ∧ x.phase = .onStand := by
  intro h h' reads pongs
  have hp : h.PingedIn h' := pingedIn_of_veil h _
  have hq : ∀ r ∈ reads, IsQuiet r.2 := by
    intro r hr rs hrs c hc
    obtain rfl := List.mem_singleton.1 hr
    have hd : Request.decode (Request.frame [.move ⟨⟨3, 0⟩, ⟨3, 1⟩⟩]).toUTF8 =
        .ok [[.move ⟨⟨3, 0⟩, ⟨3, 1⟩⟩]] := by decide +kernel
    obtain rfl := Except.ok.inj (hd.symm.trans hrs)
    obtain rfl := List.mem_singleton.1 hc
    exact ⟨by simp, by simp⟩
  have hpongs : ∀ r ∈ pongs, Request.decode r.2 = .ok [[.pong]] := by
    intro r hr
    obtain rfl := List.mem_singleton.1 hr
    decide +kernel
  obtain ⟨hp', -, hback⟩ := receiveAll_pinged hp hq
  have hmoved : ((h.receiveAll reads).guest? 1).map (fun g => (g.phase, g.line)) =
      some (.onStand, some 0) := by decide +kernel
  obtain ⟨g, hg, hgp⟩ := Option.map_eq_some_iff.1 hmoved
  obtain ⟨hphase, hline⟩ := Prod.mk.inj hgp
  obtain ⟨x, hx, hxp, -⟩ := hback pongs hpongs 1 (by simp [pongs]) g hg (by rw [hphase]; rfl)
    (by simp [hline])
  exact ⟨⟨hp, hq⟩, by decide +kernel, hp'.tables, by decide +kernel, x, hx, hxp.trans hphase⟩

end Hall

end Tafl
