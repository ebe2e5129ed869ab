import Mathlib.Logic.Relation
import Tafl.Proofs.Hall.Changes
import Tafl.Proofs.Wire.Decode

/-! # Commands as deeds

In a hall in order, each command of a guest that has a line is a row of deeds (`Orderly.obey`), and
what came in at once is a row of deeds, after which the guest may be dropped (`Orderly.receive`).
-/

namespace Tafl
open Relation (ReflTransGen)

def Command.IsSent (c : Command) : Prop := c = .ping ∨ c = .pong ∨ c.IsField

instance : DecidablePred Command.IsSent := fun _ => inferInstanceAs (Decidable (_ ∨ _))

/-- Somebody who gives a name comes back if it calls from where the holder was, and the holder does
not answer. -/
theorem Recognition.judge_eq_fresh {holder : Option Guest} {origin : Origin} :
    judge holder origin = .fresh ↔ holder = none := by
  unfold judge
  repeat' split
  all_goals simp_all

theorem Recognition.judge_of_absence {g : Guest} {origin : Origin}
    (h : judge (some g) origin ≠ .nameInUse) : g.origin = origin ∧ g.phase.isAway = true := by
  unfold judge at h
  dsimp only at h
  split at h
  · exact absurd rfl h
  · rename_i ho
    refine ⟨not_not.1 ho, ?_⟩
    cases hp : g.phase <;> simp_all [Phase.isAway]

namespace Hall

abbrev Deeds (i : GuestId) : Hall → Hall → Prop := ReflTransGen (Deed i)

variable {h h' : Hall} {first : Nat} {i o : GuestId} {g : Guest}

theorem Deeds.orderly (hd : Deeds i h h') (ho : h.Orderly first) : h'.Orderly first := by
  induction hd with
  | refl => exact ho
  | tail _ hd ih => exact ih.deed hd

theorem Deeds.line?_eq (hd : Deeds i h h') : h'.line? i = h.line? i := by
  induction hd with
  | refl => rfl
  | tail _ hd ih => rw [hd.line?_eq, ih]

theorem Deeds.send (hd : Deeds i h h') {n : Notice} (hn : n.isAside = true)
    (hc : n.value? = none) : Deeds i h (h'.send i n) :=
  hd.tail (.aside (.inl rfl) hn (by rintro text rfl; cases hc))

theorem Deeds.sendToOpponent (hd : Deeds i h h') {n : Notice} (hn : n.isAside = true)
    (hc : ∀ text, n = .chat text → (Command.chat text).IsField) :
    Deeds i h (h'.sendToOpponent i n) := by
  unfold Hall.sendToOpponent
  cases ho : h'.opponent? i with
  | none => exact hd
  | some o => exact hd.tail (.aside (.inr ho) hn hc)

/-! ### One command -/

theorem guest?_onPong (hg : h.guest? i = some g) : (h.onPong i).guest? =
    if g.phase = .pinged ∨ g.phase = .lost then
      Function.update h.guest? i (some (g.restore h.decayBudget))
    else h.guest? := by
  unfold onPong
  rw [hg]
  dsimp only
  split
  · split <;> simp [guest?_revise, hg]
  · rfl

theorem Deeds.onPong (hg : h.guest? i = some g) (hl : g.line.isSome = true) :
    Deeds i h (h.onPong i) := by
  unfold Hall.onPong
  rw [hg]
  dsimp only
  split
  · have hr : Deeds i h (h.revise i (·.restore h.decayBudget)) := .single (.rouse hg hl)
    split
    · exact hr.sendToOpponent rfl (by simp)
    · exact hr
  · exact .refl

theorem Deeds.onOwnName (hg : h.guest? i = some g) (hl : g.line.isSome = true) :
    Deeds i h (h.onOwnName i g) := by
  unfold Hall.onOwnName
  split
  · have hr : Deeds i h (h.revise i (·.restore h.decayBudget)) := .single (.rouse hg hl)
    exact (hr.tail (.welcome (g := g.restore h.decayBudget) (by simp [guest?_revise, hg]))
      |> Deeds.sendToOpponent) rfl (by simp)
  · exact Deeds.send .refl rfl rfl

theorem Deeds.onFirstName (hg : h.guest? i = some g) (hl : g.line.isSome = true) (hn : g.name = none)
    {n : String} (hf : (Command.connect n).IsField) : Deeds i h (h.onFirstName i g n) := by
  unfold Hall.onFirstName
  have hr : Deeds i h (h.revise i (·.restore h.decayBudget)) := .single (.rouse hg hl)
  have hg' : (h.revise i (·.restore h.decayBudget)).guest? i =
      some (g.restore h.decayBudget) := by
    simp [guest?_revise, hg]
  refine hr.trans ?_
  generalize h.revise i (·.restore h.decayBudget) = k at hg'
  dsimp only
  cases hold : k.roster.findName? n with
  | none => exact .single (.name hg' hn hl hf hold)
  | some old =>
    obtain ⟨go, hgo, hno⟩ := Roster.findName?_eq_some hold
    have hgo' : k.guest? old = some go := hgo
    rw [Option.bind_some, hgo']
    have back (hj : Recognition.judge (some go) g.origin ≠ .nameInUse) :
        Deeds i k ((k.handedOver old i).welcomeBack i) := by
      obtain ⟨horigin, haway⟩ := Recognition.judge_of_absence hj
      exact Deeds.sendToOpponent (.single (.resume hg' hn hl hold hgo' haway horigin)) rfl (by simp)
    cases hj : Recognition.judge (some go) g.origin with
    | fresh => cases Recognition.judge_eq_fresh.1 hj
    | nameInUse => exact Deeds.send .refl rfl rfl
    | shortAbsence | longAbsence => exact back (by simp [hj])

theorem Deeds.onConnect (hg : h.guest? i = some g) (hl : g.line.isSome = true) {n : String}
    (hf : (Command.connect n).IsField) : Deeds i h (h.onConnect i n).1 := by
  unfold Hall.onConnect
  rw [hg]
  dsimp only
  split
  · rename_i hn
    exact Deeds.onFirstName hg hl hn hf
  · split
    · exact Deeds.onOwnName hg hl
    · exact .refl

theorem onMove_of_table?_eq_none (hg : h.guest? i = some g) (ht : h.table? i = none) (m : Move) :
    h.onMove i m = (h, .leave .violation) := by
  simp [onMove, hg, ht]

section
variable {go : Guest} {t t' : Table} {s : Side} {m : Move} {r : Report}

/-- A guest at a table plays there against somebody. -/
theorem Orderly.duel_of_table? (ho : h.Orderly first) (hg : h.guest? i = some g)
    (ht : h.table? i = some t) : ∃ o go s, Duel h.guest? h.tables.get? i o g go t s := by
  obtain ⟨k, hk, hf⟩ := Option.bind_eq_some_iff.1 (table?_of_guest? hg ▸ ht)
  obtain ⟨o, go, t', s, rfl, d⟩ := ho.duel hg hk
  obtain rfl := Option.some.inj (d.table.symm.trans hf)
  exact ⟨o, go, s, d⟩

theorem onMove_of_error {e : Refusal} (d : Duel h.guest? h.tables.get? i o g go t s)
    (hm : t.play (t.player s) m = .error e) : h.onMove i m = (h.send i .moveRefused, .stay) := by
  simp [onMove, d.here, d.table?_eq, d.name_here, hm]

theorem Orderly.opponent?_of_play (ho : h.Orderly first)
    (d : Duel h.guest? h.tables.get? i o g go t s) (hm : t.play (t.player s) m = .ok (t', r)) :
    { h with tables := h.tables.replace t' }.opponent? i = some o := by
  obtain ⟨-, b, -, rfl⟩ := play_eq_ok_of_duel d hm
  exact ho.opponent?_replace d rfl (t.player_after b r)

theorem Orderly.onMove_turn (ho : h.Orderly first) (d : Duel h.guest? h.tables.get? i o g go t s)
    (hm : t.play (t.player s) m = .ok (t', r)) (hw : r.winner = none) :
    h.onMove i m = (({ h with tables := h.tables.replace t' }.showMove i (some o) m
      t'.board.digits).passTurn i (some o), .stay) := by
  simp [onMove, d.here, d.table?_eq, d.name_here, hm, hw, ho.opponent?_of_play d hm]

theorem Orderly.onMove_finish (ho : h.Orderly first) (d : Duel h.guest? h.tables.get? i o g go t s)
    (hm : t.play (t.player s) m = .ok (t', r)) {w : Side} (hw : r.winner = some w) :
    h.onMove i m = (({ h with tables := h.tables.replace t' }.showMove i (some o) m
      t'.board.digits).settleGame i (some o) t'.id (t'.sideOf? (t.player s) = some w), .stay) := by
  simp [onMove, d.here, d.table?_eq, d.name_here, hm, hw, ho.opponent?_of_play d hm]

end

theorem Deeds.onMove (ho : h.Orderly first) (hg : h.guest? i = some g) (m : Move) :
    Deeds i h (h.onMove i m).1 := by
  cases ht : h.table? i with
  | none =>
    rw [onMove_of_table?_eq_none hg ht]
  | some t =>
    obtain ⟨o, go, s, d⟩ := ho.duel_of_table? hg ht
    cases hm : t.play (t.player s) m with
    | error e =>
      rw [onMove_of_error d hm]
      exact Deeds.send .refl rfl rfl
    | ok p =>
      obtain ⟨t', r⟩ := p
      cases hw : r.winner with
      | none =>
        rw [ho.onMove_turn d hm hw]
        dsimp only
        exact .single (.turn d hm hw)
      | some w =>
        rw [ho.onMove_finish d hm hw]
        dsimp only
        exact .single (.finish d hm hw)

theorem Deeds.onLeave (ho : h.Orderly first) (hg : h.guest? i = some g) :
    Deeds i h (h.onLeave i).1 := by
  unfold Hall.onLeave
  rw [hg, Option.bind_some]
  split
  · rename_i hk
    obtain ⟨k, hk⟩ := Option.isSome_iff_exists.1 hk
    obtain ⟨o, go, t, s, -, d⟩ := ho.duel hg hk
    exact .single (.quit d)
  · exact .refl

theorem Orderly.obey (ho : h.Orderly first) (hl : (h.line? i).isSome = true) {c : Command}
    (hc : c.IsSent) : Deeds i h (h.obey i c).1 := by
  obtain ⟨l, hl⟩ := Option.isSome_iff_exists.1 hl
  obtain ⟨g, hg, hgl⟩ := (line?_eq_some_iff h i l).1 hl
  have hl : g.line.isSome = true := by simp [hgl]
  unfold Hall.obey
  rw [hg]
  dsimp only
  split
  · exact .refl
  · cases c with
    | ping => exact Deeds.send .refl rfl rfl
    | pong => exact Deeds.onPong hg hl
    | connect n =>
      have hf : (Command.connect n).IsField := by simpa [Command.IsSent] using hc
      exact Deeds.onConnect hg hl hf
    | move m => exact Deeds.onMove ho hg m
    | leave => exact Deeds.onLeave ho hg
    | chat text =>
      have hf : (Command.chat text).IsField := by simpa [Command.IsSent] using hc
      exact Deeds.sendToOpponent .refl rfl (by rintro _ ⟨⟩; exact hf)
    | exit => exact .refl

/-! ### What came in at once -/

abbrev Row (i : GuestId) : Hall → Hall → Prop := ReflTransGen (Change i)

theorem Deeds.row (hd : Deeds i h h') : Row i h h' := ReflTransGen.mono (fun _ _ => Change.deed) _ _ hd

theorem exists_guest?_of_line? (hl : (h.line? i).isSome = true) : ∃ g, h.guest? i = some g := by
  obtain ⟨l, hl⟩ := Option.isSome_iff_exists.1 hl
  obtain ⟨g, hg, -⟩ := (line?_eq_some_iff h i l).1 hl
  exact ⟨g, hg⟩

theorem Orderly.obeyAll {cs : List Command} (hcs : ∀ c ∈ cs, c.IsSent) (ho : h.Orderly first)
    (hl : (h.line? i).isSome = true) : Row i h (h.obeyAll i cs) := by
  induction cs generalizing h with
  | nil => exact .refl
  | cons c cs ih =>
    have hd := ho.obey hl (hcs c (by simp))
    have hl' := hd.line?_eq.symm ▸ hl
    unfold Hall.obeyAll
    rcases hc : h.obey i c with ⟨k, v⟩
    rw [hc] at hd hl'
    cases v with
    | stay =>
      exact hd.row.trans (ih (fun c hc => hcs c (by simp [hc])) (hd.orderly ho) hl')
    | leave why =>
      obtain ⟨g, hg⟩ := exists_guest?_of_line? hl'
      exact hd.row.tail (.drop hg)

theorem isSent_of_decode {bytes : ByteArray} {rs : List Request} (h : Request.decode bytes = .ok rs) :
    ∀ c ∈ rs.flatten, c.IsSent := by
  intro c hc
  obtain ⟨r, hr, hc⟩ := List.mem_flatten.1 hc
  rcases Request.isWellFormed_of_decode h r hr with rfl | rfl | ⟨-, hf⟩
  · exact .inl (List.mem_singleton.1 hc)
  · exact .inr (.inl (List.mem_singleton.1 hc))
  · exact .inr (.inr (hf c hc))

/-- Whatever the bytes are, what they change in a hall in order is a row of changes. -/
theorem Orderly.receive (ho : h.Orderly first) (i : GuestId) (bytes : ByteArray) :
    Row i h (h.receive i bytes) := by
  unfold Hall.receive
  dsimp only
  refine ReflTransGen.head (.deed (.received bytes.size)) ?_
  generalize hk : { h with tally.bytesReceived := h.tally.bytesReceived + bytes.size } = k
  have ho : k.Orderly first := by subst hk; exact ho
  split
  · exact .refl
  · rename_i hl
    have hl : (k.line? i).isSome = true := by
      cases hk : k.line? i <;> simp_all
    split
    · obtain ⟨g, hg⟩ := exists_guest?_of_line? hl
      exact .single (.drop hg)
    · rename_i rs hd
      exact ho.obeyAll (isSent_of_decode hd) hl

end Hall

end Tafl
