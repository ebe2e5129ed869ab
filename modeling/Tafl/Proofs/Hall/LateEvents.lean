import Tafl.Proofs.Hall.Accounts
import Tafl.Proofs.Hall.Guises
import Tafl.Proofs.Hall.Lines

/-! # What comes too late

Reads, ends and failures of a line are still reported when the hall has given the line up: when its
guest was dropped, turned away or disconnected, or when somebody else has taken over its name.
However many of them come and whenever they do, everything goes on as if they had not come
(`Hall.run_withoutLate`). Only the bytes are counted, and an abandoned record that was asked for a
sign of life is marked as lost. That is a guise (`Guise.late`): every late event puts a little more
into it, and all else leaves it alone. -/

namespace Tafl

/-! ### Late events, and a run without them -/

/-- What is heard of the line of a guest once it is open. When the line is closed, that is too
late. -/
def Event.isLate (i : GuestId) : Event → Bool
  | data id _ | closed id | writeFailed id => id = i
  | connected _ _ _ => false

def Event.isFailure : Event → Bool
  | writeFailed _ => true
  | connected _ _ _ | data _ _ | closed _ => false

def Step.events : Step → List Event
  | event e => [e]
  | batch es => es
  | matchmake | sweep | shutDown => []

/-- What is left of a step without the late events of a guest. A batch stays one, even an empty
one: the waiting guests are matched after it. -/
def Step.without (i : GuestId) : Step → List Step
  | event e => if e.isLate i then [] else [event e]
  | batch es => [batch (es.filter (!·.isLate i))]
  | matchmake => [matchmake]
  | sweep => [sweep]
  | shutDown => [shutDown]

def lateEvents (i : GuestId) (steps : List Step) : List Event :=
  (steps.flatMap Step.events).filter (·.isLate i)

def withoutLate (i : GuestId) (steps : List Step) : List Step := steps.flatMap (Step.without i)

variable {i j : GuestId}

theorem Event.arrivals_of_isLate {e : Event} (he : e.isLate i = true) : e.arrivals = [] := by
  cases e with
  | connected _ _ _ => cases he
  | data _ _ | closed _ | writeFailed _ => rfl

theorem flatMap_arrivals_filter (es : List Event) :
    (es.filter (!·.isLate i)).flatMap Event.arrivals = es.flatMap Event.arrivals := by
  induction es with
  | nil => rfl
  | cons e es ih =>
    cases he : e.isLate i with
    | false => rw [List.filter_cons_of_pos (by simp [he]), List.flatMap_cons, List.flatMap_cons, ih]
    | true =>
      rw [List.filter_cons_of_neg (by simp [he]), List.flatMap_cons, ih,
        Event.arrivals_of_isLate he, List.nil_append]

/-- Nobody comes with a late event. -/
theorem arrivals_without (s : Step) : arrivals (s.without i) = s.arrivals := by
  cases s with
  | event e =>
    unfold Step.without
    dsimp only
    split
    · rename_i he
      exact (Event.arrivals_of_isLate he).symm
    · exact List.append_nil _
  | batch es => exact (List.append_nil _).trans (flatMap_arrivals_filter es)
  | matchmake | sweep | shutDown => rfl

theorem arrivals_withoutLate (steps : List Step) :
    arrivals (withoutLate i steps) = arrivals steps := by
  induction steps with
  | nil => rfl
  | cons s steps ih =>
    have hcons : arrivals (withoutLate i (s :: steps)) =
        arrivals (s.without i) ++ arrivals (withoutLate i steps) := List.flatMap_append
    rw [hcons, arrivals_without, ih]
    rfl

/-! ### What they do to a record -/

namespace Guest
variable {g : Guest}

/-- Gives up waiting for a sign of life. -/
def miss (g : Guest) : Guest := if g.phase = .pinged then { g with phase := .lost } else g

theorem miss_of_ne (hp : g.phase ≠ .pinged) : g.miss = g := if_neg hp

@[simp] theorem name_miss : g.miss.name = g.name := by unfold miss; split <;> rfl

@[simp] theorem table_miss : g.miss.table = g.table := by unfold miss; split <;> rfl

@[simp] theorem line_miss : g.miss.line = g.line := by unfold miss; split <;> rfl

@[simp] theorem saved_miss : g.miss.saved = g.saved := by unfold miss; split <;> rfl

@[simp] theorem decay_miss : g.miss.decay = g.decay := by unfold miss; split <;> rfl

theorem phase_miss_eq_iff {p : Phase} (hp : p ≠ .pinged) (hl : p ≠ .lost) :
    g.miss.phase = p ↔ g.phase = p := by
  unfold miss
  split
  · rename_i hg
    simp [hg, hp.symm, hl.symm]
  · rfl

theorem isAway_miss (h : g.phase.isAway = true) : g.miss.phase.isAway = true := by
  unfold miss
  split
  · rfl
  · exact h

@[simp] theorem miss_miss : g.miss.miss = g.miss := by
  refine miss_of_ne ?_
  unfold miss
  split <;> simp_all

@[simp] theorem isAbandoned_miss : g.miss.isAbandoned = g.isAbandoned := by
  simp only [isAbandoned, name_miss, ne_eq, phase_miss_eq_iff (p := .new) (by decide) (by decide)]

theorem settle_miss {p : Phase} (hp : p.isAway = false) : g.miss.settle p = (g.settle p).miss := by
  by_cases hg : g.phase = .pinged
  · simp [miss, settle, hg, Phase.isAway]
  · have hs : (g.settle p).phase ≠ .pinged := by
      unfold settle
      split
      · exact hg
      · rintro rfl
        cases hp
    rw [miss_of_ne hg, miss_of_ne hs]

theorem judge_miss (origin : Origin) :
    Recognition.judge (some g.miss) origin = Recognition.judge (some g) origin := by
  unfold miss
  split
  · rename_i hg
    simp [Recognition.judge, hg]
  · rfl

end Guest

/-! ### The guise that they put on a hall -/

def Guise.late (i : GuestId) (es : List Event) : Guise where
  record j g := if j = i ∧ es.any Event.isFailure = true then g.miss else g
  bytes := (es.map Event.size).sum

namespace Guise
variable {es es' : List Event}

theorem late_perm (hp : es.Perm es') : late i es = late i es' := by
  unfold late
  rw [hp.any_eq, (hp.map _).sum_nat]

theorem plain_late (hj : j ≠ i) : (late i es).Plain j := fun _ => if_neg fun h => hj h.1

/-- What is true of a record and of a missed one is true of a record in this guise. -/
theorem late_cases {P : Guest → Prop} {g : Guest} (hg : P g) (hm : P g.miss) :
    P ((late i es).record j g) := by
  unfold late
  dsimp only
  split
  · exact hm
  · exact hg

theorem isAbandoned_late (g : Guest) : ((late i es).record j g).isAbandoned = g.isAbandoned :=
  late_cases (P := fun x => x.isAbandoned = g.isAbandoned) rfl g.isAbandoned_miss

theorem late_comm {f : Guest → Guest} (hf : ∀ g, f g.miss = (f g).miss) (g : Guest) :
    f ((late i es).record j g) = (late i es).record j (f g) := by
  unfold late
  dsimp only
  split
  · exact hf g
  · rfl

theorem record_late_failure (g : Guest) : (late i (es ++ [.writeFailed i])).record j g =
    if j = i then ((late i es).record j g).miss else (late i es).record j g := by
  have hany : (es ++ [Event.writeFailed i]).any Event.isFailure = true := by simp [Event.isFailure]
  by_cases hj : j = i
  · simp only [late, hany, hj, true_and, if_true]
    split <;> simp
  · simp [late, hj]

/-- What has nothing to do with the phase can be done before the guise is put on, or after. -/
theorem late_comm_of_phase {f : Guest → Guest} (hf : ∀ g, (f g).phase = g.phase)
    (hl : ∀ g, f { g with phase := .lost } = { f g with phase := .lost }) (g : Guest) :
    f ((late i es).record j g) = (late i es).record j (f g) := by
  refine late_comm (fun g => ?_) g
  unfold Guest.miss
  rw [hf]
  split
  · exact hl g
  · rfl

theorem discreet_late (i : GuestId) (es : List Event) : (late i es).Discreet where
  name _ g := late_cases (P := fun x => x.name = g.name) rfl g.name_miss
  table _ g := late_cases (P := fun x => x.table = g.table) rfl g.table_miss
  line _ g := late_cases (P := fun x => x.line = g.line) rfl g.line_miss
  settle _ g p hp := late_comm (f := (·.settle p)) (fun _ => Guest.settle_miss hp) g
  seat _ g k := late_comm_of_phase (f := fun g => { g with table := k }) (fun _ => rfl)
    (fun _ => rfl) g
  saved _ g := late_cases (P := fun x => x.saved = g.saved) rfl g.saved_miss
  decay _ g := late_cases (P := fun x => x.decay = g.decay) rfl g.decay_miss
  disconnected _ g := late_cases (P := fun x => x.phase = .disconnected ↔ g.phase = .disconnected)
    Iff.rfl (Guest.phase_miss_eq_iff (by decide) (by decide))
  waiting _ g := late_cases (P := fun x => x.phase = .waiting ↔ g.phase = .waiting)
    Iff.rfl (Guest.phase_miss_eq_iff (by decide) (by decide))
  judge _ g origin := late_cases
    (P := fun x => Recognition.judge (some x) origin = Recognition.judge (some g) origin)
    rfl (Guest.judge_miss origin)
  abandon _ g := late_comm_of_phase
    (f := fun g => { g with name := none, table := none, line := none }) (fun _ => rfl)
    (fun _ => rfl) g
  arriving _ origin line b := late_cases (P := fun x => x = .arriving origin line b)
    rfl (Guest.miss_of_ne fun h => by cases h)

end Guise

/-! ### Guests without a line -/

namespace Hall
variable {h : Hall} {es : List Event} {e : Event} {first : Nat}

/-- The line of the guest was closed. If its record is still there, it is disconnected, or somebody
else has taken over. -/
structure Parted (h : Hall) (i : GuestId) : Prop where
  line : h.line? i = none
  away : ∀ g, h.guest? i = some g → g.phase.isAway = true
  record : ∀ g, h.guest? i = some g →
    g.phase = .disconnected ∨ g.isAbandoned = true ∧ g.table = none

theorem Orderly.parted (ho : h.Orderly first) (hl : h.line? i = none) : h.Parted i where
  line := hl
  away g hg := ((InOrder.proper ho i g hg).away ((line?_of_guest? hg).symm.trans hl)).1
  record g hg := by
    have hproper := InOrder.proper ho i g hg
    have hgl : g.line = none := (line?_of_guest? hg).symm.trans hl
    cases hn : g.name with
    | some n => exact .inl ((hproper.away hgl).2 (by simp [hn]))
    | none => exact .inr ⟨hproper.isAbandoned hn hgl, hproper.table_of_unnamed hn⟩

/-! ### Each late event puts a little into the guise -/

theorem disguise_late_nil (i : GuestId) (h : Hall) : h.disguise (.late i []) = h := by
  simp [disguise, Guise.late, Roster.disguise]

theorem disguise_late_concat (he : e.isFailure = false) : h.disguise (.late i (es ++ [e])) =
    { h.disguise (.late i es) with
      tally.bytesReceived := (h.disguise (.late i es)).tally.bytesReceived + e.size } := by
  simp only [disguise, Guise.late, List.any_append, List.any_cons, he, List.any_nil, Bool.or_false,
    List.map_append, List.sum_append, List.map_cons, List.map_nil, List.sum_singleton,
    Nat.add_assoc]

theorem disguise_late_failure : h.disguise (.late i (es ++ [.writeFailed i])) =
    (h.disguise (.late i es)).revise i Guest.miss := by
  have hbytes : (Guise.late i (es ++ [.writeFailed i])).bytes = (Guise.late i es).bytes := by
    simp [Guise.late, Event.size]
  simp only [disguise, revise, Roster.disguise, Roster.modify, hbytes, List.map_map]
  congr 2
  refine List.map_congr_left fun e _ => ?_
  simp only [Function.comp_apply, Guise.record_late_failure]
  split <;> rfl

theorem line?_disguise_late : (h.disguise (.late i es)).line? j = h.line? j :=
  line?_disguise (Guise.discreet_late i es).toDecent

namespace Parted

theorem disguise (p : h.Parted i) : (h.disguise (.late i es)).Parted i where
  line := line?_disguise_late.trans p.line
  away g hg := by
    rw [guest?_disguise, Option.map_eq_some_iff] at hg
    obtain ⟨g, hg, rfl⟩ := hg
    have haway := p.away g hg
    exact Guise.late_cases (P := fun x => x.phase.isAway = true) haway (Guest.isAway_miss haway)
  record g hg := by
    rw [guest?_disguise, Option.map_eq_some_iff] at hg
    obtain ⟨g, hg, rfl⟩ := hg
    have hD := Guise.discreet_late i es
    rw [hD.disconnected, hD.table, Guise.isAbandoned_late]
    exact p.record g hg

/-- All that is noted of a failure. -/
theorem writeFailed (p : h.Parted i) : h.writeFailed i = h.revise i Guest.miss := by
  unfold Hall.writeFailed
  cases hg : h.guest? i with
  | none => exact (revise_eq_self fun _ hg' => by cases hg.symm.trans hg').symm
  | some g =>
    dsimp only
    split
    · rename_i hp
      have hsame : g.miss = g := Guest.miss_of_ne (by rcases hp with hp | hp <;> simp [hp])
      exact (revise_eq_self fun x hx => Option.some.inj (hg.symm.trans hx) ▸ hsame).symm
    · rename_i hp
      have hpinged : g.phase = .pinged := by
        have haway := p.away g hg
        cases hg : g.phase <;> simp_all [Phase.isAway]
      have ht : g.table = none := ((p.record g hg).resolve_left (by simp [hpinged])).2
      have hlose : h.revise i Guest.lose = h.revise i Guest.miss := by
        refine revise_congr fun x hx => ?_
        obtain rfl := Option.some.inj (hg.symm.trans hx)
        simp [Guest.lose, Guest.goAway, Guest.miss, hpinged, Phase.isAway]
      have hop : (h.revise i Guest.miss).opponent? i = none :=
        opponent?_of_table_eq_none (g := g.miss) (by simp [guest?_revise, hg]) (by simp [ht])
      rw [hlose, sendToOpponent, hop, Option.elim_none]
      split <;> rfl

theorem handle_late (p : h.Parted i) (he : e.isLate i = true) :
    (h.disguise (.late i es)).handle e = h.disguise (.late i (es ++ [e])) := by
  have hl : (h.disguise (.late i es)).line? i = none := p.disguise.line
  cases e with
  | connected _ _ _ => cases he
  | data j bytes =>
    obtain rfl : j = i := of_decide_eq_true he
    rw [disguise_late_concat rfl]
    exact if_pos (Option.isNone_iff_eq_none.2 hl)
  | closed j =>
    obtain rfl : j = i := of_decide_eq_true he
    rw [disguise_late_concat rfl, handle, lineClosed, hl]
    rfl
  | writeFailed j =>
    obtain rfl : j = i := of_decide_eq_true he
    rw [disguise_late_failure]
    exact p.disguise.writeFailed

theorem sweepGuest (p : h.Parted i) : (h.disguise (.late i es)).sweepGuest i =
    (h.sweepGuest i).disguise (.late i es) := by
  have hD := Guise.discreet_late i es
  unfold Hall.sweepGuest
  rw [guest?_disguise]
  cases hg : h.guest? i with
  | none => rfl
  | some g =>
    dsimp only [Option.map_some]
    rw [Guise.isAbandoned_late]
    split
    · exact drop_disguise hD.toDecent
    · rename_i hnot
      have hd : g.phase = .disconnected := (p.record g hg).resolve_right fun hr => hnot hr.1
      have hfade : (h.disguise (.late i es)).revise i (fun g => { g with decay := g.decay - 1 }) =
          (h.revise i fun g => { g with decay := g.decay - 1 }).disguise (.late i es) :=
        revise_disguise (Guise.late_comm_of_phase (f := fun g => { g with decay := g.decay - 1 })
          (fun _ => rfl) fun _ => rfl)
      rw [(hD.disconnected i g).2 hd, hd]
      dsimp only
      rw [hD.decay, hfade]
      split
      · exact drop_disguise hD.toDecent
      · rfl

end Parted

/-! ### All else leaves the guise alone -/

theorem handle_disguise_late (he : e.isLate i = false) :
    (h.disguise (.late i es)).handle e = (h.handle e).disguise (.late i es) := by
  have hG := Guise.discreet_late i es
  cases e with
  | connected id origin line => exact accept_disguise hG origin line
  | data j bytes => exact (Guise.plain_late (of_decide_eq_false he)).receive hG bytes
  | closed j => exact lineClosed_disguise hG.toDecent
  | writeFailed j => exact (Guise.plain_late (of_decide_eq_false he)).writeFailed hG.toDecent

theorem arrange_congr {r r' : Roster} (hids : r.ids = r'.ids) (es : List Event) :
    arrange r es = arrange r' es := by
  simp only [arrange, Roster.contains, hids]

theorem filter_arrange (p : Event → Bool) (r : Roster) (es : List Event) :
    (arrange r es).filter p = arrange r (es.filter p) := by
  simp only [arrange, List.filter_append, List.filter_flatMap, List.filter_filter, Bool.and_comm]

namespace Reached
variable {c m b : Nat} {as : List (GuestId × Line)}

theorem parted (r : Reached c m b first as h) (hl : h.line? i = none) : h.Parted i :=
  (Reached.orderly r).parted hl

theorem foldl_handle_late (es : List Event) (r : Reached c m b first as h)
    (hi : i ∈ as.map Prod.fst) (hl : h.line? i = none) {later : List Event}
    (hf : ((as ++ later.flatMap Event.arrivals).map Prod.fst).Nodup) :
    later.foldl Hall.handle (h.disguise (.late i es)) =
      ((later.filter (!·.isLate i)).foldl Hall.handle h).disguise
        (.late i (es ++ later.filter (·.isLate i))) := by
  induction later generalizing h as es with
  | nil => simp
  | cons e later ih =>
    rw [List.flatMap_cons, ← List.append_assoc] at hf
    cases he : e.isLate i with
    | true =>
      rw [Event.arrivals_of_isLate he, List.append_nil] at hf
      rw [List.foldl_cons, (Reached.parted r hl).handle_late he, ih _ r hi hl hf]
      simp only [List.filter_cons, he, Bool.not_true, Bool.false_eq_true, if_false, if_true,
        List.append_assoc, List.singleton_append]
    | false =>
      have l := Reached.handle r (nodup_ids_left hf)
      have hi' : i ∈ (as ++ e.arrivals).map Prod.fst := by
        rw [List.map_append]
        exact List.mem_append_left _ hi
      rw [List.foldl_cons, handle_disguise_late he, ih _ (r.trans l) hi' (l.line?_eq_none hi hl) hf]
      simp only [List.filter_cons, he, Bool.not_false, Bool.false_eq_true, if_false, if_true,
        List.foldl_cons]

theorem sweep_late (r : Reached c m b first as h) (hi : i ∈ as.map Prod.fst)
    (hl : h.line? i = none) :
    (h.disguise (.late i es)).sweep = h.sweep.disguise (.late i es) := by
  unfold Hall.sweep
  rw [ids_disguise]
  generalize h.roster.ids = is
  induction is generalizing h with
  | nil => rfl
  | cons j is ih =>
    have l : Leads first as h first as (h.sweepGuest j) := Leads.refl.row .sweepGuest
    have hj : (h.disguise (.late i es)).sweepGuest j =
        (h.sweepGuest j).disguise (.late i es) := by
      by_cases hji : j = i
      · subst hji
        exact (Reached.parted r hl).sweepGuest
      · exact (Guise.plain_late hji).sweepGuest (Guise.discreet_late i es).toDecent
    rw [List.foldl_cons, List.foldl_cons, hj, ih (r.trans l) (l.line?_eq_none hi hl)]

theorem step_late (r : Reached c m b first as h) (hi : i ∈ as.map Prod.fst)
    (hl : h.line? i = none) {s : Step} (hf : ((as ++ s.arrivals).map Prod.fst).Nodup) :
    (h.disguise (.late i es)).step s =
      (h.run (s.without i)).disguise (.late i (es ++ s.events.filter (·.isLate i))) := by
  have hG := Guise.discreet_late i es
  -- where nothing comes too late, the guise stays as it is
  have hnone : es ++ ([] : List Event).filter (·.isLate i) = es := List.append_nil es
  cases s with
  | event e =>
    cases he : e.isLate i with
    | true =>
      simp only [Step.without, he, if_true, Step.events, List.filter_cons_of_pos he,
        List.filter_nil]
      exact (Reached.parted r hl).handle_late he
    | false =>
      simp only [Step.without, he, Bool.false_eq_true, if_false, Step.events,
        List.filter_cons_of_neg, not_false_eq_true, hnone]
      exact handle_disguise_late he
  | batch later =>
    have hp : (as ++ (arrange h.roster later).flatMap Event.arrivals).Perm
        (as ++ later.flatMap Event.arrivals) :=
      ((arrange_perm h.roster later).flatMap_right _).append_left as
    have hfold := foldl_handle_late es r hi hl ((hp.map Prod.fst).nodup_iff.2 hf)
    rw [filter_arrange, filter_arrange] at hfold
    simp only [Hall.step, handleBatch, Step.without, Hall.run, List.foldl_cons, List.foldl_nil,
      Step.events]
    rw [arrange_congr ids_disguise, hfold, matchmake_disguise (Guise.discreet_late ..),
      Guise.late_perm ((arrange_perm h.roster (later.filter (·.isLate i))).append_left es)]
  | matchmake => rw [Step.events, hnone]; exact matchmake_disguise hG
  | sweep => rw [Step.events, hnone]; exact sweep_late r hi hl
  | shutDown => rw [Step.events, hnone]; exact shutDown_disguise hG.toDecent

theorem run_late (es : List Event) (r : Reached c m b first as h) (hi : i ∈ as.map Prod.fst)
    (hl : h.line? i = none) {steps : List Step}
    (hf : ((as ++ arrivals steps).map Prod.fst).Nodup) :
    (h.disguise (.late i es)).run steps =
      (h.run (withoutLate i steps)).disguise (.late i (es ++ lateEvents i steps)) := by
  induction steps generalizing h as first es with
  | nil => simp [Hall.run, withoutLate, lateEvents]
  | cons s steps ih =>
    have hcons : as ++ arrivals (s :: steps) = as ++ s.arrivals ++ arrivals steps :=
      (List.append_assoc ..).symm
    rw [hcons] at hf
    have hfs := nodup_ids_left hf
    obtain ⟨first', as', -, hp, l⟩ := Reached.run r ((arrivals_without s (i := i)).symm ▸ hfs)
    rw [arrivals_without] at hp
    have hi' : i ∈ as'.map Prod.fst := by
      rw [(hp.map Prod.fst).mem_iff, List.map_append]
      exact List.mem_append_left _ hi
    have hrest := ih (es ++ s.events.filter (·.isLate i)) (r.trans l) hi' (l.line?_eq_none hi hl)
      (((hp.append_right _).map Prod.fst).nodup_iff.2 hf)
    have hrun : h.run (withoutLate i (s :: steps)) =
        (h.run (s.without i)).run (withoutLate i steps) := List.foldl_append
    have hlate : lateEvents i (s :: steps) =
        s.events.filter (·.isLate i) ++ lateEvents i steps := List.filter_append ..
    rw [hrun, hlate, ← List.append_assoc, ← hrest, ← step_late r hi hl hfs]
    rfl

theorem line?_eq_none_of_closed (r : Reached c m b first as h) {l : Line}
    (hids : (as.map Prod.fst).Nodup) (hlines : (as.map Prod.snd).Nodup) (hi : (i, l) ∈ as)
    (hclose : .close ∈ h.sentOn l) : h.line? i = none := by
  have hno := ((Reached.wired r hlines).close_mem_iff (List.mem_map_of_mem hi)).1 hclose i
  cases hl : h.line? i with
  | none => rfl
  | some l' =>
    obtain ⟨g, hg, hgl⟩ := (line?_eq_some_iff h i l').1 hl
    have hcame := (Reached.came r hg).2 l' hgl
    obtain rfl : l = l' := congrArg Prod.snd (List.inj_on_of_nodup_map hids hi hcame rfl)
    exact absurd hl hno

end Reached

/-- Two halls, one of which has heard of the events `es` over the line of a guest when that was
closed already. -/
structure Unmoved (i : GuestId) (es : List Event) (without heard : Hall) : Prop where
  parted : without.Parted i
  /-- Nobody goes sooner or later. -/
  ids : heard.roster.ids = without.roster.ids
  others : ∀ j, j ≠ i → heard.guest? j = without.guest? j
  own : heard.guest? i =
    if es.any Event.isFailure then (without.guest? i).map Guest.miss else without.guest? i
  tables : heard.tables = without.tables
  outbox : heard.outbox = without.outbox
  tally : heard.tally = { without.tally with
    bytesReceived := without.tally.bytesReceived + (es.map Event.size).sum }
  capacity : heard.capacity = without.capacity
  decayBudget : heard.decayBudget = without.decayBudget

theorem unmoved_disguise_late (p : h.Parted i) : Unmoved i es h (h.disguise (.late i es)) where
  parted := p
  ids := ids_disguise
  others _ hj := (Guise.plain_late hj).guest?
  own := by
    rw [guest?_disguise]
    cases hany : es.any Event.isFailure with
    | true => simp [Guise.late, hany]
    | false => cases h.guest? i <;> simp [Guise.late, hany]
  tables := rfl
  outbox := rfl
  tally := rfl
  capacity := rfl
  decayBudget := rfl

/-- Once the line of a guest is closed, be it in the middle of a batch, what is heard of it later
comes to nothing, however often and wherever it comes in. The bytes are counted. After a failure,
what is left of a guest whose name was taken over counts as lost instead of pinged, and goes when it
would have gone anyway. -/
theorem run_withoutLate (capacity maxTables budget : Nat) {xs : List Incident} {later : List Step}
    {l : Line} (p : Incident.Plausible xs)
    (hids : ((xs.flatMap Incident.arrivals ++ arrivals later).map Prod.fst).Nodup)
    (hi : (i, l) ∈ xs.flatMap Incident.arrivals)
    (hclose : .close ∈ ((vacant capacity maxTables budget).after xs).sentOn l) :
    let h := (vacant capacity maxTables budget).after xs
    Unmoved i (lateEvents i later) (h.run (withoutLate i later)) (h.run later) := by
  intro h
  obtain ⟨first, r⟩ := p.reached capacity maxTables budget
  have hmem : i ∈ (xs.flatMap Incident.arrivals).map Prod.fst := List.mem_map_of_mem hi
  have hl := Reached.line?_eq_none_of_closed r p.ids p.lines hi hclose
  have hrun := Reached.run_late [] r hmem hl hids
  rw [disguise_late_nil, List.nil_append] at hrun
  rw [← arrivals_withoutLate (i := i)] at hids
  obtain ⟨_, _, -, -, l'⟩ := Reached.run r hids
  rw [show h.run later = _ from hrun]
  exact unmoved_disguise_late (Reached.parted (r.trans l') (l'.line?_eq_none hmem hl))

/-- Somebody who was pinged calls again and takes over its own name. Then a write on the old line
fails, and what was on its way comes in between the events of others. -/
theorem run_withoutLate_taken_over :
    let xs : List Incident := [.arrival 1 "a" 0, .command 1 (.connect "Ada"), .sweep,
      .arrival 2 "a" 1, .command 2 (.connect "Ada")]
    let hello := (Request.frame [.connect "Eve"]).toUTF8
    let later : List Step := [.batch [.closed 1, .connected 3 "b" 2, .writeFailed 1, .data 3 hello,
      .data 1 hello], .event (.closed 1)]
    let h := (vacant 3 1 2).after xs
    (Incident.Plausible xs ∧
        ((xs.flatMap Incident.arrivals ++ arrivals later).map Prod.fst).Nodup ∧
        (1, 0) ∈ xs.flatMap Incident.arrivals ∧ .close ∈ h.sentOn 0) ∧
      (((h.run (withoutLate 1 later)).guest? 1).map Guest.phase = some .pinged ∧
        ((h.run later).guest? 1).map Guest.phase = some .lost) ∧
      Unmoved 1 (lateEvents 1 later) (h.run (withoutLate 1 later)) (h.run later) := by
  intro xs hello later h
  have p : Incident.Plausible xs := by decide +kernel
  have hids : ((xs.flatMap Incident.arrivals ++ arrivals later).map Prod.fst).Nodup := by
    decide +kernel
  have hi : (1, 0) ∈ xs.flatMap Incident.arrivals := by decide
  have hclose : .close ∈ h.sentOn 0 := by decide +kernel
  exact ⟨⟨p, hids, hi, hclose⟩, by decide +kernel,
    run_withoutLate 3 1 2 p hids hi hclose⟩

end Hall

end Tafl
