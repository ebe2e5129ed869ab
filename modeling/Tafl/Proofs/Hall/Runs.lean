import Mathlib.Data.List.Nodup
import Tafl.Proofs.Hall.Commands
import Tafl.Proofs.Hall.Matchmaking

/-! # Runs of a hall

`Hall.run` is what becomes of a hall when things are asked of it one after the other. `Reached` is
the same taken apart: the halls that come from a vacant one by single changes, pairings, arrivals
and shutdowns. `exists_reached` says that every run is such a row, and `Reached.orderly` that all
these halls are in order, but for the tables that a shutdown has left over. -/

namespace Tafl
open Relation (ReflTransGen)

def Event.arrivals : Event → List (GuestId × Line)
  | connected id _ line => [(id, line)]
  | data _ _ | closed _ | writeFailed _ => []

inductive Step where
  | event (e : Event)
  | batch (es : List Event)
  | matchmake
  | sweep
  | shutDown

def Step.arrivals : Step → List (GuestId × Line)
  | event e => e.arrivals
  | batch es => es.flatMap Event.arrivals
  | matchmake | sweep | shutDown => []

def arrivals (steps : List Step) : List (GuestId × Line) := steps.flatMap Step.arrivals

namespace Hall

def step (h : Hall) : Step → Hall
  | .event e => h.handle e
  | .batch es => h.handleBatch es
  | .matchmake => h.matchmake
  | .sweep => h.sweep
  | .shutDown => h.shutDown

def run (h : Hall) (steps : List Step) : Hall := steps.foldl step h

variable {h h' : Hall} {first : Nat} {i : GuestId} {g : Guest}

/-! ### Events and sweeps as rows of changes -/

theorem Row.orderly (hr : Row i h h') (ho : h.Orderly first) : h'.Orderly first := by
  induction hr with
  | refl => exact ho
  | tail _ hc ih => exact ih.change hc

theorem Row.send (hr : Row i h h') {n : Notice} (hn : n.isAside = true) (hc : n.value? = none) :
    Row i h (h'.send i n) :=
  hr.trans (Deeds.send .refl hn hc).row

theorem Row.sendToOpponent (hr : Row i h h') {n : Notice} (hn : n.isAside = true)
    (hc : n.value? = none) : Row i h (h'.sendToOpponent i n) :=
  hr.trans (Deeds.sendToOpponent .refl hn (by rintro text rfl; cases hc)).row

theorem Row.drop (hr : Row i h h') : Row i h (h'.drop i) := by
  cases hg : h'.guest? i with
  | none => rwa [drop_of_guest?_eq_none hg]
  | some g => exact hr.tail (.drop hg)

theorem Row.lineClosed : Row i h (h.lineClosed i) := by
  unfold Hall.lineClosed
  split
  · exact Row.drop .refl
  · exact .refl

theorem Row.writeFailed : Row i h (h.writeFailed i) := by
  unfold Hall.writeFailed
  cases hg : h.guest? i with
  | none => exact .refl
  | some g =>
    dsimp only
    split
    · exact .refl
    · rename_i hp
      rw [not_or] at hp
      have hr : Row i h (h.revise i Guest.lose) := .single (.lose hg hp.1 hp.2)
      split
      · exact hr.sendToOpponent rfl rfl
      · exact hr

theorem Row.sweepGuest : Row i h (h.sweepGuest i) := by
  unfold Hall.sweepGuest
  cases hg : h.guest? i with
  | none => exact .refl
  | some g =>
    dsimp only
    split
    · exact Row.drop .refl
    · rename_i hab
      cases hp : g.phase with
      | pinged =>
        dsimp only
        have hr : Row i h (h.revise i Guest.lose) := .single (.lose hg (by simp [hp]) (by simp [hp]))
        split
        · exact (hr.send rfl rfl).sendToOpponent rfl rfl
        · exact hr.send rfl rfl
      | lost =>
        have hn : g.name ≠ none := fun e => hab (by simp [Guest.isAbandoned, e, hp])
        exact Row.sendToOpponent (.single (.cut hg hp hn)) rfl rfl
      | disconnected =>
        dsimp only
        split
        · rename_i hd
          exact .single (.expire hg hp hd)
        · rename_i hd
          exact .single (.fade hg hp (Nat.lt_of_not_le hd))
      | new | waiting | onTurn | onStand =>
        exact Row.send (.single (.ping hg (by rw [hp]; rfl))) rfl rfl

/-! ### Halls that can be reached -/

theorem Evolves.pair (p : Pair) : h.Evolves (h.pair p) := by
  have ht : h.Evolves { h with tables := h.tables.openFor p.1.2 p.2.2 } :=
    ⟨rfl, Nat.le_succ _, fun _ g hg => ⟨g, hg, .refl⟩⟩
  exact ((ht.revise fun _ _ => .seat_settle _ rfl).revise fun _ _ =>
    .seat_settle _ rfl).of_eq (decayBudget_announce _) opened_pair (guest?_announce _)

/-- From the hall `h₀`, when the guests `as₀` have come and the tables from number `first₀` on count,
changes, pairings, arrivals and shutdowns lead to another one, one at a time. Not all who come are
taken in, but no number comes twice. -/
inductive Leads (first₀ : Nat) (as₀ : List (GuestId × Line)) (h₀ : Hall) :
    Nat → List (GuestId × Line) → Hall → Prop
  | refl : Leads first₀ as₀ h₀ first₀ as₀ h₀
  | change {first : Nat} {as : List (GuestId × Line)} {h h' : Hall} {i : GuestId}
      (leads : Leads first₀ as₀ h₀ first as h) (change : Change i h h') :
      Leads first₀ as₀ h₀ first as h'
  | pair {first : Nat} {as : List (GuestId × Line)} {h : Hall} {p : Pair}
      (leads : Leads first₀ as₀ h₀ first as h) (ne : p.1.1 ≠ p.2.1) (black : h.Waits p.1)
      (white : h.Waits p.2) : Leads first₀ as₀ h₀ first as (h.pair p)
  | enrol {first : Nat} {as : List (GuestId × Line)} {h : Hall} {id : GuestId} (origin : Origin)
      (line : Line) (leads : Leads first₀ as₀ h₀ first as h) (fresh : id ∉ as.map Prod.fst) :
      Leads first₀ as₀ h₀ first (as ++ [(id, line)]) (h.enrol id origin line)
  | refuse {first : Nat} {as : List (GuestId × Line)} {h : Hall} (id : GuestId) (line : Line)
      (leads : Leads first₀ as₀ h₀ first as h) (fresh : id ∉ as.map Prod.fst) :
      Leads first₀ as₀ h₀ first (as ++ [(id, line)])
        ((h.post line .serverFull).hangUp (some line))
  | shutDown {first : Nat} {as : List (GuestId × Line)} {h : Hall}
      (leads : Leads first₀ as₀ h₀ first as h) :
      Leads first₀ as₀ h₀ (h.tables.opened + 1) as h.shutDown

/-- The halls that a vacant one becomes when the guests `as` have come. The tables from number
`first` on were opened since the last shutdown. -/
abbrev Reached (capacity maxTables budget : Nat) : Nat → List (GuestId × Line) → Hall → Prop :=
  Leads 0 [] (vacant capacity maxTables budget)

/-! ### After a shutdown -/

theorem decayBudget_shutDown (h : Hall) : h.shutDown.decayBudget = h.decayBudget := by
  unfold Hall.shutDown
  generalize h.roster.ids = is
  induction is generalizing h with
  | nil => rfl
  | cons i is ih => rw [List.foldl_cons, ih, decayBudget_strike, decayBudget_send]

theorem tables_shutDown (h : Hall) : h.shutDown.tables = h.tables := by
  unfold Hall.shutDown
  generalize h.roster.ids = is
  induction is generalizing h with
  | nil => rfl
  | cons i is ih => rw [List.foldl_cons, ih, tables_strike, tables_send]

theorem guest?_foldl_strike (is : List GuestId) (j : GuestId) :
    (is.foldl (fun h i => (h.send i .shutdown).strike i) h).guest? j =
      if j ∈ is then none else h.guest? j := by
  induction is generalizing h with
  | nil => simp
  | cons i is ih =>
    rw [List.foldl_cons, ih, guest?_strike, guest?_send, Function.update_apply]
    by_cases hj : j = i <;> simp [hj]

theorem guest?_shutDown (h : Hall) : h.shutDown.guest? = fun _ => none := by
  funext j
  unfold Hall.shutDown
  rw [guest?_foldl_strike]
  split
  · rfl
  · rename_i hj
    exact Roster.get?_eq_none_iff.2 hj

theorem guest?_enrol (id : GuestId) (origin : Origin) (line : Line) :
    (h.enrol id origin line).guest? =
      Function.update h.guest? id (some (.arriving origin line h.decayBudget)) := by
  funext j
  rw [Function.update_apply]
  exact Roster.get?_insert ..

theorem guest?_enrol_self {id : GuestId} {origin : Origin} {line : Line} :
    (h.enrol id origin line).guest? id = some (.arriving origin line h.decayBudget) := by
  rw [guest?_enrol, Function.update_self]

theorem guest?_enrol_of_ne {id : GuestId} {origin : Origin} {line : Line} (hi : i ≠ id) :
    (h.enrol id origin line).guest? i = h.guest? i := by
  rw [guest?_enrol, Function.update_of_ne hi]

theorem accept_of_room {id : GuestId} {origin : Origin} {line : Line}
    (hroom : h.roster.size < h.capacity) :
    h.accept id origin line = (h.enrol id origin line, true) := if_pos hroom

theorem accept_of_full {id old : GuestId} {origin : Origin} {line : Line}
    (hfull : h.capacity ≤ h.roster.size) (hold : h.roster.longestDisconnected? = some old) :
    h.accept id origin line = ((h.drop old).enrol id origin line, true) := by
  rw [accept, if_neg (Nat.not_lt.2 hfull), hold]

theorem proper_arriving (T : Nat → Option Table) (origin : Origin) (line : Line) (budget : Nat) :
    (Guest.arriving origin line budget).Proper T where
  saved := rfl
  named _ h := by cases h
  cut h := by cases h
  away h := by cases h
  stands := .stranger rfl rfl rfl rfl

/-! ### What holds in all of them -/

theorem nodup_ids_left {as bs : List (GuestId × Line)} (hf : ((as ++ bs).map Prod.fst).Nodup) :
    (as.map Prod.fst).Nodup := hf.sublist ((List.sublist_append_left as bs).map Prod.fst)

theorem newcomer_notMem {as : List (GuestId × Line)} {id : GuestId} {line : Line}
    (hf : ((as ++ [(id, line)]).map Prod.fst).Nodup) : id ∉ as.map Prod.fst := by
  intro hi
  rw [List.map_append, List.nodup_append] at hf
  exact hf.2.2 id hi id (by simp) rfl

namespace Leads
variable {first₀ first₁ : Nat} {as₀ as as₁ : List (GuestId × Line)} {h₀ h₁ : Hall}

theorem trans (l : Leads first₀ as₀ h₀ first as h) (l₁ : Leads first as h first₁ as₁ h₁) :
    Leads first₀ as₀ h₀ first₁ as₁ h₁ := by
  induction l₁ with
  | refl => exact l
  | change _ hc ih => exact ih.change hc
  | pair _ hne hb hw ih => exact ih.pair hne hb hw
  | enrol origin line _ hf ih => exact ih.enrol origin line hf
  | refuse id line _ hf ih => exact ih.refuse id line hf
  | shutDown _ ih => exact ih.shutDown

theorem row (l : Leads first₀ as₀ h₀ first as h) (hr : Row i h h') :
    Leads first₀ as₀ h₀ first as h' := by
  induction hr with
  | refl => exact l
  | tail _ hc ih => exact ih.change hc

/-- What no touch takes from a record is true of it as long as it is there. -/
theorem record {P : Guest → Prop} (hP : ∀ b g g', Guest.Touch b g g' → P g → P g')
    (l : Leads first₀ as₀ h₀ first as h) (hi : i ∈ as₀.map Prod.fst)
    (hg₀ : ∀ g, h₀.guest? i = some g → P g) :
    i ∈ as.map Prod.fst ∧ ∀ g, h.guest? i = some g → P g := by
  have keep {h h' : Hall} (he : h.Evolves h') (ih : ∀ g, h.guest? i = some g → P g) :
      ∀ g, h'.guest? i = some g → P g := by
    intro g hg
    obtain ⟨x, hx, hb⟩ := he.guest i g hg
    have hPx := ih x hx
    clear hx hg
    induction hb with
    | refl => exact hPx
    | tail _ ht ih => exact hP _ _ _ ht ih
  induction l with
  | refl => exact ⟨hi, hg₀⟩
  | change _ hc ih => exact ⟨ih.1, keep hc.evolves ih.2⟩
  | pair _ _ _ _ ih => exact ⟨ih.1, keep (.pair _) ih.2⟩
  | @enrol _ _ _ id origin line _ hf ih =>
    have hne : i ≠ id := by
      rintro rfl
      exact hf ih.1
    refine ⟨by rw [List.map_append]; exact List.mem_append_left _ ih.1, fun g hg => ih.2 g ?_⟩
    rwa [guest?_enrol, Function.update_of_ne hne] at hg
  | refuse id line _ _ ih =>
    refine ⟨by rw [List.map_append]; exact List.mem_append_left _ ih.1, fun g hg => ih.2 g ?_⟩
    rwa [guest?_hangUp] at hg
  | shutDown _ ih =>
    refine ⟨ih.1, fun g hg => ?_⟩
    rw [guest?_shutDown] at hg
    cases hg

end Leads

namespace Reached
variable {c m b : Nat} {as : List (GuestId × Line)}

/-- Every guest has come at some time, and if it has a line, it is the one on which it came. -/
theorem came (r : Reached c m b first as h) (hg : h.guest? i = some g) :
    i ∈ as.map Prod.fst ∧ ∀ l, g.line = some l → (i, l) ∈ as := by
  -- what has come stays on the list, and lines are only lost
  have keep {h h' : Hall} {as : List (GuestId × Line)} (as' : List (GuestId × Line)) {j : GuestId}
      {x : Guest}
      (ih : ∀ {i g}, h.guest? i = some g → i ∈ as.map Prod.fst ∧ ∀ l, g.line = some l → (i, l) ∈ as)
      (hs : h.Sheds h') (hx : h'.guest? j = some x) :
      j ∈ (as ++ as').map Prod.fst ∧ ∀ l, x.line = some l → (j, l) ∈ as ++ as' := by
    obtain ⟨y, hy, hl⟩ := hs j x hx
    obtain ⟨hj, hline⟩ := ih hy
    refine ⟨by rw [List.map_append]; exact List.mem_append_left _ hj, fun l hxl => ?_⟩
    rcases hl with hl | hl
    · exact List.mem_append_left _ (hline l (hl ▸ hxl))
    · rw [hl] at hxl
      cases hxl
  induction r generalizing i g with
  | refl => cases hg
  | change _ hc ih => simpa using keep [] ih hc.evolves.sheds hg
  | pair _ _ _ _ ih => simpa using keep [] ih (Evolves.pair _).sheds hg
  | enrol origin line _ _ ih =>
    rw [guest?_enrol] at hg
    rcases update_eq_some.1 hg with ⟨rfl, ⟨⟩⟩ | ⟨-, hg⟩
    · refine ⟨by simp, ?_⟩
      rintro l ⟨⟩
      simp
    · exact keep _ ih (Sheds.refl _) hg
  | refuse id line _ _ ih => exact keep _ ih (.of_eq (by simp)) hg
  | shutDown => simp [guest?_shutDown] at hg

theorem guest?_fresh (r : Reached c m b first as h) (hi : i ∉ as.map Prod.fst) :
    h.guest? i = none := by
  cases hg : h.guest? i with
  | none => rfl
  | some g => exact absurd (r.came hg).1 hi

theorem ne_newcomer (r : Reached c m b first as h) {id : GuestId} {line : Line}
    (hf : ((as ++ [(id, line)]).map Prod.fst).Nodup) (hg : h.guest? i = some g) : i ≠ id := by
  rintro rfl
  rw [r.guest?_fresh (newcomer_notMem hf)] at hg
  cases hg

theorem apart (r : Reached c m b first as h) (hl : (as.map Prod.snd).Nodup) : h.Apart := by
  intro i j gi gj l hi hj hil hjl
  have hpi := (r.came hi).2 l hil
  have hpj := (r.came hj).2 l hjl
  exact congrArg Prod.fst (List.inj_on_of_nodup_map hl hpi hpj rfl)

/-- The tables that count were opened one after the other. -/
theorem first_le (r : Reached c m b first as h) : first ≤ h.tables.opened + 1 := by
  induction r with
  | refl => exact Nat.zero_le _
  | change _ hc ih => exact ih.trans (Nat.succ_le_succ hc.evolves.opened)
  | pair _ _ _ _ ih => exact ih.trans (Nat.succ_le_succ (Evolves.pair _).opened)
  | enrol _ _ _ _ ih => exact ih
  | refuse _ _ _ _ ih => simpa using ih
  | shutDown => rw [tables_shutDown]

theorem orderly (r : Reached c m b first as h) : h.Orderly first := by
  induction r with
  | refl => exact InOrder.vacant
  | change _ hc ih => exact ih.change hc
  | pair r hne hb hw ih => exact ih.pair (Reached.first_le r) hne hb hw
  | enrol origin line r hf ih =>
    unfold Orderly
    rw [guest?_enrol]
    exact InOrder.enrol ih (Reached.guest?_fresh r hf) (proper_arriving ..) rfl
  | refuse id line _ _ ih => exact ih.of_eq (by simp) (by simp)
  | shutDown =>
    unfold Orderly
    rw [guest?_shutDown, tables_shutDown, Tables.since_next]
    exact InOrder.vacant

end Reached

/-! ### Every run is such a row -/

namespace Leads
variable {first₀ : Nat} {as₀ as : List (GuestId × Line)} {h₀ : Hall}

theorem sweep (l : Leads first₀ as₀ h₀ first as h) : Leads first₀ as₀ h₀ first as h.sweep := by
  unfold Hall.sweep
  generalize h.roster.ids = is
  induction is generalizing h with
  | nil => exact l
  | cons i is ih => exact ih (l.row .sweepGuest)

theorem pairs {ps : List Pair} (l : Leads first₀ as₀ h₀ first as h) (hl : h.Lineup ps) :
    Leads first₀ as₀ h₀ first as (ps.foldl Hall.pair h) := by
  induction ps generalizing h with
  | nil => exact l
  | cons p ps ih =>
    obtain ⟨hb, hw⟩ := hl.waits p (List.mem_cons_self ..)
    exact ih (l.pair hl.ne hb hw) hl.tail_pair

theorem accept (l : Leads first₀ as₀ h₀ first as h) {id : GuestId} (hf : id ∉ as.map Prod.fst)
    (origin : Origin) (line : Line) :
    Leads first₀ as₀ h₀ first (as ++ [(id, line)]) (h.accept id origin line).1 := by
  unfold Hall.accept
  split
  · exact l.enrol origin line hf
  · split
    · rename_i old _
      exact (l.row (Row.drop (i := old) .refl)).enrol origin line hf
    · exact l.refuse id line hf

end Leads

namespace Reached
variable {c m b : Nat} {as : List (GuestId × Line)}

theorem matchmake (r : Reached c m b first as h) : Leads first as h first as h.matchmake := by
  rw [matchmake_eq r.orderly r.first_le]
  exact Leads.refl.pairs h.lineup_pairs

theorem handle (r : Reached c m b first as h) {e : Event}
    (hf : ((as ++ e.arrivals).map Prod.fst).Nodup) :
    Leads first as h first (as ++ e.arrivals) (h.handle e) := by
  have l : Leads first as h first as h := .refl
  cases e with
  | connected id origin line =>
    exact l.accept (newcomer_notMem hf) origin line
  | data id bytes => simpa [Event.arrivals, Hall.handle] using l.row (r.orderly.receive id bytes)
  | closed id => simpa [Event.arrivals, Hall.handle] using l.row (.lineClosed (i := id))
  | writeFailed id => simpa [Event.arrivals, Hall.handle] using l.row (.writeFailed (i := id))

theorem foldl_handle {es : List Event} (r : Reached c m b first as h)
    (hf : ((as ++ es.flatMap Event.arrivals).map Prod.fst).Nodup) :
    Leads first as h first (as ++ es.flatMap Event.arrivals) (es.foldl Hall.handle h) := by
  induction es generalizing h as with
  | nil => simpa using Leads.refl
  | cons e es ih =>
    rw [List.flatMap_cons, ← List.append_assoc] at hf ⊢
    have hfe : ((as ++ e.arrivals).map Prod.fst).Nodup := nodup_ids_left hf
    have l := r.handle hfe
    exact l.trans (ih (r.trans l) hf)

end Reached

theorem flatMap_filter_perm {ids : List GuestId} (hids : ids.Nodup) (es : List Event) :
    (ids.flatMap fun id => es.filter (·.guest = id)).Perm
      (es.filter fun e => ids.contains e.guest) := by
  induction ids with
  | nil => simp
  | cons id ids ih =>
    rw [List.nodup_cons] at hids
    rw [List.flatMap_cons]
    refine ((ih hids.2).append_left _).trans ?_
    refine .trans (.of_eq ?_) (List.filter_append_perm (·.guest = id) _)
    rw [List.filter_filter, List.filter_filter]
    congr 1
    · refine List.filter_congr fun e _ => ?_
      by_cases he : e.guest = id <;> simp [he]
    · refine List.filter_congr fun e _ => ?_
      by_cases he : e.guest = id
      · simp [he, hids.1]
      · simp [he]

theorem arrange_perm (r : Roster) (es : List Event) : (arrange r es).Perm es :=
  ((flatMap_filter_perm r.nodup es).append_right _).trans
    (List.filter_append_perm (fun e : Event => r.contains e.guest) es)

namespace Reached
variable {c m b : Nat} {as : List (GuestId × Line)}

theorem step (r : Reached c m b first as h) {s : Step}
    (hf : ((as ++ s.arrivals).map Prod.fst).Nodup) :
    ∃ first' as', (s ≠ .shutDown → first' = first) ∧ as'.Perm (as ++ s.arrivals) ∧
      Leads first as h first' as' (h.step s) := by
  cases s with
  | event e => exact ⟨first, _, fun _ => rfl, .refl _, r.handle hf⟩
  | batch es =>
    -- a batch is put in another order, and the newcomers with it
    have hp : (as ++ (arrange h.roster es).flatMap Event.arrivals).Perm
        (as ++ es.flatMap Event.arrivals) :=
      ((arrange_perm h.roster es).flatMap_right _).append_left as
    have l := r.foldl_handle ((hp.map Prod.fst).nodup_iff.2 hf)
    exact ⟨first, _, fun _ => rfl, hp, l.trans (Reached.matchmake (r.trans l))⟩
  | matchmake => exact ⟨first, as, fun _ => rfl, by simp [Step.arrivals], r.matchmake⟩
  | sweep => exact ⟨first, as, fun _ => rfl, by simp [Step.arrivals], Leads.refl.sweep⟩
  | shutDown => exact ⟨_, as, fun e => absurd rfl e, by simp [Step.arrivals], Leads.refl.shutDown⟩

theorem run {steps : List Step} (r : Reached c m b first as h)
    (hf : ((as ++ arrivals steps).map Prod.fst).Nodup) :
    ∃ first' as', (.shutDown ∉ steps → first' = first) ∧ as'.Perm (as ++ arrivals steps) ∧
      Leads first as h first' as' (h.run steps) := by
  induction steps generalizing h as first with
  | nil => exact ⟨first, as, fun _ => rfl, by simp [arrivals], .refl⟩
  | cons s steps ih =>
    have hcons : as ++ arrivals (s :: steps) = as ++ s.arrivals ++ arrivals steps :=
      (List.append_assoc ..).symm
    rw [hcons] at hf ⊢
    have hfs : ((as ++ s.arrivals).map Prod.fst).Nodup := nodup_ids_left hf
    obtain ⟨first₁, as₁, hsame₁, hp₁, l₁⟩ := r.step hfs
    have hp := hp₁.append_right (arrivals steps)
    obtain ⟨first₂, as₂, hsame₂, hp₂, l₂⟩ := ih (r.trans l₁) ((hp.map Prod.fst).nodup_iff.2 hf)
    refine ⟨first₂, as₂, fun hs => ?_, hp₂.trans hp, l₁.trans l₂⟩
    rw [List.mem_cons, not_or] at hs
    rw [hsame₂ hs.2, hsame₁ (Ne.symm hs.1)]

end Reached

/-- Every run in which no number comes twice leads to a hall that can be reached by single changes.
As long as the hall is not shut down, all of its tables count. -/
theorem exists_reached (capacity maxTables budget : Nat) {steps : List Step}
    (hs : .shutDown ∉ steps) (hids : ((arrivals steps).map Prod.fst).Nodup) :
    ∃ as, as.Perm (arrivals steps) ∧
      Reached capacity maxTables budget 0 as ((vacant capacity maxTables budget).run steps) := by
  obtain ⟨first, as, hsame, hp, r⟩ := Reached.run (.refl : Reached capacity maxTables budget ..) hids
  rw [hsame hs] at r
  exact ⟨as, hp, r⟩

end Hall

end Tafl
