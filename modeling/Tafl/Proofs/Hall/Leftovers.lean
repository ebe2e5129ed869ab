import Tafl.Proofs.Hall.Badges

/-! # What a reconnection leaves behind

A record without a name and a line. Nobody finds it, so with it and without it everything goes on
in the same way: the operations commute with `discard`, and a sweep does not notice whether the
record was there (`Leftover.sweep`). -/

namespace Tafl
open Function (update)

namespace Roster
variable {r r' : Roster} {i j : GuestId}

theorem modify_erase (f : Guest → Guest) : (r.erase i).modify j f = (r.modify j f).erase i := by
  refine ext_entries ?_
  simp only [erase, modify, List.filter_map]
  congr 1
  refine List.filter_congr fun e _ => ?_
  have hid : (if e.1 = j then (e.1, f e.2) else e).1 = e.1 := by split <;> rfl
  simp [hid]

theorem erase_comm : (r.erase i).erase j = (r.erase j).erase i := by
  refine ext_entries ?_
  simp only [erase, List.filter_filter, Bool.and_comm]

theorem findName?_erase {n : String} (hn : ∀ g, r.get? i = some g → g.name ≠ some n) :
    (r.erase i).findName? n = r.findName? n := by
  have hmem : ∀ e ∈ r.entries, e.1 = i → e.2.name ≠ some n := by
    rintro ⟨j, g⟩ he rfl
    exact hn g (get?_eq_some_iff.2 he)
  unfold findName? erase
  dsimp only
  congr 1
  generalize r.entries = es at hmem
  induction es with
  | nil => rfl
  | cons e es ih =>
    have ih := ih fun e he => hmem e (List.mem_cons_of_mem _ he)
    by_cases he : e.1 = i
    · rw [List.filter_cons_of_neg (by simpa using he), ih,
        List.find?_cons_of_neg (by simpa using hmem e (List.mem_cons_self ..) he)]
    · rw [List.filter_cons_of_pos (by simpa using he), List.find?_cons, List.find?_cons]
      split
      · rfl
      · exact ih

end Roster

namespace Hall

/-- Takes a record off the roster, and does nothing else. -/
def discard (h : Hall) (i : GuestId) : Hall :=
  { h with
    roster := h.roster.erase i
    tally.disconnected := h.tally.disconnected + 1 }

def Nameless (h : Hall) (i : GuestId) : Prop := ∀ g, h.guest? i = some g → g.name = none

variable {h h' k : Hall} {first : Nat} {i j o : GuestId} {g : Guest} {n : Notice}

/-! ### Without the record everything goes on in the same way -/

theorem guest?_discard : (h.discard i).guest? = update h.guest? i none := by
  funext j
  rw [Function.update_apply]
  exact Roster.get?_erase ..

theorem guest?_discard_of_ne (hj : j ≠ i) : (h.discard i).guest? j = h.guest? j := by
  rw [guest?_discard, Function.update_of_ne hj]

theorem line?_discard (hj : j ≠ i) : (h.discard i).line? j = h.line? j := by
  rw [line?, guest?_discard_of_ne hj, line?]

theorem table?_discard (hj : j ≠ i) : (h.discard i).table? j = h.table? j := by
  rw [table?, guest?_discard_of_ne hj]
  rfl

theorem Nameless.of_eq (hn : h.Nameless i) (hg : h'.guest? i = h.guest? i) : h'.Nameless i := by
  intro g hg'
  exact hn g (hg ▸ hg')

theorem Nameless.revise (hn : h.Nameless i) (hj : j ≠ i) (f : Guest → Guest) :
    (h.revise j f).Nameless i :=
  hn.of_eq (by rw [guest?_revise, Function.update_of_ne hj.symm])

theorem Nameless.send (hn : h.Nameless i) : (h.send j n).Nameless i :=
  hn.of_eq (by rw [guest?_send])

theorem Nameless.findName? (hn : h.Nameless i) (name : String) :
    (h.discard i).roster.findName? name = h.roster.findName? name :=
  Roster.findName?_erase fun g hg => by simp [hn g hg]

theorem Nameless.opponent? (hn : h.Nameless i) (hj : j ≠ i) :
    (h.discard i).opponent? j = h.opponent? j := by
  unfold Hall.opponent?
  rw [guest?_discard_of_ne hj, table?_discard hj]
  simp only [hn.findName?]

theorem Nameless.opponent?_ne (hn : h.Nameless i) (ho : h.opponent? j = some o) : o ≠ i := by
  rintro rfl
  simp only [Hall.opponent?, Option.bind_eq_bind, Option.bind_eq_some_iff] at ho
  obtain ⟨-, -, -, -, name, -, other, -, hf⟩ := ho
  obtain ⟨x, hx, hxn⟩ := Roster.findName?_eq_some hf
  rw [hn x hx] at hxn
  cases hxn

theorem revise_discard (f : Guest → Guest) :
    (h.discard i).revise j f = (h.revise j f).discard i := by
  unfold revise discard
  dsimp only
  rw [Roster.modify_erase]

theorem hangUp_discard (l : Option Line) : (h.discard i).hangUp l = (h.hangUp l).discard i := by
  cases l <;> rfl

theorem send_discard (hj : j ≠ i) : (h.discard i).send j n = (h.send j n).discard i := by
  unfold send
  rw [line?_discard hj]
  cases h.line? j <;> rfl

theorem toLobby_discard (hj : j ≠ i) : (h.discard i).toLobby j = (h.toLobby j).discard i := by
  rw [toLobby, revise_discard, send_discard hj, toLobby]

namespace Nameless

theorem sendToOpponent (hn : h.Nameless i) (hj : j ≠ i) :
    (h.discard i).sendToOpponent j n = (h.sendToOpponent j n).discard i := by
  unfold Hall.sendToOpponent
  rw [hn.opponent? hj]
  cases ho : h.opponent? j with
  | none => rfl
  | some o => exact send_discard (hn.opponent?_ne ho)

theorem breakUp (hn : h.Nameless i) (hj : j ≠ i) :
    (h.discard i).breakUp j n = (h.breakUp j n).discard i := by
  unfold Hall.breakUp
  rw [guest?_discard_of_ne hj, hn.opponent? hj]
  cases (h.guest? j).bind Guest.table with
  | none => rfl
  | some table =>
    dsimp only
    have hc : { h.discard i with tables := (h.discard i).tables.close table } =
        { h with tables := h.tables.close table }.discard i := rfl
    rw [hc, revise_discard]
    cases ho : h.opponent? j with
    | none => rfl
    | some o =>
      have hne := hn.opponent?_ne ho
      rw [Option.elim_some, send_discard hne, toLobby_discard hne]
      rfl

end Nameless

theorem strike_discard (hj : j ≠ i) : (h.discard i).strike j = (h.strike j).discard i := by
  unfold strike
  rw [guest?_discard_of_ne hj]
  cases h.guest? j with
  | none => rfl
  | some g =>
    dsimp only
    rw [← hangUp_discard]
    unfold discard
    dsimp only
    rw [Roster.erase_comm]

namespace Nameless

theorem drop (hn : h.Nameless i) (hj : j ≠ i) : (h.discard i).drop j = (h.drop j).discard i := by
  rw [Hall.drop, hn.breakUp hj, strike_discard hj, Hall.drop]

theorem sweepGuest (hn : h.Nameless i) (hj : j ≠ i) :
    (h.discard i).sweepGuest j = (h.sweepGuest j).discard i := by
  have hb : (h.discard i).decayBudget = h.decayBudget := rfl
  unfold Hall.sweepGuest
  rw [guest?_discard_of_ne hj]
  cases h.guest? j with
  | none => rfl
  | some g =>
    dsimp only
    split
    · exact hn.drop hj
    · cases g.phase with
      | pinged =>
        dsimp only
        have hn' : ((h.revise j Guest.lose).send j .ping).Nameless i := (hn.revise hj _).send
        rw [revise_discard, send_discard hj]
        split
        · exact hn'.sendToOpponent hj
        · rfl
      | lost =>
        dsimp only
        have hn' : (((h.send j .kicked).revise j (·.disconnect h.decayBudget)).hangUp
            g.line).Nameless i :=
          (hn.send.revise hj _).of_eq (by rw [guest?_hangUp])
        rw [hb, send_discard hj, revise_discard, hangUp_discard]
        exact hn'.sendToOpponent hj
      | disconnected =>
        dsimp only
        rw [revise_discard]
        split
        · exact (hn.revise hj _).drop hj
        · rfl
      | new | waiting | onTurn | onStand =>
        dsimp only
        rw [revise_discard, send_discard hj]

end Nameless

/-! ### How it goes -/

/-- A record without a name and a line, as a hand-over leaves it behind. -/
def Leftover (h : Hall) (i : GuestId) : Prop := ∃ g, h.guest? i = some g ∧ g.IsLeft

namespace Leftover

theorem nameless (l : h.Leftover i) : h.Nameless i := by
  obtain ⟨g, hg, hn, -⟩ := l
  intro x hx
  obtain rfl := Option.some.inj (hg.symm.trans hx)
  exact hn

theorem of_badge? (l : h.Leftover i) (hb : h'.badge? i = h.badge? i) : h'.Leftover i := by
  obtain ⟨g, hg, hn, hl⟩ := l
  rw [badge?, badge?, hg] at hb
  obtain ⟨x, hx, hxg⟩ := Option.map_eq_some_iff.1 hb
  simp only [Guest.badge, Prod.mk.injEq] at hxg
  exact ⟨x, hx, hxg.1.trans hn, hxg.2.2.trans hl⟩

theorem drop (l : h.Leftover i) (ho : h.Orderly first) : h.drop i = h.discard i := by
  obtain ⟨g, hg, hn, hl⟩ := l
  rw [drop_of_table_eq_none hg ((InOrder.proper ho i g hg).table_of_unnamed hn), strike, hg]
  dsimp only
  rw [hl]
  rfl

theorem isAbandoned (l : h.Leftover i) (ho : h.Orderly first) :
    ∃ g, h.guest? i = some g ∧ g.isAbandoned = true := by
  obtain ⟨g, hg, hn, hl⟩ := l
  exact ⟨g, hg, (InOrder.proper ho i g hg).isAbandoned hn hl⟩

theorem sweepGuest (l : h.Leftover i) (ho : h.Orderly first) : h.sweepGuest i = h.discard i := by
  obtain ⟨g, hg, hab⟩ := l.isAbandoned ho
  rw [Hall.sweepGuest, hg]
  dsimp only
  rw [if_pos hab, l.drop ho]

theorem sweep_others (l : h.Leftover i) {is : List GuestId} (hi : i ∉ is) :
    is.foldl Hall.sweepGuest (h.discard i) = (is.foldl Hall.sweepGuest h).discard i := by
  induction is generalizing h with
  | nil => rfl
  | cons j is ih =>
    rw [List.mem_cons, not_or] at hi
    rw [List.foldl_cons, List.foldl_cons, l.nameless.sweepGuest (Ne.symm hi.1),
      ih (l.of_badge? (badge?_sweepGuest_of_ne hi.1)) hi.2]

/-- A sweep is the same as if the record had been gone before. -/
theorem sweep (l : h.Leftover i) (ho : h.Orderly first) : h.sweep = (h.discard i).sweep := by
  obtain ⟨g, hg, -⟩ := id l
  obtain ⟨before, after, hids, hbefore, hafter, hsweep⟩ := exists_sweep_split hg
  have hl' := l.of_badge? (badge?_foldl_sweepGuest hbefore)
  have hids' : (h.discard i).roster.ids = before ++ after := by
    have hkeep {is : List GuestId} (hi : i ∉ is) : is.filter (· ≠ i) = is :=
      List.filter_eq_self.2 fun j hj => by simpa using fun e : j = i => hi (e ▸ hj)
    rw [show (h.discard i).roster.ids = _ from Roster.ids_erase, hids, List.filter_append,
      List.filter_cons_of_neg (by simp), hkeep hbefore, hkeep hafter]
  rw [hsweep, hl'.sweepGuest (ho.foldl_sweepGuest before), ← l.sweep_others hbefore, Hall.sweep,
    hids', List.foldl_append]

/-- If its place is needed for a newcomer, only the record goes. -/
theorem accept (l : h.Leftover i) (ho : h.Orderly first) (hfull : h.capacity ≤ h.roster.size)
    (hfirst : h.roster.longestDisconnected? = some i) (id : GuestId) (origin : Origin)
    (line : Line) : h.accept id origin line = ((h.discard i).enrol id origin line, true) := by
  rw [accept_of_full hfull hfirst, l.drop ho]

/-- Nothing but a sweep, a newcomer that needs the place, and a shutdown makes it go. -/
theorem meet {c m b : Nat} {as : List (GuestId × Line)} (l : h.Leftover i)
    (r : Reached c m b first as h) {x : Incident} (hf : ((as ++ x.arrivals).map Prod.fst).Nodup)
    (hsweep : x ≠ .sweep) (hdown : x ≠ .shutDown)
    (hplace : ∀ id origin line, x = .arrival id origin line →
      h.roster.size < h.capacity ∨ h.roster.longestDisconnected? ≠ some i) :
    (h.meet x).Leftover i := by
  obtain ⟨g, hg, hn, hl⟩ := id l
  have hline : h.line? i = none := (line?_of_guest? hg).trans hl
  cases x with
  | received k => exact l
  | command j c =>
    unfold Hall.meet
    dsimp only
    split
    · rename_i hlj
      have hji : i ≠ j := by
        rintro rfl
        simp [hline] at hlj
      by_cases hc : ∃ k, c = .connect k
      · obtain ⟨k, rfl⟩ := hc
        obtain ⟨gj, hgj⟩ := exists_guest?_of_line? hlj
        refine l.of_badge? ?_
        cases hnj : gj.name with
        | some own => exact congrFun (obey_connect_own hgj hnj k) i
        | none =>
          have hnaming := naming_obey hgj hnj k
          generalize (h.obey j (.connect k)).1.badge? = f at hnaming
          cases hnaming with
          | fresh => exact Function.update_of_ne hji ..
          | refused => rfl
          | taken found there =>
            have hne := ne_of_named hg hn there (by simp [found_name found there])
            rw [Function.update_of_ne hji, Function.update_of_ne hne.symm]
      · rw [not_exists] at hc
        exact l.of_badge? (congrFun (badge?_obey hc) i)
    · exact l
  | leave j =>
    rw [Hall.meet, lineClosed]
    split
    · rename_i hlj
      have hji : i ≠ j := by
        rintro rfl
        simp [hline] at hlj
      exact l.of_badge? (by rw [badge?_drop, Function.update_of_ne hji])
    · exact l
  | arrival id origin line =>
    have hid : i ≠ id := Reached.ne_newcomer r hf hg
    exact l.of_badge? (badge?_accept hid (hplace id origin line rfl))
  | writeFailed j => exact l.of_badge? (congrFun (badge?_writeFailed ..) i)
  | matchmake => exact l.of_badge? (congrFun (Reached.badge?_matchmake r) i)
  | sweep => exact absurd rfl hsweep
  | shutDown => exact absurd rfl hdown

end Leftover

theorem guest?_sweep_of_none (hg : h.guest? i = none) : h.sweep.guest? i = none := by
  have hi : i ∉ h.roster.ids := Roster.get?_eq_none_iff.1 hg
  have hb : h.sweep.badge? i = h.badge? i := badge?_foldl_sweepGuest hi
  rw [badge?, badge?, hg] at hb
  exact Option.map_eq_none_iff.1 hb

end Hall

end Tafl
