import Tafl.Proofs.Hall.Badges

/-! # Who holds a name

`Hall.after_names`: whatever others do, a guest with a name and a line keeps both the record and the
name, unless it leaves a ping unanswered and somebody at the same address asks for the name. -/

namespace Tafl

namespace Hall
variable {h h' k : Hall} {first : Nat} {i j o : GuestId} {g gi go : Guest} {n : String}

/-! ### Who holds a name -/

def Holds (h : Hall) (n : String) (i : GuestId) : Prop := ∃ g, h.guest? i = some g ∧ g.name = some n

theorem holds_iff : h.Holds n i ↔ ∃ a l, h.badge? i = some (some n, a, l) := by
  constructor
  · rintro ⟨g, hg, hn⟩
    refine ⟨g.origin, g.line, ?_⟩
    rw [badge?, hg, Option.map_some, Guest.badge, hn]
  · rintro ⟨a, l, hb⟩
    obtain ⟨g, hg, hgb⟩ := Option.map_eq_some_iff.1 hb
    exact ⟨g, hg, congrArg Prod.fst hgb⟩

theorem Holds.of_badge? (hh : h.Holds n i) (hb : h'.badge? i = h.badge? i) : h'.Holds n i := by
  rw [holds_iff] at hh ⊢
  rwa [hb]

theorem Orderly.holds_sweep (ho : h.Orderly first) (hg : h.guest? i = some g) (hn : g.name = some n)
    (hl : g.line ≠ none) : h.sweep.Holds n i := by
  obtain ⟨before, after, -, hbefore, hafter, hsweep⟩ := exists_sweep_split hg
  have hb := badge?_foldl_sweepGuest (h := h) hbefore
  have ho' := ho.foldl_sweepGuest before
  generalize before.foldl sweepGuest h = k at hb ho' hsweep
  -- when the sweep comes to the guest, it still has its line
  obtain ⟨x, hx, hxb⟩ : ∃ x, k.guest? i = some x ∧ x.badge = g.badge := by
    rw [badge?, badge?, hg, Option.map_some] at hb
    exact Option.map_eq_some_iff.1 hb
  simp only [Guest.badge, Prod.mk.injEq] at hxb
  have hp : x.phase ≠ .disconnected := fun hd =>
    hl (hxb.2.2 ▸ (InOrder.proper ho' i x hx).cut hd)
  obtain ⟨l, hself⟩ := badge?_sweepGuest_self hx (hxb.1.trans hn) hp
  have hk : (k.sweepGuest i).Holds n i := holds_iff.2 ⟨_, _, hself⟩
  rw [hsweep]
  exact hk.of_badge? (badge?_foldl_sweepGuest hafter)

/-- Somebody without a name asks for `n` from the address of the guest `i`, which holds it and has
left a ping or two unanswered. -/
def TakesOver (h : Hall) (x : Incident) (n : String) (j i : GuestId) : Prop :=
  x = .command j (.connect n) ∧ j ≠ i ∧ ∃ gj gi, h.guest? j = some gj ∧ h.guest? i = some gi ∧
    gj.name = none ∧ gj.line ≠ none ∧ gj.origin = gi.origin ∧
    (gi.phase = .pinged ∨ gi.phase = .lost)

namespace Orderly

theorem holds_unique (ho : h.Orderly first) (hi : h.Holds n i) (hj : h.Holds n j) : i = j := by
  obtain ⟨gi, hgi, hni⟩ := hi
  obtain ⟨gj, hgj, hnj⟩ := hj
  exact InOrder.unique ho i j gi gj n hgi hgj hni hnj

/-- A command of somebody else takes a name only from a guest that does not answer. -/
theorem holds_connect (ho : h.Orderly first) (hg : h.guest? i = some gi) (hn : gi.name = some n)
    (hl : gi.line ≠ none) (hgj : h.guest? j = some g) (hlj : g.line ≠ none) (hji : j ≠ i)
    (m : String) :
    h.TakesOver (.command j (.connect m)) n j i ∧ (h.obey j (.connect m)).1.Holds n j ∧
        (h.obey j (.connect m)).1.guest? i ≠ none ∨
      ¬ h.TakesOver (.command j (.connect m)) n j i ∧ (h.obey j (.connect m)).1.Holds n i := by
  have hi : h.Holds n i := ⟨gi, hg, hn⟩
  have named (hgn : g.name ≠ none) : ¬ h.TakesOver (.command j (.connect m)) n j i := by
    rintro ⟨-, -, gj, -, hgj', -, hnj, -⟩
    obtain rfl := Option.some.inj (hgj.symm.trans hgj')
    exact hgn hnj
  cases hgn : g.name with
  | some own =>
    exact .inr ⟨named (by simp [hgn]), hi.of_badge? (congrFun (obey_connect_own hgj hgn m) i)⟩
  | none =>
    have hnaming := naming_obey hgj hgn m
    generalize hb : (h.obey j (.connect m)).1.badge? = f at hnaming
    have keeps (hf : f i = h.badge? i) : (h.obey j (.connect m)).1.Holds n i :=
      hi.of_badge? ((congrFun hb i).trans hf)
    cases hnaming with
    | fresh free =>
      refine .inr ⟨?_, keeps (Function.update_of_ne hji.symm ..)⟩
      rintro ⟨⟨⟩, -⟩
      exact Roster.findName?_eq_none free hg hn
    | @refused o go found there in_use =>
      refine .inr ⟨?_, keeps rfl⟩
      rintro ⟨⟨⟩, -, gj', gi', hgj', hgi', -, -, horigin, hphase⟩
      obtain rfl := Option.some.inj (hgj.symm.trans hgj')
      obtain rfl := Option.some.inj (hg.symm.trans hgi')
      obtain rfl := ho.holds_unique ⟨go, there, found_name found there⟩ hi
      obtain rfl := Option.some.inj (hg.symm.trans there)
      rcases hphase with hp | hp <;> simp [Recognition.judge, horigin, hp] at in_use
    | @taken o go found there back =>
      have hm : go.name = some m := found_name found there
      by_cases hoi : o = i
      · subst hoi
        obtain rfl := Option.some.inj (hg.symm.trans there)
        obtain rfl := Option.some.inj (hm.symm.trans hn)
        obtain ⟨horigin, haway⟩ := Recognition.judge_of_absence back
        have hd : gi.phase ≠ .disconnected := fun hd => hl ((InOrder.proper ho o gi hg).cut hd)
        refine .inl ⟨⟨rfl, hji, g, gi, hgj, hg, hgn, hlj, horigin.symm, ?_⟩, ?_, fun hnone => ?_⟩
        · cases hp : gi.phase <;> simp_all [Phase.isAway]
        · exact holds_iff.2 ⟨g.origin, g.line, by rw [hb, Function.update_self]⟩
        · have hleft := congrFun hb o
          rw [Function.update_of_ne hji.symm, Function.update_self, badge?, hnone] at hleft
          cases hleft
      · refine .inr ⟨?_, keeps ?_⟩
        · rintro ⟨⟨⟩, -⟩
          exact hoi (ho.holds_unique ⟨go, there, hm⟩ hi)
        · rw [Function.update_of_ne hji.symm, Function.update_of_ne (Ne.symm hoi)]

end Orderly

theorem Orderly.origin_connect (ho : h.Orderly first) (hi : h.Holds n i)
    (hg : h.guest? i = some gi) {id : GuestId} {x : Guest} (hx : h.guest? id = some x)
    (hxn : x.name = none) {m : String} (hj : (h.obey id (.connect m)).1.guest? j = some g)
    (hnj : g.name = some n) : g.origin = gi.origin := by
  have hnaming := naming_obey hx hxn m
  have hb : (h.obey id (.connect m)).1.badge? j = some (some n, g.origin, g.line) := by
    rw [badge?, hj, Option.map_some, Guest.badge, hnj]
  generalize (h.obey id (.connect m)).1.badge? = f at hb hnaming
  -- whose badge is as before held the name before
  have stays (hf : h.badge? j = some (some n, g.origin, g.line)) : g.origin = gi.origin := by
    obtain rfl := ho.holds_unique (holds_iff.2 ⟨_, _, hf⟩) hi
    rw [badge?, hg, Option.map_some, Guest.badge, Option.some.injEq, Prod.mk.injEq,
      Prod.mk.injEq] at hf
    exact hf.2.1.symm
  cases hnaming with
  | fresh free =>
    rcases update_eq_some.1 hb with ⟨rfl, hnew⟩ | ⟨-, hold⟩
    · simp only [Option.some.injEq, Prod.mk.injEq] at hnew
      obtain ⟨rfl, -⟩ := hnew
      obtain ⟨y, hy, hny⟩ := hi
      exact absurd hny (Roster.findName?_eq_none free hy)
    · exact stays hold
  | refused => exact stays hb
  | @taken o go found there back =>
    rcases update_eq_some.1 hb with ⟨rfl, hnew⟩ | ⟨-, hb⟩
    · simp only [Option.some.injEq, Prod.mk.injEq] at hnew
      obtain ⟨rfl, horigin, -⟩ := hnew
      obtain rfl := ho.holds_unique ⟨go, there, found_name found there⟩ hi
      obtain rfl := Option.some.inj (hg.symm.trans there)
      exact horigin ▸ (Recognition.judge_of_absence back).1.symm
    rcases update_eq_some.1 hb with ⟨-, hleft⟩ | ⟨-, hold⟩
    · cases hleft
    · exact stays hold

theorem Holds.there (hi : h.Holds n i) : h.guest? i ≠ none := by
  obtain ⟨g, hg, -⟩ := hi
  simp [hg]

/-- After an incident that is not its own doing, a guest with a name and a line is still there, and
it has its name unless somebody has taken over. -/
theorem Reached.holds_meet {c m b : Nat} {as : List (GuestId × Line)} (r : Reached c m b first as h)
    {x : Incident} (hf : ((as ++ x.arrivals).map Prod.fst).Nodup) (hg : h.guest? i = some g)
    (hn : g.name = some n) (hl : g.line ≠ none) (hx : x.author? ≠ some i) (hd : x ≠ .shutDown) :
    (h.meet x).guest? i ≠ none ∧ ((∀ j, ¬ h.TakesOver x n j i) → (h.meet x).Holds n i) ∧
      ∀ j, h.TakesOver x n j i → (h.meet x).Holds n j := by
  have ho := Reached.orderly r
  have hi : h.Holds n i := ⟨g, hg, hn⟩
  have keeps {h' : Hall} {x : Incident} (hconnect : ∀ j, x ≠ .command j (.connect n))
      (hi' : h'.Holds n i) : h'.guest? i ≠ none ∧ ((∀ j, ¬ h.TakesOver x n j i) → h'.Holds n i) ∧
        ∀ j, h.TakesOver x n j i → h'.Holds n j :=
    ⟨hi'.there, fun _ => hi', fun j ht => absurd ht.1 (hconnect j)⟩
  cases x with
  | received k => exact keeps (by simp) (hi.of_badge? rfl)
  | command j c =>
    have hji : j ≠ i := fun e => hx (by rw [Incident.author?, e])
    unfold Hall.meet
    dsimp only
    split
    · rename_i hlj
      by_cases hc : ∃ k, c = .connect k
      · obtain ⟨k, rfl⟩ := hc
        obtain ⟨gj, hgj⟩ := exists_guest?_of_line? hlj
        have hlj : gj.line ≠ none := fun e => by simp [line?_of_guest? hgj, e] at hlj
        rcases ho.holds_connect hg hn hl hgj hlj hji k with ⟨ht, hj, hthere⟩ | ⟨ht, hi'⟩
        · refine ⟨hthere, fun hno => absurd ht (hno j), ?_⟩
          rintro j' ⟨⟨⟩, -⟩
          exact hj
        · refine ⟨hi'.there, fun _ => hi', fun j' ht' => ?_⟩
          obtain rfl : j = j' := by
            have := ht'.1
            simp only [Incident.command.injEq] at this
            exact this.1
          exact absurd ht' ht
      · rw [not_exists] at hc
        exact keeps (by simp [hc]) (hi.of_badge? (congrFun (badge?_obey hc) i))
    · rename_i hlj
      refine ⟨hi.there, fun _ => hi, ?_⟩
      rintro j' ⟨⟨⟩, -, gj, -, hgj, -, -, hlj', -⟩
      rw [line?_of_guest? hgj] at hlj
      exact absurd (Option.isSome_iff_ne_none.2 hlj') hlj
  | leave j =>
    have hji : i ≠ j := fun e => hx (by rw [Incident.author?, e])
    refine keeps (by simp) (hi.of_badge? ?_)
    rw [Hall.meet, lineClosed]
    split
    · rw [badge?_drop, Function.update_of_ne hji]
    · rfl
  | arrival id origin line =>
    have hid : i ≠ id := Reached.ne_newcomer r hf hg
    have hp : g.phase ≠ .disconnected := fun hd => hl ((InOrder.proper ho i g hg).cut hd)
    exact keeps (by simp) (hi.of_badge? (badge?_accept hid (.inr (longestDisconnected?_ne hg hp))))
  | writeFailed j => exact keeps (by simp) (hi.of_badge? (congrFun (badge?_writeFailed ..) i))
  | matchmake => exact keeps (by simp) (hi.of_badge? (congrFun (Reached.badge?_matchmake r) i))
  | sweep => exact keeps (by simp) (ho.holds_sweep hg hn hl)
  | shutDown => exact absurd rfl hd

/-! ### Where names come from -/

/-- Nobody has a name that it did not have before. -/
def Inherits (h h' : Hall) : Prop :=
  ∀ j x n, h'.guest? j = some x → x.name = some n →
    ∃ y, h.guest? j = some y ∧ y.name = some n ∧ y.origin = x.origin

namespace Inherits

theorem refl (h : Hall) : h.Inherits h := fun _ x _ hx hn => ⟨x, hx, hn, rfl⟩

theorem trans (e : h.Inherits k) (e' : k.Inherits h') : h.Inherits h' := by
  intro j x n hx hn
  obtain ⟨y, hy, hny, hyx⟩ := e' j x n hx hn
  obtain ⟨z, hz, hnz, hzy⟩ := e j y n hy hny
  exact ⟨z, hz, hnz, hzy.trans hyx⟩

theorem of_badge? (hb : h'.badge? = h.badge?) : h.Inherits h' := by
  intro j x n hx hn
  have hj := congrFun hb j
  rw [badge?, hx, badge?] at hj
  obtain ⟨y, hy, hyx⟩ := Option.map_eq_some_iff.1 hj.symm
  simp only [Guest.badge, Prod.mk.injEq] at hyx
  exact ⟨y, hy, hyx.1.trans hn, hyx.2.1⟩

theorem drop : h.Inherits (h.drop i) := by
  refine (of_badge? (badge?_breakUp h i .opponentGone)).trans fun j x n hx hn => ?_
  rw [Hall.drop, guest?_strike] at hx
  rcases update_eq_some.1 hx with ⟨-, ⟨⟩⟩ | ⟨-, hx⟩
  exact ⟨x, hx, hn, rfl⟩

theorem cut (b : Nat) : h.Inherits (h.revise i (·.disconnect b)) := by
  intro j x n hx hn
  rw [guest?_revise] at hx
  rcases update_eq_some.1 hx with ⟨rfl, hx⟩ | ⟨-, hx⟩
  · obtain ⟨y, hy, rfl⟩ := Option.map_eq_some_iff.1 hx
    exact ⟨y, hy, hn, rfl⟩
  · exact ⟨x, hx, hn, rfl⟩

theorem sweepGuest : h.Inherits (h.sweepGuest i) := by
  have fade : h.Inherits (h.revise i fun g => { g with decay := g.decay - 1 }) :=
    of_badge? (badge?_revise _ _ fun _ => rfl)
  unfold Hall.sweepGuest
  split
  · exact refl h
  · split
    · exact drop
    · split
      · dsimp only
        split <;> exact of_badge? (by simp)
      · have kicked : h.Inherits (h.send i .kicked) := of_badge? (badge?_send ..)
        refine (kicked.trans (cut (i := i) h.decayBudget)).trans (of_badge? ?_)
        rw [badge?_sendToOpponent, badge?_hangUp]
      · dsimp only
        split
        · exact fade.trans drop
        · exact fade
      all_goals exact of_badge? (by simp)

theorem sweep : h.Inherits h.sweep := by
  unfold Hall.sweep
  generalize h.roster.ids = is
  induction is generalizing h with
  | nil => exact refl h
  | cons i is ih => exact sweepGuest.trans ih

theorem enrol {id : GuestId} {origin : Origin} {line : Line} :
    h.Inherits (h.enrol id origin line) := by
  intro j x n hx hn
  rw [guest?_enrol] at hx
  rcases update_eq_some.1 hx with ⟨rfl, ⟨⟩⟩ | ⟨-, hx⟩
  · cases hn
  · exact ⟨x, hx, hn, rfl⟩

theorem accept {id : GuestId} {origin : Origin} {line : Line} :
    h.Inherits (h.accept id origin line).1 := by
  unfold Hall.accept
  split
  · exact enrol
  · split
    · exact drop.trans enrol
    · exact of_badge? (badge?_hangUp ..)

end Inherits

/-- A name that is held is never held from another address afterwards. -/
theorem Reached.origin_meet {c m b : Nat} {as : List (GuestId × Line)}
    (r : Reached c m b first as h)
    {x : Incident} (hg : h.guest? i = some gi) (hn : gi.name = some n)
    (hj : (h.meet x).guest? j = some g) (hnj : g.name = some n) : g.origin = gi.origin := by
  have ho := Reached.orderly r
  have hi : h.Holds n i := ⟨gi, hg, hn⟩
  have inherits {h' : Hall} (e : h.Inherits h') (hj : h'.guest? j = some g) :
      g.origin = gi.origin := by
    obtain ⟨y, hy, hny, hyx⟩ := e j g n hj hnj
    obtain rfl := ho.holds_unique ⟨y, hy, hny⟩ hi
    obtain rfl := Option.some.inj (hg.symm.trans hy)
    exact hyx.symm
  cases x with
  | received k => exact inherits (.refl h) hj
  | command id c =>
    unfold Hall.meet at hj
    dsimp only at hj
    split at hj
    · rename_i hl
      by_cases hc : ∃ k, c = .connect k
      · obtain ⟨k, rfl⟩ := hc
        obtain ⟨x, hx⟩ := exists_guest?_of_line? hl
        cases hxn : x.name with
        | some own => exact inherits (.of_badge? (obey_connect_own hx hxn k)) hj
        | none => exact ho.origin_connect hi hg hx hxn hj hnj
      · rw [not_exists] at hc
        exact inherits (.of_badge? (badge?_obey hc)) hj
    · exact inherits (.refl h) hj
  | leave id =>
    unfold Hall.meet lineClosed at hj
    dsimp only at hj
    split at hj
    · exact inherits .drop hj
    · exact inherits (.refl h) hj
  | arrival id origin line => exact inherits .accept hj
  | writeFailed id => exact inherits (.of_badge? (badge?_writeFailed ..)) hj
  | matchmake => exact inherits (.of_badge? (Reached.badge?_matchmake r)) hj
  | sweep => exact inherits .sweep hj
  | shutDown =>
    rw [Hall.meet, guest?_shutDown] at hj
    cases hj

/-- As long as somebody holds a name, the holder is reached at the same address. -/
theorem Reached.origin_after {c m b : Nat} {as : List (GuestId × Line)}
    (r : Reached c m b first as h) {xs : List Incident}
    (hf : ((as ++ xs.flatMap Incident.arrivals).map Prod.fst).Nodup) (hs : ∀ x ∈ xs, x.IsSent)
    (hheld : ∀ ys, ys <+: xs → ∃ j, (h.after ys).Holds n j) (hg : h.guest? i = some gi)
    (hn : gi.name = some n) (hj : (h.after xs).guest? j = some g) (hnj : g.name = some n) :
    g.origin = gi.origin := by
  induction xs generalizing h as first i gi with
  | nil =>
    obtain rfl := (Reached.orderly r).holds_unique ⟨gi, hg, hn⟩ ⟨g, hj, hnj⟩
    obtain rfl := Option.some.inj (hg.symm.trans hj)
    rfl
  | cons x xs ih =>
    rw [List.flatMap_cons, ← List.append_assoc] at hf
    have hfx : ((as ++ x.arrivals).map Prod.fst).Nodup := nodup_ids_left hf
    obtain ⟨first', l⟩ := Reached.meet r hfx (hs x (List.mem_cons_self ..))
    -- somebody holds the name after the first incident, and so on
    obtain ⟨o, go, hgo, hno⟩ := hheld [x] ⟨xs, rfl⟩
    have hheld' (ys : List Incident) (hys : ys <+: xs) : ∃ j, ((h.meet x).after ys).Holds n j :=
      hheld (x :: ys) ((List.prefix_cons_inj x).2 hys)
    rw [ih (r.trans l) hf (fun y hy => hs y (List.mem_cons_of_mem _ hy)) hheld' hgo hno hj]
    exact Reached.origin_meet r hg hn hgo hno

/-- Nobody can take the name of a guest that has a line, or make it go, unless the guest has left a
ping unanswered and the other one comes from the same address. And as long as somebody holds a name,
it is held from one address. -/
theorem after_names (capacity maxTables budget : Nat) {xs : List Incident} {n : String} :
    let h := (vacant capacity maxTables budget).after xs
    (∀ x i g, Incident.Plausible (xs ++ [x]) → h.guest? i = some g → g.name = some n →
      g.line ≠ none → x.author? ≠ some i → x ≠ .shutDown →
        (h.meet x).guest? i ≠ none ∧ ((∀ j, ¬ h.TakesOver x n j i) → (h.meet x).Holds n i) ∧
          ∀ j, h.TakesOver x n j i → (h.meet x).Holds n j) ∧
    ∀ ys, Incident.Plausible (xs ++ ys) → (∀ zs, zs <+: ys → ∃ j, (h.after zs).Holds n j) →
      ∀ i j gi gj, h.guest? i = some gi → gi.name = some n → (h.after ys).guest? j = some gj →
        gj.name = some n → gj.origin = gi.origin := by
  intro h
  constructor
  · intro x i g hp hg hn hl hx hd
    obtain ⟨first, r⟩ := hp.left.reached capacity maxTables budget
    have hids := hp.ids
    rw [List.flatMap_append, List.flatMap_singleton] at hids
    exact Reached.holds_meet r hids hg hn hl hx hd
  · intro ys hp hheld i j gi gj hi hni hj hnj
    obtain ⟨first, r⟩ := hp.left.reached capacity maxTables budget
    have hids := hp.ids
    rw [List.flatMap_append] at hids
    have hsent : ∀ y ∈ ys, y.IsSent := fun y hy => hp.sent y (List.mem_append_right _ hy)
    exact Reached.origin_after r hids hsent hheld hi hni hj hnj

/-- A guest is pinged. Somebody else who asks for another name does not disturb it, but somebody who
calls from the same address and asks for its name takes over. -/
theorem after_names_takeover :
    let xs : List Incident := [.arrival 1 "a" 0, .command 1 (.connect "Ada"), .sweep,
      .arrival 2 "a" 1]
    let x : Incident := .command 2 (.connect "Ada")
    let y : Incident := .command 2 (.connect "Bob")
    let h := (vacant 4 2 3).after xs
    (Incident.Plausible (xs ++ [x]) ∧ Incident.Plausible (xs ++ [y]) ∧
      (∀ j, ¬ h.TakesOver y "Ada" j 1) ∧ h.TakesOver x "Ada" 2 1) ∧
      (h.meet y).Holds "Ada" 1 ∧ (h.meet x).Holds "Ada" 2 ∧
      ∃ g, (h.after [x]).guest? 2 = some g ∧ g.name = some "Ada" ∧ g.origin = "a" := by
  intro xs x y h
  have hx : Incident.Plausible (xs ++ [x]) := by decide +kernel
  have hy : Incident.Plausible (xs ++ [y]) := by decide +kernel
  have hg : h.guest? 1 = some { name := some "Ada", origin := "a", phase := .pinged,
                                saved := .waiting, decay := 3, line := some 0 } := by
    decide +kernel
  have hj : h.guest? 2 = some { origin := "a", decay := 3, line := some 1 } := by decide +kernel
  have hno : ∀ j, ¬ h.TakesOver y "Ada" j 1 := by
    rintro j ⟨hc, -⟩
    simp [y] at hc
  have htakes : h.TakesOver x "Ada" 2 1 :=
    ⟨rfl, by decide, _, _, hj, hg, rfl, by simp, rfl, .inl rfl⟩
  obtain ⟨hstep, hrun⟩ := @after_names 4 2 3 xs "Ada"
  obtain ⟨-, hkeeps, -⟩ := hstep y 1 _ hy hg rfl (by simp) (by decide) (by simp [y])
  obtain ⟨-, -, hloses⟩ := hstep x 1 _ hx hg rfl (by simp) (by decide) (by simp [x])
  obtain ⟨g, hg', hn⟩ := hloses 2 htakes
  have hheld : ∀ zs, zs <+: [x] → ∃ j, (h.after zs).Holds "Ada" j := by
    intro zs hzs
    rcases List.prefix_cons_iff.1 hzs with rfl | ⟨zs, rfl, hzs'⟩
    · exact ⟨1, _, hg, rfl⟩
    · obtain rfl := List.prefix_nil.1 hzs'
      exact ⟨2, g, hg', hn⟩
  exact ⟨⟨hx, hy, hno, htakes⟩, hkeeps hno, ⟨g, hg', hn⟩, g, hg', hn,
    hrun [x] hx hheld 1 2 _ g hg rfl hg' hn⟩

end Hall

end Tafl
