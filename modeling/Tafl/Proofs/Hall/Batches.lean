import Mathlib.Data.List.Nodup
import Tafl.Proofs.Hall.Incidents

/-! # The order in a batch

What arrives together is dealt with in one order only (`InTurn.unique`): sorted by the places of
the guests at the start, and for each guest as it came. So it does not matter how the events of
different guests were mixed on the way. -/

namespace Tafl

/-- The place of a guest in the order of the roster. Who is not on it comes after all who are. -/
def Roster.place (r : Roster) (id : GuestId) : Nat := (r.position? id).getD r.size

namespace Roster
variable {r : Roster} {i j : GuestId}

theorem place_eq_idxOf (r : Roster) (i : GuestId) : r.place i = r.ids.idxOf i := by
  rw [place, position?, ← length_ids, List.idxOf_eq_getD_idxOf?]

theorem place_le_size (r : Roster) (i : GuestId) : r.place i ≤ r.size := by
  rw [place_eq_idxOf, ← length_ids]
  exact List.idxOf_le_length

theorem place_of_notMem (hi : i ∉ r.ids) : r.place i = r.size := by
  rw [place_eq_idxOf, List.idxOf_eq_length hi, length_ids]

theorem place_inj (hi : i ∈ r.ids) : r.place j = r.place i ↔ j = i := by
  rw [place_eq_idxOf, place_eq_idxOf, eq_comm, List.idxOf_inj hi, eq_comm]

theorem pairwise_place (r : Roster) : r.ids.Pairwise (r.place · < r.place ·) := by
  rw [List.pairwise_iff_getElem]
  intro a b ha hb hab
  have hn : r.ids.Nodup := r.nodup
  rwa [place_eq_idxOf, place_eq_idxOf, hn.idxOf_getElem, hn.idxOf_getElem]

end Roster

namespace Hall
variable {r : Roster} {es es' order order' : List Event}

/-- Two batches with the same events of each guest on the roster, in the same order, and the same
events of all others together. -/
structure Interleaved (r : Roster) (es es' : List Event) : Prop where
  guests : ∀ id ∈ r.ids, es.filter (·.guest = id) = es'.filter (·.guest = id)
  newcomers : es.filter (·.guest ∉ r.ids) = es'.filter (·.guest ∉ r.ids)

/-- The order in which a batch is dealt with: one guest after the other, newcomers last. -/
structure InTurn (r : Roster) (es order : List Event) : Prop extends Interleaved r es order where
  byPlace : order.Pairwise fun a b => r.place a.guest ≤ r.place b.guest

namespace Interleaved

theorem symm (hi : Interleaved r es es') : Interleaved r es' es :=
  ⟨fun id hid => (hi.guests id hid).symm, hi.newcomers.symm⟩

theorem trans (hi : Interleaved r es es') (ho : Interleaved r es' order) :
    Interleaved r es order :=
  ⟨fun id hid => (hi.guests id hid).trans (ho.guests id hid), hi.newcomers.trans ho.newcomers⟩

theorem place (hi : Interleaved r es es') (k : Nat) :
    es.filter (r.place ·.guest = k) = es'.filter (r.place ·.guest = k) := by
  by_cases hk : ∃ id ∈ r.ids, r.place id = k
  · obtain ⟨id, hid, rfl⟩ := hk
    simpa only [Roster.place_inj hid] using hi.guests id hid
  · -- nobody on the roster has this place, so it is a matter of the newcomers
    have hnew (xs : List Event) : xs.filter (r.place ·.guest = k) =
        (xs.filter (·.guest ∉ r.ids)).filter (r.place ·.guest = k) := by
      rw [List.filter_filter]
      refine List.filter_congr fun e _ => ?_
      by_cases he : r.place e.guest = k
      · have hid : e.guest ∉ r.ids := fun hid => hk ⟨e.guest, hid, he⟩
        simp [he, hid]
      · simp [he]
    rw [hnew es, hnew es', hi.newcomers]

end Interleaved

/-- A list that is sorted by a key is told by its parts of one key each. -/
theorem eq_of_parts {α : Type} {f : α → Nat} {xs ys : List α}
    (hx : xs.Pairwise (f · ≤ f ·)) (hy : ys.Pairwise (f · ≤ f ·))
    (hp : ∀ k, xs.filter (f · = k) = ys.filter (f · = k)) : xs = ys := by
  -- an element of the one list is in the other
  have mem {xs ys : List α} (hp : ∀ k, xs.filter (f · = k) = ys.filter (f · = k)) {a : α}
      (ha : a ∈ xs) : a ∈ ys := by
    have : a ∈ xs.filter (f · = f a) := by simp [ha]
    rw [hp] at this
    exact (List.mem_filter.1 this).1
  induction xs generalizing ys with
  | nil =>
    cases ys with
    | nil => rfl
    | cons y ys => cases mem (fun k => (hp k).symm) (List.mem_cons_self (a := y))
  | cons x xs ih =>
    cases ys with
    | nil => cases mem hp (List.mem_cons_self (a := x))
    | cons y ys =>
      rw [List.pairwise_cons] at hx hy
      have hyx : f y ≤ f x := by
        rcases List.mem_cons.1 (mem hp (List.mem_cons_self (a := x))) with rfl | hm
        · exact Nat.le_refl _
        · exact hy.1 x hm
      have hxy : f x ≤ f y := by
        rcases List.mem_cons.1 (mem (fun k => (hp k).symm) (List.mem_cons_self (a := y))) with
          rfl | hm
        · exact Nat.le_refl _
        · exact hx.1 y hm
      have hkey := Nat.le_antisymm hxy hyx
      have hhead := hp (f x)
      rw [List.filter_cons_of_pos (by simp), List.filter_cons_of_pos (by simp [hkey])] at hhead
      obtain rfl := (List.cons.inj hhead).1
      rw [ih hx.2 hy.2 fun k => ?_]
      have hk := hp k
      by_cases hxk : f x = k <;> simpa [hxk] using hk

theorem guest_of_mem_filter {id : GuestId} {e : Event} (he : e ∈ es.filter (·.guest = id)) :
    e.guest = id := of_decide_eq_true (List.mem_filter.1 he).2

theorem InTurn.unique (ho : InTurn r es order) (ho' : InTurn r es order') : order = order' :=
  eq_of_parts ho.byPlace ho'.byPlace
    (ho.toInterleaved.symm.trans ho'.toInterleaved).place

theorem InTurn.of_interleaved (ho : InTurn r es order) (hi : Interleaved r es es') :
    InTurn r es' order :=
  ⟨hi.symm.trans ho.toInterleaved, ho.byPlace⟩

/-! ### Batches are dealt with in turn -/

theorem filter_flatMap_guest {ids : List GuestId} (hids : ids.Nodup) (es : List Event)
    (i : GuestId) : (ids.flatMap fun id => es.filter (·.guest = id)).filter (·.guest = i) =
      if i ∈ ids then es.filter (·.guest = i) else [] := by
  induction ids with
  | nil => simp
  | cons id ids ih =>
    rw [List.nodup_cons] at hids
    rw [List.flatMap_cons, List.filter_append, ih hids.2, List.filter_filter]
    by_cases hi : i = id
    · subst hi
      simp [hids.1]
    · have hnone : es.filter (fun e => decide (e.guest = i) && decide (e.guest = id)) = [] := by
        rw [List.filter_eq_nil_iff]
        intro e _ he
        rw [Bool.and_eq_true, decide_eq_true_eq, decide_eq_true_eq] at he
        exact hi (he.1.symm.trans he.2)
      simp [hnone, hi]

theorem inTurn_arrange (r : Roster) (es : List Event) : InTurn r es (arrange r es) where
  guests id hid := by
    have hnone : (es.filter fun e => !r.contains e.guest).filter (·.guest = id) = [] := by
      rw [List.filter_filter, List.filter_eq_nil_iff]
      intro e _ he
      rw [Bool.and_eq_true, decide_eq_true_eq] at he
      obtain ⟨rfl, he⟩ := he
      simp [Roster.contains, hid] at he
    rw [arrange, List.filter_append, hnone, List.append_nil]
    exact ((filter_flatMap_guest r.nodup es id).trans (if_pos hid)).symm
  newcomers := by
    have hnone : (r.ids.flatMap fun id => es.filter (·.guest = id)).filter (·.guest ∉ r.ids) =
        [] := by
      rw [List.filter_eq_nil_iff]
      intro e he
      obtain ⟨id, hid, he⟩ := List.mem_flatMap.1 he
      simpa [guest_of_mem_filter he] using hid
    rw [arrange, List.filter_append, hnone, List.nil_append, List.filter_filter]
    refine List.filter_congr fun e _ => ?_
    simp [Roster.contains]
  byPlace := by
    have last {e : Event} (he : e ∈ es.filter fun e => !r.contains e.guest) :
        r.place e.guest = r.size := by
      refine Roster.place_of_notMem ?_
      simpa [Roster.contains] using (List.mem_filter.1 he).2
    rw [arrange, List.pairwise_append, List.pairwise_flatMap]
    refine ⟨⟨fun id _ => ?_, ?_⟩, ?_, fun a _ b hb => ?_⟩
    · refine List.pairwise_of_forall_mem_list fun a ha b hb => ?_
      rw [guest_of_mem_filter ha, guest_of_mem_filter hb]
    · refine r.pairwise_place.imp fun hij a ha b hb => ?_
      rw [guest_of_mem_filter ha, guest_of_mem_filter hb]
      exact hij.le
    · refine List.pairwise_of_forall_mem_list fun a ha b hb => ?_
      rw [last ha, last hb]
    · rw [last hb]
      exact r.place_le_size _

/-- Stable sorting by place deals in turn as well. -/
theorem inTurn_mergeSort (r : Roster) (es : List Event) :
    InTurn r es (es.mergeSort fun a b => r.place a.guest ≤ r.place b.guest) := by
  have htrans (a b c : Event) : decide (r.place a.guest ≤ r.place b.guest) = true →
      decide (r.place b.guest ≤ r.place c.guest) = true →
      decide (r.place a.guest ≤ r.place c.guest) = true := by
    simpa only [decide_eq_true_eq] using Nat.le_trans
  have htotal (a b : Event) : (decide (r.place a.guest ≤ r.place b.guest) ||
      decide (r.place b.guest ≤ r.place a.guest)) = true := by
    simpa using Nat.le_total _ _
  -- events with one place are in order already, and sorting leaves them so
  have stable (p : Event → Bool) (hp : ∀ a b, p a = true → p b = true →
      r.place a.guest = r.place b.guest) : es.filter p =
        (es.mergeSort fun a b => r.place a.guest ≤ r.place b.guest).filter p := by
    have hsub : (es.filter p).Sublist
        (es.mergeSort fun a b => r.place a.guest ≤ r.place b.guest) := by
      refine List.sublist_mergeSort htrans htotal ?_ List.filter_sublist
      refine List.pairwise_of_forall_mem_list fun a ha b hb => ?_
      simp [hp a b (List.mem_filter.1 ha).2 (List.mem_filter.1 hb).2]
    have hsub := hsub.filter p
    rw [List.filter_filter, funext fun a => Bool.and_self (p a)] at hsub
    exact hsub.eq_of_length ((List.mergeSort_perm es _).filter p).length_eq.symm
  refine ⟨⟨fun id _ => stable _ fun a b ha hb => ?_, stable _ fun a b ha hb => ?_⟩, ?_⟩
  · rw [decide_eq_true_eq] at ha hb
    rw [ha, hb]
  · rw [decide_eq_true_eq] at ha hb
    rw [Roster.place_of_notMem ha, Roster.place_of_notMem hb]
  · exact (List.pairwise_mergeSort htrans htotal es).imp of_decide_eq_true

theorem arrange_eq_mergeSort (r : Roster) (es : List Event) :
    arrange r es = es.mergeSort fun a b => r.place a.guest ≤ r.place b.guest :=
  (inTurn_arrange r es).unique (inTurn_mergeSort r es)

/-- Batches in which the events of different guests are mixed in another way are dealt with in
the same order, and come to the same. -/
theorem handleBatch_interleaved (h : Hall) (hi : Interleaved h.roster es es') :
    h.handleBatch es = h.handleBatch es' ∧ ∃ order, InTurn h.roster es order ∧
      InTurn h.roster es' order ∧ h.handleBatch es = (order.foldl handle h).matchmake := by
  have ho := inTurn_arrange h.roster es
  have he : arrange h.roster es = arrange h.roster es' :=
    (ho.of_interleaved hi).unique (inTurn_arrange h.roster es')
  refine ⟨?_, _, ho, ho.of_interleaved hi, rfl⟩
  unfold handleBatch
  rw [he]

/-- Two guests are dropped in the middle of a batch. Somebody new comes in front of them in the one
list and between them in the other, and takes over the name of the first. -/
theorem handleBatch_interleaved_dropped :
    let h := (vacant 3 1 2).run [.event (.connected 1 "a" 0), .event (.connected 2 "b" 1),
      .event (.data 1 (Request.frame [.connect "Ada"]).toUTF8)]
    let hello := (Request.frame [.connect "Ada"]).toUTF8
    let noGame := (Request.frame [.leave]).toUTF8
    let es : List Event := [.connected 3 "c" 2, .data 3 hello, .data 2 noGame, .data 1 noGame,
      .closed 2, .closed 1]
    let es' : List Event := [.data 1 noGame, .connected 3 "c" 2, .data 2 noGame, .closed 1,
      .closed 2, .data 3 hello]
    Interleaved h.roster es es' ∧
      ((h.handleBatch es).roster.ids = [3] ∧ (h.handleBatch es).roster.nameOf? 3 = some "Ada") ∧
      h.handleBatch es = h.handleBatch es' ∧ ∃ order, InTurn h.roster es order ∧
        InTurn h.roster es' order ∧ h.handleBatch es = (order.foldl handle h).matchmake := by
  intro h hello noGame es es'
  have hids : h.roster.ids = [1, 2] := by decide +kernel
  have hi : Interleaved h.roster es es' := by
    refine ⟨fun id hid => ?_, ?_⟩
    · rw [hids, List.mem_pair] at hid
      rcases hid with rfl | rfl <;> rfl
    · rw [hids]
      rfl
  exact ⟨hi, by decide +kernel, handleBatch_interleaved h hi⟩

end Hall

end Tafl
