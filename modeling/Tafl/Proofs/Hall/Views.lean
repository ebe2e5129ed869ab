import Mathlib.Data.List.Basic
import Mathlib.Logic.Function.Basic
import Tafl.Hall.Events
import Tafl.Hall.Sweep
import Tafl.Proofs.Guest.Standing

/-! # What the hall's operations change

For each of the small operations of the hall: what it does to the guests (`Hall.guest?`), to the
tables, and to what was put out on a line (`Hall.sentOn`). Later modules speak of these views and
do not open the operations again. -/

namespace Tafl
open Function (update)

namespace Roster

theorem findName?_eq_some {r : Roster} {name : String} {i : GuestId}
    (h : r.findName? name = some i) : ∃ g, r.get? i = some g ∧ g.name = some name := by
  obtain ⟨e, he, rfl⟩ := Option.map_eq_some_iff.1 h
  exact ⟨e.2, get?_eq_some_iff.2 (List.mem_of_find?_eq_some he), by simpa using List.find?_some he⟩

theorem findName?_eq_none {r : Roster} {name : String} (h : r.findName? name = none) {i : GuestId}
    {g : Guest} (hg : r.get? i = some g) : g.name ≠ some name := by
  have := List.find?_eq_none.1 (Option.map_eq_none_iff.1 h) _ (get?_eq_some_iff.1 hg)
  simpa using this

theorem exists_findName? {r : Roster} {name : String} {i : GuestId} {g : Guest}
    (hg : r.get? i = some g) (hn : g.name = some name) : ∃ j, r.findName? name = some j := by
  cases h : r.findName? name with
  | none => exact absurd hn (findName?_eq_none h hg)
  | some j => exact ⟨j, rfl⟩

theorem mem_ids_iff {r : Roster} {i : GuestId} : i ∈ r.ids ↔ ∃ g, r.get? i = some g := by
  simp [ids, get?_eq_some_iff]

theorem get?_eq_none_iff {r : Roster} {i : GuestId} : r.get? i = none ↔ i ∉ r.ids := by
  rw [mem_ids_iff, not_exists, Option.eq_none_iff_forall_ne_some]

theorem length_ids (r : Roster) : r.ids.length = r.size := List.length_map _

theorem contains_iff {r : Roster} {i : GuestId} : r.contains i = true ↔ ∃ g, r.get? i = some g := by
  rw [contains, List.contains_iff_mem, mem_ids_iff]

/-! ### The order of the guests -/

theorem ext_entries {r r' : Roster} (h : r.entries = r'.entries) : r = r' := by
  obtain ⟨es, hes⟩ := r
  obtain ⟨es', hes'⟩ := r'
  obtain rfl : es = es' := h
  rfl

theorem entries_eq (r : Roster) :
    r.entries = r.ids.filterMap fun i => (r.get? i).map (i, ·) := by
  rw [ids, List.filterMap_map]
  calc r.entries = r.entries.filterMap some := List.filterMap_some.symm
    _ = _ := List.filterMap_congr fun e he => by simp [get?_eq_some_iff.2 he]

/-- A roster is its numbers in their order and the guests that they have. -/
theorem ext_get? {r r' : Roster} (hi : r'.ids = r.ids) (hg : ∀ i, r'.get? i = r.get? i) :
    r' = r := by
  apply ext_entries
  rw [r'.entries_eq, r.entries_eq, hi]
  simp only [hg]

theorem ids_modify (r : Roster) (i : GuestId) (f : Guest → Guest) : (r.modify i f).ids = r.ids := by
  simp only [ids, modify, List.map_map]
  refine List.map_congr_left fun e _ => ?_
  dsimp only [Function.comp_apply]
  split <;> rfl

theorem ids_erase {r : Roster} {i : GuestId} : (r.erase i).ids = r.ids.filter (· ≠ i) := by
  unfold ids erase
  rw [List.filter_map]
  rfl

/-! ### Who has been away longest -/

theorem exists_foldl_sooner (b : GuestId × Guest) (es : List (GuestId × Guest)) :
    ∃ e, es.foldl longestDisconnected?.sooner (some b) = some e ∧ e ∈ b :: es ∧
      ∀ x ∈ b :: es, e.2.decay ≤ x.2.decay := by
  induction es generalizing b with
  | nil => exact ⟨b, rfl, by simp, by simp⟩
  | cons e es ih =>
    rw [List.foldl_cons, longestDisconnected?.sooner]
    split
    · rename_i hlt
      obtain ⟨x, hx, hmem, hle⟩ := ih e
      refine ⟨x, hx, List.mem_cons_of_mem _ hmem, fun y hy => ?_⟩
      rcases List.mem_cons.1 hy with rfl | hy
      · have := hle e (List.mem_cons_self ..)
        omega
      · exact hle y hy
    · rename_i hnlt
      obtain ⟨x, hx, hmem, hle⟩ := ih b
      refine ⟨x, hx, ?_, fun y hy => ?_⟩
      · rcases List.mem_cons.1 hmem with rfl | hmem
        · simp
        · simp [hmem]
      · have hb := hle b (List.mem_cons_self ..)
        rcases List.mem_cons.1 hy with rfl | hy
        · exact hb
        rcases List.mem_cons.1 hy with rfl | hy
        · omega
        · exact hle y (List.mem_cons_of_mem _ hy)

/-- If there are disconnected guests, one of them is found, and none has fewer sweeps left. -/
theorem exists_longestDisconnected? {r : Roster} {i : GuestId} {g : Guest} (hg : r.get? i = some g)
    (hp : g.phase = .disconnected) : ∃ o, r.longestDisconnected? = some o := by
  have hmem : (i, g) ∈ r.entries.filter (·.2.phase = .disconnected) :=
    List.mem_filter.2 ⟨get?_eq_some_iff.1 hg, by simpa using hp⟩
  unfold longestDisconnected?
  cases hes : r.entries.filter (·.2.phase = .disconnected) with
  | nil =>
    rw [hes] at hmem
    cases hmem
  | cons e es =>
    obtain ⟨x, hx, -⟩ := exists_foldl_sooner e es
    refine ⟨x.1, ?_⟩
    rw [List.foldl_cons, longestDisconnected?.sooner, hx]
    rfl

theorem longestDisconnected?_eq_some {r : Roster} {i : GuestId}
    (h : r.longestDisconnected? = some i) : ∃ g, r.get? i = some g ∧ g.phase = .disconnected ∧
      ∀ j x, r.get? j = some x → x.phase = .disconnected → g.decay ≤ x.decay := by
  unfold longestDisconnected? at h
  have hmem {e : GuestId × Guest} : e ∈ r.entries.filter (·.2.phase = .disconnected) ↔
      r.get? e.1 = some e.2 ∧ e.2.phase = .disconnected := by
    rw [List.mem_filter, get?_eq_some_iff]
    simp
  cases hes : r.entries.filter (·.2.phase = .disconnected) with
  | nil =>
    rw [hes] at h
    cases h
  | cons e es =>
    obtain ⟨x, hx, hxmem, hle⟩ := exists_foldl_sooner e es
    rw [hes, List.foldl_cons, longestDisconnected?.sooner, hx] at h
    obtain rfl : x.1 = i := Option.some.inj h
    rw [← hes] at hxmem hle
    obtain ⟨hget, hphase⟩ := hmem.1 hxmem
    exact ⟨x.2, hget, hphase, fun j y hy hp => hle (j, y) (hmem.2 ⟨hy, hp⟩)⟩

/-! ### Handing a place over -/

theorem get?_handOver {r : Roster} {source heir : GuestId} {g h : Guest}
    (hg : r.get? source = some g) (hh : r.get? heir = some h) (hne : source ≠ heir)
    (budget : Nat) (j : GuestId) :
    (r.handOver source heir budget).get? j =
      if j = heir then
        some { h with name := g.name, table := g.table, phase := g.saved, saved := g.saved,
                      decay := budget }
      else if j = source then some { g with name := none, table := none, line := none }
      else r.get? j := by
  have hc : r.contains heir = true := contains_iff.2 ⟨h, hh⟩
  rw [handOver, hg]
  simp only [hne, hc, Bool.not_true, Bool.false_eq_true, or_self, ↓reduceIte, get?_modify]
  by_cases hj : j = heir
  · subst hj
    simp [hne.symm, hh]
  · by_cases hs : j = source
    · subst hs
      simp [hj, hg]
    · simp [hj, hs]

theorem staleLine?_eq {r : Roster} {source heir : GuestId} {g h : Guest}
    (hg : r.get? source = some g) (hh : r.get? heir = some h) (hne : source ≠ heir) :
    r.staleLine? source heir = g.line := by
  simp [staleLine?, hne, contains_iff.2 ⟨h, hh⟩, hg]

end Roster

namespace Tables
variable {ts : Tables} {t : Table}

theorem get?_close_update (k : Nat) : (ts.close k).get? = update ts.get? k none := by
  funext j
  rw [get?_close, Function.update_apply]

theorem get?_replace_update {u : Table} (ht : ts.get? t.id = some u) :
    (ts.replace t).get? = update ts.get? t.id (some t) := by
  funext j
  rw [get?_replace, Function.update_apply]
  split
  · subst j
    rw [ht]
    rfl
  · rfl

theorem get?_openFor_update (a b : String) : (ts.openFor a b).get? =
    update ts.get? (ts.opened + 1) (some { id := ts.opened + 1, black := a, white := b }) := by
  funext j
  rw [get?_openFor, Function.update_apply]
  split
  · subst j; rfl
  · rfl

theorem get?_eq_none_of_lt {k : Nat} (hk : ts.opened < k) : ts.get? k = none := by
  cases h : ts.get? k with
  | none => rfl
  | some t =>
    obtain ⟨ht, rfl⟩ := get?_eq_some_iff.1 h
    exact absurd (ts.id_le_opened t ht) (Nat.not_le_of_lt hk)

theorem get?_next (ts : Tables) : ts.get? (ts.opened + 1) = none :=
  get?_eq_none_of_lt (Nat.lt_succ_self _)

/-! ### The tables that count

Games go on only at the tables that were opened since the last shutdown. Those that were left over
then keep their numbers and take up room, but nobody sits at them. -/

def since (ts : Tables) (first : Nat) (k : Nat) : Option Table :=
  if k < first then none else ts.get? k

variable {first k : Nat}

theorem since_zero (ts : Tables) : ts.since 0 = ts.get? := by
  funext k
  simp [since]

theorem get?_of_since (h : ts.since first k = some t) : ts.get? k = some t := by
  unfold since at h
  split at h
  · cases h
  · exact h

theorem since_eq_none (h : ts.get? k = none) : ts.since first k = none := by
  simp [since, h]

theorem le_of_since (h : ts.since first k = some t) : first ≤ k := by
  unfold since at h
  split at h
  · cases h
  · exact Nat.le_of_not_lt ‹_›

theorem since_update {ts' : Tables} {x : Option Table} (h : ts'.get? = update ts.get? k x)
    (hk : first ≤ k) : ts'.since first = update (ts.since first) k x := by
  funext j
  unfold since
  rw [h]
  by_cases hj : j = k
  · subst hj
    simp [Nat.not_lt.2 hk]
  · simp [hj]

/-- When all tables are from before, none of them counts. -/
theorem since_next (ts : Tables) : ts.since (ts.opened + 1) = fun _ => none := by
  funext k
  cases h : ts.since (ts.opened + 1) k with
  | none => rfl
  | some t =>
    obtain ⟨ht, rfl⟩ := get?_eq_some_iff.1 (get?_of_since h)
    have := ts.id_le_opened t ht
    have := le_of_since h
    omega

end Tables

namespace Table

theorem opponentOf?_player {t : Table} (ht : t.black ≠ t.white) (s : Side) :
    t.opponentOf? (t.player s) = some (t.player s.opponent) := by
  cases s
  · simp [opponentOf?, sideOf?, player]
  · simp [opponentOf?, sideOf?, player, ht.symm]

theorem sideOf?_player {t : Table} (ht : t.black ≠ t.white) (s : Side) :
    t.sideOf? (t.player s) = some s := by
  cases s
  · simp [sideOf?, player]
  · simp [sideOf?, player, ht.symm]

theorem player_inj {t : Table} (ht : t.black ≠ t.white) {s u : Side}
    (h : t.player s = t.player u) : s = u := by
  cases s <;> cases u <;> simp_all [player, eq_comm]

theorem apart_of_player {t t' : Table} (hp : ∀ s, t'.player s = t.player s)
    (ht : t.black ≠ t.white) : t'.black ≠ t'.white := by
  have hb : t'.black = t.black := hp .black
  have hw : t'.white = t.white := hp .white
  rwa [hb, hw]

end Table

namespace Hall
variable (h : Hall) (i j : GuestId) (l : Line) (n : Notice) (f : Guest → Guest)

/-! ### Guests -/

@[simp] theorem guest?_post : (h.post l n).guest? = h.guest? := rfl

@[simp] theorem guest?_hangUp (l : Option Line) : (h.hangUp l).guest? = h.guest? := by
  cases l <;> rfl

@[simp] theorem guest?_send : (h.send i n).guest? = h.guest? := by
  unfold send
  cases h.line? i <;> rfl

@[simp] theorem guest?_tables (ts : Tables) : { h with tables := ts }.guest? = h.guest? := rfl

@[simp] theorem guest?_tally (t : Tally) : { h with tally := t }.guest? = h.guest? := rfl

theorem guest?_revise : (h.revise i f).guest? = Function.update h.guest? i ((h.guest? i).map f) := by
  funext j
  rw [guest?, revise, Roster.get?_modify]
  by_cases hj : j = i
  · subst hj; simp [guest?]
  · simp [hj, guest?]

variable {h i} in
theorem revise_congr {f f' : Guest → Guest} (hf : ∀ g, h.guest? i = some g → f g = f' g) :
    h.revise i f = h.revise i f' := by
  simp only [revise, Roster.modify, Hall.mk.injEq, Roster.mk.injEq, and_true]
  refine List.map_congr_left fun e he => ?_
  split
  · rename_i hi
    rw [hf e.2 (Roster.get?_eq_some_iff.2 (hi ▸ he))]
  · rfl

variable {h i} in
theorem revise_eq_self {f : Guest → Guest} (hf : ∀ g, h.guest? i = some g → f g = g) :
    h.revise i f = h := by
  have hid : h.revise i id = h := by simp [revise, Roster.modify]
  exact (revise_congr hf).trans hid

/-! ### Tables -/

@[simp] theorem tables_post : (h.post l n).tables = h.tables := rfl

@[simp] theorem tables_hangUp (l : Option Line) : (h.hangUp l).tables = h.tables := by
  cases l <;> rfl

@[simp] theorem tables_send : (h.send i n).tables = h.tables := by
  unfold send
  cases h.line? i <;> rfl

@[simp] theorem tables_revise : (h.revise i f).tables = h.tables := rfl

/-! ### The budget -/

@[simp] theorem decayBudget_hangUp (l : Option Line) :
    (h.hangUp l).decayBudget = h.decayBudget := by
  cases l <;> rfl

@[simp] theorem decayBudget_send : (h.send i n).decayBudget = h.decayBudget := by
  unfold send
  cases h.line? i <;> rfl

/-! ### Lines -/

@[simp] theorem line?_send : (h.send i n).line? j = h.line? j := by simp [line?]

@[simp] theorem line?_tables (ts : Tables) : { h with tables := ts }.line? j = h.line? j := rfl

@[simp] theorem line?_tally (t : Tally) : { h with tally := t }.line? j = h.line? j := rfl

theorem line?_revise (hf : ∀ g, (f g).line = g.line) : (h.revise i f).line? j = h.line? j := by
  rw [line?, guest?_revise, line?]
  by_cases hj : j = i
  · subst hj
    cases h.guest? j <;> simp [hf]
  · rw [Function.update_of_ne hj]

variable {h i} in
theorem line?_of_guest? {g : Guest} (hg : h.guest? i = some g) : h.line? i = g.line := by
  rw [line?, hg, Option.bind_some]

theorem line?_eq_some_iff : h.line? i = some l ↔ ∃ g, h.guest? i = some g ∧ g.line = some l := by
  simp [line?, Option.bind_eq_some_iff]

/-! ### What was put out -/

/-- What appears on the line `l` when notices are sent over a line. -/
def news (line : Option Line) (ns : List Notice) (l : Line) : List Outgoing :=
  if line = some l then ns.map .frame else []

variable {l} in
theorem news_of_ne {line : Option Line} (hl : line ≠ some l) (ns : List Notice) :
    news line ns l = [] :=
  if_neg hl

theorem news_self (ns : List Notice) : news (some l) ns l = ns.map .frame := if_pos rfl

theorem news_none (ns : List Notice) : news none ns l = [] := rfl

theorem news_nil (k : Option Line) : news k [] l = [] := ite_self _

theorem news_append (k : Option Line) (ns ms : List Notice) :
    news k (ns ++ ms) l = news k ns l ++ news k ms l := by
  unfold news
  split <;> simp

theorem append_news_append (os : List Outgoing) (k : Option Line) (ns ms : List Notice) :
    os ++ news k ns l ++ news k ms l = os ++ news k (ns ++ ms) l := by
  rw [List.append_assoc, news_append]

/-- What is sent over two lines comes in any order. -/
theorem append_news_comm {a b : Option Line} (hl : ¬ (a = some l ∧ b = some l))
    (os : List Outgoing) (ns ms : List Notice) :
    os ++ news b ms l ++ news a ns l = os ++ news a ns l ++ news b ms l := by
  by_cases ha : a = some l
  · have hb : b ≠ some l := fun hb => hl ⟨ha, hb⟩
    simp [news, hb]
  · simp [news, ha]

theorem sentOn_send : (h.send i n).sentOn l = h.sentOn l ++ news (h.line? i) [n] l := by
  unfold send news
  cases hl : h.line? i with
  | none => simp
  | some k =>
    rw [Option.elim_some, sentOn_post]
    by_cases hk : l = k
    · simp [hk]
    · simp [hk, Ne.symm hk]

theorem sentOn_hangUp_option (k : Option Line) : (h.hangUp k).sentOn l =
    h.sentOn l ++ if k = some l then [.close] else [] := by
  cases k with
  | none => simp [hangUp]
  | some k =>
    rw [sentOn_hangUp]
    by_cases hk : l = k
    · simp [hk]
    · simp [hk, Ne.symm hk]

def tell (h : Hall) (i : GuestId) (ns : List Notice) : Hall := ns.foldl (·.send i ·) h

@[simp] theorem guest?_tell (ns : List Notice) : (h.tell i ns).guest? = h.guest? := by
  induction ns generalizing h with
  | nil => rfl
  | cons n ns ih => exact (ih (h.send i n)).trans (h.guest?_send i n)

@[simp] theorem tables_tell (ns : List Notice) : (h.tell i ns).tables = h.tables := by
  induction ns generalizing h with
  | nil => rfl
  | cons n ns ih => exact (ih (h.send i n)).trans (h.tables_send i n)

@[simp] theorem line?_tell (ns : List Notice) : (h.tell i ns).line? j = h.line? j := by
  simp [line?]

@[simp] theorem table?_tell (ns : List Notice) : (h.tell i ns).table? j = h.table? j := by
  simp [table?]

theorem sentOn_tell (ns : List Notice) :
    (h.tell i ns).sentOn l = h.sentOn l ++ news (h.line? i) ns l := by
  induction ns generalizing h with
  | nil => simp [tell, news]
  | cons n ns ih =>
    rw [show h.tell i (n :: ns) = (h.send i n).tell i ns from rfl, ih, line?_send, sentOn_send,
      List.append_assoc, ← news_append]
    rfl

@[simp] theorem sentOn_revise : (h.revise i f).sentOn l = h.sentOn l := rfl

@[simp] theorem sentOn_tables (ts : Tables) : { h with tables := ts }.sentOn l = h.sentOn l := rfl

end Hall

end Tafl
