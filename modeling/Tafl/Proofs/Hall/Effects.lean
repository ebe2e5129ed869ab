import Tafl.Proofs.Hall.Leftovers

/-! # Effects

An effect changes one record, one table or what was put out on one line. `Hall.perform` makes a row
of effects in a hall. A `Party` is a guest with its opponent, their table and their lines, and the
effects of a party do not touch anything else (`guest?_perform`, `get?_perform`, `sentOn_perform`).
The effects of two parties that have nothing in common can be made in either order
(`agrees_perform`). -/

namespace Tafl

instance : Add Tally where
  add a b := ⟨a.connected + b.connected, a.disconnected + b.disconnected,
    a.reconnected + b.reconnected, a.bytesReceived + b.bytesReceived, a.bytesSent + b.bytesSent,
    a.tablesOpened + b.tablesOpened⟩

theorem Tally.add_right_comm (a b c : Tally) : a + b + c = a + c + b := by
  refine (Tally.mk.injEq ..).mpr ⟨?_, ?_, ?_, ?_, ?_, ?_⟩ <;> exact Nat.add_right_comm ..

def Notice.isChat : Notice → Bool
  | chat _ => true
  | _ => false

inductive Effect where
  | revise (i : GuestId) (f : Guest → Guest)
  | erase (i : GuestId)
  | close (k : Nat)
  | replace (t : Table)
  | put (l : Line) (o : Outgoing)
  | count (n : Tally)

namespace Roster

theorem modify_comm {i j : GuestId} (hij : i ≠ j) (r : Roster) (f f' : Guest → Guest) :
    (r.modify i f).modify j f' = (r.modify j f').modify i f := by
  simp only [modify, mk.injEq, List.map_map]
  refine List.map_congr_left fun e _ => ?_
  dsimp only [Function.comp_apply]
  by_cases hi : e.1 = i
  · simp [hi, hij]
  · by_cases hj : e.1 = j <;> simp [hi, hj, hij.symm]

end Roster

namespace Tables

theorem map_id_replace (ts : Tables) (t : Table) :
    (ts.replace t).running.map Table.id = ts.running.map Table.id := by
  simp only [replace, List.map_map]
  refine List.map_congr_left fun u _ => ?_
  dsimp only [Function.comp_apply]
  split
  · exact Eq.symm ‹_›
  · rfl

theorem close_comm (ts : Tables) (i j : Nat) : (ts.close i).close j = (ts.close j).close i := by
  simp only [close, List.filter_filter, Bool.and_comm]

theorem replace_close (ts : Tables) (t : Table) (k : Nat) :
    (ts.close k).replace t = (ts.replace t).close k := by
  simp only [close, replace, mk.injEq, List.filter_map, and_true]
  congr 1
  refine List.filter_congr fun u _ => ?_
  dsimp only [Function.comp_apply]
  split
  · rename_i hu
    rw [hu]
  · rfl

theorem replace_comm {t u : Table} (htu : t.id ≠ u.id) (ts : Tables) :
    (ts.replace t).replace u = (ts.replace u).replace t := by
  simp only [replace, mk.injEq, List.map_map, and_true]
  refine List.map_congr_left fun v _ => ?_
  dsimp only [Function.comp_apply]
  by_cases ht : v.id = t.id
  · simp [ht, htu]
  · by_cases hu : v.id = u.id <;> simp [ht, hu, htu.symm]

end Tables

theorem foldl_foldl_comm {α β : Type} {f : β → α → β} {as bs : List α}
    (h : ∀ a ∈ as, ∀ b ∈ bs, ∀ x, f (f x a) b = f (f x b) a) (x : β) :
    bs.foldl f (as.foldl f x) = as.foldl f (bs.foldl f x) := by
  -- one element of the first list moves past the whole second list
  have past {a : α} {bs : List α} (ha : ∀ b ∈ bs, ∀ x, f (f x a) b = f (f x b) a) (x : β) :
      bs.foldl f (f x a) = f (bs.foldl f x) a := by
    induction bs generalizing x with
    | nil => rfl
    | cons b bs ih =>
      rw [List.forall_mem_cons] at ha
      rw [List.foldl_cons, ha.1, ih ha.2, List.foldl_cons]
  induction as generalizing x with
  | nil => rfl
  | cons a as ih =>
    rw [List.forall_mem_cons] at h
    rw [List.foldl_cons, ih h.2, past h.1, List.foldl_cons]

/-- A guest with its opponent, their table, and the lines to the two. -/
structure Party where
  host : GuestId
  rival : Option GuestId
  table : Option Nat
  hostLine : Option Line
  rivalLine : Option Line

namespace Party

def Member (p : Party) (i : GuestId) : Prop := i = p.host ∨ p.rival = some i

def Reaches (p : Party) (l : Line) : Prop := p.hostLine = some l ∨ p.rivalLine = some l

/-- The two parties have nothing in common. -/
structure Apart (p q : Party) : Prop where
  guests : ∀ i, p.Member i → ¬ q.Member i
  tables : ∀ k, p.table = some k → q.table ≠ some k
  lines : ∀ l, p.Reaches l → ¬ q.Reaches l

theorem Apart.symm {p q : Party} (ap : p.Apart q) : q.Apart p :=
  ⟨fun i hq hp => ap.guests i hp hq, fun k hq hp => ap.tables k hp hq,
    fun l hq hp => ap.lines l hp hq⟩

end Party

/-- A guest keeps its name and its line, and gets no table that it did not have. -/
def Keeps (f : Guest → Guest) : Prop :=
  ∀ g, (f g).name = g.name ∧ (f g).line = g.line ∧ ((f g).table = g.table ∨ (f g).table = none)

namespace Effect

def onRoster : Effect → Roster → Roster
  | revise i f, r => r.modify i f
  | erase i, r => r.erase i
  | close _, r | replace _, r | put _ _, r | count _, r => r

def onTables : Effect → Tables → Tables
  | close k, ts => ts.close k
  | replace t, ts => ts.replace t
  | revise _ _, ts | erase _, ts | put _ _, ts | count _, ts => ts

def onTally : Effect → Tally → Tally
  | count n, t => t + n
  | revise _ _, t | erase _, t | close _, t | replace _, t | put _ _, t => t

def onOutbox : Effect → List (Line × Outgoing) → List (Line × Outgoing)
  | put l o, os => os ++ [(l, o)]
  | revise _ _, os | erase _, os | close _, os | replace _, os | count _, os => os

/-- What is put out on a line. -/
def said (e : Effect) (l : Line) : List Outgoing :=
  match e with
  | put l' o => if l' = l then [o] else []
  | revise _ _ | erase _ | close _ | replace _ | count _ => []

/-- The effect is one of the party's. It does not make the opponent go, and what is chatted is for
nobody but the opponent. -/
def Within (e : Effect) (p : Party) : Prop :=
  match e with
  | revise i f => p.Member i ∧ Keeps f
  | erase i => i = p.host
  | close k => p.table = some k
  | replace t => p.table = some t.id
  | put l o => p.rivalLine = some l ∨ p.hostLine = some l ∧ ∀ text, o ≠ .frame (.chat text)
  | count _ => True

/-- What is said to whoever has the line. -/
def say (l : Option Line) (n : Notice) : List Effect :=
  l.elim [] fun l => [put l (.frame n), count { bytesSent := n.frame.utf8ByteSize }]

end Effect

namespace Hall

def act (h : Hall) (e : Effect) : Hall :=
  { h with
    roster := e.onRoster h.roster
    tables := e.onTables h.tables
    tally := e.onTally h.tally
    outbox := e.onOutbox h.outbox }

def perform (h : Hall) (es : List Effect) : Hall := es.foldl act h

variable {h : Hall} {i : GuestId} {e e' : Effect} {es es' : List Effect} {p q : Party}

theorem perform_append (h : Hall) (es es' : List Effect) :
    h.perform (es ++ es') = (h.perform es).perform es' := List.foldl_append

/-- What one effect keeps is kept by a row of effects. -/
theorem perform_induct {P : Hall → Prop} (hP : P h) (hact : ∀ k, P k → ∀ e ∈ es, P (k.act e)) :
    P (h.perform es) := List.foldlRecOn es act hP hact

theorem perform_say (h : Hall) (i : GuestId) (n : Notice) :
    h.perform (Effect.say (h.line? i) n) = h.send i n := by
  unfold send
  cases h.line? i <;> rfl

/-! ### One component at a time -/

theorem roster_perform (h : Hall) (es : List Effect) :
    (h.perform es).roster = es.foldl (fun r e => e.onRoster r) h.roster :=
  (List.foldl_hom Hall.roster fun _ _ => rfl).symm

theorem tables_perform (h : Hall) (es : List Effect) :
    (h.perform es).tables = es.foldl (fun ts e => e.onTables ts) h.tables :=
  (List.foldl_hom Hall.tables fun _ _ => rfl).symm

theorem tally_perform (h : Hall) (es : List Effect) :
    (h.perform es).tally = es.foldl (fun t e => e.onTally t) h.tally :=
  (List.foldl_hom Hall.tally fun _ _ => rfl).symm

theorem sentOn_act (h : Hall) (e : Effect) (l : Line) :
    (h.act e).sentOn l = h.sentOn l ++ e.said l := by
  cases e with
  | put l' o =>
    by_cases hl : l' = l
    · simp [act, sentOn, Effect.onOutbox, Effect.said, hl]
    · simp [act, sentOn, Effect.onOutbox, Effect.said, hl]
  | revise | erase | close | replace | count => exact (List.append_nil _).symm

theorem sentOn_perform (h : Hall) (es : List Effect) (l : Line) :
    (h.perform es).sentOn l = h.sentOn l ++ es.flatMap fun e => e.said l := by
  induction es generalizing h with
  | nil => exact (List.append_nil _).symm
  | cons e es ih =>
    rw [List.flatMap_cons, ← List.append_assoc, ← sentOn_act]
    exact ih (h.act e)

theorem get?_onRoster (e : Effect) (r : Roster) (i : GuestId) : (e.onRoster r).get? i =
    match e with
    | .revise j f => if i = j then (r.get? i).map f else r.get? i
    | .erase j => if i = j then none else r.get? i
    | .close _ | .replace _ | .put _ _ | .count _ => r.get? i := by
  cases e with
  | revise j f => exact Roster.get?_modify ..
  | erase j => exact Roster.get?_erase ..
  | close | replace | put | count => rfl

theorem get?_onTables (e : Effect) (ts : Tables) (k : Nat) : (e.onTables ts).get? k =
    match e with
    | .close j => if k = j then none else ts.get? k
    | .replace t => if k = t.id then (ts.get? k).map fun _ => t else ts.get? k
    | .revise _ _ | .erase _ | .put _ _ | .count _ => ts.get? k := by
  cases e with
  | close j => exact Tables.get?_close ..
  | replace t => exact Tables.get?_replace ..
  | revise | erase | put | count => rfl

/-! ### What a party leaves alone -/

theorem guest?_act (hw : e.Within p) (hi : ¬ p.Member i) : (h.act e).guest? i = h.guest? i := by
  refine (get?_onRoster e h.roster i).trans ?_
  cases e with
  | revise j f =>
    refine if_neg ?_
    rintro rfl
    exact hi hw.1
  | erase j =>
    refine if_neg ?_
    rintro rfl
    exact hi (.inl hw)
  | close | replace | put | count => rfl

theorem get?_act (hw : e.Within p) {j : Nat} (hj : p.table ≠ some j) :
    (h.act e).tables.get? j = h.tables.get? j := by
  refine (get?_onTables e h.tables j).trans ?_
  cases e with
  | close k =>
    refine if_neg ?_
    rintro rfl
    exact hj hw
  | replace t =>
    refine if_neg ?_
    rintro rfl
    exact hj hw
  | revise | erase | put | count => rfl

theorem said_eq_nil (hw : e.Within p) {l : Line} (hl : ¬ p.Reaches l) : e.said l = [] := by
  cases e with
  | put l' o =>
    refine if_neg ?_
    rintro rfl
    exact hl (hw.elim .inr fun hw => .inl hw.1)
  | revise | erase | close | replace | count => rfl

theorem chat_notMem_said (hw : e.Within p) {l : Line} (hl : p.rivalLine ≠ some l) (text : String) :
    .frame (.chat text) ∉ e.said l := by
  cases e with
  | put l' o =>
    unfold Effect.said
    dsimp only
    split
    · rename_i hll
      subst hll
      obtain ⟨-, hchat⟩ := hw.resolve_left hl
      simpa [eq_comm] using hchat text
    · exact List.not_mem_nil
  | revise | erase | close | replace | count => exact List.not_mem_nil

theorem guest?_perform (hw : ∀ e ∈ es, e.Within p) (hi : ¬ p.Member i) :
    (h.perform es).guest? i = h.guest? i :=
  perform_induct (P := fun k => k.guest? i = h.guest? i) rfl
    fun _ hk e he => (guest?_act (hw e he) hi).trans hk

theorem get?_perform (hw : ∀ e ∈ es, e.Within p) {j : Nat} (hj : p.table ≠ some j) :
    (h.perform es).tables.get? j = h.tables.get? j :=
  perform_induct (P := fun k => k.tables.get? j = h.tables.get? j) rfl
    fun _ hk e he => (get?_act (hw e he) hj).trans hk

theorem sentOn_perform_of_not (hw : ∀ e ∈ es, e.Within p) {l : Line} (hl : ¬ p.Reaches l) :
    (h.perform es).sentOn l = h.sentOn l := by
  rw [sentOn_perform, List.flatMap_eq_nil_iff.2 fun e he => said_eq_nil (hw e he) hl,
    List.append_nil]

theorem decayBudget_perform (h : Hall) (es : List Effect) :
    (h.perform es).decayBudget = h.decayBudget :=
  perform_induct (P := fun k => k.decayBudget = h.decayBudget) rfl fun _ hk _ _ => hk

/-- Records go, but none is moved, and none comes. -/
theorem ids_perform (h : Hall) (es : List Effect) :
    (h.perform es).roster.ids.Sublist h.roster.ids := by
  refine perform_induct (P := fun k => k.roster.ids.Sublist h.roster.ids) (.refl _)
    fun k hk e _ => .trans ?_ hk
  cases e with
  | revise j f => rw [show (k.act (.revise j f)).roster = k.roster.modify j f from rfl,
      Roster.ids_modify]
  | erase j => exact List.filter_sublist.map Prod.fst
  | close | replace | put | count => exact .refl _

theorem running_perform (h : Hall) (es : List Effect) :
    ((h.perform es).tables.running.map Table.id).Sublist (h.tables.running.map Table.id) := by
  refine perform_induct
    (P := fun k => (k.tables.running.map Table.id).Sublist (h.tables.running.map Table.id))
    (.refl _) fun k hk e _ => .trans ?_ hk
  cases e with
  | close j => exact List.filter_sublist.map Table.id
  | replace t => rw [show (k.act (.replace t)).tables = k.tables.replace t from rfl,
      Tables.map_id_replace]
  | revise | erase | put | count => exact .refl _

/-! ### Either order -/

/-- The two halls are the same, but for the order in which things were put out on different lines. -/
structure Agrees (h k : Hall) : Prop where
  roster : k.roster = h.roster
  tables : k.tables = h.tables
  tally : k.tally = h.tally
  sentOn : ∀ l, k.sentOn l = h.sentOn l

theorem onRoster_comm (ap : p.Apart q) (hw : e.Within p) (hw' : e'.Within q) (r : Roster) :
    e'.onRoster (e.onRoster r) = e.onRoster (e'.onRoster r) := by
  have ne {i j : GuestId} (hi : p.Member i) (hj : q.Member j) : i ≠ j := by
    rintro rfl
    exact ap.guests i hi hj
  cases e with
  | revise i f =>
    cases e' with
    | revise j f' => exact Roster.modify_comm (ne hw.1 hw'.1) r f f'
    | erase j => exact (Roster.modify_erase f).symm
    | close | replace | put | count => rfl
  | erase i =>
    cases e' with
    | revise j f' => exact Roster.modify_erase f'
    | erase j => exact Roster.erase_comm
    | close | replace | put | count => rfl
  | close | replace | put | count => rfl

theorem onTables_comm (ap : p.Apart q) (hw : e.Within p) (hw' : e'.Within q) (ts : Tables) :
    e'.onTables (e.onTables ts) = e.onTables (e'.onTables ts) := by
  have ne {i j : Nat} (hi : p.table = some i) (hj : q.table = some j) : i ≠ j := by
    rintro rfl
    exact ap.tables i hi hj
  cases e with
  | close i =>
    cases e' with
    | close j => exact Tables.close_comm ..
    | replace t => exact Tables.replace_close ..
    | revise | erase | put | count => rfl
  | replace t =>
    cases e' with
    | close j => exact (Tables.replace_close ..).symm
    | replace u => exact Tables.replace_comm (ne hw hw') ts
    | revise | erase | put | count => rfl
  | revise | erase | put | count => rfl

theorem onTally_comm (e e' : Effect) (t : Tally) :
    e'.onTally (e.onTally t) = e.onTally (e'.onTally t) := by
  cases e with
  | count n =>
    cases e' with
    | count m => exact Tally.add_right_comm ..
    | revise | erase | close | replace | put => rfl
  | revise | erase | close | replace | put => rfl

/-- What two parties with nothing in common do comes to the same in either order. -/
theorem agrees_perform (ap : p.Apart q) (hw : ∀ e ∈ es, e.Within p) (hw' : ∀ e ∈ es', e.Within q)
    (h : Hall) : ((h.perform es).perform es').Agrees ((h.perform es').perform es) where
  roster := by
    simp only [roster_perform]
    exact (foldl_foldl_comm (fun e he e' he' => onRoster_comm ap (hw e he) (hw' e' he')) _).symm
  tables := by
    simp only [tables_perform]
    exact (foldl_foldl_comm (fun e he e' he' => onTables_comm ap (hw e he) (hw' e' he')) _).symm
  tally := by
    simp only [tally_perform]
    exact (foldl_foldl_comm (fun e _ e' _ => onTally_comm e e') _).symm
  sentOn l := by
    by_cases hl : p.Reaches l
    · have hnot := ap.lines l hl
      rw [sentOn_perform, sentOn_perform_of_not hw' hnot, sentOn_perform_of_not hw' hnot,
        sentOn_perform]
    · rw [sentOn_perform_of_not hw hl, sentOn_perform, sentOn_perform,
        sentOn_perform_of_not hw hl]

end Hall

end Tafl
