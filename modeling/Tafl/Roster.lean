import Tafl.Guest

/-! # The roster

All guests, in the order in which they came, each under its own number. A guest that goes leaves
the order of the others as it was. `get?` is the view that the lemmas speak of. -/

namespace Tafl

structure Roster where
  entries : List (GuestId × Guest) := []
  nodup : (entries.map Prod.fst).Nodup := by simp
deriving DecidableEq, Repr

namespace Roster

def empty : Roster := {}

def size (r : Roster) : Nat := r.entries.length

def ids (r : Roster) : List GuestId := r.entries.map Prod.fst

def get? (r : Roster) (id : GuestId) : Option Guest :=
  (r.entries.find? (·.1 = id)).map Prod.snd

def contains (r : Roster) (id : GuestId) : Bool := r.ids.contains id

def position? (r : Roster) (id : GuestId) : Option Nat := r.ids.idxOf? id

/-! ### Changing the roster -/

def modify (r : Roster) (id : GuestId) (f : Guest → Guest) : Roster where
  entries := r.entries.map fun e => if e.1 = id then (e.1, f e.2) else e
  nodup := by
    have : (fun e : GuestId × Guest => (if e.1 = id then (e.1, f e.2) else e).1) = Prod.fst := by
      funext e; split <;> rfl
    simpa [Function.comp_def, this] using r.nodup

/-- Puts a guest at the end, or in the place of the one with this number. -/
def insert (r : Roster) (id : GuestId) (g : Guest) : Roster :=
  if h : id ∈ r.ids then r.modify id fun _ => g
  else
    { entries := r.entries ++ [(id, g)]
      nodup := by
        rw [List.map_append, List.nodup_append]
        refine ⟨r.nodup, by simp, ?_⟩
        rintro a ha b hb rfl
        simp only [List.map_cons, List.map_nil, List.mem_singleton] at hb
        exact h (hb ▸ ha) }

def erase (r : Roster) (id : GuestId) : Roster where
  entries := r.entries.filter (·.1 ≠ id)
  nodup := r.nodup.sublist (List.filter_sublist.map Prod.fst)

/-! ### Looking for guests -/

def findName? (r : Roster) (name : String) : Option GuestId :=
  (r.entries.find? (·.2.name = some name)).map Prod.fst

def nameOf? (r : Roster) (id : GuestId) : Option String := (r.get? id).bind Guest.name

/-- The disconnected guest with the fewest sweeps left; the first of them if there are several. -/
def longestDisconnected? (r : Roster) : Option GuestId :=
  ((r.entries.filter (·.2.phase = .disconnected)).foldl sooner none).map Prod.fst
where
  sooner : Option (GuestId × Guest) → GuestId × Guest → Option (GuestId × Guest)
    | none, e => some e
    | some b, e => if e.2.decay < b.2.decay then some e else some b

/-! ### Reconnection -/

/-- Hands the place of `source` over to `heir`: name, table and phase. What is left of `source` is
an abandoned record. Without both records, nothing happens. -/
def handOver (r : Roster) (source heir : GuestId) (budget : Nat) : Roster :=
  match r.get? source with
  | some g =>
    if source = heir ∨ !r.contains heir then r
    else (r.modify source fun g => { g with name := none, table := none, line := none }).modify heir
      fun h => { h with
        name := g.name, table := g.table, phase := g.saved, saved := g.saved, decay := budget }
  | none => r

/-- The line that a hand-over leaves without an owner. -/
def staleLine? (r : Roster) (source heir : GuestId) : Option Line :=
  if source = heir ∨ !r.contains heir then none else (r.get? source).bind Guest.line

/-! ### The view -/

theorem get?_eq_some_iff {r : Roster} {id : GuestId} {g : Guest} :
    r.get? id = some g ↔ (id, g) ∈ r.entries := by
  obtain ⟨es, hes⟩ := r
  simp only [get?]
  induction es with
  | nil => simp
  | cons e es ih =>
    obtain ⟨k, g'⟩ := e
    simp only [List.map_cons, List.nodup_cons] at hes
    by_cases hk : k = id
    · subst hk
      rw [List.mem_cons, List.find?_cons_of_pos (by simp)]
      constructor
      · exact fun h => .inl (by simpa using h.symm)
      · rintro (h | h)
        · simp [(Prod.mk.inj h).2]
        · exact absurd (List.mem_map.2 ⟨_, h, rfl⟩) hes.1
    · rw [List.find?_cons_of_neg (by simpa using hk), ih hes.2, List.mem_cons]
      exact ⟨.inr, fun h => h.elim (fun h => absurd (Prod.mk.inj h).1.symm hk) fun h => h⟩

theorem get?_modify (r : Roster) (i j : GuestId) (f : Guest → Guest) :
    (r.modify i f).get? j = if j = i then (r.get? j).map f else r.get? j := by
  obtain ⟨es, hes⟩ := r
  simp only [get?, modify]
  clear hes
  induction es with
  | nil => simp
  | cons e es ih =>
    rw [List.map_cons]
    by_cases he : e.1 = j
    · subst he
      by_cases hi : e.1 = i <;> simp [hi]
    · rw [List.find?_cons_of_neg (by split <;> simpa using he), ih,
        List.find?_cons_of_neg (by simpa using he)]

theorem get?_erase (r : Roster) (i j : GuestId) :
    (r.erase i).get? j = if j = i then none else r.get? j := by
  apply Option.ext
  intro g
  split
  · rename_i h; subst h; simp [get?_eq_some_iff, erase]
  · rename_i h; simp [get?_eq_some_iff, erase, h]

theorem get?_insert (r : Roster) (i j : GuestId) (g : Guest) :
    (r.insert i g).get? j = if j = i then some g else r.get? j := by
  unfold insert
  split
  · rename_i h
    rw [get?_modify]
    split
    · rename_i hj
      subst hj
      obtain ⟨⟨k, g'⟩, he, hk⟩ := List.mem_map.1 h
      obtain rfl : k = j := hk
      rw [get?_eq_some_iff.2 he]
      rfl
    · rfl
  · rename_i h
    apply Option.ext
    intro g'
    rw [get?_eq_some_iff]
    split
    · rename_i hj
      subst hj
      simp only [List.mem_append, List.mem_singleton, Prod.mk.injEq, true_and, Option.some.injEq]
      exact ⟨fun h' => h'.elim (fun h' => absurd (List.mem_map.2 ⟨_, h', rfl⟩) h) Eq.symm,
        fun h' => .inr h'.symm⟩
    · rename_i hj
      simp [get?_eq_some_iff, hj]

end Roster

end Tafl
