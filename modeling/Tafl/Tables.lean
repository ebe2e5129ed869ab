import Tafl.Table

/-! # The tables of a house

The tables at which a game goes on, in the order in which they were opened. Tables are numbered
from one, and no number is given twice. A number has 32 bits, and what becomes of a house that has
given all of them is left open (`Tables.IsCounted`). -/

namespace Tafl

structure Tables where
  running : List Table := []
  limit : Nat
  /-- How many tables were opened so far, which is the number of the last one. It is a count of 32
  bits, and less than `UInt32.size` tables are ever opened: see `Tables.IsCounted`. -/
  opened : Nat := 0
  ascending : running.Pairwise (·.id < ·.id) := by simp
  id_le_opened : ∀ t ∈ running, t.id ≤ opened := by simp
deriving DecidableEq, Repr

namespace Tables

def size (ts : Tables) : Nat := ts.running.length

def isFull (ts : Tables) : Bool := ts.limit ≤ ts.size

def free (ts : Tables) : Nat := ts.limit - ts.size

def get? (ts : Tables) (id : Nat) : Option Table := ts.running.find? (·.id = id)

/-- Whether the tables opened so far can be counted in 32 bits. -/
def IsCounted (ts : Tables) : Prop := ts.opened < UInt32.size

/-- Opens a table under the next number. It does not ask whether that number has 32 bits, and is
meant for less than `UInt32.size` tables: those that are counted afterwards as well, which is to say
without a carry (`isCounted_openFor_iff`). -/
def openFor (ts : Tables) (black white : String) : Tables where
  running := ts.running ++ [{ id := ts.opened + 1, black, white }]
  limit := ts.limit
  opened := ts.opened + 1
  ascending := by
    rw [List.pairwise_append]
    refine ⟨ts.ascending, by simp, ?_⟩
    intro t ht u hu
    obtain rfl := List.mem_singleton.1 hu
    exact Nat.lt_succ_of_le (ts.id_le_opened t ht)
  id_le_opened := by
    intro t ht
    rcases List.mem_append.1 ht with ht | ht
    · exact Nat.le_succ_of_le (ts.id_le_opened t ht)
    · obtain rfl := List.mem_singleton.1 ht
      exact Nat.le_refl _

def close (ts : Tables) (id : Nat) : Tables where
  running := ts.running.filter (·.id ≠ id)
  limit := ts.limit
  opened := ts.opened
  ascending := ts.ascending.sublist List.filter_sublist
  id_le_opened t ht := ts.id_le_opened t ((List.mem_filter.1 ht).1)

def replace (ts : Tables) (t : Table) : Tables where
  running := ts.running.map fun u => if u.id = t.id then t else u
  limit := ts.limit
  opened := ts.opened
  ascending := by
    have h (u : Table) : (if u.id = t.id then t else u).id = u.id := by split <;> simp_all
    rw [List.pairwise_map]
    exact ts.ascending.imp fun {a b} hab => by rw [h, h]; exact hab
  id_le_opened := by
    intro u hu
    obtain ⟨v, hv, rfl⟩ := List.mem_map.1 hu
    have := ts.id_le_opened v hv
    split <;> simp_all

/-! ### The view -/

theorem get?_eq_some_iff {ts : Tables} {id : Nat} {t : Table} :
    ts.get? id = some t ↔ t ∈ ts.running ∧ t.id = id := by
  obtain ⟨us, limit, opened, hus, hle⟩ := ts
  simp only [get?]
  clear hle
  induction us with
  | nil => simp
  | cons u us ih =>
    rw [List.pairwise_cons] at hus
    by_cases hu : u.id = id
    · subst hu
      rw [List.find?_cons_of_pos (by simp)]
      constructor
      · rintro ⟨⟩
        exact ⟨List.mem_cons_self .., rfl⟩
      · rintro ⟨ht, he⟩
        rcases List.mem_cons.1 ht with rfl | ht
        · rfl
        · have := hus.1 t ht
          omega
    · rw [List.find?_cons_of_neg (by simpa using hu), ih hus.2, List.mem_cons]
      constructor
      · exact fun h => ⟨.inr h.1, h.2⟩
      · rintro ⟨rfl | ht, he⟩
        · exact absurd he hu
        · exact ⟨ht, he⟩

theorem get?_openFor (ts : Tables) (black white : String) (id : Nat) :
    (ts.openFor black white).get? id =
      if id = ts.opened + 1 then some { id, black, white } else ts.get? id := by
  apply Option.ext
  intro t
  rw [get?_eq_some_iff]
  simp only [openFor, List.mem_append, List.mem_singleton]
  split
  · rename_i h
    subst h
    constructor
    · rintro ⟨ht | rfl, he⟩
      · have := ts.id_le_opened t ht
        omega
      · rfl
    · rintro ⟨⟩
      exact ⟨.inr rfl, rfl⟩
  · rename_i h
    rw [get?_eq_some_iff]
    constructor
    · rintro ⟨ht | rfl, he⟩
      · exact ⟨ht, he⟩
      · exact absurd he.symm h
    · exact fun ht => ⟨.inl ht.1, ht.2⟩

theorem get?_close (ts : Tables) (i j : Nat) :
    (ts.close i).get? j = if j = i then none else ts.get? j := by
  apply Option.ext
  intro t
  rw [get?_eq_some_iff]
  simp only [close, List.mem_filter, ne_eq, decide_not, Bool.not_eq_true', decide_eq_false_iff_not]
  split
  · rename_i h
    simp only [h, reduceCtorEq, iff_false, not_and]
    exact fun ht he => ht.2 he
  · rename_i h
    rw [get?_eq_some_iff]
    exact ⟨fun ht => ⟨ht.1.1, ht.2⟩, fun ht => ⟨⟨ht.1, fun he => h (ht.2.symm.trans he)⟩, ht.2⟩⟩

theorem get?_replace (ts : Tables) (t : Table) (id : Nat) :
    (ts.replace t).get? id = if id = t.id then (ts.get? id).map fun _ => t else ts.get? id := by
  obtain ⟨us, limit, opened, hus, hle⟩ := ts
  simp only [get?, replace]
  clear hus hle
  induction us with
  | nil => simp
  | cons u us ih =>
    rw [List.map_cons]
    by_cases hu : u.id = id
    · subst hu
      by_cases ht : u.id = t.id <;> simp [ht]
    · rw [List.find?_cons_of_neg (by split <;> simp_all), ih,
        List.find?_cons_of_neg (by simpa using hu)]

/-! ### Numbers of 32 bits -/

theorem IsCounted.toNat_toUInt32 {ts : Tables} (h : ts.IsCounted) {n : Nat} (hn : n ≤ ts.opened) :
    n.toUInt32.toNat = n := by
  rw [Nat.toUInt32_eq, UInt32.toNat_ofNat_of_lt' (Nat.lt_of_le_of_lt hn h)]

/-- One more table is counted if and only if there is no carry. -/
theorem isCounted_openFor_iff {ts : Tables} (h : ts.IsCounted) {black white : String} :
    (ts.openFor black white).IsCounted ↔
      (ts.opened.toUInt32 + 1).toNat = (ts.openFor black white).opened := by
  have hcount : ts.opened.toUInt32.toNat = ts.opened := h.toNat_toUInt32 (Nat.le_refl _)
  rw [UInt32.toNat_add, hcount]
  simp only [IsCounted, openFor, UInt32.size, show (1 : UInt32).toNat = 1 from rfl] at h ⊢
  omega

end Tables

end Tafl
