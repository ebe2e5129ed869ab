import Tafl.Text.Unsigned
import Tafl.Wire.Command

/-! # Reading back the digits of a move

A move whose coordinates are below 100 is written in eight digits, and `Move.ofDigits?` reads
those eight digits as that move and as no other (`ofDigits?_digits`, `digits_of_ofDigits?`). Any
other move takes more than eight, and is refused. Main statement: `Move.ofDigits?_canonical`. -/

namespace Tafl

namespace Text

theorem utf8ByteSize_cons (c : Char) (s : List Char) :
    (String.ofList (c :: s)).utf8ByteSize = c.utf8Size + (String.ofList s).utf8ByteSize := by
  have hs : String.ofList (c :: s) = String.singleton c ++ String.ofList s := by
    simp
  rw [hs, String.utf8ByteSize_append, String.utf8ByteSize_singleton]

theorem utf8ByteSize_of_forall {s : List Char} {k : Nat} (h : ∀ c ∈ s, c.utf8Size = k) :
    (String.ofList s).utf8ByteSize = k * s.length := by
  induction s with
  | nil => rfl
  | cons c s ih =>
    rw [utf8ByteSize_cons, h c (by simp), ih fun d hd => h d (by simp [hd]), List.length_cons,
      Nat.mul_succ, Nat.add_comm]

theorem utf8Size_of_isDigit {c : Char} (h : c.isDigit = true) : c.utf8Size = 1 := by
  simp only [Char.isDigit, Bool.and_eq_true, decide_eq_true_eq] at h
  exact Char.utf8Size_eq_one_iff.2 (UInt32.le_trans h.2 (by decide))

theorem utf8ByteSize_of_isDigit {s : List Char} (h : ∀ c ∈ s, c.isDigit = true) :
    (String.ofList s).utf8ByteSize = s.length := by
  rw [utf8ByteSize_of_forall fun c hc => utf8Size_of_isDigit (h c hc), Nat.one_mul]

/-- No character takes more than four bytes. -/
theorem utf8ByteSize_le (s : String) : s.utf8ByteSize ≤ 4 * s.length := by
  rw [← String.ofList_toList (s := s), String.length_ofList]
  induction s.toList with
  | nil => exact Nat.le_refl _
  | cons c s ih =>
    have hc : c.utf8Size ≤ 4 := Char.utf8Size_le_four c
    rw [utf8ByteSize_cons, List.length_cons]
    omega

end Text

namespace Move

/-- What holds of the numbers below a bound holds of the bytes below it. -/
@[elab_as_elim]
theorem forall_byte {motive : UInt8 → Prop} (bound : Nat) (n : UInt8) (hn : n.toNat < bound)
    (h : ∀ k < bound, motive k.toUInt8) : motive n := by
  have hp := h n.toNat hn
  rwa [show n.toNat.toUInt8 = n from UInt8.ofNat_toNat] at hp

structure IsShort (m : Move) : Prop where
  source_x : m.source.x < 100
  source_y : m.source.y < 100
  target_x : m.target.x < 100
  target_y : m.target.y < 100

instance : DecidablePred IsShort := fun m =>
  decidable_of_iff
    (m.source.x < 100 ∧ m.source.y < 100 ∧ m.target.x < 100 ∧ m.target.y < 100)
    ⟨fun h => ⟨h.1, h.2.1, h.2.2.1, h.2.2.2⟩,
      fun h => ⟨h.source_x, h.source_y, h.target_x, h.target_y⟩⟩

/-- The two digits of a number below 100. -/
def pair (n : UInt8) : List Char := [Nat.digitChar (n.toNat / 10), Nat.digitChar (n.toNat % 10)]

theorem toList_twoDigits {n : UInt8} (h : n < 100) : (twoDigits n).toList = pair n := by
  have key : ∀ k < 100, (twoDigits k.toUInt8).toList = pair k.toUInt8 := by decide +kernel
  exact forall_byte 100 n (UInt8.lt_iff_toNat_lt.1 h) key

theorem digit?_digitChar {k : Nat} (h : k < 10) : digit? (Nat.digitChar k) = some k.toUInt8 := by
  have key : ∀ k < 10, digit? (Nat.digitChar k) = some k.toUInt8 := by decide
  exact key k h

theorem eq_digitChar_of_isDigit {c : Char} (h : c.isDigit = true) :
    ∃ k, k < 10 ∧ c = Nat.digitChar k := by
  simp only [Char.isDigit, Bool.and_eq_true, decide_eq_true_eq] at h
  have h₁ : 48 ≤ c.toNat := UInt32.le_iff_toNat_le.1 h.1
  have h₂ : c.toNat ≤ 57 := UInt32.le_iff_toNat_le.1 h.2
  refine ⟨c.toNat - 48, by omega, ?_⟩
  have key : ∀ k < 10, Char.ofNat (48 + k) = Nat.digitChar k := by decide
  rw [← key _ (by omega), Nat.add_sub_cancel' h₁, Char.ofNat_toNat]

theorem isDigit_of_digit? {c : Char} {d : UInt8} (h : digit? c = some d) : c.isDigit = true := by
  unfold digit? at h
  split at h
  · assumption
  · simp at h

theorem digit?_eq_some {c : Char} {d : UInt8} (h : digit? c = some d) :
    d < 10 ∧ c = Nat.digitChar d.toNat := by
  obtain ⟨k, hk, rfl⟩ := eq_digitChar_of_isDigit (isDigit_of_digit? h)
  rw [digit?_digitChar hk] at h
  obtain rfl := Option.some.inj h
  have hd : k.toUInt8.toNat = k := by
    simp only [Nat.toUInt8_eq, UInt8.toNat_ofNat']; omega
  exact ⟨UInt8.lt_iff_toNat_lt.2 (by rw [hd]; exact hk), by rw [hd]⟩

theorem mapM_digit?_eq_some {s : List Char} {ds : List UInt8} (h : s.mapM digit? = some ds) :
    (∀ d ∈ ds, d < 10) ∧ s = ds.map fun d => Nat.digitChar d.toNat := by
  induction s generalizing ds with
  | nil => simp_all
  | cons c s ih =>
    rw [List.mapM_cons] at h
    simp only [Option.bind_eq_bind, Option.bind_eq_some_iff, Option.pure_def,
      Option.some.injEq] at h
    obtain ⟨d, hd, ds, hds, rfl⟩ := h
    obtain ⟨hlt, hc⟩ := digit?_eq_some hd
    obtain ⟨hlts, hs⟩ := ih hds
    refine ⟨fun e he => ?_, by rw [List.map_cons, ← hc, ← hs]⟩
    rcases List.mem_cons.1 he with rfl | he
    · exact hlt
    · exact hlts e he

theorem toNat_join {a b : UInt8} (ha : a < 10) (hb : b < 10) :
    (10 * a + b).toNat = 10 * a.toNat + b.toNat := by
  have ha' : a.toNat < 10 := UInt8.lt_iff_toNat_lt.1 ha
  have hb' : b.toNat < 10 := UInt8.lt_iff_toNat_lt.1 hb
  rw [UInt8.toNat_add, UInt8.toNat_mul, show (10 : UInt8).toNat = 10 from rfl]
  omega

theorem join_lt {a b : UInt8} (ha : a < 10) (hb : b < 10) : 10 * a + b < 100 := by
  have ha' : a.toNat < 10 := UInt8.lt_iff_toNat_lt.1 ha
  have hb' : b.toNat < 10 := UInt8.lt_iff_toNat_lt.1 hb
  rw [UInt8.lt_iff_toNat_lt, toNat_join ha hb, show (100 : UInt8).toNat = 100 from rfl]
  omega

theorem pair_join {a b : UInt8} (ha : a < 10) (hb : b < 10) :
    pair (10 * a + b) = [Nat.digitChar a.toNat, Nat.digitChar b.toNat] := by
  have hb' : b.toNat < 10 := UInt8.lt_iff_toNat_lt.1 hb
  have hdiv : (10 * a.toNat + b.toNat) / 10 = a.toNat := by omega
  have hmod : (10 * a.toNat + b.toNat) % 10 = b.toNat := by omega
  rw [pair, toNat_join ha hb, hdiv, hmod]

theorem join_div_mod {n : UInt8} (h : n < 100) :
    10 * (n.toNat / 10).toUInt8 + (n.toNat % 10).toUInt8 = n := by
  have key : ∀ k < 100, 10 * (k.toUInt8.toNat / 10).toUInt8 + (k.toUInt8.toNat % 10).toUInt8 =
      k.toUInt8 := by decide
  exact forall_byte 100 n (UInt8.lt_iff_toNat_lt.1 h) key

namespace IsShort
variable {m : Move}

theorem toList_digits (h : m.IsShort) :
    m.digits.toList = pair m.source.x ++ pair m.source.y ++ pair m.target.x ++ pair m.target.y := by
  simp only [digits, String.toList_append, toList_twoDigits, h.source_x, h.source_y, h.target_x,
    h.target_y]

theorem isDigit_of_mem_digits (h : m.IsShort) {c : Char} (hc : c ∈ m.digits.toList) :
    c.isDigit = true := by
  have hp {n : UInt8} (hn : n < 100) : ∀ d ∈ pair n, d.isDigit = true := by
    have hn' : n.toNat < 100 := UInt8.lt_iff_toNat_lt.1 hn
    simp only [pair, List.mem_cons, List.not_mem_nil, or_false, forall_eq_or_imp, forall_eq,
      Nat.isDigit_digitChar, decide_eq_true_eq]
    omega
  simp only [h.toList_digits, List.mem_append] at hc
  rcases hc with ((hc | hc) | hc) | hc
  · exact hp h.source_x c hc
  · exact hp h.source_y c hc
  · exact hp h.target_x c hc
  · exact hp h.target_y c hc

theorem length_digits (h : m.IsShort) : m.digits.toList.length = 8 := by
  rw [h.toList_digits]; rfl

theorem ofDigits?_digits (h : m.IsShort) : ofDigits? m.digits = .ok m := by
  have hsize : m.digits.utf8ByteSize = 8 := by
    have := Text.utf8ByteSize_of_isDigit fun c hc => h.isDigit_of_mem_digits hc
    rwa [String.ofList_toList, h.length_digits] at this
  have hd {n : UInt8} (hn : n < 100) : n.toNat / 10 < 10 := by
    have := UInt8.lt_iff_toNat_lt.1 hn
    rw [show (100 : UInt8).toNat = 100 from rfl] at this
    omega
  have hm (n : UInt8) : n.toNat % 10 < 10 := Nat.mod_lt _ (by decide)
  have hl : m.digits.toList.mapM digit? =
      some [(m.source.x.toNat / 10).toUInt8, (m.source.x.toNat % 10).toUInt8,
        (m.source.y.toNat / 10).toUInt8, (m.source.y.toNat % 10).toUInt8,
        (m.target.x.toNat / 10).toUInt8, (m.target.x.toNat % 10).toUInt8,
        (m.target.y.toNat / 10).toUInt8, (m.target.y.toNat % 10).toUInt8] := by
    simp [h.toList_digits, pair, digit?_digitChar, hm, hd h.source_x, hd h.source_y,
      hd h.target_x, hd h.target_y]
  simp only [ofDigits?, hsize, ne_eq, not_true_eq_false, ↓reduceIte, hl, join_div_mod h.source_x,
    join_div_mod h.source_y, join_div_mod h.target_x, join_div_mod h.target_y]

end IsShort

theorem digits_of_ofDigits? {s : String} {m : Move} (h : ofDigits? s = .ok m) :
    m.IsShort ∧ m.digits = s := by
  unfold ofDigits? at h
  split at h
  · simp at h
  · split at h
    · rename_i a b c d e f g i ds
      obtain rfl := Except.ok.inj h
      obtain ⟨hlt, hs⟩ := mapM_digit?_eq_some ds
      simp only [List.mem_cons, List.not_mem_nil, or_false, forall_eq_or_imp, forall_eq] at hlt
      obtain ⟨ha, hb, hc, hd, he, hf, hg, hi⟩ := hlt
      have short : IsShort ⟨⟨10 * a + b, 10 * c + d⟩, ⟨10 * e + f, 10 * g + i⟩⟩ :=
        ⟨join_lt ha hb, join_lt hc hd, join_lt he hf, join_lt hg hi⟩
      refine ⟨short, String.toList_inj.1 ?_⟩
      rw [short.toList_digits, pair_join ha hb, pair_join hc hd, pair_join he hf, pair_join hg hi,
        hs]
      rfl
    · simp at h

theorem digits_of_toOption_ofDigits? {s : String} {m : Move}
    (h : (ofDigits? s).toOption = some m) : m.IsShort ∧ m.digits = s := by
  cases hd : ofDigits? s with
  | error e => rw [hd] at h; cases h
  | ok m' =>
    rw [hd] at h
    obtain rfl := Option.some.inj h
    exact digits_of_ofDigits? hd

theorem exists_digits {s : List Char} (hl : s.length = 8) (hd : ∀ c ∈ s, c.isDigit = true) :
    ∃ m : Move, m.IsShort ∧ m.digits.toList = s := by
  have hs : (String.ofList s).utf8ByteSize = 8 := (Text.utf8ByteSize_of_isDigit hd).trans hl
  have hm : ∀ t : List Char, (∀ c ∈ t, c.isDigit = true) →
      ∃ ds, t.mapM digit? = some ds ∧ ds.length = t.length := by
    intro t ht
    induction t with
    | nil => exact ⟨[], rfl, rfl⟩
    | cons c t ih =>
      obtain ⟨ds, hds, hlen⟩ := ih fun d hd => ht d (by simp [hd])
      obtain ⟨k, hk, rfl⟩ := eq_digitChar_of_isDigit (ht c (by simp))
      exact ⟨k.toUInt8 :: ds, by simp [digit?_digitChar hk, hds], by simp [hlen]⟩
  obtain ⟨ds, hds, hlen⟩ := hm s hd
  rw [hl] at hlen
  match ds, hlen with
  | [a, b, c, d, e, f, g, h], _ =>
    have hok : ofDigits? (String.ofList s) =
        .ok ⟨⟨10 * a + b, 10 * c + d⟩, ⟨10 * e + f, 10 * g + h⟩⟩ := by
      simp only [ofDigits?, hs, ne_eq, not_true_eq_false, ↓reduceIte, String.toList_ofList, hds]
    obtain ⟨hshort, heq⟩ := digits_of_ofDigits? hok
    exact ⟨_, hshort, by rw [heq, String.toList_ofList]⟩

/-! ### Numbers and lengths -/

/-- The numbers of a move, in the order in which they are written. -/
def coordinates (m : Move) : List UInt8 := [m.source.x, m.source.y, m.target.x, m.target.y]

theorem valueOf_pair {n : UInt8} (h : n < 100) : Text.valueOf (pair n) = n.toNat := by
  have hn : n.toNat < 100 := UInt8.lt_iff_toNat_lt.1 h
  have hdiv : n.toNat / 10 < 10 := by omega
  have hmod : n.toNat % 10 < 10 := Nat.mod_lt _ (by decide)
  simp only [Text.valueOf, pair, List.foldl_cons, List.foldl_nil,
    Nat.toNat_digitChar_sub_48_of_lt_ten hdiv, Nat.toNat_digitChar_sub_48_of_lt_ten hmod,
    show '0'.toNat = 48 from rfl]
  omega

/-- The digits at `2 * i` and behind it are those of the number at `i`. -/
theorem IsShort.value_digits {m : Move} (h : m.IsShort) {i : Nat} {n : UInt8}
    (hi : m.coordinates[i]? = some n) :
    Text.valueOf ((m.digits.toList.drop (2 * i)).take 2) = n.toNat := by
  rw [h.toList_digits]
  match i, hi with
  | 0, hi =>
    obtain rfl := Option.some.inj hi
    exact valueOf_pair h.source_x
  | 1, hi =>
    obtain rfl := Option.some.inj hi
    exact valueOf_pair h.source_y
  | 2, hi =>
    obtain rfl := Option.some.inj hi
    exact valueOf_pair h.target_x
  | 3, hi =>
    obtain rfl := Option.some.inj hi
    exact valueOf_pair h.target_y

/-- A coordinate takes two digits, or three if it is no less than 100. -/
theorem size_twoDigits (n : UInt8) : (twoDigits n).length = (twoDigits n).utf8ByteSize ∧
    2 ≤ (twoDigits n).utf8ByteSize ∧ (twoDigits n).utf8ByteSize ≤ 3 ∧
    ((twoDigits n).utf8ByteSize = 2 → n < 100) := by
  have key : ∀ k < 256, (twoDigits k.toUInt8).length = (twoDigits k.toUInt8).utf8ByteSize ∧
      2 ≤ (twoDigits k.toUInt8).utf8ByteSize ∧ (twoDigits k.toUInt8).utf8ByteSize ≤ 3 ∧
      ((twoDigits k.toUInt8).utf8ByteSize = 2 → k.toUInt8 < 100) := by decide +kernel
  exact forall_byte 256 n n.toNat_lt key

theorem length_digits_eq_size (m : Move) : m.digits.length = m.digits.utf8ByteSize := by
  simp only [digits, String.length_append, String.utf8ByteSize_append, (size_twoDigits _).1]

theorem size_digits_le (m : Move) : m.digits.utf8ByteSize ≤ 12 := by
  have hsx := (size_twoDigits m.source.x).2.2.1
  have hsy := (size_twoDigits m.source.y).2.2.1
  have htx := (size_twoDigits m.target.x).2.2.1
  have hty := (size_twoDigits m.target.y).2.2.1
  simp only [digits, String.utf8ByteSize_append]
  omega

theorem isShort_of_size_le {m : Move} (h : m.digits.utf8ByteSize ≤ 8) : m.IsShort := by
  obtain ⟨-, hsx, -, hsx'⟩ := size_twoDigits m.source.x
  obtain ⟨-, hsy, -, hsy'⟩ := size_twoDigits m.source.y
  obtain ⟨-, htx, -, htx'⟩ := size_twoDigits m.target.x
  obtain ⟨-, hty, -, hty'⟩ := size_twoDigits m.target.y
  simp only [digits, String.utf8ByteSize_append] at h
  exact ⟨hsx' (by omega), hsy' (by omega), htx' (by omega), hty' (by omega)⟩

theorem ofDigits?_of_long {m : Move} (h : ¬ m.IsShort) :
    8 < m.digits.length ∧ ofDigits? m.digits = .error (.length m.digits.length) := by
  have hsize : 8 < m.digits.utf8ByteSize := Nat.lt_of_not_le fun hle => h (isShort_of_size_le hle)
  exact ⟨by rwa [length_digits_eq_size], if_pos (Nat.ne_of_gt hsize)⟩

/-- A text is read as a move if and only if it is eight digits. The coordinates are the numbers that
stand there, each below 100, and writing the move gives the text back. A move is read back from what
it is written as unless a coordinate has three digits. Then the text is too long. -/
theorem ofDigits?_canonical :
    (∀ s : String, (∃ m, ofDigits? s = .ok m) ↔
      s.length = 8 ∧ ∀ c ∈ s.toList, c.isDigit = true) ∧
    (∀ (s : String) (m : Move), ofDigits? s = .ok m → m.IsShort ∧ m.digits = s ∧
      ∀ (i : Nat) (n : UInt8), m.coordinates[i]? = some n →
        n.toNat = Text.valueOf ((s.toList.drop (2 * i)).take 2)) ∧
    (∀ m : Move, m.IsShort → ofDigits? m.digits = .ok m) ∧
    ∀ m : Move, ¬ m.IsShort →
      8 < m.digits.length ∧ ofDigits? m.digits = .error (.length m.digits.length) := by
  refine ⟨fun s => ⟨?_, ?_⟩, fun s m h => ?_, fun m h => h.ofDigits?_digits,
    fun m h => ofDigits?_of_long h⟩
  · rintro ⟨m, h⟩
    obtain ⟨hshort, rfl⟩ := digits_of_ofDigits? h
    exact ⟨hshort.length_digits, fun c hc => hshort.isDigit_of_mem_digits hc⟩
  · rintro ⟨hlength, hdigit⟩
    obtain ⟨m, hshort, heq⟩ := exists_digits hlength hdigit
    exact ⟨m, by rw [← String.toList_inj.1 heq, hshort.ofDigits?_digits]⟩
  · obtain ⟨hshort, rfl⟩ := digits_of_ofDigits? h
    exact ⟨hshort, rfl, fun i n hn => (hshort.value_digits hn).symm⟩

theorem ofDigits?_canonical_edges :
    let m : Move := ⟨⟨99, 0⟩, ⟨7, 10⟩⟩
    let long : Move := ⟨⟨10, 0⟩, ⟨255, 3⟩⟩
    (ofDigits? "99000710" = .ok m ∧ m.digits = "99000710" ∧ Text.valueOf ['9', '9'] = 99) ∧
      (m.IsShort ∧ ofDigits? m.digits = .ok m) ∧
      ¬ long.IsShort ∧ ofDigits? long.digits = .error (.length 9) := by
  intro m long
  obtain ⟨-, hread, hshort, hlong⟩ := ofDigits?_canonical
  have hok : ofDigits? "99000710" = .ok m := rfl
  have hm : m.IsShort := by decide
  have hl : ¬ long.IsShort := by decide
  obtain ⟨-, hdigits, hvalue⟩ := hread _ _ hok
  have hnine : long.digits.length = 9 := by decide +kernel
  have herror := (hlong long hl).2
  rw [hnine] at herror
  exact ⟨⟨hok, hdigits, (hvalue 0 99 rfl).symm⟩, ⟨hm, hshort m hm⟩, hl, herror⟩

end Move

end Tafl
