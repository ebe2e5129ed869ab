import Tafl.Wire.Frame

/-! # Texts made of frames

Main statements: `tiles?_eq_some_iff` says which texts consist of frames and nothing else,
`payloads_flatMap` that nothing of such a text is skipped, and `stripBreaks_interleave`,
`stripBreaks_append`, `filter_stripBreaks` and `mem_stripBreaks` what happens to line breaks between
and inside frames. -/

namespace Tafl.Frame

def IsPlain (p : List Char) : Prop := ∀ c ∈ p, c ≠ '{' ∧ c ≠ '}'

def enclose (p : List Char) : List Char := '{' :: (p ++ ['}'])

def IsBreaks (s : List Char) : Prop := ∀ c ∈ s, isLineBreak c = true

theorem isBreaks_iff {s : List Char} : IsBreaks s ↔ s.all isLineBreak = true :=
  List.all_eq_true.symm

theorem toList_wrap (p : String) : (wrap p).toList = enclose p.toList := by
  simp [wrap, enclose]

theorem IsPlain.reverse {p : List Char} (hp : IsPlain p) : IsPlain p.reverse :=
  fun c hc => hp c (List.mem_reverse.1 hc)

/-! ### Tiling -/

/-- The text read so far of the frame under way. -/
def opened (under : Option (List Char)) : List Char := under.elim [] fun p => '{' :: p.reverse

theorem tiles?_go_plain {p : List Char} (hp : IsPlain p) (acc r : List Char) :
    tiles?.go (some acc) (p ++ r) = tiles?.go (some (p.reverse ++ acc)) r := by
  induction p generalizing acc with
  | nil => rfl
  | cons c p ih =>
    have hc := hp c (by simp)
    rw [List.cons_append, tiles?.go, if_neg hc.1, if_neg hc.2,
      ih fun d hd => hp d (by simp [hd])]
    simp

theorem tiles?_go_enclose {p : List Char} (hp : IsPlain p) (r : List Char) :
    tiles?.go none (enclose p ++ r) = (p :: ·) <$> tiles?.go none r := by
  have hs : enclose p ++ r = '{' :: (p ++ '}' :: r) := by simp [enclose]
  rw [hs, tiles?.go, if_pos rfl, tiles?_go_plain hp, tiles?.go]
  simp

theorem tiles?_flatMap {ps : List (List Char)} (hps : ∀ p ∈ ps, IsPlain p) :
    tiles? (ps.flatMap enclose) = some ps := by
  induction ps with
  | nil => rfl
  | cons p ps ih =>
    have := ih fun q hq => hps q (by simp [hq])
    rw [tiles?] at this ⊢
    rw [List.flatMap_cons, tiles?_go_enclose (hps p (by simp)), this]
    rfl

theorem tiles?_go_eq_some {under : Option (List Char)} {s : List Char} {ps : List (List Char)}
    (h : tiles?.go under s = some ps) (hu : ∀ p ∈ under, IsPlain p) :
    (∀ p ∈ ps, IsPlain p) ∧ opened under ++ s = ps.flatMap enclose := by
  fun_induction tiles?.go under s generalizing ps with
  | case1 =>
    obtain rfl := Option.some.inj h
    simp [opened]
  | case2 => simp at h
  | case3 r ih => simpa [opened] using ih h (by simp [IsPlain])
  | case4 => simp at h
  | case5 => simp at h
  | case6 p r hne ih =>
    obtain ⟨qs, hqs, rfl⟩ := Option.map_eq_some_iff.1 h
    obtain ⟨hplain, heq⟩ := ih hqs (by simp)
    refine ⟨fun q hq => ?_, ?_⟩
    · rcases List.mem_cons.1 hq with rfl | hq
      · exact (hu p rfl).reverse
      · exact hplain q hq
    · simpa [opened, enclose] using heq
  | case7 p c r h₁ h₂ ih =>
    have hp : IsPlain (c :: p) := fun d hd => by
      rcases List.mem_cons.1 hd with rfl | hd
      · exact ⟨h₁, h₂⟩
      · exact hu p rfl d hd
    simpa [opened] using ih h (by simpa using hp)

/-- The texts that consist of frames, and their payloads. -/
theorem tiles?_eq_some_iff {s : List Char} {ps : List (List Char)} :
    tiles? s = some ps ↔ (∀ p ∈ ps, IsPlain p) ∧ s = ps.flatMap enclose := by
  constructor
  · intro h
    simpa [opened] using tiles?_go_eq_some h (by simp)
  · rintro ⟨hps, rfl⟩
    exact tiles?_flatMap hps

/-! ### Payloads -/

theorem payloads_go_plain {p : List Char} (hp : IsPlain p) (acc r : List Char) :
    payloads.go (some acc) (p ++ r) = payloads.go (some (p.reverse ++ acc)) r := by
  induction p generalizing acc with
  | nil => rfl
  | cons c p ih =>
    have hc := hp c (by simp)
    rw [List.cons_append, payloads.go, if_neg hc.1, if_neg hc.2,
      ih fun d hd => hp d (by simp [hd])]
    simp

theorem payloads_flatMap {ps : List (List Char)} (hps : ∀ p ∈ ps, IsPlain p) :
    payloads (ps.flatMap enclose) = ps := by
  induction ps with
  | nil => rfl
  | cons p ps ih =>
    have := ih fun q hq => hps q (by simp [hq])
    rw [payloads] at this ⊢
    have hs : (p :: ps).flatMap enclose = '{' :: (p ++ '}' :: ps.flatMap enclose) := by
      simp [enclose]
    rw [hs, payloads.go, if_pos rfl, payloads_go_plain (hps p (by simp)), payloads.go, this]
    simp

/-! ### Line breaks -/

theorem stripBreaks_go_breaks {b : List Char} (hb : IsBreaks b) (r : List Char) :
    stripBreaks.go false (b ++ r) = stripBreaks.go false r := by
  induction b with
  | nil => rfl
  | cons c b ih =>
    have hc := hb c (by simp)
    have h₁ : c ≠ '{' := by rintro rfl; simp [isLineBreak] at hc
    have h₂ : c ≠ '}' := by rintro rfl; simp [isLineBreak] at hc
    rw [List.cons_append, stripBreaks.go, if_neg h₁, if_neg h₂,
      if_pos (by simp [hc]), ih fun d hd => hb d (by simp [hd])]

theorem stripBreaks_go_inside {p : List Char} (hp : '}' ∉ p) (r : List Char) :
    stripBreaks.go true (p ++ r) = p ++ stripBreaks.go true r := by
  induction p with
  | nil => rfl
  | cons c p ih =>
    have hc : c ≠ '}' := fun e => hp (by simp [e])
    rw [List.cons_append, stripBreaks.go, ih fun h => hp (by simp [h])]
    by_cases ho : c = '{'
    · rw [if_pos ho]; rfl
    · rw [if_neg ho, if_neg hc]; rfl

theorem stripBreaks_go_enclose {p : List Char} (hp : IsPlain p) (r : List Char) :
    stripBreaks.go false (enclose p ++ r) = enclose p ++ stripBreaks.go false r := by
  have hs : enclose p ++ r = '{' :: (p ++ '}' :: r) := by simp [enclose]
  rw [hs, stripBreaks.go, if_pos rfl, stripBreaks_go_inside fun h => (hp _ h).2 rfl,
    stripBreaks.go]
  simp [enclose]

/-- Line breaks before, between and after frames do not count. -/
theorem stripBreaks_interleave {b : List Char} {fs : List (List Char × List Char)}
    (hb : IsBreaks b) (hfs : ∀ f ∈ fs, IsPlain f.1 ∧ IsBreaks f.2) :
    stripBreaks (b ++ fs.flatMap fun f => enclose f.1 ++ f.2) =
      (fs.map Prod.fst).flatMap enclose := by
  rw [stripBreaks, stripBreaks_go_breaks hb]
  induction fs with
  | nil => rfl
  | cons f fs ih =>
    obtain ⟨hp, hb'⟩ := hfs f (by simp)
    rw [List.flatMap_cons, List.append_assoc, stripBreaks_go_enclose hp, stripBreaks_go_breaks hb',
      ih fun g hg => hfs g (by simp [hg]), List.map_cons, List.flatMap_cons]

theorem stripBreaks_go_append {inside : Bool} {under : Option (List Char)} {s : List Char}
    {ps : List (List Char)} (hu : under.isSome = inside)
    (h : tiles?.go under (stripBreaks.go inside s) = some ps) (r : List Char) :
    stripBreaks.go inside (s ++ r) = stripBreaks.go inside s ++ stripBreaks.go false r := by
  fun_induction stripBreaks.go inside s generalizing under ps with
  | case1 inside =>
    cases under with
    | none => rw [← hu]; rfl
    | some p => cases h
  | case2 inside s ih =>
    cases under with
    | none => rw [List.cons_append, stripBreaks.go, if_pos rfl, ih rfl h, List.cons_append]
    | some p => cases h
  | case3 inside s hopen ih =>
    cases under with
    | none => cases h
    | some p =>
      rw [tiles?.go, if_neg hopen, if_pos rfl] at h
      obtain ⟨qs, hqs, -⟩ := Option.map_eq_some_iff.1 h
      rw [List.cons_append, stripBreaks.go, if_neg hopen, if_pos rfl, ih rfl hqs, List.cons_append]
  | case4 inside c s hopen hclose hbreak ih =>
    rw [List.cons_append, stripBreaks.go, if_neg hopen, if_neg hclose, if_pos hbreak, ih hu h]
  | case5 inside c s hopen hclose hbreak ih =>
    cases under with
    | none =>
      rw [tiles?.go, if_neg hopen] at h
      cases h
    | some p =>
      rw [tiles?.go, if_neg hopen, if_neg hclose] at h
      have hu : (some (c :: p)).isSome = inside := hu
      rw [List.cons_append, stripBreaks.go, if_neg hopen, if_neg hclose, if_neg hbreak, ih hu h,
        List.cons_append]

/-- After a text of which nothing but frames is left, the line breaks of what follows are taken
away as if it stood alone. -/
theorem stripBreaks_append {s : List Char} {ps : List (List Char)}
    (h : tiles? (stripBreaks s) = some ps) (r : List Char) :
    stripBreaks (s ++ r) = stripBreaks s ++ stripBreaks r :=
  stripBreaks_go_append rfl h r

/-- Nothing but line breaks is taken away. -/
theorem filter_stripBreaks (s : List Char) :
    (stripBreaks s).filter (!isLineBreak ·) = s.filter (!isLineBreak ·) := by
  have key (inside : Bool) :
      (stripBreaks.go inside s).filter (!isLineBreak ·) = s.filter (!isLineBreak ·) := by
    fun_induction stripBreaks.go inside s with
    | case1 => rfl
    | case2 inside r ih => rw [List.filter_cons, List.filter_cons, ih]
    | case3 inside r h ih => rw [List.filter_cons, List.filter_cons, ih]
    | case4 inside c r h₁ h₂ h ih =>
      have hc : isLineBreak c = true := by simp_all
      rw [ih, List.filter_cons_of_neg (by simp [hc])]
    | case5 inside c r h₁ h₂ h ih => rw [List.filter_cons, List.filter_cons, ih]
  exact key false

/-- What stands between an opening brace and the next closing one is kept. -/
theorem mem_stripBreaks {a b : List Char} {x : Char} (r : List Char) (hb : '}' ∉ b) (hx : x ∈ b) :
    x ∈ stripBreaks (a ++ '{' :: (b ++ r)) := by
  have key (inside : Bool) : x ∈ stripBreaks.go inside (a ++ '{' :: (b ++ r)) := by
    induction a generalizing inside with
    | nil =>
      rw [List.nil_append, stripBreaks.go, if_pos rfl, stripBreaks_go_inside hb]
      simp [hx]
    | cons c a ih =>
      rw [List.cons_append, stripBreaks.go]
      split
      · exact List.mem_cons_of_mem _ (ih true)
      · split
        · exact List.mem_cons_of_mem _ (ih false)
        · split
          · exact ih inside
          · exact List.mem_cons_of_mem _ (ih inside)
  exact key false

end Tafl.Frame
