import Tafl.Board

/-! # The text of a board

A board is written as 121 digits, one for each square, row by row. The main statements are
`ofDigits?_digits` and `ofDigits?_eq_some_iff`: reading undoes writing, and nothing else is read. -/

namespace Tafl

namespace Board

def digits (b : Board) : String := String.ofList (b.cells.toList.map Cell.digit)

def ofDigits? (s : String) : Option Board :=
  (s.toList.mapM Cell.ofDigit?).bind fun cs =>
    if h : cs.length = 121 then some ⟨⟨cs.toArray, by simpa using h⟩⟩ else none

def start : Board := (ofDigits? startDigits).getD bare
where
  startDigits : String :=
    "20033333002" ++
    "00000300000" ++
    "00000000000" ++
    "30000400003" ++
    "30004440003" ++
    "33044544033" ++
    "30004440003" ++
    "30000400003" ++
    "00000000000" ++
    "00000300000" ++
    "20033333002"

theorem mapM_ofDigit?_digit (cs : List Cell) :
    (cs.map Cell.digit).mapM Cell.ofDigit? = some cs := by
  induction cs with
  | nil => rfl
  | cons c cs ih => simp [List.mapM_cons, Cell.ofDigit?_digit, ih]

theorem eq_map_digit_of_mapM {ds : List Char} {cs : List Cell}
    (h : ds.mapM Cell.ofDigit? = some cs) : ds = cs.map Cell.digit := by
  induction ds generalizing cs with
  | nil => simp_all
  | cons d ds ih =>
    rw [List.mapM_cons] at h
    simp only [Option.bind_eq_bind, Option.bind_eq_some_iff, Option.pure_def,
      Option.some.injEq] at h
    obtain ⟨c, hc, cs', hcs, rfl⟩ := h
    rw [List.map_cons, ← Cell.ofDigit?_eq_some_iff.1 hc, ← ih hcs]

theorem ofDigits?_digits (b : Board) : ofDigits? b.digits = some b := by
  obtain ⟨⟨⟨cs⟩, hcs⟩⟩ := b
  have h : cs.length = 121 := hcs
  simp [ofDigits?, digits, -List.mapM_map, mapM_ofDigit?_digit, h]

theorem ofDigits?_eq_some_iff {s : String} {b : Board} : ofDigits? s = some b ↔ s = b.digits := by
  constructor
  · intro h
    simp only [ofDigits?, Option.bind_eq_some_iff] at h
    obtain ⟨cs, hcs, h⟩ := h
    split at h
    · obtain rfl := Option.some.inj h
      simp [digits, ← eq_map_digit_of_mapM hcs]
    · simp at h
  · rintro rfl
    exact ofDigits?_digits b

end Board

end Tafl
