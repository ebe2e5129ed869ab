import Mathlib.Data.Set.List
import Tafl.Board.Digits

/-! # Texts of boards, square by square

The texts that are read as boards are those of 121 digits from `0` to `5`, and the digit at
`11 * y + x` is that of the square in column `x` of row `y` (`getElem?_digits`). Main statement:
`Board.ofDigits?_playfield`. -/

namespace Tafl

namespace Cell

/-- The digits of the six kinds of cells. -/
theorem exists_digit_iff {d : Char} :
    (∃ c : Cell, c.digit = d) ↔ d ∈ ['0', '1', '2', '3', '4', '5'] := by
  constructor
  · rintro ⟨c, rfl⟩
    cases c <;> decide
  · simp only [List.mem_cons, List.not_mem_nil, or_false]
    rintro (rfl | rfl | rfl | rfl | rfl | rfl)
    exacts [⟨empty, rfl⟩, ⟨throne, rfl⟩, ⟨escape, rfl⟩, ⟨black, rfl⟩, ⟨white, rfl⟩, ⟨king, rfl⟩]

end Cell

namespace Board
variable {b : Board} {s : String}

theorem length_digits (b : Board) : b.digits.length = 121 := by
  simp [digits]

theorem exists_digit_of_mem {c : Char} (h : c ∈ b.digits.toList) : ∃ x : Cell, x.digit = c := by
  rw [digits, String.toList_ofList] at h
  obtain ⟨x, -, hx⟩ := List.mem_map.1 h
  exact ⟨x, hx⟩

theorem exists_digits (hlength : s.length = 121)
    (hs : ∀ c ∈ s.toList, c ∈ ['0', '1', '2', '3', '4', '5']) : ∃ b : Board, b.digits = s := by
  obtain ⟨cs, hcs⟩ : s.toList ∈ Set.range (List.map Cell.digit) := by
    rw [Set.range_list_map]
    exact fun c hc => Cell.exists_digit_iff.2 (hs c hc)
  have hsize : cs.toArray.size = 121 := by
    rw [List.size_toArray, ← List.length_map Cell.digit, hcs]
    exact hlength
  exact ⟨⟨⟨cs.toArray, hsize⟩⟩, String.toList_inj.1 (by simpa [digits] using hcs)⟩

/-- The digit of a square stands at its number. -/
theorem getElem?_digits (b : Board) (q : Square) :
    b.digits.toList[q.index.val]? = some (b.get q).digit := by
  simp [digits, get]

theorem get?_of_lt (b : Board) {x y : UInt8} (hx : x < 11) (hy : y < 11) :
    ∃ c, b.get? ⟨x, y⟩ = some c ∧
      b.digits.toList[11 * y.toNat + x.toNat]? = some c.digit := by
  have hx : x.toNat < 11 := UInt8.lt_iff_toNat_lt.1 hx
  have hy : y.toNat < 11 := UInt8.lt_iff_toNat_lt.1 hy
  let q : Square := ⟨⟨x.toNat, hx⟩, ⟨y.toNat, hy⟩⟩
  have hq : Point.square? ⟨x, y⟩ = some q := dif_pos ⟨hx, hy⟩
  exact ⟨b.get q, by rw [get?, hq, Option.map_some], b.getElem?_digits q⟩

theorem get?_eq_none (b : Board) {x y : UInt8} (h : ¬ (x < 11 ∧ y < 11)) :
    b.get? ⟨x, y⟩ = none := by
  have h : ¬ (x.toNat < 11 ∧ y.toNat < 11) := fun hxy =>
    h ⟨UInt8.lt_iff_toNat_lt.2 hxy.1, UInt8.lt_iff_toNat_lt.2 hxy.2⟩
  rw [get?, Point.square?, dif_neg h, Option.map_none]

/-- Every board is read back from its text. A text is read if and only if it is 121 digits from `0`
to `5`. It is then the text of the board, and the digits are those of the squares row by row, with
nothing to be found off the board. -/
theorem ofDigits?_playfield :
    (∀ b : Board, ofDigits? b.digits = some b) ∧
    (∀ s : String, (∃ b, ofDigits? s = some b) ↔
      s.length = 121 ∧ ∀ c ∈ s.toList, c ∈ ['0', '1', '2', '3', '4', '5']) ∧
    ∀ (s : String) (b : Board), ofDigits? s = some b → b.digits = s ∧
      (∀ x y : UInt8, x < 11 → y < 11 → ∃ d c, s.toList[11 * y.toNat + x.toNat]? = some d ∧
        Cell.ofDigit? d = some c ∧ b.get? ⟨x, y⟩ = some c) ∧
      ∀ x y : UInt8, ¬ (x < 11 ∧ y < 11) → b.get? ⟨x, y⟩ = none := by
  refine ⟨ofDigits?_digits, fun s => ⟨?_, ?_⟩, fun s b h => ?_⟩
  · rintro ⟨b, h⟩
    obtain rfl := ofDigits?_eq_some_iff.1 h
    exact ⟨b.length_digits, fun c hc => Cell.exists_digit_iff.1 (exists_digit_of_mem hc)⟩
  · rintro ⟨hlength, hs⟩
    obtain ⟨b, rfl⟩ := exists_digits hlength hs
    exact ⟨b, ofDigits?_digits b⟩
  · obtain rfl := ofDigits?_eq_some_iff.1 h
    refine ⟨rfl, fun x y hx hy => ?_, fun x y hxy => b.get?_eq_none hxy⟩
    obtain ⟨c, hget, hdigit⟩ := b.get?_of_lt hx hy
    exact ⟨c.digit, c, hdigit, Cell.ofDigit?_digit c, hget⟩

/-- Columns and rows are told apart on a board that is not symmetric. -/
theorem ofDigits?_playfield_one_piece :
    let b : Board := bare.set ⟨10, 7⟩ .king
    ofDigits? b.digits = some b ∧
      (∃ d c, b.digits.toList[87]? = some d ∧ Cell.ofDigit? d = some c ∧
        b.get? ⟨10, 7⟩ = some c) ∧
      b.get? ⟨10, 7⟩ = some .king ∧ b.get? ⟨7, 10⟩ = some .empty ∧ b.get? ⟨10, 11⟩ = none := by
  intro b
  obtain ⟨hread, -, hwritten⟩ := ofDigits?_playfield
  obtain ⟨-, hon, hoff⟩ := hwritten _ _ (hread b)
  exact ⟨hread b, hon 10 7 (by decide) (by decide), by decide +kernel, by decide +kernel,
    hoff 10 11 (by decide)⟩

end Board

end Tafl
