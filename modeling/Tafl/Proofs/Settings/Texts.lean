import Mathlib.Data.List.TakeWhile
import Tafl.Proofs.Wire.Requests
import Tafl.Settings

/-! # Reading back numbers and addresses

Numbers and addresses are read back from what they are written as (`Text.unsigned?_toString`,
`Address.ofText?_text`), and blanks at the ends of a text do not count (`Text.Pads.trim`). -/

namespace Tafl

namespace Text

/-! ### Blanks -/

/-- Whether a text is another one with blanks before it and behind it. -/
def Pads (padded s : String) : Prop :=
  ∃ before after : List Char, (∀ c ∈ before, isBlank c = true) ∧ (∀ c ∈ after, isBlank c = true) ∧
    padded.toList = before ++ s.toList ++ after

theorem dropWhile_of_no_blank {s : List Char} (h : ∀ c ∈ s, isBlank c = false) :
    s.dropWhile isBlank = s :=
  List.dropWhile_eq_self_iff.2 fun hl => by simp [h _ (List.getElem_mem hl)]

theorem Pads.trim {padded s : String} (h : Pads padded s) (hs : ∀ c ∈ s.toList, isBlank c = false) :
    trim padded.toList = s.toList := by
  obtain ⟨before, after, hbefore, hafter, heq⟩ := h
  have hfirst : (s.toList ++ after).dropWhile isBlank =
      if s.toList = [] then [] else s.toList ++ after := by
    have hnil : after.dropWhile isBlank = [] := List.dropWhile_eq_nil_iff.2 hafter
    rw [List.dropWhile_append, dropWhile_of_no_blank hs, hnil]
    simp
  rw [Text.trim, heq, List.append_assoc, List.dropWhile_append_of_pos hbefore, hfirst]
  split
  · rename_i hempty
    rw [hempty]
    rfl
  · have hlast : ∀ c ∈ after.reverse, isBlank c = true := by simpa using hafter
    have hback : ∀ c ∈ s.toList.reverse, isBlank c = false := by simpa using hs
    rw [List.reverse_append, List.dropWhile_append_of_pos hlast, dropWhile_of_no_blank hback,
      List.reverse_reverse]

theorem isBlank_of_isDigit {c : Char} (h : c.isDigit = true) : isBlank c = false := by
  simp only [Char.isDigit, Bool.and_eq_true, decide_eq_true_eq] at h
  have hleast : 48 ≤ c.toNat := UInt32.le_iff_toNat_le.1 h.1
  have hmost : c.toNat ≤ 57 := UInt32.le_iff_toNat_le.1 h.2
  refine eq_false_of_ne_true fun hblank => ?_
  obtain ⟨r, hr, hrange⟩ := Ranges.has_iff.1 hblank
  have apart : ∀ r ∈ blanks, r.2 < 48 ∨ 57 < r.1 := by decide
  have := apart r hr
  omega

/-! ### Numbers -/

theorem isDigit_of_mem_toString {n : Nat} {c : Char} (hc : c ∈ (toString n).toList) :
    c.isDigit = true := by
  rw [Nat.toString_eq_ofList_toDigits, String.toList_ofList] at hc
  exact Nat.isDigit_of_mem_toDigits (by decide) (by decide) hc

theorem unsign_of_isDigit {s : List Char} (h : ∀ c ∈ s, c.isDigit = true) :
    unsigned?.unsign s = s := by
  unfold unsigned?.unsign
  split
  · exact absurd (h '+' (by simp)) (by decide)
  · rfl

/-- A number is read back from its decimal digits. -/
theorem unsigned?_toString {n largest : Nat} (h : n ≤ largest) :
    unsigned? largest (toString n).toList = some n := by
  have hdigit : ∀ c ∈ (toString n).toList, c.isDigit = true :=
    fun c hc => isDigit_of_mem_toString hc
  have hread : digits? (toString n).toList = some n := by
    have hne : (toString n).toList ≠ [] := by
      rw [Nat.toString_eq_ofList_toDigits, String.toList_ofList]
      exact Nat.toDigits_ne_nil
    have hvalue : valueOf (toString n).toList = n := by
      rw [Nat.toString_eq_ofList_toDigits, String.toList_ofList, valueOf,
        ← Nat.ofDigitChars_eq_foldl, Nat.ofDigitChars_ten_toDigits]
    rw [digits?, if_pos ⟨hne, List.all_eq_true.2 hdigit⟩, hvalue]
  rw [unsigned?, unsign_of_isDigit hdigit, hread]
  simp [h]

end Text

namespace Address

theorem byte?_toString (n : UInt8) : byte? (toString n.toNat).toList = some n := by
  have key : ∀ k < 256, byte? (toString k.toUInt8.toNat).toList = some k.toUInt8 := by
    decide +kernel
  exact Move.forall_byte 256 n n.toNat_lt key

/-- An address is four numbers with dots between them. -/
theorem toList_text (x : Address) : x.text.toList =
    ['.'].intercalate ([x.a, x.b, x.c, x.d].map fun n => (toString n.toNat).toList) := by
  simp [text]

theorem ofText?_text (x : Address) : ofText? x.text.toList = some x := by
  have hdot : ∀ part ∈ [x.a, x.b, x.c, x.d].map fun n => (toString n.toNat).toList,
      '.' ∉ part := by
    intro part hpart hdot
    obtain ⟨n, -, rfl⟩ := List.mem_map.1 hpart
    exact absurd (Text.isDigit_of_mem_toString hdot) (by decide)
  rw [ofText?, toList_text, List.splitOn_intercalate '.' hdot (by simp)]
  simp only [List.map_cons, List.map_nil, List.mapM_cons, List.mapM_nil, byte?_toString]
  rfl

theorem isBlank_of_mem_text (x : Address) : ∀ c ∈ x.text.toList, Text.isBlank c = false := by
  rw [toList_text]
  refine Request.forall_mem_intercalate (List.forall_mem_singleton.2 (by decide)) ?_
  intro part hpart c hc
  obtain ⟨n, -, rfl⟩ := List.mem_map.1 hpart
  exact Text.isBlank_of_isDigit (Text.isDigit_of_mem_toString hc)

end Address

end Tafl
