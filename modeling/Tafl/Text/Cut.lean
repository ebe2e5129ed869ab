/-! # Cutting a text at the first separator -/

namespace Tafl.Text

/-- What stands before the first `sep`, and what stands behind it if there is one. -/
def cut (sep : Char) (s : List Char) : List Char × Option (List Char) :=
  match s.dropWhile (· ≠ sep) with
  | [] => (s, none)
  | _ :: r => (s.takeWhile (· ≠ sep), some r)

theorem cut_of_not_mem {sep : Char} {s : List Char} (h : sep ∉ s) : cut sep s = (s, none) := by
  have hp : ∀ c ∈ s, decide (c ≠ sep) = true := fun c hc => by
    simpa using fun e : c = sep => h (e ▸ hc)
  have hs : s.dropWhile (fun c => decide (c ≠ sep)) = [] := by
    rw [← List.append_nil s, List.dropWhile_append_of_pos hp, List.dropWhile_nil]
  simp only [cut, hs]

theorem cut_append_cons {sep : Char} {a : List Char} (r : List Char) (h : sep ∉ a) :
    cut sep (a ++ sep :: r) = (a, some r) := by
  have hp : ∀ c ∈ a, decide (c ≠ sep) = true := fun c hc => by
    simpa using fun e : c = sep => h (e ▸ hc)
  simp only [cut, List.takeWhile_append_of_pos hp, List.dropWhile_append_of_pos hp]
  simp

/-- Putting the separator back undoes a cut. -/
theorem cut_join (sep : Char) (s : List Char) :
    (cut sep s).1 ++ (cut sep s).2.elim [] (sep :: ·) = s := by
  have hs := List.takeWhile_append_dropWhile (p := fun d => decide (d ≠ sep)) (l := s)
  unfold cut
  split
  · simp
  · rename_i c r h
    have hc : c = sep := by
      have := List.head?_dropWhile_not (fun d => decide (d ≠ sep)) s
      rw [h] at this
      simpa using this
    rw [h, hc] at hs
    exact hs

end Tafl.Text
