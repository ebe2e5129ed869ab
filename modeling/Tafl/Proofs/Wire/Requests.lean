import Mathlib.Data.List.Basic
import Tafl.Proofs.Wire.Fields
import Tafl.Wire.Request

/-! # Reading and writing requests

`Request.isValid_iff`: a text is valid if and only if it is the frames of well-formed requests, one
after the other, and `parse_frames` reads them back. Both go from the payloads of single requests
to lists of them. -/

namespace Tafl

namespace Request

/-- A lone ping, a lone pong, or one or more fields. -/
def IsWellFormed (r : Request) : Prop :=
  r = [.ping] ∨ r = [.pong] ∨ r ≠ [] ∧ ∀ c ∈ r, c.IsField

/-- What stands between the braces of the frame of a request. -/
def payload (r : Request) : List Char := [','].intercalate (r.map (·.field.toList))

/-- The frames of requests, each followed by some text, after some text. -/
def script (first : String) (rs : List (Request × String)) : String :=
  first ++ String.join (rs.map fun r => r.1.frame ++ r.2)

theorem toList_frame (r : Request) : r.frame.toList = Frame.enclose r.payload := by
  simp [frame, Frame.toList_wrap, payload, Function.comp_def]

theorem toList_join_frame (rs : List Request) :
    (String.join (rs.map frame)).toList = (rs.map payload).flatMap Frame.enclose := by
  simp [String.toList_join, List.flatMap_map, toList_frame]

theorem forall_mem_intercalate {α : Type} {P : α → Prop} {sep : List α} {ls : List (List α)}
    (hsep : ∀ a ∈ sep, P a) (h : ∀ l ∈ ls, ∀ a ∈ l, P a) : ∀ a ∈ sep.intercalate ls, P a := by
  induction ls with
  | nil => simp
  | cons l ls ih =>
    have ih := ih fun m hm => h m (by simp [hm])
    by_cases hls : ls = []
    · simpa [hls] using h
    · intro a ha
      rw [List.intercalate_cons_of_ne_nil hls, List.mem_append, List.mem_append] at ha
      rcases ha with (ha | ha) | ha
      · exact h l (by simp) a ha
      · exact hsep a ha
      · exact ih a ha

/-- A list of values of a function is the list of its values on a list. -/
theorem exists_map_eq {α β : Type} {P : α → Prop} {f : α → β} {bs : List β}
    (h : ∀ b ∈ bs, ∃ a, P a ∧ f a = b) : ∃ as : List α, (∀ a ∈ as, P a) ∧ as.map f = bs := by
  induction bs with
  | nil => exact ⟨[], by simp, rfl⟩
  | cons b bs ih =>
    obtain ⟨a, ha, rfl⟩ := h b (by simp)
    obtain ⟨as, has, rfl⟩ := ih fun c hc => h c (by simp [hc])
    exact ⟨a :: as, by simpa using ⟨ha, has⟩, rfl⟩

/-! ### One payload -/

namespace IsWellFormed
variable {r : Request}

theorem mem_payload (h : r.IsWellFormed) :
    ∀ c ∈ r.payload, c ≠ '{' ∧ c ≠ '}' ∧ Frame.isLineBreak c = false := by
  rcases h with rfl | rfl | ⟨-, h⟩
  · simp [payload, Command.field, Frame.isLineBreak]
  · simp [payload, Command.field, Frame.isLineBreak]
  · refine forall_mem_intercalate (by simp [Frame.isLineBreak]) fun f hf c hc => ?_
    obtain ⟨d, hd, rfl⟩ := List.mem_map.1 hf
    have hi := (h d hd).isInner_field
    exact ⟨(hi.isPlain c hc).1, (hi.isPlain c hc).2, hi.no_break c hc⟩

theorem isPlain_payload (h : r.IsWellFormed) : Frame.IsPlain r.payload :=
  fun c hc => ⟨(h.mem_payload c hc).1, (h.mem_payload c hc).2.1⟩

theorem splitOn_payload (hr : r ≠ []) (h : ∀ c ∈ r, c.IsField) :
    r.payload.splitOn ',' = r.map (·.field.toList) := by
  refine List.splitOn_intercalate ',' (fun f hf => ?_) (by simpa using hr)
  obtain ⟨c, hc, rfl⟩ := List.mem_map.1 hf
  exact (h c hc).isInner_field.not_mem_comma

theorem isPayload_payload (h : r.IsWellFormed) : isPayload r.payload = true := by
  rcases h with rfl | rfl | ⟨hr, h⟩
  · rfl
  · rfl
  · have hall : (r.payload.splitOn ',').all Field.isWellFormed = true := by
      rw [splitOn_payload hr h, List.all_map, List.all_eq_true]
      exact fun c hc => (h c hc).isWellFormed_field
    simp [isPayload, hall]

theorem ofPayload_payload (h : r.IsWellFormed) : ofPayload r.payload = r := by
  rcases h with rfl | rfl | ⟨hr, h⟩
  · rfl
  · rfl
  · have hs := splitOn_payload hr h
    have hne {q : Char} (hq : [q].splitOn ',' = [[q]]) (hn : Command.ofField? [q] = none) :
        r.payload ≠ [q] := fun e => by
      rw [e, hq] at hs
      obtain ⟨c, hc, hf⟩ := List.map_eq_singleton_iff.1 hs.symm
      rw [← hf, (h c (by simp [hc])).ofField?_field] at hn
      cases hn
    rw [ofPayload, if_neg (hne (by decide) (by decide)), if_neg (hne (by decide) (by decide)), hs,
      List.filterMap_map]
    exact (List.filterMap_congr fun c hc => (h c hc).ofField?_field).trans List.filterMap_some

end IsWellFormed

theorem exists_payload {p : List Char} (h : isPayload p = true) :
    ∃ r : Request, r.IsWellFormed ∧ r.payload = p := by
  simp only [isPayload, Bool.or_eq_true, decide_eq_true_eq, List.all_eq_true] at h
  rcases h with (rfl | rfl) | h
  · exact ⟨[.ping], .inl rfl, rfl⟩
  · exact ⟨[.pong], .inr (.inl rfl), rfl⟩
  · obtain ⟨r, hr, hfs⟩ : ∃ r : Request, (∀ c ∈ r, c.IsField) ∧
        r.map (·.field.toList) = p.splitOn ',' := exists_map_eq fun f hf => by
      obtain ⟨c, hc, rfl⟩ := Field.isWellFormed_iff.1 (h f hf)
      exact ⟨c, hc, rfl⟩
    refine ⟨r, .inr (.inr ⟨?_, hr⟩), by rw [payload, hfs, List.intercalate_splitOn]⟩
    rintro rfl
    exact List.splitOn_ne_nil ',' p hfs.symm

/-! ### Whole texts -/

theorem parse_frames {rs : List Request} (h : ∀ r ∈ rs, r.IsWellFormed) :
    parse ((rs.map payload).flatMap Frame.enclose) = rs := by
  have hp : ∀ p ∈ rs.map payload, Frame.IsPlain p := fun p hp => by
    obtain ⟨r, hr, rfl⟩ := List.mem_map.1 hp
    exact (h r hr).isPlain_payload
  rw [parse, Frame.payloads_flatMap hp, List.map_map]
  exact (List.map_congr_left fun r hr => (h r hr).ofPayload_payload).trans (List.map_id rs)

/-- The valid texts are the frames of well-formed requests. -/
theorem isValid_iff {s : List Char} :
    isValid s = true ↔ ∃ rs : List Request, (∀ r ∈ rs, r.IsWellFormed) ∧
      s = (rs.map payload).flatMap Frame.enclose := by
  simp only [isValid, Option.any_eq_true, Frame.tiles?_eq_some_iff, List.all_eq_true]
  constructor
  · rintro ⟨ps, ⟨-, rfl⟩, hps⟩
    obtain ⟨rs, hrs, rfl⟩ := exists_map_eq fun p hp => exists_payload (hps p hp)
    exact ⟨rs, hrs, rfl⟩
  · rintro ⟨rs, hrs, rfl⟩
    refine ⟨rs.map payload, ⟨fun p hp => ?_, rfl⟩, fun p hp => ?_⟩
    · obtain ⟨r, hr, rfl⟩ := List.mem_map.1 hp
      exact (hrs r hr).isPlain_payload
    · obtain ⟨r, hr, rfl⟩ := List.mem_map.1 hp
      exact (hrs r hr).isPayload_payload

end Request

end Tafl
