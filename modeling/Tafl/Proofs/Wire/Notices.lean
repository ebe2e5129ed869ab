import Mathlib.Data.List.Basic
import Tafl.Proofs.Wire.Framing
import Tafl.Proofs.Wire.MoveDigits
import Tafl.Wire.Notice

/-! # Reading the stream of the server

Keys are read as they are written (`ofBare?_eq_some_iff`, `ofKeyed?_eq_some_iff`), so a notice is
read back from its payload and from nothing else. If its value has no closing brace, each of its
frames is found wherever it stands (`parse_frame_append`). Between the frames there may be anything
that opens no frame, and frames that are no notices. Main statement: `parse_stream`. -/

namespace Tafl

namespace Frame

theorem closedPayloads_go_inside {p : List Char} (hp : '}' ∉ p) (acc r : List Char) :
    closedPayloads.go (some acc) (p ++ r) = closedPayloads.go (some (p.reverse ++ acc)) r := by
  induction p generalizing acc with
  | nil => rfl
  | cons c p ih =>
    have hc : c ≠ '}' := fun e => hp (by simp [e])
    rw [List.cons_append, closedPayloads.go, if_neg hc, ih fun h => hp (by simp [h])]
    simp

/-- A frame ends with its first closing brace, and reading goes on behind it. -/
theorem closedPayloads_enclose_append {p : List Char} (hp : '}' ∉ p) (r : List Char) :
    closedPayloads (enclose p ++ r) = p :: closedPayloads r := by
  have hs : enclose p ++ r = '{' :: (p ++ '}' :: r) := by simp [enclose]
  rw [closedPayloads, hs, closedPayloads.go, if_pos rfl, closedPayloads_go_inside hp,
    closedPayloads.go, if_pos rfl, List.append_nil, List.reverse_reverse, closedPayloads]

/-- A text that opens no frame is skipped. -/
theorem closedPayloads_append {s : List Char} (hs : '{' ∉ s) (r : List Char) :
    closedPayloads (s ++ r) = closedPayloads r := by
  induction s with
  | nil => rfl
  | cons c s ih =>
    have hc : c ≠ '{' := fun e => hs (by simp [e])
    have ih := ih fun h => hs (by simp [h])
    rw [closedPayloads] at ih ⊢
    rw [List.cons_append, closedPayloads.go, if_neg hc, ih]

/-- A frame that does not end has no payload. -/
theorem closedPayloads_partial {q : List Char} (hq : '}' ∉ q) : closedPayloads ('{' :: q) = [] := by
  have := closedPayloads_go_inside hq [] []
  rw [List.append_nil] at this
  rw [closedPayloads, closedPayloads.go, if_pos rfl, this]
  rfl

end Frame

namespace Notice
variable {n : Notice}

/-! ### One notice -/

/-- Nothing in the value would end the frame, and a move has the eight digits that are read. -/
def IsClean : Notice → Prop
  | playfield value | opponentName value | chat value => '}' ∉ value.toList
  | opponentMove m => m.IsShort
  | _ => True

theorem toList_frame (n : Notice) : n.frame.toList = Frame.enclose n.payload.toList :=
  Frame.toList_wrap _

theorem key_safe (n : Notice) : ':' ∉ n.key.toList ∧ Frame.IsPlain n.key.toList := by
  cases n <;> exact ⟨by simp [key], by simp [key, Frame.IsPlain]⟩

theorem IsClean.value (h : n.IsClean) {v : String} (hv : n.value? = some v) : '}' ∉ v.toList := by
  cases n with
  | opponentMove m =>
    obtain rfl := Option.some.inj hv
    intro hc
    have := h.isDigit_of_mem_digits hc
    simp at this
  | _ => cases hv <;> exact h

theorem toList_payload (n : Notice) : n.payload.toList = n.key.toList ++
    n.value?.elim [] (':' :: ·.toList) := by
  unfold payload
  cases n.value? <;> simp

theorem IsClean.payload (h : n.IsClean) : '}' ∉ n.payload.toList := by
  rw [toList_payload, List.mem_append, not_or]
  refine ⟨fun hc => (n.key_safe.2 _ hc).2 rfl, ?_⟩
  cases hv : n.value? with
  | none => simp
  | some v => simpa using h.value hv

/-- A move has the eight digits that are read. -/
def IsReadable : Notice → Prop
  | opponentMove m => m.IsShort
  | _ => True

theorem IsClean.isReadable (h : n.IsClean) : n.IsReadable := by
  cases n with
  | opponentMove m => exact h
  | _ => trivial

/-- The keys with a value are read as they are written. -/
theorem ofKeyed?_eq_some_iff {key value : String} : ofKeyed? key value = some n ↔
    n.key = key ∧ n.value? = some value ∧ n.IsReadable := by
  constructor
  · intro h
    unfold ofKeyed? at h
    split at h
    case h_3 =>
      obtain ⟨m, hm, rfl⟩ := Option.map_eq_some_iff.1 h
      obtain ⟨hshort, hdigits⟩ := Move.digits_of_toOption_ofDigits? hm
      exact ⟨rfl, congrArg some hdigits, hshort⟩
    case h_5 => cases h
    all_goals
      obtain rfl := Option.some.inj h
      exact ⟨rfl, rfl, trivial⟩
  · rintro ⟨rfl, hvalue, hn⟩
    cases n with
    | opponentMove m =>
      obtain rfl := Option.some.inj hvalue
      simp [ofKeyed?, key, Move.IsShort.ofDigits?_digits hn, Except.toOption]
    | _ => cases hvalue <;> rfl

/-- The payloads of a ping and a pong are those of no other notice. -/
theorem toList_payload_ne (hping : n ≠ ping) (hpong : n ≠ pong) :
    n.payload.toList ≠ ['?'] ∧ n.payload.toList ≠ ['!'] := by
  cases n with
  | ping => exact absurd rfl hping
  | pong => exact absurd rfl hpong
  | _ => simp [toList_payload, key]

theorem IsReadable.ofPayload?_payload (h : n.IsReadable) :
    ofPayload? n.payload.toList = some n := by
  by_cases hping : n = ping
  · subst hping
    rfl
  by_cases hpong : n = pong
  · subst hpong
    rfl
  obtain ⟨hask, hanswer⟩ := toList_payload_ne hping hpong
  rw [ofPayload?, if_neg hask, if_neg hanswer, toList_payload]
  cases hv : n.value? with
  | none =>
    simp only [Option.elim_none, List.append_nil, Text.cut_of_not_mem n.key_safe.1,
      String.ofList_toList]
    exact ofBare?_eq_some_iff.2 ⟨rfl, hv, hping, hpong⟩
  | some v =>
    simp only [Option.elim_some, Text.cut_append_cons _ n.key_safe.1, String.ofList_toList]
    exact ofKeyed?_eq_some_iff.2 ⟨rfl, hv, h⟩

/-- What is read as a notice is written as it was. -/
theorem payload_of_ofPayload? {p : List Char} (h : ofPayload? p = some n) :
    n.payload.toList = p ∧ n.IsReadable := by
  unfold ofPayload? at h
  split at h
  · rename_i hask
    obtain rfl := Option.some.inj h
    exact ⟨hask.symm, trivial⟩
  split at h
  · rename_i hanswer
    obtain rfl := Option.some.inj h
    exact ⟨hanswer.symm, trivial⟩
  have hp := Text.cut_join ':' p
  rw [toList_payload]
  split at h
  · rename_i key value hcut
    obtain ⟨hkey, hvalue, hn⟩ := ofKeyed?_eq_some_iff.1 h
    rw [hcut] at hp
    rw [hkey, hvalue, ← hp]
    exact ⟨by simp, hn⟩
  · rename_i key hcut
    obtain ⟨hkey, hvalue, -, -⟩ := ofBare?_eq_some_iff.1 h
    rw [hcut] at hp
    rw [hkey, hvalue, ← hp]
    refine ⟨by simp, ?_⟩
    cases n with
    | opponentMove m => cases hvalue
    | _ => trivial

/-! ### Frames and what stands between them -/

/-- A text without notices: it opens no frame, or only whole frames that are no notices. -/
inductive IsGap : List Char → Prop
  | plain {s} (opens : '{' ∉ s) : IsGap s
  | unknown {s p r} (opens : '{' ∉ s) (closes : '}' ∉ p) (none : ofPayload? p = none)
      (rest : IsGap r) : IsGap (s ++ Frame.enclose p ++ r)

/-- Nothing, or a frame that does not end. -/
def IsPartial (s : List Char) : Prop := s = [] ∨ ∃ q, s = '{' :: q ∧ '}' ∉ q

theorem IsGap.parse_append {s : List Char} (h : IsGap s) (r : List Char) :
    parse (s ++ r) = parse r := by
  induction h with
  | plain hs => rw [parse, Frame.closedPayloads_append hs, parse]
  | unknown hs hp hnone _ ih =>
    rw [List.append_assoc, List.append_assoc, parse, Frame.closedPayloads_append hs,
      Frame.closedPayloads_enclose_append hp, List.filterMap_cons_none hnone, ← parse, ih]

theorem IsClean.parse_frame_append (h : n.IsClean) (r : List Char) :
    parse (n.frame.toList ++ r) = n :: parse r := by
  rw [toList_frame, parse, Frame.closedPayloads_enclose_append h.payload,
    List.filterMap_cons_some h.isReadable.ofPayload?_payload, parse]

theorem IsPartial.parse_eq_nil {s : List Char} (h : IsPartial s) : parse s = [] := by
  rcases h with rfl | ⟨q, rfl, hq⟩
  · rfl
  · rw [parse, Frame.closedPayloads_partial hq, List.filterMap_nil]

/-- The frames of notices are read one after the other, whatever follows them. -/
theorem parse_frames_append {ns : List Notice} (h : ∀ n ∈ ns, n.IsClean) (r : List Char) :
    parse ((String.join (ns.map frame)).toList ++ r) = ns ++ parse r := by
  induction ns with
  | nil => rfl
  | cons n ns ih =>
    have hn := h n (by simp)
    rw [List.map_cons, String.join_cons, String.toList_append, List.append_assoc,
      hn.parse_frame_append, ih fun m hm => h m (by simp [hm]), List.cons_append]

/-- The frames of notices, each followed by some text, after some text. -/
def stream (first : String) (ns : List (Notice × String)) : String :=
  first ++ String.join (ns.map fun n => n.1.frame ++ n.2)

/-- The notices of a stream are read back in order, whatever stands between their frames that is no
notice, and although the last frame may be cut off. -/
theorem parse_stream {first : String} {ns : List (Notice × String)} {last : String}
    (hfirst : IsGap first.toList) (hns : ∀ n ∈ ns, n.1.IsClean ∧ IsGap n.2.toList)
    (hlast : IsPartial last.toList) :
    parse (stream first ns ++ last).toList = ns.map Prod.fst := by
  rw [stream, String.toList_append, String.toList_append, List.append_assoc, hfirst.parse_append]
  induction ns with
  | nil => exact hlast.parse_eq_nil
  | cons n ns ih =>
    obtain ⟨hclean, hgap⟩ := hns n (by simp)
    rw [List.map_cons, String.join_cons, String.toList_append, String.toList_append,
      List.append_assoc, List.append_assoc, hclean.parse_frame_append, hgap.parse_append,
      ih fun m hm => hns m (by simp [hm]), List.map_cons]

/-- A burst with a stray brace, a frame of no known key and one that is cut off. -/
theorem parse_stream_burst :
    parse (stream "\r\n\x7d" [(.game, ""), (.opponentMove ⟨⟨3, 0⟩, ⟨3, 1⟩⟩, "\x7bunknown:\x7b\x7d"),
      (.chat "gl: \x7bhf", "")] ++ "\x7bpartial").toList =
      [.game, .opponentMove ⟨⟨3, 0⟩, ⟨3, 1⟩⟩, .chat "gl: \x7bhf"] := by
  have hmove : Move.IsShort ⟨⟨3, 0⟩, ⟨3, 1⟩⟩ := by decide
  have hchat : '}' ∉ "gl: \x7bhf".toList := by decide
  have hunknown : IsGap "\x7bunknown:\x7b\x7d".toList :=
    .unknown (s := []) (p := "unknown:\x7b".toList) (r := []) (by decide) (by decide) (by decide)
      (.plain (by decide))
  refine parse_stream (.plain (by decide)) ?_ (.inr ⟨"partial".toList, by decide, by decide⟩)
  simp only [List.forall_mem_cons, List.not_mem_nil, false_implies, implies_true, and_true]
  exact ⟨⟨trivial, .plain (by decide)⟩, ⟨hmove, hunknown⟩, hchat, .plain (by decide)⟩

end Notice

end Tafl
