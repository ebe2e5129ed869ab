import Tafl.Proofs.Wire.Notices

/-! # One spelling for each notice

A payload that is read as a notice is the payload of that notice, character for character
(`Notice.payload_of_ofPayload?`). So whatever is picked out of a text stands there as it would be
written (`Notice.exists_stream`). Main statement: `Notice.parse_spelled`. -/

namespace Tafl

namespace Frame

/-- A text is the payloads found in it, each in its frame and with what is skipped behind it, after
what is skipped first. -/
theorem closedPayloads_go_eq {under : Option (List Char)} {s : List Char}
    (hu : ∀ p ∈ under, '}' ∉ p) : ∃ (first : List Char) (fs : List (List Char × List Char)),
      fs.map Prod.fst = closedPayloads.go under s ∧ (∀ f ∈ fs, '}' ∉ f.1) ∧
        opened under ++ s = first ++ fs.flatMap fun f => enclose f.1 ++ f.2 := by
  fun_induction closedPayloads.go under s with
  | case1 under => exact ⟨opened under, [], rfl, by simp, by simp⟩
  | case2 c r ih =>
    obtain ⟨first, fs, hfs, hclosed, heq⟩ := ih (by split <;> simp)
    by_cases hc : c = '{'
    · subst hc
      exact ⟨first, fs, hfs, hclosed, by simpa [opened] using heq⟩
    · rw [if_neg hc] at heq
      exact ⟨c :: first, fs, hfs, hclosed, by simpa [opened] using heq⟩
  | case3 p r ih =>
    -- the frame under way is complete, and what is skipped next stands behind it
    obtain ⟨first, fs, hfs, hclosed, heq⟩ := ih (by simp)
    have heq : r = first ++ fs.flatMap fun f => enclose f.1 ++ f.2 := heq
    refine ⟨[], (p.reverse, first) :: fs, by rw [List.map_cons, hfs], ?_, ?_⟩
    · simpa using ⟨hu p rfl, fun a b => hclosed (a, b)⟩
    · rw [heq]
      simp [opened, enclose]
  | case4 p c r hc ih =>
    obtain ⟨first, fs, hfs, hclosed, heq⟩ := ih (by simpa using ⟨Ne.symm hc, hu p rfl⟩)
    exact ⟨first, fs, hfs, hclosed, by simpa [opened] using heq⟩

theorem closedPayloads_eq (s : List Char) :
    ∃ (first : List Char) (fs : List (List Char × List Char)),
      fs.map Prod.fst = closedPayloads s ∧ (∀ f ∈ fs, '}' ∉ f.1) ∧
        s = first ++ fs.flatMap fun f => enclose f.1 ++ f.2 :=
  closedPayloads_go_eq (by simp)

end Frame

namespace Notice
variable {n : Notice} {p : List Char}

theorem frame_of_ofPayload? (h : ofPayload? p = some n) : n.frame.toList = Frame.enclose p := by
  rw [toList_frame, (payload_of_ofPayload? h).1]

/-! ### The notices of a text -/

/-- The notices that are found in a text stand there one after the other, each in its frame. -/
theorem exists_stream (s : String) : ∃ (first : String) (ns : List (Notice × String)),
    s = stream first ns ∧ ns.map Prod.fst = parse s.toList := by
  obtain ⟨first, fs, hfs, -, heq⟩ := Frame.closedPayloads_eq s.toList
  rw [parse, ← hfs, ← String.ofList_toList (s := s), heq]
  clear hfs heq
  induction fs generalizing first with
  | nil => exact ⟨String.ofList first, [], by simp [stream], rfl⟩
  | cons f fs ih =>
    obtain ⟨p, gap⟩ := f
    cases hn : ofPayload? p with
    | none =>
      -- the frame is none of a notice, and is skipped with what stands around it
      obtain ⟨first', ns, hs, hns⟩ := ih (first ++ Frame.enclose p ++ gap)
      refine ⟨first', ns, by rw [← hs]; simp, ?_⟩
      rw [hns, List.map_cons, List.filterMap_cons_none hn]
    | some n =>
      obtain ⟨gap', ns, hs, hns⟩ := ih gap
      refine ⟨String.ofList first, (n, gap') :: ns, String.toList_inj.1 ?_, ?_⟩
      · have hs := congrArg String.toList hs
        simp only [stream, String.toList_append, String.toList_ofList] at hs
        simp [stream, frame_of_ofPayload? hn, hs]
      · rw [List.map_cons, hns, List.map_cons, List.filterMap_cons_some hn]

/-- What has been read and is written again is read again. -/
theorem parse_frames_parse (s : List Char) :
    parse (String.join ((parse s).map frame)).toList = parse s := by
  obtain ⟨first, fs, hfs, hclosed, -⟩ := Frame.closedPayloads_eq s
  have hclosed : ∀ p ∈ Frame.closedPayloads s, '}' ∉ p := by
    rw [← hfs]
    simpa using hclosed
  rw [show parse s = (Frame.closedPayloads s).filterMap ofPayload? from rfl]
  generalize Frame.closedPayloads s = ps at hclosed
  induction ps with
  | nil => rfl
  | cons p ps ih =>
    obtain ⟨hp, hps⟩ := List.forall_mem_cons.1 hclosed
    cases hn : ofPayload? p with
    | none =>
      rw [List.filterMap_cons_none hn]
      exact ih hps
    | some n =>
      rw [List.filterMap_cons_some hn, List.map_cons, String.join_cons, String.toList_append,
        frame_of_ofPayload? hn, parse, Frame.closedPayloads_enclose_append hp,
        List.filterMap_cons_some hn, ← parse, ih hps]

/-- A payload that is a notice is written back as it was, so no two payloads are the same notice.
What is picked out of a text stands there in its frame, in order and without overlaps, whatever else
there is; written again, it is read again. -/
theorem parse_spelled :
    (∀ (p : String) (n : Notice), ofPayload? p.toList = some n → n.frame = Frame.wrap p) ∧
    (∀ (p q : String) (n : Notice), ofPayload? p.toList = some n → ofPayload? q.toList = some n →
      p = q) ∧
    ∀ s : String,
      (∃ (first : String) (ns : List (Notice × String)),
        s = stream first ns ∧ ns.map Prod.fst = parse s.toList) ∧
      parse (String.join ((parse s.toList).map frame)).toList = parse s.toList := by
  refine ⟨fun p n h => ?_, fun p q n hp hq => ?_, fun s => ⟨exists_stream s, parse_frames_parse _⟩⟩
  · exact String.toList_inj.1 ((frame_of_ofPayload? h).trans (Frame.toList_wrap p).symm)
  · exact String.toList_inj.1 ((payload_of_ofPayload? hp).1.symm.trans (payload_of_ofPayload? hq).1)

/-- A chat text may hold colons and an opening brace. -/
theorem parse_spelled_stray :
    ofPayload? "chat:a:b \x7b".toList = some (.chat "a:b \x7b") ∧
    (Notice.chat "a:b \x7b").frame = "\x7bchat:a:b \x7b\x7d" ∧
    parse "\x7d\x7bchat:a:b \x7b\x7d\x7bpf\x7d\x7bwin\x7d\x7bwin".toList =
      [.chat "a:b \x7b", .won] ∧
    parse "\x7bchat:a:b \x7b\x7d\x7bwin\x7d".toList = [.chat "a:b \x7b", .won] := by
  obtain ⟨hspelled, -, hread⟩ := parse_spelled
  have hchat : ofPayload? "chat:a:b \x7b".toList = some (.chat "a:b \x7b") := by decide
  have hparse : parse "\x7d\x7bchat:a:b \x7b\x7d\x7bpf\x7d\x7bwin\x7d\x7bwin".toList =
      [.chat "a:b \x7b", .won] := by decide +kernel
  refine ⟨hchat, hspelled _ _ hchat, hparse, ?_⟩
  have hagain := (hread "\x7d\x7bchat:a:b \x7b\x7d\x7bpf\x7d\x7bwin\x7d\x7bwin").2
  rw [hparse] at hagain
  exact hagain

end Notice

end Tafl
