import Tafl.Proofs.Wire.Requests

/-! # Reading what came in at once

The two halves of the codec. `decode_script`: what is written is read back, whatever line breaks
stand between the frames. `decode_faithful`: what is read was written by `frame`, character for
character but for line breaks between frames. And `decode_append`: it does not matter where one read
ends and the next one begins, as long as no frame is cut. -/

namespace Tafl

namespace Request

theorem fromUTF8?_toUTF8 (s : String) : String.fromUTF8? s.toUTF8 = some s := by
  rw [String.fromUTF8?, String.toUTF8_eq_toByteArray, dif_pos s.isValidUTF8]
  rfl

theorem toUTF8_of_fromUTF8? {raw : ByteArray} {text : String}
    (h : String.fromUTF8? raw = some text) : text.toUTF8 = raw := by
  unfold String.fromUTF8? at h
  split at h
  · obtain rfl := Option.some.inj h
    rfl
  · cases h

theorem decode_eq_ok_iff {raw : ByteArray} {rs : List Request} :
    decode raw = .ok rs ↔ raw.size ≤ maxRead ∧ ∃ text : String, text.toUTF8 = raw ∧
      isValid (Frame.stripBreaks text.toList) = true ∧
      parse (Frame.stripBreaks text.toList) = rs := by
  unfold decode
  constructor
  · intro h
    split at h
    · cases h
    · rename_i hsize
      split at h
      · cases h
      · rename_i text htext
        dsimp only at h
        split at h
        · rename_i hvalid
          exact ⟨Nat.not_lt.1 hsize, text, toUTF8_of_fromUTF8? htext, hvalid, Except.ok.inj h⟩
        · cases h
  · rintro ⟨hsize, text, rfl, hvalid, rfl⟩
    rw [if_neg (Nat.not_lt.2 hsize), fromUTF8?_toUTF8]
    exact if_pos hvalid

theorem isValid_frames {rs : List Request} (h : ∀ r ∈ rs, r.IsWellFormed) :
    isValid ((rs.map payload).flatMap Frame.enclose) = true :=
  isValid_iff.2 ⟨rs, h, rfl⟩

theorem stripBreaks_script {first : String} {rs : List (Request × String)}
    (hfirst : Frame.IsBreaks first.toList)
    (hrs : ∀ r ∈ rs, r.1.IsWellFormed ∧ Frame.IsBreaks r.2.toList) :
    Frame.stripBreaks (script first rs).toList =
      ((rs.map Prod.fst).map payload).flatMap Frame.enclose := by
  have hs : (script first rs).toList = first.toList ++
      (rs.map fun r => (r.1.payload, r.2.toList)).flatMap fun f => Frame.enclose f.1 ++ f.2 := by
    simp [script, String.toList_join, List.flatMap_map, toList_frame]
  rw [hs, Frame.stripBreaks_interleave hfirst]
  · simp [Function.comp_def]
  · intro f hf
    obtain ⟨r, hr, rfl⟩ := List.mem_map.1 hf
    exact ⟨(hrs r hr).1.isPlain_payload, (hrs r hr).2⟩

theorem decode_frame {r : Request} (hr : r.IsWellFormed) (hsize : r.frame.toUTF8.size ≤ maxRead) :
    decode r.frame.toUTF8 = .ok [r] := by
  have hs : Frame.stripBreaks r.frame.toList = ([r].map payload).flatMap Frame.enclose := by
    have hscript : script "" [(r, "")] = r.frame := by simp [script]
    rw [← hscript]
    exact stripBreaks_script (by simp [Frame.IsBreaks]) (by simpa [Frame.IsBreaks] using hr)
  have hwf : ∀ x ∈ [r], x.IsWellFormed := by simpa using hr
  rw [decode_eq_ok_iff]
  refine ⟨hsize, r.frame, rfl, ?_, ?_⟩
  · rw [hs]
    exact isValid_frames hwf
  · rw [hs]
    exact parse_frames hwf

/-- A name is never too long to be read. -/
theorem decode_connect {n : String} (hn : (Command.connect n).IsField) :
    decode (frame [.connect n]).toUTF8 = .ok [[.connect n]] := by
  refine decode_frame (.inr (.inr ⟨by simp, by simpa using hn⟩)) ?_
  have hf : frame [.connect n] =
      String.singleton '{' ++ ("conn" ++ ":" ++ n) ++ String.singleton '}' := rfl
  have hname : n.utf8ByteSize ≤ 4 * n.length := Text.utf8ByteSize_le n
  have hconn : "conn".utf8ByteSize = 4 := by decide
  have hcolon : ":".utf8ByteSize = 1 := by decide
  have hopen : (String.singleton '{').utf8ByteSize = 1 := by decide
  have hclose : (String.singleton '}').utf8ByteSize = 1 := by decide
  have hlen : n.length ≤ 20 := hn.2.1
  show (frame [.connect n]).utf8ByteSize ≤ 917
  rw [hf]
  simp only [String.utf8ByteSize_append]
  omega

theorem no_break_of_isValid {s : List Char} (h : isValid s = true) :
    ∀ x ∈ s, Frame.isLineBreak x = false := by
  obtain ⟨rs, hrs, rfl⟩ := isValid_iff.1 h
  intro x hx
  obtain ⟨p, hp, hx⟩ := List.mem_flatMap.1 hx
  obtain ⟨r, hr, rfl⟩ := List.mem_map.1 hp
  simp only [Frame.enclose, List.mem_cons, List.mem_append, List.not_mem_nil, or_false] at hx
  rcases hx with rfl | hx | rfl
  · decide
  · exact ((hrs r hr).mem_payload x hx).2.2
  · decide

theorem parse_lossless {s : List Char} (h : isValid s = true) :
    (∀ r ∈ parse s, r.IsWellFormed) ∧ (String.join ((parse s).map frame)).toList = s := by
  obtain ⟨rs, hrs, rfl⟩ := isValid_iff.1 h
  rw [parse_frames hrs, toList_join_frame]
  exact ⟨hrs, rfl⟩

theorem isWellFormed_of_decode {raw : ByteArray} {rs : List Request} (h : decode raw = .ok rs) :
    ∀ r ∈ rs, r.IsWellFormed := by
  obtain ⟨-, text, -, hvalid, rfl⟩ := decode_eq_ok_iff.1 h
  exact (parse_lossless hvalid).1

/-- Two reads of whole frames are read as one. -/
theorem decode_append {a b : ByteArray} {as bs : List Request} (ha : decode a = .ok as)
    (hb : decode b = .ok bs) (hsize : (a ++ b).size ≤ maxRead) :
    decode (a ++ b) = .ok (as ++ bs) := by
  obtain ⟨-, s, rfl, hs, rfl⟩ := decode_eq_ok_iff.1 ha
  obtain ⟨-, t, rfl, ht, rfl⟩ := decode_eq_ok_iff.1 hb
  obtain ⟨as, has, hsf⟩ := isValid_iff.1 hs
  obtain ⟨bs, hbs, htf⟩ := isValid_iff.1 ht
  have htiles : Frame.tiles? (Frame.stripBreaks s.toList) = some (as.map payload) := by
    rw [hsf]
    refine Frame.tiles?_flatMap fun p hp => ?_
    obtain ⟨r, hr, rfl⟩ := List.mem_map.1 hp
    exact (has r hr).isPlain_payload
  have hst : Frame.stripBreaks (s ++ t).toList =
      ((as ++ bs).map payload).flatMap Frame.enclose := by
    rw [String.toList_append, Frame.stripBreaks_append htiles, hsf, htf, List.map_append,
      List.flatMap_append]
  have hwf : ∀ r ∈ as ++ bs, r.IsWellFormed := fun r hr =>
    (List.mem_append.1 hr).elim (has r) (hbs r)
  rw [hsf, parse_frames has, htf, parse_frames hbs]
  refine decode_eq_ok_iff.2 ⟨hsize, s ++ t, String.toByteArray_append, ?_, ?_⟩
  · rw [hst]
    exact isValid_frames hwf
  · rw [hst]
    exact parse_frames hwf

/-- What is written is read back, with any line breaks before, between and after the frames. -/
theorem decode_script {first : String} {rs : List (Request × String)}
    (hfirst : Frame.IsBreaks first.toList)
    (hrs : ∀ r ∈ rs, r.1.IsWellFormed ∧ Frame.IsBreaks r.2.toList)
    (hsize : (script first rs).toUTF8.size ≤ maxRead) :
    decode (script first rs).toUTF8 = .ok (rs.map Prod.fst) := by
  have hwf : ∀ r ∈ rs.map Prod.fst, r.IsWellFormed := fun r hr => by
    obtain ⟨p, hp, rfl⟩ := List.mem_map.1 hr
    exact (hrs p hp).1
  rw [decode_eq_ok_iff]
  refine ⟨hsize, script first rs, rfl, ?_, ?_⟩
  · rw [stripBreaks_script hfirst hrs]
    exact isValid_frames hwf
  · rw [stripBreaks_script hfirst hrs]
    exact parse_frames hwf

theorem decode_script_three_frames :
    let rs : List (Request × String) :=
      [([.connect "Ada"], "\n"), ([.move ⟨⟨3, 0⟩, ⟨3, 1⟩⟩, .chat "move: \"ça\"!", .leave], ""),
        ([.pong], "\n\r")]
    (∀ r ∈ rs, r.1.IsWellFormed ∧ Frame.IsBreaks r.2.toList) ∧
      (script "\r\n" rs).toUTF8.size ≤ maxRead ∧
      decode (script "\r\n" rs).toUTF8 = .ok (rs.map Prod.fst) := by
  intro rs
  have hwf : ∀ r ∈ rs, r.1.IsWellFormed ∧ Frame.IsBreaks r.2.toList := by
    have hm : Move.IsShort ⟨⟨3, 0⟩, ⟨3, 1⟩⟩ := ⟨by decide, by decide, by decide, by decide⟩
    have hc : (Command.chat "move: \"ça\"!").IsField := by
      simpa using (Field.isChat_iff (s := "move: \"ça\"!".toList)).1 (by decide +kernel)
    have hn : (Command.connect "Ada").IsField := by
      simpa using (Field.isName_iff (s := "Ada".toList)).1 (by decide)
    intro r hr
    rcases List.mem_cons.1 hr with rfl | hr
    · exact ⟨.inr (.inr ⟨by simp, by simpa using hn⟩), Frame.isBreaks_iff.2 (by decide)⟩
    rcases List.mem_cons.1 hr with rfl | hr
    · refine ⟨.inr (.inr ⟨by simp, ?_⟩), Frame.isBreaks_iff.2 (by decide)⟩
      simpa using ⟨hm, hc, trivial⟩
    · obtain rfl := List.mem_singleton.1 hr
      exact ⟨.inr (.inl rfl), Frame.isBreaks_iff.2 (by decide)⟩
  have hsize : (script "\r\n" rs).toUTF8.size ≤ maxRead := by decide +kernel
  exact ⟨hwf, hsize, decode_script (Frame.isBreaks_iff.2 (by decide)) hwf hsize⟩

/-- What is read was there: well-formed requests whose frames are the text, but for line breaks
that stand outside the frames. -/
theorem decode_faithful :
    (∀ (raw : ByteArray) (rs : List Request), decode raw = .ok rs →
      raw.size ≤ maxRead ∧ (∀ r ∈ rs, r.IsWellFormed) ∧ ∃ text : String, text.toUTF8 = raw ∧
        (∀ a b c, text.toList = a ++ '{' :: (b ++ '}' :: c) → '}' ∉ b →
          ∀ x ∈ b, Frame.isLineBreak x = false) ∧
        (String.join (rs.map frame)).toList = text.toList.filter (!Frame.isLineBreak ·)) ∧
    ∀ s : List Char, isValid s = true →
      (∀ r ∈ parse s, r.IsWellFormed) ∧ (String.join ((parse s).map frame)).toList = s := by
  refine ⟨fun raw rs h => ?_, fun s h => parse_lossless h⟩
  obtain ⟨hsize, text, hraw, hvalid, rfl⟩ := decode_eq_ok_iff.1 h
  obtain ⟨hwf, htext⟩ := parse_lossless hvalid
  have hb := no_break_of_isValid hvalid
  refine ⟨hsize, hwf, text, hraw, fun a b c hs hb' x hx => hb x ?_, ?_⟩
  · rw [hs]
    exact Frame.mem_stripBreaks _ hb' hx
  · rw [htext, ← Frame.filter_stripBreaks, List.filter_eq_self.2]
    exact fun x hx => by simp [hb x hx]

theorem decode_faithful_two_frames :
    let text := String.singleton '{' ++ "conn:Ada" ++ String.singleton '}' ++ "\r\n" ++
      String.singleton '{' ++ "chat:a:b" ++ "," ++ "exit" ++ String.singleton '}'
    let rs : List Request := [[.connect "Ada"], [.chat "a:b", .exit]]
    (decode text.toUTF8 = .ok rs ∧ ∀ r ∈ rs, r.IsWellFormed) ∧
      isValid (Frame.stripBreaks text.toList) = true ∧
      (String.join ((parse (Frame.stripBreaks text.toList)).map frame)).toList =
        Frame.stripBreaks text.toList := by
  intro text rs
  have h : decode text.toUTF8 = .ok rs := by decide +kernel
  have hv : isValid (Frame.stripBreaks text.toList) = true := by decide +kernel
  exact ⟨⟨h, (decode_faithful.1 _ _ h).2.1⟩, hv, (decode_faithful.2 _ hv).2⟩

end Request

end Tafl
