import Tafl.Proofs.Wire.Decode

/-! # Reading without checking

`Request.parse` looks for fields, not at what stands in them. A text that was checked first has no
other commands than those of the grammar. In other texts, the names and the chat texts that are read
may be of any length and have any characters but commas and braces (`Request.mem_parse_iff`). -/

namespace Tafl

namespace Frame

theorem isPlain_of_mem_payloads_go {under : Option (List Char)} {s p : List Char}
    (hu : ∀ q ∈ under, IsPlain q) (hp : p ∈ payloads.go under s) : IsPlain p := by
  fun_induction payloads.go under s with
  | case1 => simp at hp
  | case2 c r ih => exact ih (by split <;> simp [IsPlain]) hp
  | case3 q r ih => exact ih (by simp [IsPlain]) hp
  | case4 q r _ ih =>
    rcases List.mem_cons.1 hp with rfl | hp
    · exact (hu q rfl).reverse
    · exact ih (by simp) hp
  | case5 q c r hopen hclose ih =>
    refine ih (fun q' hq' => ?_) hp
    obtain rfl := Option.some.inj hq'
    exact List.forall_mem_cons.2 ⟨⟨hopen, hclose⟩, hu q rfl⟩

theorem isPlain_of_mem_payloads {s p : List Char} (hp : p ∈ payloads s) : IsPlain p :=
  isPlain_of_mem_payloads_go (by simp) hp

theorem payloads_enclose {p : List Char} (hp : IsPlain p) : payloads (enclose p) = [p] := by
  have hps : ∀ q ∈ [p], IsPlain q := by simpa using hp
  simpa using payloads_flatMap hps

end Frame

namespace Command

/-- A text that fits between the commas and the braces of a frame. -/
def FitsIn (s : List Char) : Prop := ∀ c ∈ s, c ≠ ',' ∧ c ≠ '{' ∧ c ≠ '}'

instance : DecidablePred FitsIn := List.decidableBAll _

theorem FitsIn.append {s t : List Char} (hs : FitsIn s) (ht : FitsIn t) : FitsIn (s ++ t) :=
  fun c hc => (List.mem_append.1 hc).elim (hs c) (ht c)

theorem FitsIn.isPlain {s : List Char} (hs : FitsIn s) : Frame.IsPlain s := fun c hc => (hs c hc).2

theorem FitsIn.splitOn {s : List Char} (hs : FitsIn s) : s.splitOn ',' = [s] :=
  List.splitOn_eq_singleton fun hc => (hs _ hc).1 rfl

/-- The commands that can be read where nobody has checked the text. -/
def IsLoose : Command → Prop
  | connect value | chat value => FitsIn value.toList
  | move m => m.IsShort
  | ping | pong | leave | exit => True

variable {c : Command} {f : List Char}

theorem fitsIn_key (k : FieldKey) : FitsIn k.text.toList := by
  cases k <;> decide

theorem IsLoose.fitsIn_field (h : c.IsLoose) : FitsIn c.field.toList := by
  have keyed (k : FieldKey) {value : String} (hv : FitsIn value.toList) :
      FitsIn (k.text ++ ":" ++ value).toList := by
    rw [toList_field_keyed]
    exact (fitsIn_key k).append (List.forall_mem_cons.2 ⟨by decide, hv⟩)
  cases c with
  | ping | pong => decide
  | connect name => exact keyed .connect h
  | move m =>
    refine keyed .move fun c hc => ?_
    have hdigit := Move.IsShort.isDigit_of_mem_digits h hc
    refine ⟨?_, ?_, ?_⟩ <;>
    · rintro rfl
      cases hdigit
  | leave => exact fitsIn_key .leave
  | chat text => exact keyed .chat h
  | exit => exact fitsIn_key .exit

/-- What is read as a field is written as it was. -/
theorem field_of_ofField? (h : ofField? f = some c) : c.field.toList = f := by
  have hf := Text.cut_join ':' f
  unfold ofField? at h
  split at h
  rename_i key value hcut
  simp only [hcut] at hf
  split at h
  · rename_i v hk
    obtain rfl := Option.some.inj h
    simp [Command.field, ← hf, FieldKey.eq_toList_text hk]
  · rename_i v hk
    obtain ⟨m, hm, rfl⟩ := Option.map_eq_some_iff.1 h
    have hdigits := (Move.digits_of_toOption_ofDigits? hm).2
    simp [Command.field, hdigits, ← hf, FieldKey.eq_toList_text hk]
  · rename_i v hk
    obtain rfl := Option.some.inj h
    simp [Command.field, ← hf, FieldKey.eq_toList_text hk]
  · rename_i hk
    obtain rfl := Option.some.inj h
    simp [Command.field, ← hf, FieldKey.eq_toList_text hk]
  · rename_i hk
    obtain rfl := Option.some.inj h
    simp [Command.field, ← hf, FieldKey.eq_toList_text hk]
  · cases h

theorem isShort_of_ofField? {m : Move} (h : ofField? f = some (.move m)) : m.IsShort := by
  unfold ofField? at h
  split at h
  split at h
  · cases h
  · obtain ⟨m', hm, hmm⟩ := Option.map_eq_some_iff.1 h
    obtain rfl := Command.move.inj hmm
    exact (Move.digits_of_toOption_ofDigits? hm).1
  all_goals cases h

theorem isLoose_of_ofField? (h : ofField? f = some c) (hf : FitsIn f) : c.IsLoose := by
  have hfield := field_of_ofField? h
  cases c with
  | connect value | chat value =>
    rw [← hfield] at hf
    intro d hd
    exact hf d (by simp [field, hd])
  | move m => exact isShort_of_ofField? h
  | ping | pong | leave | exit => trivial

/-- A field is read as the command that it is the field of. -/
theorem IsLoose.ofField?_field (h : c.IsLoose) (hping : c ≠ .ping) (hpong : c ≠ .pong) :
    ofField? c.field.toList = some c := by
  cases c with
  | ping => exact absurd rfl hping
  | pong => exact absurd rfl hpong
  | connect name | chat text =>
    simp only [field, ofField?, IsField.cut_keyed, String.ofList_toList, FieldKey.ofText?_text]
  | move m => exact IsField.ofField?_field (c := .move m) h
  | leave => exact IsField.ofField?_field (c := .leave) trivial
  | exit => exact IsField.ofField?_field (c := .exit) trivial

end Command

theorem mem_of_mem_splitOn {α : Type} [DecidableEq α] {a : α} {s f : List α}
    (hf : f ∈ s.splitOn a) : ∀ x ∈ f, x ∈ s ∧ x ≠ a := by
  induction s generalizing f with
  | nil =>
    rw [List.splitOn_nil, List.mem_singleton] at hf
    simp [hf]
  | cons c s ih =>
    rw [List.splitOn_cons_eq_if_modifyHead] at hf
    split at hf
    · rcases List.mem_cons.1 hf with rfl | hf
      · simp
      · exact fun x hx => ⟨List.mem_cons_of_mem _ (ih hf x hx).1, (ih hf x hx).2⟩
    · rename_i hc
      obtain ⟨head, tail, hs⟩ := List.exists_cons_of_ne_nil (List.splitOn_ne_nil a s)
      rw [hs, List.modifyHead_cons] at hf
      intro x hx
      rcases List.mem_cons.1 hf with rfl | hf
      · rcases List.mem_cons.1 hx with rfl | hx
        · exact ⟨List.mem_cons_self .., by simpa using hc⟩
        · have := ih (f := head) (by simp [hs]) x hx
          exact ⟨List.mem_cons_of_mem _ this.1, this.2⟩
      · have := ih (f := f) (by simp [hs, hf]) x hx
        exact ⟨List.mem_cons_of_mem _ this.1, this.2⟩

namespace Request
variable {c : Command}

theorem isLoose_of_mem_ofPayload {p : List Char} (hp : Frame.IsPlain p) (hc : c ∈ ofPayload p) :
    c.IsLoose := by
  unfold ofPayload at hc
  split at hc
  · obtain rfl := List.mem_singleton.1 hc
    trivial
  split at hc
  · obtain rfl := List.mem_singleton.1 hc
    trivial
  · obtain ⟨f, hf, hfc⟩ := List.mem_filterMap.1 hc
    refine Command.isLoose_of_ofField? hfc fun d hd => ?_
    obtain ⟨hmem, hcomma⟩ := mem_of_mem_splitOn hf d hd
    exact ⟨hcomma, hp d hmem⟩

theorem payload_singleton (c : Command) : payload [c] = c.field.toList := by
  simp [payload]

theorem ofPayload_field (h : c.IsLoose) : ofPayload c.field.toList = [c] := by
  by_cases hping : c = .ping
  · subst hping
    rfl
  by_cases hpong : c = .pong
  · subst hpong
    rfl
  have hread := h.ofField?_field hping hpong
  have hne {q : Char} (hn : Command.ofField? [q] = none) : c.field.toList ≠ [q] := fun e => by
    rw [e, hn] at hread
    cases hread
  rw [ofPayload, if_neg (hne (by decide)), if_neg (hne (by decide)), h.fitsIn_field.splitOn]
  simp [hread]

/-- The frame of a single command is read as that command. -/
theorem parse_frame_singleton (h : c.IsLoose) : parse (frame [c]).toList = [[c]] := by
  rw [toList_frame, payload_singleton, parse, Frame.payloads_enclose h.fitsIn_field.isPlain,
    List.map_singleton, ofPayload_field h]

/-- The grammar has a ping, a pong and the fields. -/
theorem isWellFormed_singleton_iff :
    IsWellFormed [c] ↔ c = .ping ∨ c = .pong ∨ c.IsField := by
  simp [IsWellFormed]

theorem isValid_frame_iff (h : c.IsLoose) :
    isValid (frame [c]).toList = true ↔ c = .ping ∨ c = .pong ∨ c.IsField := by
  rw [← isWellFormed_singleton_iff]
  constructor
  · intro hvalid
    refine (parse_lossless hvalid).1 [c] ?_
    rw [parse_frame_singleton h]
    exact List.mem_singleton.2 rfl
  · intro hwell
    have hframe : (frame [c]).toList = ([[c]].map payload).flatMap Frame.enclose := by
      simp [toList_frame]
    rw [hframe]
    exact isValid_frames (by simpa using hwell)

/-- Where nobody has checked the text, the commands that are read are those of the grammar, and
names and chat texts of any length and of any characters but commas and braces. From a valid text
only commands of the grammar are read. These are the ones whose frames are valid. -/
theorem parse_lenient (c : Command) :
    ((∃ s : String, ∃ r ∈ parse s.toList, c ∈ r) ↔ c.IsLoose) ∧
    ((∃ s : String, isValid s.toList = true ∧ ∃ r ∈ parse s.toList, c ∈ r) ↔
      c = .ping ∨ c = .pong ∨ c.IsField) ∧
    (c.IsLoose → (isValid (frame [c]).toList = true ↔ c = .ping ∨ c = .pong ∨ c.IsField)) := by
  have loose {s : List Char} {r : Request} (hr : r ∈ parse s) (hc : c ∈ r) : c.IsLoose := by
    obtain ⟨p, hp, rfl⟩ := List.mem_map.1 hr
    exact isLoose_of_mem_ofPayload (Frame.isPlain_of_mem_payloads hp) hc
  have own (h : c.IsLoose) : ∃ r ∈ parse (frame [c]).toList, c ∈ r := by
    rw [parse_frame_singleton h]
    exact ⟨[c], List.mem_singleton.2 rfl, List.mem_singleton.2 rfl⟩
  refine ⟨⟨?_, fun h => ⟨frame [c], own h⟩⟩, ⟨?_, fun h => ?_⟩, isValid_frame_iff⟩
  · rintro ⟨s, r, hr, hc⟩
    exact loose hr hc
  · rintro ⟨s, hvalid, r, hr, hc⟩
    rcases (parse_lossless hvalid).1 r hr with rfl | rfl | ⟨-, hfield⟩
    · exact .inl (List.mem_singleton.1 hc)
    · exact .inr (.inl (List.mem_singleton.1 hc))
    · exact .inr (.inr (hfield c hc))
  · have hloose : c.IsLoose := by
      rcases h with rfl | rfl | hfield
      · trivial
      · trivial
      · exact Command.isLoose_of_ofField? hfield.ofField?_field fun d hd =>
          ⟨fun e => hfield.isInner_field.not_mem_comma (e ▸ hd), hfield.isInner_field.isPlain d hd⟩
    exact ⟨frame [c], (isValid_frame_iff hloose).2 h, own hloose⟩

/-- A name of one letter is read, but it is none. -/
theorem parse_lenient_short_name : (Command.connect "a").IsLoose ∧
    (∃ s : String, ∃ r ∈ parse s.toList, Command.connect "a" ∈ r) ∧
    isValid (frame [.connect "a"]).toList = false := by
  obtain ⟨hread, -, hvalid⟩ := parse_lenient (.connect "a")
  have hloose : (Command.connect "a").IsLoose := by
    show Command.FitsIn _
    decide
  refine ⟨hloose, hread.2 hloose, eq_false_of_ne_true fun h => ?_⟩
  exact absurd ((hvalid hloose).1 h) (by decide)

/-- The grammar would reject the frame of a command that is read. -/
theorem not_isValid_of_parse : ¬ ∀ (s : String) (r : Request) (c : Command),
    r ∈ parse s.toList → c ∈ r → isValid (frame [c]).toList = true := by
  intro hall
  have hparse : parse "\x7bconn:a\x7d".toList = [[.connect "a"]] := by decide +kernel
  have hvalid : isValid (frame [.connect "a"]).toList = false := by decide +kernel
  have := hall "\x7bconn:a\x7d" [.connect "a"] (.connect "a")
    (by rw [hparse]; exact List.mem_singleton.2 rfl) (List.mem_singleton.2 rfl)
  rw [hvalid] at this
  cases this

end Request

end Tafl
