import Tafl.Proofs.Wire.Leniency

/-! # How long a frame can be

The length of a name or a text is counted in characters, the room for what comes in at once in
bytes. A frame that carries one command and passes takes at most 107 characters, as the longest text
does, and at most 407 bytes. `Request.longestFrame` is less than either, so the frame of a text of
100 bytes or more does not fit into the room that is set aside. Main statement:
`Request.frame_fits_iff`. -/

namespace Tafl

namespace Text

theorem utf8Size_of_isAlphanum {c : Char} (h : c.isAlphanum = true) : c.utf8Size = 1 := by
  have hupper (h : c.isUpper = true) : c.val ≤ 'Z'.val := (of_decide_eq_true h).2
  have hlower (h : c.isLower = true) : c.val ≤ 'z'.val :=
    of_decide_eq_true (Bool.and_eq_true_iff.1 h).2
  rcases Bool.or_eq_true_iff.1 h with halpha | hdigit
  · rcases Bool.or_eq_true_iff.1 halpha with h | h
    · exact Char.utf8Size_eq_one_iff.2 (UInt32.le_trans (hupper h) (by decide))
    · exact Char.utf8Size_eq_one_iff.2 (UInt32.le_trans (hlower h) (by decide))
  · exact utf8Size_of_isDigit hdigit

end Text

namespace Command
variable {c : Command}

/-- The length of a text with its key, in characters and in bytes. -/
theorem size_keyed (k : FieldKey) (value : String) :
    (k.text ++ ":" ++ value).length = k.text.length + 1 + value.length ∧
      (k.text ++ ":" ++ value).utf8ByteSize = k.text.length + 1 + value.utf8ByteSize := by
  have hk : k.text.utf8ByteSize = k.text.length := by cases k <;> decide
  simp only [String.length_append, String.utf8ByteSize_append, hk]
  exact ⟨rfl, rfl⟩

/-- A command with a name or a text. -/
def HasWords (c : Command) (value : String) : Prop := c = .connect value ∨ c = .chat value

theorem HasWords.size_field {value : String} (h : c.HasWords value) :
    c.field.length = 5 + value.length ∧ c.field.utf8ByteSize = 5 + value.utf8ByteSize := by
  rcases h with rfl | rfl
  · exact size_keyed .connect value
  · exact size_keyed .chat value

theorem size_field_le (h : ∀ value, ¬ c.HasWords value) :
    c.field.length ≤ 17 ∧ c.field.utf8ByteSize ≤ 17 := by
  cases c with
  | connect name => exact absurd (.inl rfl) (h name)
  | chat text => exact absurd (.inr rfl) (h text)
  | move m =>
    have hkey : FieldKey.move.text.length = 4 := by decide
    have hdigits := m.size_digits_le
    rw [field, (size_keyed ..).1, (size_keyed ..).2, m.length_digits_eq_size]
    omega
  | ping | pong | leave | exit => decide

/-- A name is short, and so is what has neither a name nor a text. -/
theorem IsField.length_le_of_words {value : String} (h : c.IsField) (hwords : c.HasWords value) :
    value.length ≤ 100 ∧ (c = .connect value → value.utf8ByteSize < 100) := by
  rcases hwords with rfl | rfl
  · obtain ⟨-, hlength, hname⟩ := h
    have hsize : value.utf8ByteSize = value.length := by
      have := Text.utf8ByteSize_of_forall fun c hc => Text.utf8Size_of_isAlphanum (hname c hc)
      rwa [String.ofList_toList, Nat.one_mul, String.length_toList] at this
    exact ⟨by omega, fun _ => by omega⟩
  · exact ⟨h.2.1, Command.noConfusion⟩

/-- A text of a hundred times the same character. -/
def hundred (x : Char) : String := String.ofList (List.replicate 100 x)

theorem IsField.fitsIn_field (h : c.IsField) : FitsIn c.field.toList := fun d hd =>
  ⟨fun e => h.isInner_field.not_mem_comma (e ▸ hd), h.isInner_field.isPlain d hd⟩

theorem isField_hundred {x : Char} (hx : Text.isWordChar x = true) :
    (chat (hundred x)).IsField := by
  refine ⟨by simp [hundred], by simp [hundred], fun c hc => .inl ?_⟩
  rw [hundred, String.toList_ofList] at hc
  rwa [List.eq_of_mem_replicate hc]

theorem size_hundred (x : Char) : (hundred x).utf8ByteSize = x.utf8Size * 100 := by
  rw [hundred, Text.utf8ByteSize_of_forall fun c hc => by rw [List.eq_of_mem_replicate hc],
    List.length_replicate]

end Command

namespace Request
variable {c : Command}

theorem size_frame (c : Command) :
    (frame [c]).length = c.field.length + 2 ∧
      (frame [c]).utf8ByteSize = c.field.utf8ByteSize + 2 := by
  have hopen : (String.singleton '{').utf8ByteSize = 1 := by decide
  have hclose : (String.singleton '}').utf8ByteSize = 1 := by decide
  simp only [frame, Frame.wrap, List.map_cons, List.map_nil, String.intercalate_singleton,
    String.length_append, String.length_singleton, String.utf8ByteSize_append]
  omega

/-- The frame of a move that takes more than eight digits carries nothing. -/
theorem isShort_of_isValid_frame {m : Move}
    (hfits : Command.FitsIn (Command.move m).field.toList)
    (h : isValid (frame [.move m]).toList = true) : m.IsShort := by
  by_contra hlong
  have hread : Command.ofField? (Command.move m).field.toList = none := by
    simp only [Command.field, Command.ofField?, Command.IsField.cut_keyed, String.ofList_toList,
      FieldKey.ofText?_text, (Move.ofDigits?_of_long hlong).2]
    rfl
  have hne (q : Char) : (Command.move m).field.toList ≠ [q] := by
    simp [Command.field, FieldKey.text]
  have hparse : parse (frame [.move m]).toList = [[]] := by
    rw [toList_frame, payload_singleton, parse, Frame.payloads_enclose hfits.isPlain,
      List.map_singleton, ofPayload, if_neg (hne _), if_neg (hne _), hfits.splitOn]
    simp [hread]
  have hempty : IsWellFormed [] := (parse_lossless h).1 [] (by simp [hparse])
  simp [IsWellFormed] at hempty

/-- A frame that passes and has no separator too many carries a command of the grammar. -/
theorem isField_of_isValid_frame (hfits : Command.FitsIn c.field.toList)
    (h : isValid (frame [c]).toList = true) : c = .ping ∨ c = .pong ∨ c.IsField := by
  refine (isValid_frame_iff ?_).1 h
  cases c with
  | connect value | chat value => exact fun d hd => hfits d (by simp [Command.field, hd])
  | move m => exact isShort_of_isValid_frame hfits h
  | ping | pong | leave | exit => trivial

/-- A frame with a text of a hundred characters. -/
theorem isValid_frame_hundred {x : Char} (hx : Text.isWordChar x = true) :
    Command.FitsIn (Command.chat (Command.hundred x)).field.toList ∧
      isValid (frame [.chat (Command.hundred x)]).toList = true ∧
      (frame [.chat (Command.hundred x)]).utf8ByteSize = 7 + x.utf8Size * 100 := by
  have hfield := Command.isField_hundred hx
  have hloose := Command.isLoose_of_ofField? hfield.ofField?_field hfield.fitsIn_field
  refine ⟨hfield.fitsIn_field, (isValid_frame_iff hloose).2 (.inr (.inr hfield)), ?_⟩
  have hwords : (Command.chat (Command.hundred x)).HasWords (Command.hundred x) := .inr rfl
  rw [(size_frame _).2, hwords.size_field.2, Command.size_hundred]
  omega

/-! ### The room for a frame -/

/-- The room that is left behind the largest read, less one byte. -/
theorem maxRead_add_lt_iff {n : Nat} : maxRead + n < bufferSize ↔ n ≤ longestFrame := by
  simp only [maxRead, bufferSize, longestFrame]
  omega

theorem size_frame_le_longestFrame_iff (c : Command) :
    (frame [c]).utf8ByteSize ≤ longestFrame ↔
      ∀ value, c.HasWords value → value.utf8ByteSize < 100 := by
  rw [(size_frame c).2, longestFrame]
  constructor
  · intro hle value hwords
    have := hwords.size_field.2
    omega
  · intro hlt
    by_cases hwords : ∃ value, c.HasWords value
    · obtain ⟨value, hwords⟩ := hwords
      have := hlt value hwords
      have := hwords.size_field.2
      omega
    · have := Command.size_field_le fun value h => hwords ⟨value, h⟩
      omega

theorem size_frame_le (h : c = .ping ∨ c = .pong ∨ c.IsField) :
    (frame [c]).length ≤ 107 ∧ (frame [c]).utf8ByteSize ≤ 407 := by
  rw [(size_frame c).1, (size_frame c).2]
  by_cases hwords : ∃ value, c.HasWords value
  · obtain ⟨value, hwords⟩ := hwords
    have hfield : c.IsField := by
      rcases h with rfl | rfl | h
      · rcases hwords with h | h <;> cases h
      · rcases hwords with h | h <;> cases h
      · exact h
    have hlength := (hfield.length_le_of_words hwords).1
    have hsize := Text.utf8ByteSize_le value
    rw [hwords.size_field.1, hwords.size_field.2]
    omega
  · have := Command.size_field_le fun value h => hwords ⟨value, h⟩
    omega

/-- A frame fits into the room behind the largest read if and only if its name or text has less
than 100 bytes. Of the frames of one field that pass, those of names fit, but not those of all
texts: they can have 107 characters and 407 bytes. -/
theorem frame_fits_iff (c : Command) :
    ((frame [c]).utf8ByteSize ≤ longestFrame ↔
      ∀ value, c = .connect value ∨ c = .chat value → value.utf8ByteSize < 100) ∧
    (maxRead + (frame [c]).utf8ByteSize < bufferSize ↔
      (frame [c]).utf8ByteSize ≤ longestFrame) ∧
    (Command.FitsIn c.field.toList → isValid (frame [c]).toList = true →
      ((frame [c]).utf8ByteSize ≤ longestFrame ↔
        ∀ text, c = .chat text → text.utf8ByteSize < 100) ∧
      (frame [c]).length ≤ 107 ∧ (frame [c]).utf8ByteSize ≤ 407) := by
  refine ⟨size_frame_le_longestFrame_iff c, maxRead_add_lt_iff, fun hfits hvalid => ?_⟩
  have h := isField_of_isValid_frame hfits hvalid
  refine ⟨(size_frame_le_longestFrame_iff c).trans ?_, size_frame_le h⟩
  constructor
  · exact fun hlt text hchat => hlt text (.inr hchat)
  · rintro hlt value (rfl | rfl)
    · have hfield : (Command.connect value).IsField := by
        rcases h with h | h | h
        · cases h
        · cases h
        · exact h
      exact (hfield.length_le_of_words (.inl rfl)).2 rfl
    · exact hlt value rfl

/-- The longest name, and a text of a hundred characters that take four bytes each. -/
theorem frame_fits_iff_longest :
    let name : Command := .connect "ABCDEFGHIJabcdefghij"
    let text : Command := .chat (Command.hundred '𝐀')
    (Command.FitsIn name.field.toList ∧ isValid (frame [name]).toList = true ∧
      maxRead + (frame [name]).utf8ByteSize < bufferSize) ∧
    isValid (frame [text]).toList = true ∧ (frame [text]).utf8ByteSize = 407 ∧
      ¬ maxRead + (frame [text]).utf8ByteSize < bufferSize := by
  intro name text
  have hfits : Command.FitsIn name.field.toList := by decide
  have hvalid : isValid (frame [name]).toList = true := by decide +kernel
  obtain ⟨-, hroom, hfield⟩ := frame_fits_iff name
  have hname : ∀ value, name ≠ .chat value := fun _ => Command.noConfusion
  have hle := (hfield hfits hvalid).1.2 fun value e => absurd e (hname value)
  obtain ⟨-, htext, hsize⟩ := isValid_frame_hundred (x := '𝐀') (by decide +kernel)
  refine ⟨⟨hfits, hvalid, hroom.2 hle⟩, htext, hsize, fun hlt => ?_⟩
  have hle := (frame_fits_iff text).2.1.1 hlt
  rw [hsize] at hle
  exact absurd hle (by decide)

/-- A frame of 107 bytes passes: a text of a hundred letters behind its key and between braces. -/
theorem not_frame_le_longestFrame : ¬ ∀ c : Command, Command.FitsIn c.field.toList →
    isValid (frame [c]).toList = true → (frame [c]).utf8ByteSize ≤ longestFrame := by
  intro hall
  obtain ⟨hfits, hvalid, hsize⟩ := isValid_frame_hundred (x := 'a') (by decide +kernel)
  have hle := hall _ hfits hvalid
  rw [hsize] at hle
  exact absurd hle (by decide)

end Request

end Tafl
