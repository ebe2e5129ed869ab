import Tafl.Proofs.Wire.Framing
import Tafl.Proofs.Wire.MoveDigits

/-! # The grammar of fields

`Command.IsField` says which commands a field can carry, in terms of the commands. The main
statements are `Field.isWellFormed_iff`, the texts that pass for fields are those that such
commands are written as, and `ofField?_field`, each of them is read back as its command. -/

namespace Tafl

/-- The commands that the fields of a request carry, with the names, moves and texts allowed. -/
def Command.IsField : Command → Prop
  | ping | pong => False
  | connect name => 3 ≤ name.length ∧ name.length ≤ 20 ∧ ∀ c ∈ name.toList, c.isAlphanum = true
  | move m => m.IsShort
  | leave | exit => True
  | chat text => 1 ≤ text.length ∧ text.length ≤ 100 ∧ ∀ c ∈ text.toList,
      Text.isWordChar c = true ∨ c ∈ [' ', '.', '!', '?', ':', ';', '\'', '"', '(', ')', '-']

instance : DecidablePred Command.IsField
  | .ping | .pong => .isFalse id
  | .connect name => decidable_of_iff
      (3 ≤ name.length ∧ name.length ≤ 20 ∧ name.toList.all Char.isAlphanum = true)
      (by simp only [Command.IsField, List.all_eq_true])
  | .move m => inferInstanceAs (Decidable m.IsShort)
  | .leave | .exit => .isTrue trivial
  | .chat text => decidable_of_iff
      (1 ≤ text.length ∧ text.length ≤ 100 ∧ text.toList.all (fun c => Text.isWordChar c ||
        [' ', '.', '!', '?', ':', ';', '\'', '"', '(', ')', '-'].contains c) = true)
      (by simp only [Command.IsField, List.all_eq_true, Bool.or_eq_true, List.contains_iff_mem])

namespace Field

/-- The characters that end a field or a frame, or break a line. -/
def outer : List Char := [',', '{', '}', '\r', '\n']

/-- A text without such characters, as every field is. -/
def IsInner (f : List Char) : Prop := ∀ c ∈ f, c ∉ outer

theorem IsInner.of_class {p : Char → Bool} (hp : outer.all (fun c => !p c) = true)
    {f : List Char} (h : ∀ c ∈ f, p c = true) : IsInner f := fun c hc ho => by
  have hn := List.all_eq_true.1 hp c ho
  rw [h c hc] at hn
  cases hn

theorem IsInner.append {f g : List Char} (hf : IsInner f) (hg : IsInner g) : IsInner (f ++ g) :=
  fun c hc => (List.mem_append.1 hc).elim (hf c) (hg c)

theorem IsInner.not_mem_comma {f : List Char} (hf : IsInner f) : ',' ∉ f :=
  fun h => hf _ h (by decide)

theorem IsInner.isPlain {f : List Char} (hf : IsInner f) : Frame.IsPlain f := fun c hc =>
  ⟨fun e => hf c hc (by rw [e]; decide), fun e => hf c hc (by rw [e]; decide)⟩

theorem IsInner.no_break {f : List Char} (hf : IsInner f) :
    ∀ c ∈ f, Frame.isLineBreak c = false := fun c hc => by
  have hr : c ≠ '\r' := fun e => hf c hc (by rw [e]; decide)
  have hn : c ≠ '\n' := fun e => hf c hc (by rw [e]; decide)
  simp [Frame.isLineBreak, hr, hn]

theorem isInner_key (k : FieldKey) : IsInner k.text.toList := by
  cases k <;> simp [IsInner, outer, FieldKey.text]

theorem not_mem_colon_key (k : FieldKey) : ':' ∉ k.text.toList := by
  cases k <;> simp [FieldKey.text]

/-! ### Names, moves and texts -/

theorem isName_iff {s : List Char} :
    isName s = true ↔ (Command.connect (String.ofList s)).IsField := by
  simp only [isName, Bool.and_eq_true, decide_eq_true_eq, List.all_eq_true, Command.IsField,
    String.length_ofList, String.toList_ofList, and_assoc]
  rfl

theorem isChat_iff {s : List Char} :
    isChat s = true ↔ (Command.chat (String.ofList s)).IsField := by
  simp only [isChat, Bool.and_eq_true, decide_eq_true_eq, List.all_eq_true, Command.IsField,
    String.length_ofList, String.toList_ofList, and_assoc, isChatChar, Bool.or_eq_true,
    List.contains_iff_mem]
  rfl

theorem isMove_iff {s : List Char} :
    isMove s = true ↔ ∃ m : Move, m.IsShort ∧ m.digits.toList = s := by
  simp only [isMove, Bool.and_eq_true, decide_eq_true_eq, List.all_eq_true]
  constructor
  · rintro ⟨hl, hd⟩
    exact Move.exists_digits hl hd
  · rintro ⟨m, hm, rfl⟩
    exact ⟨hm.length_digits, fun c hc => hm.isDigit_of_mem_digits hc⟩

end Field

/-- The key of a text that passes is one of the keys, letter by letter. -/
theorem FieldKey.eq_toList_text {key : List Char} {k : FieldKey}
    (h : ofText? (String.ofList key) = some k) : key = k.text.toList := by
  rw [ofText?_eq_some_iff.1 h, String.toList_ofList]

namespace Command

theorem toList_field_keyed (k : FieldKey) (value : String) :
    (k.text ++ ":" ++ value).toList = k.text.toList ++ ':' :: value.toList := by
  simp

namespace IsField
variable {c : Command}

theorem isInner_field (h : c.IsField) : Field.IsInner c.field.toList := by
  have keyed (k : FieldKey) {value : String} (hv : Field.IsInner value.toList) :
      Field.IsInner (k.text ++ ":" ++ value).toList := by
    rw [toList_field_keyed]
    exact (Field.isInner_key k).append fun c hc => by
      rcases List.mem_cons.1 hc with rfl | hc
      · decide
      · exact hv c hc
  cases c with
  | ping | pong => exact h.elim
  | connect name => exact keyed .connect (.of_class (p := Char.isAlphanum) (by decide) h.2.2)
  | move m =>
    exact keyed .move (.of_class (p := Char.isDigit) (by decide) fun c hc =>
      Move.IsShort.isDigit_of_mem_digits h hc)
  | leave => exact Field.isInner_key .leave
  | chat text =>
    exact keyed .chat (.of_class (p := Field.isChatChar) (by decide +kernel) fun c hc => by
      simpa [Field.isChatChar] using h.2.2 c hc)
  | exit => exact Field.isInner_key .exit

theorem cut_keyed (k : FieldKey) (value : String) :
    Text.cut ':' (k.text ++ ":" ++ value).toList = (k.text.toList, some value.toList) := by
  rw [toList_field_keyed, Text.cut_append_cons _ (Field.not_mem_colon_key k)]

theorem cut_bare (k : FieldKey) : Text.cut ':' k.text.toList = (k.text.toList, none) :=
  Text.cut_of_not_mem (Field.not_mem_colon_key k)

theorem isWellFormed_field (h : c.IsField) : Field.isWellFormed c.field.toList = true := by
  cases c with
  | ping | pong => exact h.elim
  | connect name =>
    simp only [field, Field.isWellFormed, cut_keyed, String.ofList_toList, FieldKey.ofText?_text]
    exact Field.isName_iff.2 (by rwa [String.ofList_toList])
  | move m =>
    simp only [field, Field.isWellFormed, cut_keyed, String.ofList_toList, FieldKey.ofText?_text]
    exact Field.isMove_iff.2 ⟨m, h, rfl⟩
  | leave =>
    simp only [field, Field.isWellFormed, cut_bare, String.ofList_toList, FieldKey.ofText?_text]
  | chat text =>
    simp only [field, Field.isWellFormed, cut_keyed, String.ofList_toList, FieldKey.ofText?_text]
    exact Field.isChat_iff.2 (by rwa [String.ofList_toList])
  | exit =>
    simp only [field, Field.isWellFormed, cut_bare, String.ofList_toList, FieldKey.ofText?_text]

theorem ofField?_field (h : c.IsField) : ofField? c.field.toList = some c := by
  cases c with
  | ping | pong => exact h.elim
  | connect name =>
    simp only [field, ofField?, cut_keyed, String.ofList_toList, FieldKey.ofText?_text]
  | move m =>
    simp only [field, ofField?, cut_keyed, String.ofList_toList, FieldKey.ofText?_text,
      Move.IsShort.ofDigits?_digits h, Except.toOption, Option.map_some]
  | leave => simp only [field, ofField?, cut_bare, String.ofList_toList, FieldKey.ofText?_text]
  | chat text =>
    simp only [field, ofField?, cut_keyed, String.ofList_toList, FieldKey.ofText?_text]
  | exit => simp only [field, ofField?, cut_bare, String.ofList_toList, FieldKey.ofText?_text]

end IsField

end Command

/-- The texts that pass for fields are those that the commands of the grammar are written as. -/
theorem Field.isWellFormed_iff {f : List Char} :
    isWellFormed f = true ↔ ∃ c : Command, c.IsField ∧ f = c.field.toList := by
  constructor
  · intro h
    have hf := Text.cut_join ':' f
    unfold isWellFormed at h
    split at h
    rename_i key value hcut
    simp only [hcut] at hf
    split at h
    · rename_i v hk
      exact ⟨.connect (String.ofList v), isName_iff.1 h,
        by simp [Command.field, ← hf, FieldKey.eq_toList_text hk]⟩
    · rename_i v hk
      obtain ⟨m, hm, rfl⟩ := isMove_iff.1 h
      exact ⟨.move m, hm, by simp [Command.field, ← hf, FieldKey.eq_toList_text hk]⟩
    · rename_i v hk
      exact ⟨.chat (String.ofList v), isChat_iff.1 h,
        by simp [Command.field, ← hf, FieldKey.eq_toList_text hk]⟩
    · rename_i hk
      exact ⟨.leave, trivial, by simp [Command.field, ← hf, FieldKey.eq_toList_text hk]⟩
    · rename_i hk
      exact ⟨.exit, trivial, by simp [Command.field, ← hf, FieldKey.eq_toList_text hk]⟩
    · cases h
  · rintro ⟨c, hc, rfl⟩
    exact hc.isWellFormed_field

end Tafl
