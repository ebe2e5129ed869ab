import Tafl.Move.Digits
import Tafl.Text.Cut
import Tafl.Text.WordChar

/-! # Commands of a player

A command other than a ping or a pong is a field: a key, and for some keys a value behind a colon.
`Command.field` writes it. `Field.isWellFormed` is the grammar of fields, and `Command.ofField?`
reads more than that: it looks at the shape of a field, not at the characters of a name or a
text. -/

namespace Tafl

inductive Command where
  | ping
  | pong
  /-- Take part under this name. -/
  | connect (name : String)
  | move (m : Move)
  | leave
  /-- Say something to the opponent. -/
  | chat (text : String)
  | exit
deriving DecidableEq, Repr

inductive FieldKey where
  | connect
  | move
  | leave
  | chat
  | exit
deriving DecidableEq, Repr

namespace FieldKey

def text : FieldKey → String
  | connect => "conn"
  | move => "move"
  | leave => "leave"
  | chat => "chat"
  | exit => "exit"

def ofText? : String → Option FieldKey
  | "conn" => some connect
  | "move" => some move
  | "leave" => some leave
  | "chat" => some chat
  | "exit" => some exit
  | _ => none

@[simp] theorem ofText?_text (k : FieldKey) : ofText? k.text = some k := by cases k <;> rfl

/-- Keys are read as they are written. -/
theorem ofText?_eq_some_iff {s : String} {k : FieldKey} : ofText? s = some k ↔ k.text = s := by
  constructor
  · intro h
    unfold ofText? at h
    split at h
    case h_6 => cases h
    all_goals
      obtain rfl := Option.some.inj h
      rfl
  · rintro rfl
    exact ofText?_text k

end FieldKey

/-! ### The grammar of fields -/

namespace Field

def minName : Nat := 3
def maxName : Nat := 20

def maxChat : Nat := 100

def isName (s : List Char) : Bool :=
  minName ≤ s.length && s.length ≤ maxName && s.all Char.isAlphanum

/-- Word characters, the space and some punctuation. Braces, commas and line breaks are not
among them. -/
def isChatChar (c : Char) : Bool :=
  Text.isWordChar c || [' ', '.', '!', '?', ':', ';', '\'', '"', '(', ')', '-'].contains c

def isChat (s : List Char) : Bool := 1 ≤ s.length && s.length ≤ maxChat && s.all isChatChar

def isMove (s : List Char) : Bool := s.length = 8 && s.all Char.isDigit

/-- Whether a text is a field: a name, a move or a chat text behind its key, or a bare key. -/
def isWellFormed (f : List Char) : Bool :=
  match Text.cut ':' f with
  | (key, value) => match FieldKey.ofText? (String.ofList key), value with
    | some .connect, some v => isName v
    | some .move, some v => isMove v
    | some .chat, some v => isChat v
    | some .leave, none | some .exit, none => true
    | _, _ => false

end Field

namespace Command

/-- A short name for a command. -/
def label : Command → String
  | ping => "ping"
  | pong => "pong"
  | connect _ => FieldKey.connect.text
  | move _ => FieldKey.move.text
  | leave => FieldKey.leave.text
  | chat _ => FieldKey.chat.text
  | exit => FieldKey.exit.text

def field : Command → String
  | ping => "?"
  | pong => "!"
  | connect name => FieldKey.connect.text ++ ":" ++ name
  | move m => FieldKey.move.text ++ ":" ++ m.digits
  | leave => FieldKey.leave.text
  | chat text => FieldKey.chat.text ++ ":" ++ text
  | exit => FieldKey.exit.text

def ofField? (f : List Char) : Option Command :=
  match Text.cut ':' f with
  | (key, value) => match FieldKey.ofText? (String.ofList key), value with
    | some .connect, some v => some (connect (String.ofList v))
    | some .move, some v => (Move.ofDigits? (String.ofList v)).toOption.map move
    | some .chat, some v => some (chat (String.ofList v))
    | some .leave, none => some leave
    | some .exit, none => some exit
    | _, _ => none

end Command

end Tafl
