/-! # Frames

Everything on the wire travels in frames: a payload between braces. A payload of a well-formed
frame has no brace. Texts that are not made of such frames are read in two ways: a player's text
frame by frame from the last opening brace (`payloads`), the server's from the first
(`closedPayloads`). -/

namespace Tafl.Frame

def wrap (payload : String) : String := String.singleton '{' ++ payload ++ String.singleton '}'

/-- The payloads of a text that consists of frames and nothing else. The payload under way, if a
frame is open, is kept in reverse. -/
def tiles? (s : List Char) : Option (List (List Char)) := go none s
where
  go : Option (List Char) → List Char → Option (List (List Char))
    | none, [] => some []
    | some _, [] => none
    | none, c :: r => if c = '{' then go (some []) r else none
    | some p, c :: r =>
      if c = '{' then none
      else if c = '}' then (p.reverse :: ·) <$> go none r
      else go (some (c :: p)) r

/-- The texts between an opening brace and the next brace, where that one closes. All else is
skipped. -/
def payloads (s : List Char) : List (List Char) := go none s
where
  go : Option (List Char) → List Char → List (List Char)
    | _, [] => []
    | none, c :: r => go (if c = '{' then some [] else none) r
    | some p, c :: r =>
      if c = '{' then go (some []) r
      else if c = '}' then p.reverse :: go none r
      else go (some (c :: p)) r

/-- The texts between an opening brace and the next closing one. All else is skipped, and so is a
frame that does not end. -/
def closedPayloads (s : List Char) : List (List Char) := go none s
where
  go : Option (List Char) → List Char → List (List Char)
    | _, [] => []
    | none, c :: r => go (if c = '{' then some [] else none) r
    | some p, c :: r => if c = '}' then p.reverse :: go none r else go (some (c :: p)) r

def isLineBreak (c : Char) : Bool := c = '\r' || c = '\n'

/-- A text without the line breaks between its frames, so that a player may type at a terminal.
Inside a frame they stay, and make it invalid. -/
def stripBreaks (s : List Char) : List Char := go false s
where
  go : Bool → List Char → List Char
    | _, [] => []
    | inside, c :: r =>
      if c = '{' then c :: go true r
      else if c = '}' then c :: go false r
      else if !inside && isLineBreak c then go inside r
      else c :: go inside r

end Tafl.Frame
