import Tafl.Wire.Command
import Tafl.Wire.Frame

/-! # Requests of a player

A request is what one frame carries: a lone ping or pong, or fields between commas. `decode` reads
what came in at once, and is all or nothing: one bad character anywhere and nothing is read. -/

namespace Tafl

/-- The commands of one frame, in order. -/
abbrev Request := List Command

inductive Rejection where
  /-- More bytes at once than a player has reason to send. -/
  | flooding (bytes : Nat)
  | notUtf8
  | invalidFormat
deriving DecidableEq, Repr

def Rejection.message : Rejection → String
  | flooding n => "read of " ++ toString n ++ " bytes exceeds the flood limit"
  | notUtf8 => "buffer is not valid UTF-8"
  | invalidFormat => "buffer does not match the frame grammar"

namespace Request

/-- The room that the server has for what a player sends. -/
def bufferSize : Nat := 1024

/-- The length set aside for the longest frame. -/
def longestFrame : Nat := 106

/-- The largest read that is not taken for flooding. -/
def maxRead : Nat := bufferSize - 1 - longestFrame

def frame (r : Request) : String := Frame.wrap (String.intercalate "," (r.map Command.field))

/-- Reads a payload. Fields that are none are left out. -/
def ofPayload (p : List Char) : Request :=
  if p = ['?'] then [.ping]
  else if p = ['!'] then [.pong]
  else (p.splitOn ',').filterMap Command.ofField?

/-- Whether a payload is a lone ping or pong, or one or more fields. -/
def isPayload (p : List Char) : Bool :=
  p = ['?'] || p = ['!'] || (p.splitOn ',').all Field.isWellFormed

def parse (s : List Char) : List Request := (Frame.payloads s).map ofPayload

def isValid (s : List Char) : Bool := (Frame.tiles? s).any (·.all isPayload)

def decode (raw : ByteArray) : Except Rejection (List Request) :=
  if maxRead < raw.size then .error (.flooding raw.size)
  else match String.fromUTF8? raw with
    | none => .error .notUtf8
    | some text =>
      let s := Frame.stripBreaks text.toList
      if isValid s then .ok (parse s) else .error .invalidFormat

end Request

end Tafl
