import Tafl.Hall.Events

/-! # A hall behind a listening socket

Each connection has a line of its own, and each thing that happens on a socket is a batch of one
event, so that the waiting guests are matched after it. Once a line is closed, nothing more is read
from its connection. What was put out on a line waits there until the other end reads it. -/

namespace Tafl

structure Service where
  hall : Hall
  /-- How many connections were made. Lines are numbered from zero, and guests from one. -/
  lines : Nat := 0
  /-- The lines whose connections are ended. -/
  ended : List Line := []
  /-- What was put out and not read yet. -/
  unread : List (Line × Notice) := []

namespace Service

def guestOn (line : Line) : GuestId := line + 1

/-- Moves what the hall has put out to where the other ends can read it. -/
def deliver (s : Service) (h : Hall) : Service :=
  { s with
    hall := { h with outbox := [] }
    ended := s.ended ++ h.outbox.filterMap fun e => if e.2 = .close then some e.1 else none
    unread := s.unread ++ h.outbox.filterMap fun e => match e.2 with
      | .frame n => some (e.1, n)
      | .close => none }

def connect (s : Service) : Service :=
  { s with lines := s.lines + 1 }.deliver
    (s.hall.handleBatch [.connected (guestOn s.lines) "127.0.0.1" s.lines])

/-- An event on a line. Nothing is heard of a line that is ended. -/
def hear (s : Service) (line : Line) (e : Event) : Service :=
  if s.ended.contains line then s else s.deliver (s.hall.handleBatch [e])

def send (s : Service) (line : Line) (bytes : ByteArray) : Service :=
  s.hear line (.data (guestOn line) bytes)

def close (s : Service) (line : Line) : Service := s.hear line (.closed (guestOn line))

def shutDown (s : Service) : Service := s.deliver s.hall.shutDown

/-! ### The other ends -/

/-- The notices that wait on a line, in order. -/
def waitingOn (s : Service) (line : Line) : List Notice :=
  s.unread.filterMap fun e => if e.1 = line then some e.2 else none

/-- What is left when the first `n` notices on a line are read. -/
def dropOn (line : Line) : Nat → List (Line × Notice) → List (Line × Notice)
  | _, [] => []
  | 0, es => es
  | n + 1, e :: es => if e.1 = line then dropOn line n es else e :: dropOn line (n + 1) es

/-- Reads `n` frames from a line, or as many as there are. An end before the last of them shows as
`EOF`. -/
def read (s : Service) (line : Line) (n : Option Nat) : String × Service :=
  let waiting := s.waitingOn line
  let n := n.getD waiting.length
  let text := String.join ((waiting.take n).map Notice.frame)
  (if waiting.length < n then text ++ "EOF" else text,
    { s with unread := dropOn line n s.unread })

end Service

end Tafl
