import Tafl.Settings.Address
import Tafl.Text.Blank
import Tafl.Text.Quoted

/-! # Settings

Where to listen, how much to hold and how long to wait. Settings come from variables; a variable
that is not set leaves its default. `Settings.ofLookup` reads all of them first and checks the
ranges then, each in the order of the fields, and reports the first that is wrong. -/

namespace Tafl

inductive Quantity where
  | port
  | maxGuests
  | maxTables
  /-- The time from one sweep to the next, in milliseconds. -/
  | period
  | decayBudget
deriving DecidableEq, Repr

namespace Quantity

def all : List Quantity := [port, maxGuests, maxTables, period, decayBudget]

def variableName : Quantity → String
  | port => "HNEF_PORT"
  | maxGuests => "HNEF_MAX_CLIENTS"
  | maxTables => "HNEF_MAX_ROOMS"
  | period => "HNEF_PING_PERIOD_MS"
  | decayBudget => "HNEF_DECAY_BUDGET"

def label : Quantity → String
  | port => "port"
  | maxGuests => "max_clients"
  | maxTables => "max_rooms"
  | period => "ping_period_ms"
  | decayBudget => "decay_budget"

def default : Quantity → Nat
  | port => 10000
  | maxGuests => 10
  | maxTables => 5
  | period => 5000
  | decayBudget => 24

def largest : Quantity → Nat
  | port => UInt16.size - 1
  | maxGuests | maxTables | period => UInt64.size - 1
  | decayBudget => UInt32.size - 1

def least : Quantity → Nat
  | port => 1024
  | maxGuests => 2
  | maxTables | period | decayBudget => 1

def most : Quantity → Nat
  | port => 49151
  | maxGuests => 20
  | maxTables => 10
  | period => UInt64.size - 1
  | decayBudget => UInt32.size - 1

end Quantity

def Address.variableName : String := "HNEF_BIND_ADDR"

inductive SettingError where
  /-- The text of a variable does not have the right form. -/
  | unreadable (variableName found : String)
  | outOfRange (q : Quantity) (value : Nat)
deriving DecidableEq, Repr

def SettingError.message : SettingError → String
  | unreadable name found => name ++ ": cannot parse " ++ Text.quote found
  | outOfRange q n =>
    q.label ++ ": " ++ toString n ++ " is outside " ++ toString q.least ++ "..=" ++ toString q.most

structure Settings where
  address : Address := .loopback
  port : Nat := Quantity.port.default
  maxGuests : Nat := Quantity.maxGuests.default
  maxTables : Nat := Quantity.maxTables.default
  /-- The time from one sweep to the next, in nanoseconds. -/
  periodNanos : Nat := Quantity.period.default * 1000000
  /-- How many sweeps a disconnected guest is waited for. -/
  decayBudget : Nat := Quantity.decayBudget.default
deriving DecidableEq, Repr

namespace Settings

/-- The time from one sweep to the next, in whole milliseconds. -/
def periodMillis (s : Settings) : Nat := s.periodNanos / 1000000

def get (s : Settings) : Quantity → Nat
  | .port => s.port
  | .maxGuests => s.maxGuests
  | .maxTables => s.maxTables
  | .period => s.periodMillis
  | .decayBudget => s.decayBudget

def socket (s : Settings) : String := s.address.text ++ ":" ++ toString s.port

/-- Reports the first quantity that is out of its range. -/
def check (s : Settings) : Except SettingError Unit :=
  Quantity.all.forM fun q =>
    if q.least ≤ s.get q ∧ s.get q ≤ q.most then .ok () else .error (.outOfRange q (s.get q))

/-- Reads a variable, apart from the blanks at its ends. -/
def read {α : Type} (lookup : String → Option String) (name : String)
    (ofText? : List Char → Option α) (default : α) : Except SettingError α :=
  match lookup name with
  | none => .ok default
  | some s => match ofText? (Text.trim s.toList) with
    | some a => .ok a
    | none => .error (.unreadable name s)

def readQuantity (lookup : String → Option String) (q : Quantity) : Except SettingError Nat :=
  read lookup q.variableName (Text.unsigned? q.largest) q.default

/-- The settings that the variables give. -/
def ofLookup (lookup : String → Option String) : Except SettingError Settings := do
  let address ← read lookup Address.variableName Address.ofText? .loopback
  let port ← readQuantity lookup .port
  let maxGuests ← readQuantity lookup .maxGuests
  let maxTables ← readQuantity lookup .maxTables
  let period ← readQuantity lookup .period
  let decayBudget ← readQuantity lookup .decayBudget
  let s : Settings :=
    { address, port, maxGuests, maxTables, periodNanos := period * 1000000, decayBudget }
  s.check
  return s

end Settings

end Tafl
