import Tafl.Proofs.Settings.Texts

/-! # Settings from variables

`Settings.ofLookup_eq` takes the reading of settings apart: each variable is inspected, in order,
and then the settings that the variables give are checked, quantity by quantity. Both are loops that
end with the first error (`Except.forM_eq_error_iff`). Main statement:
`Settings.ofLookup_faithful`. -/

namespace Tafl

/-! ### Loops that end with the first error -/

namespace Except
variable {α β ε : Type}

theorem bind_eq_ok_iff {x : Except ε α} {f : α → Except ε β} {b : β} :
    x >>= f = .ok b ↔ ∃ a, x = .ok a ∧ f a = .ok b := by
  cases x with
  | error e => simp [bind, Except.bind]
  | ok a => simp [bind, Except.bind]

theorem bind_eq_error_iff {x : Except ε α} {f : α → Except ε β} {e : ε} :
    x >>= f = .error e ↔ x = .error e ∨ ∃ a, x = .ok a ∧ f a = .error e := by
  cases x with
  | error e' => simp [bind, Except.bind]
  | ok a => simp [bind, Except.bind]

section
variable {p : Prop} [Decidable p] {e e' : ε}

theorem guard_eq_ok_iff : (if p then .ok () else .error e : Except ε Unit) = .ok () ↔ p := by
  by_cases h : p <;> simp [h]

theorem guard_eq_error_iff :
    (if p then .ok () else .error e : Except ε Unit) = .error e' ↔ ¬ p ∧ e' = e := by
  by_cases h : p
  · simp [h]
  · simpa [h] using ⟨Eq.symm, Eq.symm⟩

end

variable {f : α → Except ε Unit} {as : List α}

theorem forM_eq_ok_iff : as.forM f = .ok () ↔ ∀ a ∈ as, f a = .ok () := by
  induction as with
  | nil => simp [List.forM, pure, Except.pure]
  | cons a as ih =>
    show (f a >>= fun _ => as.forM f) = .ok () ↔ _
    rw [bind_eq_ok_iff, List.forall_mem_cons, ← ih]
    exact ⟨fun ⟨_, ha, has⟩ => ⟨ha, has⟩, fun ⟨ha, has⟩ => ⟨(), ha, has⟩⟩

/-- The error is that of the first element that has one. -/
theorem forM_eq_error_iff {e : ε} : as.forM f = .error e ↔ ∃ before a after,
    as = before ++ a :: after ∧ (∀ b ∈ before, f b = .ok ()) ∧ f a = .error e := by
  induction as with
  | nil => simp [List.forM, pure, Except.pure]
  | cons a as ih =>
    show (f a >>= fun _ => as.forM f) = .error e ↔ _
    rw [bind_eq_error_iff, ih]
    constructor
    · rintro (ha | ⟨⟨⟩, ha, before, b, after, rfl, hbefore, hb⟩)
      · exact ⟨[], a, as, rfl, by simp, ha⟩
      · exact ⟨a :: before, b, after, rfl, List.forall_mem_cons.2 ⟨ha, hbefore⟩, hb⟩
    · rintro ⟨before, b, after, heq, hbefore, hb⟩
      cases before with
      | nil =>
        obtain ⟨rfl, rfl⟩ := List.cons.inj heq
        exact .inl hb
      | cons c before =>
        obtain ⟨rfl, rfl⟩ := List.cons.inj heq
        obtain ⟨ha, hbefore⟩ := List.forall_mem_cons.1 hbefore
        exact .inr ⟨(), ha, before, b, after, rfl, hbefore, hb⟩

end Except

theorem Quantity.mem_all (q : Quantity) : q ∈ all := by cases q <;> decide

theorem Quantity.most_le_largest (q : Quantity) : q.most ≤ q.largest := by cases q <;> decide

namespace Settings

/-- What settings are read from. -/
inductive Variable where
  | address
  | quantity (q : Quantity)
deriving DecidableEq, Repr

namespace Variable

/-- The variables in the order in which they are read. -/
def all : List Variable :=
  [address, quantity .port, quantity .maxGuests, quantity .maxTables, quantity .period,
    quantity .decayBudget]

theorem mem_all (v : Variable) : v ∈ all := by
  rcases v with _ | q
  · decide
  · cases q <;> decide

def name : Variable → String
  | address => Address.variableName
  | quantity q => q.variableName

/-- Whether a text has the form that a variable asks for, apart from the blanks at its ends. -/
def accepts (v : Variable) (text : String) : Bool :=
  match v with
  | address => (Address.ofText? (Text.trim text.toList)).isSome
  | quantity q => (Text.unsigned? q.largest (Text.trim text.toList)).isSome

/-- The text of a variable for given settings. -/
def display (s : Settings) : Variable → String
  | address => s.address.text
  | quantity q => toString (s.get q)

/-- Whether a variable is not set, or has the right form. -/
def IsReadable (lookup : String → Option String) (v : Variable) : Prop :=
  ∀ text, lookup v.name = some text → v.accepts text = true

def inspect (lookup : String → Option String) (v : Variable) : Except SettingError Unit :=
  match lookup v.name with
  | none => .ok ()
  | some text => if v.accepts text then .ok () else .error (.unreadable v.name text)

variable {lookup : String → Option String} {v : Variable}

theorem inspect_eq_ok_iff : v.inspect lookup = .ok () ↔ v.IsReadable lookup := by
  unfold inspect IsReadable
  cases lookup v.name with
  | none => simp
  | some text =>
    rw [Except.guard_eq_ok_iff]
    simp

theorem inspect_eq_error_iff {e : SettingError} : v.inspect lookup = .error e ↔
    ∃ text, lookup v.name = some text ∧ v.accepts text = false ∧ e = .unreadable v.name text := by
  unfold inspect
  cases lookup v.name with
  | none => simp
  | some text =>
    rw [Except.guard_eq_error_iff]
    simp

theorem forall_inspect_iff : Variable.all.forM (inspect lookup) = .ok () ↔
    ∀ v : Variable, v.IsReadable lookup := by
  rw [Except.forM_eq_ok_iff]
  exact ⟨fun h v => inspect_eq_ok_iff.1 (h v v.mem_all), fun h v _ => inspect_eq_ok_iff.2 (h v)⟩

end Variable

/-- The value of a variable: its default if it is not set, or does not have the right form. -/
def value {α : Type} (lookup : String → Option String) (name : String)
    (ofText? : List Char → Option α) (default : α) : α :=
  ((lookup name).bind fun text => ofText? (Text.trim text.toList)).getD default

/-- The settings that the variables give, whether or not they are in range. -/
def given (lookup : String → Option String) : Settings :=
  let number (q : Quantity) : Nat :=
    value lookup q.variableName (Text.unsigned? q.largest) q.default
  { address := value lookup Address.variableName Address.ofText? .loopback
    port := number .port
    maxGuests := number .maxGuests
    maxTables := number .maxTables
    periodNanos := number .period * 1000000
    decayBudget := number .decayBudget }

/-- Whether a quantity is in its range. -/
def IsInRange (s : Settings) (q : Quantity) : Prop := q.least ≤ s.get q ∧ s.get q ≤ q.most

instance (s : Settings) : DecidablePred s.IsInRange := fun _ => instDecidableAnd

variable {lookup : String → Option String} {s : Settings}

/-! ### Inspecting, then checking -/

theorem readAddress_eq : read lookup Address.variableName Address.ofText? .loopback =
    Variable.address.inspect lookup >>= fun _ => pure (given lookup).address := by
  simp only [read, Variable.inspect, Variable.name, Variable.accepts, given, value]
  cases lookup Address.variableName with
  | none => rfl
  | some text => cases h : Address.ofText? (Text.trim text.toList) <;> simp [h]

theorem readQuantity_eq (q : Quantity) : readQuantity lookup q =
    (Variable.quantity q).inspect lookup >>= fun _ =>
      pure (value lookup q.variableName (Text.unsigned? q.largest) q.default) := by
  simp only [readQuantity, read, Variable.inspect, Variable.name, Variable.accepts, value]
  cases lookup q.variableName with
  | none => rfl
  | some text => cases h : Text.unsigned? q.largest (Text.trim text.toList) <;> simp [h]

theorem ofLookup_eq : ofLookup lookup =
    Variable.all.forM (Variable.inspect lookup) >>= fun _ =>
      (given lookup).check >>= fun _ => pure (given lookup) := by
  simp only [ofLookup, readAddress_eq, readQuantity_eq, bind_assoc, pure_bind, Variable.all,
    List.forM_eq_forM, List.forM_cons, List.forM_nil]
  rfl

theorem check_eq_ok_iff : s.check = .ok () ↔ ∀ q, s.IsInRange q := by
  rw [check, Except.forM_eq_ok_iff]
  exact ⟨fun h q => Except.guard_eq_ok_iff.1 (h q q.mem_all),
    fun h q _ => Except.guard_eq_ok_iff.2 (h q)⟩

theorem check_eq_error_iff {e : SettingError} : s.check = .error e ↔ ∃ before q after,
    Quantity.all = before ++ q :: after ∧ (∀ p ∈ before, s.IsInRange p) ∧ ¬ s.IsInRange q ∧
      e = .outOfRange q (s.get q) := by
  rw [check, Except.forM_eq_error_iff]
  simp only [Except.guard_eq_ok_iff, Except.guard_eq_error_iff]
  rfl

theorem ofLookup_eq_ok_iff : ofLookup lookup = .ok s ↔
    (∀ v : Variable, v.IsReadable lookup) ∧ given lookup = s ∧ s.check = .ok () := by
  rw [ofLookup_eq, Except.bind_eq_ok_iff, ← Variable.forall_inspect_iff]
  constructor
  · rintro ⟨⟨⟩, hread, h⟩
    obtain ⟨⟨⟩, hcheck, hgiven⟩ := Except.bind_eq_ok_iff.1 h
    obtain rfl := Except.ok.inj hgiven
    exact ⟨hread, rfl, hcheck⟩
  · rintro ⟨hread, rfl, hcheck⟩
    exact ⟨(), hread, Except.bind_eq_ok_iff.2 ⟨(), hcheck, rfl⟩⟩

theorem ofLookup_eq_error_iff {e : SettingError} : ofLookup lookup = .error e ↔
    Variable.all.forM (Variable.inspect lookup) = .error e ∨
      (∀ v : Variable, v.IsReadable lookup) ∧ (given lookup).check = .error e := by
  rw [ofLookup_eq, Except.bind_eq_error_iff, ← Variable.forall_inspect_iff]
  refine or_congr Iff.rfl ⟨?_, ?_⟩
  · rintro ⟨⟨⟩, hread, h⟩
    rcases Except.bind_eq_error_iff.1 h with hcheck | ⟨⟨⟩, -, hgiven⟩
    · exact ⟨hread, hcheck⟩
    · cases hgiven
  · rintro ⟨hread, hcheck⟩
    exact ⟨(), hread, Except.bind_eq_error_iff.2 (.inl hcheck)⟩

/-! ### Reading back -/

/-- Whether the variables are set to what settings are written as, with blanks around it. -/
def IsWritten (s : Settings) (lookup : String → Option String) : Prop :=
  ∀ v : Variable, ∃ padded, lookup v.name = some padded ∧ Text.Pads padded (v.display s)

namespace IsWritten

theorem trim_eq (h : s.IsWritten lookup) (v : Variable) :
    ∃ padded, lookup v.name = some padded ∧ Text.trim padded.toList = (v.display s).toList := by
  obtain ⟨padded, hlookup, hpads⟩ := h v
  refine ⟨padded, hlookup, hpads.trim ?_⟩
  cases v with
  | address => exact s.address.isBlank_of_mem_text
  | quantity q => exact fun c hc => Text.isBlank_of_isDigit (Text.isDigit_of_mem_toString hc)

theorem value_address (h : s.IsWritten lookup) :
    Variable.address.IsReadable lookup ∧
      value lookup Address.variableName Address.ofText? .loopback = s.address := by
  obtain ⟨padded, hlookup, htrim⟩ := h.trim_eq .address
  have hlookup : lookup Address.variableName = some padded := hlookup
  have hread : Address.ofText? (Text.trim padded.toList) = some s.address := by
    rw [htrim, Variable.display, Address.ofText?_text]
  refine ⟨fun text htext => ?_, by simp [value, hlookup, hread]⟩
  obtain rfl := Option.some.inj (hlookup.symm.trans htext)
  simp [Variable.accepts, hread]

theorem value_quantity (h : s.IsWritten lookup) {q : Quantity} (hq : s.IsInRange q) :
    (Variable.quantity q).IsReadable lookup ∧
      value lookup q.variableName (Text.unsigned? q.largest) q.default = s.get q := by
  obtain ⟨padded, hlookup, htrim⟩ := h.trim_eq (.quantity q)
  have hlookup : lookup q.variableName = some padded := hlookup
  have hread : Text.unsigned? q.largest (Text.trim padded.toList) = some (s.get q) := by
    rw [htrim, Variable.display, Text.unsigned?_toString (hq.2.trans q.most_le_largest)]
  refine ⟨fun text htext => ?_, by simp [value, hlookup, hread]⟩
  obtain rfl := Option.some.inj (hlookup.symm.trans htext)
  simp [Variable.accepts, hread]

/-- Settings in range are read back from what they are written as. -/
theorem ofLookup_eq (h : s.IsWritten lookup) (hcheck : s.check = .ok ())
    (hperiod : 1000000 ∣ s.periodNanos) : ofLookup lookup = .ok s := by
  have hrange := check_eq_ok_iff.1 hcheck
  refine ofLookup_eq_ok_iff.2 ⟨fun v => ?_, ?_, hcheck⟩
  · cases v with
    | address => exact h.value_address.1
    | quantity q => exact (h.value_quantity (hrange q)).1
  · have hvalue (q : Quantity) := (h.value_quantity (hrange q)).2
    have hnanos : s.get .period * 1000000 = s.periodNanos := Nat.div_mul_cancel hperiod
    simp only [given, hvalue, h.value_address.2, hnanos]
    rfl

end IsWritten

/-- Settings in range, with a period of whole milliseconds, are read back from what they are written
as, whatever blanks stand around it. No settings are read that are out of range. What is reported is
the first variable that cannot be read, in the order of address, port, guests, tables, period and
budget. Only if all can be read it is the first quantity that is out of range, in the same order. -/
theorem ofLookup_faithful :
    (∀ (s : Settings) (lookup : String → Option String), s.check = .ok () →
      1000000 ∣ s.periodNanos → s.IsWritten lookup → ofLookup lookup = .ok s) ∧
    (∀ (lookup : String → Option String) (s : Settings), ofLookup lookup = .ok s →
      s.check = .ok ()) ∧
    (∀ (lookup : String → Option String) (name found : String),
      ofLookup lookup = .error (.unreadable name found) ↔
        ∃ (before : List Variable) (v : Variable) (after : List Variable),
          [.address, .quantity .port, .quantity .maxGuests, .quantity .maxTables,
            .quantity .period, .quantity .decayBudget] = before ++ v :: after ∧
          (∀ u ∈ before, u.IsReadable lookup) ∧
          v.name = name ∧ lookup name = some found ∧ v.accepts found = false) ∧
    ∀ (lookup : String → Option String) (q : Quantity) (n : Nat),
      ofLookup lookup = .error (.outOfRange q n) ↔ (∀ v : Variable, v.IsReadable lookup) ∧
        ∃ before after : List Quantity,
          [.port, .maxGuests, .maxTables, .period, .decayBudget] = before ++ q :: after ∧
          (∀ p ∈ before, (given lookup).IsInRange p) ∧ (given lookup).get q = n ∧
          ¬ (q.least ≤ n ∧ n ≤ q.most) := by
  refine ⟨fun s lookup hcheck hperiod h => h.ofLookup_eq hcheck hperiod,
    fun lookup s h => (ofLookup_eq_ok_iff.1 h).2.2, fun lookup name found => ?_,
    fun lookup q n => ?_⟩
  · rw [ofLookup_eq_error_iff, Except.forM_eq_error_iff, check_eq_error_iff]
    simp only [Variable.inspect_eq_ok_iff, Variable.inspect_eq_error_iff]
    constructor
    · rintro (⟨before, v, after, hall, hbefore, text, hlookup, haccepts, he⟩ | ⟨-, h⟩)
      · obtain ⟨rfl, rfl⟩ := SettingError.unreadable.inj he
        exact ⟨before, v, after, hall, hbefore, rfl, hlookup, haccepts⟩
      · obtain ⟨_, _, _, _, _, _, he⟩ := h
        cases he
    · rintro ⟨before, v, after, hall, hbefore, rfl, hlookup, haccepts⟩
      exact .inl ⟨before, v, after, hall, hbefore, found, hlookup, haccepts, rfl⟩
  · rw [ofLookup_eq_error_iff, Except.forM_eq_error_iff, check_eq_error_iff]
    simp only [Variable.inspect_eq_error_iff]
    constructor
    · rintro (⟨_, _, _, _, _, _, _, _, he⟩ | ⟨hread, before, q', after, hall, hbefore, hq, he⟩)
      · cases he
      · obtain ⟨rfl, rfl⟩ := SettingError.outOfRange.inj he
        exact ⟨hread, before, after, hall, hbefore, rfl, hq⟩
    · rintro ⟨hread, before, after, hall, hbefore, rfl, hq⟩
      exact .inr ⟨hread, before, q, after, hall, hbefore, hq, rfl⟩

/-- Quantities at the ends of their ranges, between blanks of several kinds. Then two variables that
cannot be read, where a number that is out of range stands between them, and three numbers that are
out of range. -/
theorem ofLookup_faithful_extremes :
    let s : Settings :=
      { address := ⟨0, 255, 10, 1⟩, port := 49151, maxGuests := 2, maxTables := 10,
        periodNanos := 18446744073709551615 * 1000000, decayBudget := 4294967295 }
    let lookup (name : String) : Option String :=
      [("HNEF_BIND_ADDR", "\t0.255.10.1\r\n"), ("HNEF_PORT", " 49151 "), ("HNEF_MAX_CLIENTS", "2"),
        ("HNEF_MAX_ROOMS", "10\u2003"), ("HNEF_PING_PERIOD_MS", "\u00a018446744073709551615"),
        ("HNEF_DECAY_BUDGET", "4294967295")].lookup name
    let unread (name : String) : Option String :=
      [("HNEF_MAX_ROOMS", "five"), ("HNEF_MAX_CLIENTS", "1"), ("HNEF_PORT", "65536")].lookup name
    let beyond (name : String) : Option String :=
      [("HNEF_DECAY_BUDGET", "0"), ("HNEF_MAX_ROOMS", "11"), ("HNEF_MAX_CLIENTS", "21")].lookup name
    (s.check = .ok () ∧ 1000000 ∣ s.periodNanos ∧ s.IsWritten lookup) ∧
      (ofLookup lookup = .ok s ∧ s.check = .ok ()) ∧
      ofLookup unread = .error (.unreadable "HNEF_PORT" "65536") ∧
      ofLookup beyond = .error (.outOfRange .maxGuests 21) := by
  intro s lookup unread beyond
  obtain ⟨hback, hrange, hunread, hbeyond⟩ := ofLookup_faithful
  have hcheck : s.check = .ok () := check_eq_ok_iff.2 fun q => by cases q <;> decide +kernel
  have hperiod : 1000000 ∣ s.periodNanos := ⟨18446744073709551615, rfl⟩
  have hwritten : s.IsWritten lookup := by
    have pads {padded display : String} (before after : List Char)
        (hbefore : before.all Text.isBlank = true) (hafter : after.all Text.isBlank = true)
        (heq : padded.toList = before ++ display.toList ++ after) : Text.Pads padded display :=
      ⟨before, after, List.all_eq_true.1 hbefore, List.all_eq_true.1 hafter, heq⟩
    rintro (_ | q)
    · exact ⟨_, rfl, pads ['\t'] ['\r', '\n'] rfl rfl (by decide +kernel)⟩
    · cases q with
      | port => exact ⟨_, rfl, pads [' '] [' '] rfl rfl (by decide +kernel)⟩
      | maxGuests => exact ⟨_, rfl, pads [] [] rfl rfl (by decide +kernel)⟩
      | maxTables => exact ⟨_, rfl, pads [] ['\u2003'] rfl rfl (by decide +kernel)⟩
      | period => exact ⟨_, rfl, pads ['\u00a0'] [] rfl rfl (by decide +kernel)⟩
      | decayBudget => exact ⟨_, rfl, pads [] [] rfl rfl (by decide +kernel)⟩
  have hok := hback s lookup hcheck hperiod hwritten
  have haddress : Variable.address.IsReadable unread :=
    Variable.inspect_eq_ok_iff.1 (by decide +kernel)
  have hread : ∀ v : Variable, v.IsReadable beyond :=
    Variable.forall_inspect_iff.1 (by decide +kernel)
  have hport : (given beyond).IsInRange .port := by decide +kernel
  refine ⟨⟨hcheck, hperiod, hwritten⟩, ⟨hok, hrange lookup s hok⟩, ?_, ?_⟩
  · refine (hunread unread _ _).2 ⟨[.address], .quantity .port, _, rfl, ?_, rfl, rfl, ?_⟩
    · exact List.forall_mem_singleton.2 haddress
    · decide +kernel
  · refine (hbeyond beyond _ _).2 ⟨hread, [.port], _, rfl, ?_, ?_, by decide⟩
    · exact List.forall_mem_singleton.2 hport
    · decide +kernel

end Settings

end Tafl
