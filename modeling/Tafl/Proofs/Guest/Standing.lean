import Tafl.Guest
import Tafl.Proofs.Wire.Fields

/-! # What a guest's record can look like

`Guest.logical` is the phase that counts in a game, whether or not the guest answers. A record is
`Proper` if it belongs to a stranger, to a guest of the lobby or to a player, or was left behind by
a reconnection (`Stands`), and if its line, name and saved phase fit. The lemmas below say what
going away, coming back and settling do to a proper record. -/

namespace Tafl

namespace Guest
variable {g : Guest}

/-- The phase of a guest, or the phase to which it returns if it is away. -/
def logical (g : Guest) : Phase := if g.phase.isAway then g.saved else g.phase

theorem logical_of_away (h : g.phase.isAway = true) : g.logical = g.saved := if_pos h

theorem logical_of_awake (h : g.phase.isAway = false) : g.logical = g.phase := by
  simp [logical, h]

theorem logical_ping (h : g.phase.isAway = false) : g.ping.logical = g.logical := by
  rw [logical_of_awake h]; rfl

theorem logical_goAway {p : Phase} (hp : p.isAway = true) : (g.goAway p).logical = g.logical := by
  simp [logical, goAway, hp]

theorem logical_restore (h : g.saved.isAway = false) (b : Nat) :
    (g.restore b).logical = g.logical := by
  simp only [logical, restore]
  split <;> simp_all

theorem logical_settle {p : Phase} (hp : p.isAway = false) : (g.settle p).logical = p := by
  unfold settle
  split
  · exact logical_of_away ‹_›
  · exact logical_of_awake hp

@[simp] theorem name_settle (p : Phase) : (g.settle p).name = g.name := by
  unfold settle; split <;> rfl

@[simp] theorem table_settle (p : Phase) : (g.settle p).table = g.table := by
  unfold settle; split <;> rfl

@[simp] theorem line_settle (p : Phase) : (g.settle p).line = g.line := by
  unfold settle; split <;> rfl

theorem phase_settle (p : Phase) : (g.settle p).phase = if g.phase.isAway then g.phase else p := by
  unfold settle; split <;> rfl

theorem saved_settle (p : Phase) : (g.settle p).saved = if g.phase.isAway then p else g.saved := by
  unfold settle; split <;> rfl

def released (g : Guest) : Guest := { g with table := none }.settle .waiting

@[simp] theorem name_released : g.released.name = g.name := name_settle _

@[simp] theorem table_released : g.released.table = none := table_settle _

@[simp] theorem line_released : g.released.line = g.line := line_settle _

theorem released_of_away (h : g.phase.isAway = true) :
    g.released = { g with table := none, saved := .waiting } := if_pos h

theorem logical_released : g.released.logical = .waiting := logical_settle rfl

end Guest

theorem Phase.isAway_of_isPlaying {p : Phase} (hp : p.isPlaying = true) : p.isAway = false := by
  cases p <;> first | rfl | cases hp

def Table.phaseOf (t : Table) (s : Side) : Phase := if s = t.onTurn then .onTurn else .onStand

theorem Table.isAway_phaseOf (t : Table) (s : Side) : (t.phaseOf s).isAway = false := by
  unfold phaseOf; split <;> rfl

theorem Table.isPlaying_phaseOf (t : Table) (s : Side) : (t.phaseOf s).isPlaying = true := by
  unfold phaseOf; split <;> rfl

/-! ### Guests -/

namespace Guest

/-- What a guest can be, when `T` are the tables. -/
inductive Stands (T : Nat → Option Table) (g : Guest) : Prop where
  /-- Somebody who has not given a name yet. -/
  | stranger (name : g.name = none) (table : g.table = none) (line : g.line.isSome = true)
      (logical : g.logical = .new)
  /-- What a reconnection has left behind. -/
  | abandoned (name : g.name = none) (table : g.table = none) (line : g.line = none)
  | waiting (n : String) (name : g.name = some n) (table : g.table = none)
      (logical : g.logical = .waiting)
  | seated (t : Table) (s : Side) (name : g.name = some (t.player s)) (table : g.table = some t.id)
      (found : T t.id = some t) (logical : g.logical = t.phaseOf s)

structure Proper (T : Nat → Option Table) (g : Guest) : Prop where
  saved : g.saved.isAway = false
  named : ∀ n, g.name = some n → (Command.connect n).IsField
  cut : g.phase = .disconnected → g.line = none
  away : g.line = none → g.phase.isAway = true ∧ (g.name ≠ none → g.phase = .disconnected)
  stands : g.Stands T

namespace Proper
variable {T T' : Nat → Option Table} {g g' : Guest}

theorem table_of_unnamed (h : g.Proper T) (hn : g.name = none) : g.table = none := by
  cases h.stands with
  | stranger _ ht | abandoned _ ht => exact ht
  | waiting n hn' => simp [hn] at hn'
  | seated t s hn' => simp [hn] at hn'

theorem isAbandoned (h : g.Proper T) (hn : g.name = none) (hl : g.line = none) :
    g.isAbandoned = true := by
  have hnew : g.phase ≠ .new := by
    intro hp
    have haway := (h.away hl).1
    rw [hp] at haway
    cases haway
  simp [Guest.isAbandoned, hn, hnew]

theorem logical_of_stranger (h : g.Proper T) (hn : g.name = none) (hl : g.line ≠ none) :
    g.logical = .new := by
  cases h.stands with
  | stranger _ _ _ hp => exact hp
  | abandoned _ _ hl' => exact absurd hl' hl
  | waiting n hn' => simp [hn] at hn'
  | seated t s hn' => simp [hn] at hn'

theorem isPlaying_logical (h : g.Proper T) {k : Nat} (hk : g.table = some k) :
    g.logical.isPlaying = true := by
  cases h.stands with
  | stranger _ ht | abandoned _ ht | waiting _ _ ht => simp [hk] at ht
  | seated t s _ _ _ hp => rw [hp, t.isPlaying_phaseOf]

theorem isAway_restore (h : g.Proper T) (b : Nat) : (g.restore b).phase.isAway = false := by
  unfold restore
  dsimp only
  split
  · exact h.saved
  · exact eq_false_of_ne_true ‹_›

theorem awake_line (h : g.Proper T) (ha : g.phase.isAway = false) : g.line.isSome = true := by
  cases hl : g.line with
  | some l => rfl
  | none => rw [(h.away hl).1] at ha; cases ha

theorem mono (h : g.Proper T) (hT : ∀ k, g.table = some k → T' k = T k) : g.Proper T' := by
  refine ⟨h.saved, h.named, h.cut, h.away, ?_⟩
  cases h.stands with
  | stranger hn ht hl hp => exact .stranger hn ht hl hp
  | abandoned hn ht hl => exact .abandoned hn ht hl
  | waiting n hn ht hp => exact .waiting n hn ht hp
  | seated t s hn ht hf hp => exact .seated t s hn ht ((hT _ ht).trans hf) hp

/-- Going away and coming back change nothing but the phase that stands in for the logical one. -/
theorem touch (h : g.Proper T) (hn : g'.name = g.name) (ht : g'.table = g.table)
    (hl : g'.line = g.line) (hp : g'.logical = g.logical) (hs : g'.saved.isAway = false)
    (hc : g'.phase = .disconnected → g.line = none)
    (ha : g.line = none → g'.phase.isAway = true ∧ (g.name ≠ none → g'.phase = .disconnected)) :
    g'.Proper T := by
  refine ⟨hs, hn ▸ h.named, hl ▸ hc, by rwa [hl, hn], ?_⟩
  cases h.stands with
  | stranger hn' ht' hl' hp' =>
    exact .stranger (hn.trans hn') (ht.trans ht') (hl ▸ hl') (hp.trans hp')
  | abandoned hn' ht' hl' => exact .abandoned (hn.trans hn') (ht.trans ht') (hl.trans hl')
  | waiting n hn' ht' hp' => exact .waiting n (hn.trans hn') (ht.trans ht') (hp.trans hp')
  | seated t s hn' ht' hf hp' => exact .seated t s (hn.trans hn') (ht.trans ht') hf (hp.trans hp')

theorem decay (h : g.Proper T) (n : Nat) : { g with decay := n }.Proper T :=
  h.touch rfl rfl rfl rfl h.saved h.cut h.away

theorem restore (h : g.Proper T) (hl : g.line.isSome = true) (b : Nat) :
    (g.restore b).Proper T := by
  have hne : g.line ≠ none := fun e => by simp [e] at hl
  refine h.touch rfl rfl rfl (logical_restore h.saved b) h.saved (fun hd => ?_)
    fun e => absurd e hne
  simp only [Guest.restore] at hd
  split at hd
  · have := h.saved
    rw [hd] at this
    cases this
  · exact absurd (h.cut hd) hne

theorem ping (h : g.Proper T) (ha : g.phase.isAway = false) : g.ping.Proper T := by
  refine h.touch rfl rfl rfl (logical_ping ha) ha (fun hd => by cases hd) fun e => ?_
  have := h.awake_line ha
  simp [e] at this

theorem lose (h : g.Proper T) (hd : g.phase ≠ .disconnected) : g.lose.Proper T := by
  refine h.touch rfl rfl rfl (logical_goAway rfl) ?_ (fun hd' => by cases hd') fun e =>
    ⟨rfl, fun hn => absurd ((h.away e).2 hn) hd⟩
  have := h.saved
  simp only [Guest.lose, goAway]
  split <;> simp_all

theorem disconnect (h : g.Proper T) (hn : g.name ≠ none) (b : Nat) :
    (g.disconnect b).Proper T := by
  have hs : (g.disconnect b).saved.isAway = false := by
    have := h.saved
    simp only [Guest.disconnect, goAway]
    split <;> simp_all
  refine ⟨hs, h.named, fun _ => rfl, fun _ => ⟨rfl, fun _ => rfl⟩, ?_⟩
  have hp : (g.disconnect b).logical = g.logical := logical_goAway rfl
  cases h.stands with
  | stranger hn' | abandoned hn' => exact absurd hn' hn
  | waiting n hn' ht hl => exact .waiting n hn' ht (hp.trans hl)
  | seated t s hn' ht hf hl => exact .seated t s hn' ht hf (hp.trans hl)

/-- A guest that is settled is as it should be if it stands where it is put. -/
theorem settle (h : g.Proper T) {p : Phase} (hp : p.isAway = false) (hph : g'.phase = g.phase)
    (hsv : g'.saved = g.saved) (hl : g'.line = g.line)
    (hn : ∀ n, g'.name = some n → (Command.connect n).IsField)
    (ha : g.line = none → g'.name = g.name) (hs : (g'.settle p).Stands T') :
    (g'.settle p).Proper T' := by
  refine ⟨?_, by simpa using hn, ?_, ?_, hs⟩
  · have := h.saved
    rw [saved_settle, hsv]
    split <;> assumption
  · rw [phase_settle, line_settle, hph, hl]
    split
    · exact h.cut
    · rintro rfl; cases hp
  · rw [phase_settle, line_settle, name_settle, hph, hl]
    intro e
    rw [if_pos (h.away e).1, ha e]
    exact h.away e

end Proper

end Guest

end Tafl
