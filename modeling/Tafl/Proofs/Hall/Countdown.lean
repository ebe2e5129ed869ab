import Tafl.Proofs.Hall.Names
import Tafl.Proofs.Hall.Reconnections
import Tafl.Proofs.Wire.Decode

/-! # Back in time

`Hall.after_countdown`: a disconnected guest whose sweeps are not used up gets back to its game if
it calls from where it called before and gives its name, whoever else is there. The exception is a
full hall: there somebody is given up for the newcomer before it can say who it is, and that may
be the guest itself or its opponent. -/

namespace Tafl

namespace Hall

/-- The guest `i` is disconnected, and its sweeps are not used up. -/
structure Awaits (h : Hall) (i : GuestId) (gi : Guest) (n : String) : Prop where
  there : h.guest? i = some gi
  name : gi.name = some n
  phase : gi.phase = .disconnected
  decay : 0 < gi.decay

/-- The hall is full, and the guest it gives up for a newcomer is `i` or the opponent of `i`. -/
def GivesUp (h : Hall) (i : GuestId) : Prop :=
  h.capacity ≤ h.roster.size ∧
    ∃ o, h.roster.longestDisconnected? = some o ∧ (o = i ∨ h.opponent? i = some o)

/-- Somebody calls, and the first that comes in from it is a name. -/
def called (h : Hall) (id : GuestId) (origin : Origin) (line : Line) (n : String) : Hall :=
  (h.handle (.connected id origin line)).handle (.data id (Request.frame [.connect n]).toUTF8)

/-- In the hall `k` the guest `j` is what `gi` was in the hall `h`, and the game of `gi` goes on. -/
structure Resumes (h k : Hall) (j : GuestId) (gi : Guest) (n : String) : Prop where
  guest : ∃ g, k.guest? j = some g ∧ g.name = some n ∧ g.table = gi.table ∧ g.phase = gi.saved ∧
    g.saved = gi.saved
  game : ∀ t, gi.table = some t → ∃ T, h.tables.get? t = some T ∧ k.tables.get? t = some T ∧
    T.winner = none

/-- In the hall `k` the guest `j` has the name of `gi`, but the game of `gi` is over. -/
structure StartsOver (k : Hall) (j : GuestId) (gi : Guest) (n : String) : Prop where
  guest : ∃ g, k.guest? j = some g ∧ g.name = some n ∧ g.table = none ∧ g.phase = .waiting
  game : ∀ t, gi.table = some t → k.tables.get? t = none

variable {h k : Hall} {first : Nat} {i j o id : GuestId} {g gi : Guest} {n : String}
  {origin : Origin} {line : Line}

/-! ### Who is given up -/

theorem Orderly.findName?_drop_self (ho : h.Orderly first) (hg : h.guest? i = some gi)
    (hn : gi.name = some n) : (h.drop i).roster.findName? n = none := by
  cases hf : (h.drop i).roster.findName? n with
  | none => rfl
  | some j =>
    obtain ⟨x, hx, hxn⟩ := Roster.findName?_eq_some hf
    have hx : (h.drop i).guest? j = some x := hx
    have hb := congrFun (badge?_drop h i) j
    rw [badge?, hx, Function.update_apply] at hb
    split at hb
    · cases hb
    · rename_i hj
      obtain ⟨y, hy, hyx⟩ := Option.map_eq_some_iff.1 hb.symm
      have hyn : y.name = x.name := congrArg Prod.fst hyx
      exact absurd (ho.unique j i y gi n hy hg (hyn.trans hxn) hn) hj

theorem Inherits.findName?_eq_none (e : h.Inherits k) (hfree : h.roster.findName? n = none) :
    k.roster.findName? n = none := by
  cases hf : k.roster.findName? n with
  | none => rfl
  | some j =>
    obtain ⟨x, hx, hxn⟩ := Roster.findName?_eq_some hf
    obtain ⟨y, hy, hyn, -⟩ := e j x n hx hxn
    exact absurd hyn (Roster.findName?_eq_none hfree hy)

/-! ### Giving the name -/

theorem receive_connect (hg : h.guest? j = some g) (hl : g.line ≠ none) (hn : g.name = none)
    (hf : (Command.connect n).IsField) :
    h.receive j (Request.frame [.connect n]).toUTF8 =
      ((h.meet (.received (Request.frame [.connect n]).toUTF8.size)).obey j (.connect n)).1 := by
  generalize hk : h.meet (.received (Request.frame [.connect n]).toUTF8.size) = k
  have hg' : k.guest? j = some g := by subst hk; exact hg
  have hl' : (k.line? j).isNone = false := by
    rw [line?_of_guest? hg', Option.isNone_eq_false_iff, Option.isSome_iff_ne_none]
    exact hl
  rw [receive, ← meet, hk, hl', if_neg (by decide), Request.decode_connect hf]
  show k.obeyAll j [.connect n] = _
  rw [obeyAll, obey_connect_stranger hg' hn]
  rfl

/-- A newcomer that gives a free name waits in the lobby. -/
theorem receive_connect_fresh {b : Nat} (hg : h.guest? j = some (.arriving origin line b))
    (hf : (Command.connect n).IsField) (hfree : h.roster.findName? n = none) :
    (∃ g, (h.receive j (Request.frame [.connect n]).toUTF8).guest? j = some g ∧ g.name = some n ∧
      g.table = none ∧ g.phase = .waiting) ∧
      (h.receive j (Request.frame [.connect n]).toUTF8).tables = h.tables := by
  rw [receive_connect hg (by simp [Guest.arriving]) rfl hf]
  generalize (Request.frame [.connect n]).toUTF8.size = k
  have hg' : (h.meet (.received k)).guest? j = some (.arriving origin line b) := hg
  rw [obey_connect_fresh hg' rfl hfree]
  dsimp only
  rw [guest?_send, guest?_send, guest?_revise, Function.update_self, guest?_roused_self hg',
    tables_send, tables_send]
  exact ⟨⟨_, rfl, rfl, rfl, rfl⟩, rfl⟩

theorem Returns.receive {gj : Guest} (r : h.Returns i j gi gj n) (ho : h.Orderly first)
    (hd : 0 < gi.decay) :
    (∃ g, (h.receive j (Request.frame [.connect n]).toUTF8).guest? j = some g ∧ g.name = some n ∧
      g.table = gi.table ∧ g.phase = gi.saved ∧ g.saved = gi.saved) ∧
      (h.receive j (Request.frame [.connect n]).toUTF8).tables = h.tables := by
  rw [receive_connect r.new r.line r.stranger ((InOrder.proper ho i gi r.old).named n r.name)]
  generalize (Request.frame [.connect n]).toUTF8.size = k
  have r' : (h.meet (.received k)).Returns i j gi gj n :=
    ⟨r.old, r.name, r.away, r.new, r.stranger, r.line, r.origin⟩
  have ho' : (h.meet (.received k)).Orderly first := ho
  rw [r'.obey ho' hd]
  refine ⟨⟨gj.heir gi h.decayBudget, ?_, r.name, rfl, rfl, rfl⟩,
    tables_welcomeBack.trans Returns.tables_resumed⟩
  rw [guest?_welcomeBack, r'.guest?_resumed, Function.update_self]
  rfl

/-! ### Calling, and giving the name -/

theorem called_eq {h₀ : Hall} {w : Bool}
    (haccept : h.accept id origin line = (h₀.enrol id origin line, w)) :
    h.called id origin line n =
      (h₀.enrol id origin line).receive id (Request.frame [.connect n]).toUTF8 := by
  rw [called, handle, handle, haccept]

/-- A newcomer from the address of a disconnected guest can take over from it. -/
theorem Awaits.returns (a : h.Awaits i gi n) (hid : i ≠ id) (line : Line) :
    (h.enrol id gi.origin line).Returns i id gi (.arriving gi.origin line h.decayBudget) n where
  old := (guest?_enrol_of_ne hid).trans a.there
  name := a.name
  away := by rw [a.phase]; rfl
  new := guest?_enrol_self
  stranger := rfl
  line := by simp [Guest.arriving]
  origin := rfl

/-- Unless it or its opponent is given up, a disconnected guest does not notice a newcomer. -/
theorem Orderly.exists_accept (ho : h.Orderly first) (a : h.Awaits i gi n) (hno : ¬ h.GivesUp i)
    (id : GuestId) (origin : Origin) (line : Line) :
    ∃ h₀ : Hall, h.accept id origin line = (h₀.enrol id origin line, true) ∧ h₀.guest? i = some gi ∧
      ∀ t, gi.table = some t → h₀.tables.get? t = h.tables.get? t := by
  by_cases hroom : h.roster.size < h.capacity
  · exact ⟨h, accept_of_room hroom, a.there, fun _ _ => rfl⟩
  · have hfull : h.capacity ≤ h.roster.size := by omega
    obtain ⟨o, hfirst⟩ := Roster.exists_longestDisconnected? a.there a.phase
    have hoi : o ≠ i := fun e => hno ⟨hfull, o, hfirst, .inl e⟩
    have hop : h.opponent? i ≠ some o := fun e => hno ⟨hfull, o, hfirst, .inr e⟩
    exact ⟨h.drop o, accept_of_full hfull hfirst, ho.drop_stranger a.there hoi hop⟩

namespace Reached
variable {c m b : Nat} {as : List (GuestId × Line)}

theorem orderly_accept (r : Reached c m b first as h) {w : Bool}
    (hf : ((as ++ [(id, line)]).map Prod.fst).Nodup) (haccept : h.accept id origin line = (k, w)) :
    k.Orderly first := by
  have l := Reached.handle r (e := .connected id origin line) hf
  rw [Hall.handle, haccept] at l
  exact Reached.orderly (r.trans l)

theorem resumes (r : Reached c m b first as h) (a : h.Awaits i gi n)
    (hf : ((as ++ [(id, line)]).map Prod.fst).Nodup) (hno : ¬ h.GivesUp i) :
    h.Resumes (h.called id gi.origin line n) id gi n := by
  have ho : h.Orderly first := Reached.orderly r
  obtain ⟨h₀, haccept, hi, htables⟩ := ho.exists_accept a hno id gi.origin line
  have a₀ : h₀.Awaits i gi n := { a with there := hi }
  obtain ⟨hguest, hsame⟩ := (a₀.returns (Reached.ne_newcomer r hf a.there) line).receive
    (Reached.orderly_accept r hf haccept) a.decay
  rw [called_eq haccept]
  refine ⟨hguest, fun t ht => ?_⟩
  obtain ⟨T, s, rfl, hT, -⟩ := InOrder.seat ho a.there ht
  have hT' := Tables.get?_of_since hT
  refine ⟨T, hT', ?_, (ho.tables _ _ hT).2.1⟩
  rw [hsame, ← hT']
  exact htables _ ht

theorem startsOver (r : Reached c m b first as h) (a : h.Awaits i gi n)
    (hf : ((as ++ [(id, line)]).map Prod.fst).Nodup) (hup : h.GivesUp i) :
    (h.called id gi.origin line n).StartsOver id gi n := by
  have ho : h.Orderly first := Reached.orderly r
  obtain ⟨hfull, o, hfirst, hio⟩ := hup
  have haccept : h.accept id gi.origin line = ((h.drop o).enrol id gi.origin line, true) :=
    accept_of_full hfull hfirst
  rw [called_eq haccept]
  rcases hio with rfl | hop
  · -- the record itself is gone, and the name is free
    have hfree := ho.findName?_drop_self a.there a.name
    obtain ⟨hguest, hsame⟩ := receive_connect_fresh (h := (h.drop o).enrol id gi.origin line)
      guest?_enrol_self ((InOrder.proper ho o gi a.there).named n a.name)
      (Inherits.enrol.findName?_eq_none hfree)
    refine ⟨hguest, fun t ht => ?_⟩
    rw [hsame]
    exact ho.drop_self_table a.there ht
  · -- the opponent is gone, and the record is handed over as it was left in the lobby
    obtain ⟨hi, t, htable, hclosed⟩ := ho.drop_opponent a.there hop
    rw [Guest.released_of_away (by rw [a.phase]; rfl)] at hi
    have a₀ : (h.drop o).Awaits i { gi with table := none, saved := .waiting } n :=
      { a with there := hi }
    obtain ⟨⟨g, hg, hname, hfree, hphase, -⟩, hsame⟩ :=
      (a₀.returns (Reached.ne_newcomer r hf a.there) line).receive
        (Reached.orderly_accept r hf haccept) a.decay
    refine ⟨⟨g, hg, hname, hfree, hphase⟩, fun t' ht' => ?_⟩
    obtain rfl := Option.some.inj (htable.symm.trans ht')
    rw [hsame]
    exact hclosed

end Reached

/-- A disconnected guest that is still waited for calls from where it called before, and gives its
name. It gets back what it had, and its game goes on, unless it or its opponent had to be given up
to take it in. Even then it has its name. -/
theorem after_countdown (capacity maxTables budget : Nat) {xs : List Incident} {i id : GuestId}
    {gi : Guest} {line : Line} {n : String}
    (hp : Incident.Plausible (xs ++ [.arrival id gi.origin line]))
    (a : ((vacant capacity maxTables budget).after xs).Awaits i gi n) :
    let h := (vacant capacity maxTables budget).after xs
    let k := h.called id gi.origin line n
    (¬ h.GivesUp i → h.Resumes k id gi n) ∧ (h.GivesUp i → k.StartsOver id gi n) := by
  intro h k
  obtain ⟨first, r⟩ := hp.left.reached capacity maxTables budget
  have hf := hp.ids
  rw [List.flatMap_append, List.flatMap_singleton] at hf
  exact ⟨Reached.resumes r a hf, Reached.startsOver r a hf⟩

/-- The hall is full of guests that do not answer. Carl was the first to be given up on, so Bob
gets back to his game. -/
theorem after_countdown_full_hall :
    let xs : List Incident := [.arrival 1 "a" 0, .command 1 (.connect "Ada"), .arrival 2 "b" 1,
      .command 2 (.connect "Bob"), .matchmake, .arrival 3 "c" 2, .command 3 (.connect "Carl"),
      .sweep, .command 1 .pong, .command 2 .pong, .sweep, .sweep, .sweep]
    let gi : Guest := { name := some "Bob", origin := "b", table := some 1, phase := .disconnected,
                        saved := .onStand, decay := 3, line := none }
    let h := (vacant 3 2 3).after xs
    let k := h.called 4 "b" 3 "Bob"
    (Incident.Plausible (xs ++ [.arrival 4 "b" 3]) ∧ h.Awaits 2 gi "Bob") ∧
      h.capacity ≤ h.roster.size ∧ ¬ h.GivesUp 2 ∧ h.Resumes k 4 gi "Bob" := by
  intro xs gi h k
  have hp : Incident.Plausible (xs ++ [.arrival 4 "b" 3]) := by decide +kernel
  have a : h.Awaits 2 gi "Bob" := ⟨by decide +kernel, rfl, rfl, by decide⟩
  have hno : ¬ h.GivesUp 2 := by
    rintro ⟨-, o, ho, hio⟩
    have hfirst : h.roster.longestDisconnected? = some 3 := by decide +kernel
    obtain rfl := Option.some.inj (hfirst.symm.trans ho)
    revert hio
    decide +kernel
  obtain ⟨hresumes, -⟩ := after_countdown 3 2 3 hp a
  exact ⟨⟨hp, a⟩, by decide +kernel, hno, hresumes hno⟩

/-- In a full hall a guest may lose its game by coming back. In the first hall Ada takes her own
old place, in the second one the place of Bob, her opponent. -/
theorem not_resumes_full_hall :
    let xs : List Incident := [.arrival 1 "a" 0, .command 1 (.connect "Ada"), .arrival 2 "b" 1,
      .command 2 (.connect "Bob"), .matchmake, .arrival 3 "c" 2, .command 3 (.connect "Carl")]
    let ys : List Incident := [.sweep, .sweep, .sweep]
    let zs : List Incident := [.sweep, .command 1 .pong, .command 3 .pong, .sweep, .sweep, .sweep]
    let gi : Guest := { name := some "Ada", origin := "a", table := some 1, phase := .disconnected,
                        saved := .onTurn, decay := 3, line := none }
    ∀ us ∈ [ys, zs], let h := (vacant 3 2 3).after (xs ++ us)
      Incident.Plausible (xs ++ us ++ [.arrival 4 "a" 3]) ∧ h.Awaits 1 gi "Ada" ∧
        ¬ h.Resumes (h.called 4 "a" 3 "Ada") 4 gi "Ada" := by
  intro xs ys zs gi us hus h
  have lost (hclosed : (h.called 4 "a" 3 "Ada").tables.get? 1 = none) :
      ¬ h.Resumes (h.called 4 "a" 3 "Ada") 4 gi "Ada" := by
    intro r
    obtain ⟨T, -, hT, -⟩ := r.game 1 rfl
    rw [hclosed] at hT
    cases hT
  rcases List.mem_pair.1 hus with rfl | rfl
  · exact ⟨by decide +kernel, ⟨by decide +kernel, rfl, rfl, by decide⟩, lost (by decide +kernel)⟩
  · exact ⟨by decide +kernel, ⟨by decide +kernel, rfl, rfl, by decide⟩, lost (by decide +kernel)⟩

end Hall

end Tafl
