import Tafl.Proofs.Hall.Incidents

/-! # Badges

The badge of a guest is its name, its address and its line. Nearly everything leaves all badges as
they are; here it is said of each operation which ones it changes. `Naming` lists what can come of
giving a name. -/

namespace Tafl
open Function (update)

namespace Guest

/-- The name, the address and the line of a guest. -/
def badge (g : Guest) : Option String × Origin × Option Line := (g.name, g.origin, g.line)

@[simp] theorem badge_settle (g : Guest) (p : Phase) : (g.settle p).badge = g.badge := by
  unfold settle
  split <;> rfl

end Guest

namespace Roster

theorem findName?_modify {r : Roster} {i : GuestId} {f : Guest → Guest}
    (hf : ∀ g, (f g).name = g.name) (n : String) :
    (r.modify i f).findName? n = r.findName? n := by
  obtain ⟨es, hes⟩ := r
  simp only [findName?, modify]
  clear hes
  induction es with
  | nil => rfl
  | cons e es ih =>
    have hname : (if e.1 = i then (e.1, f e.2) else e).2.name = e.2.name := by
      split
      · exact hf e.2
      · rfl
    have hid : (if e.1 = i then (e.1, f e.2) else e).1 = e.1 := by split <;> rfl
    rw [List.map_cons]
    by_cases hn : e.2.name = some n
    · rw [List.find?_cons_of_pos (by simpa [hname] using hn),
        List.find?_cons_of_pos (by simpa using hn), Option.map_some, Option.map_some, hid]
    · rw [List.find?_cons_of_neg (by simpa [hname] using hn), ih,
        List.find?_cons_of_neg (by simpa using hn)]

end Roster

namespace Hall

def badge? (h : Hall) (i : GuestId) : Option (Option String × Origin × Option Line) :=
  (h.guest? i).map Guest.badge

variable {h h' k : Hall} {first : Nat} {i j o : GuestId} {g gi go : Guest} {n : String}

/-! ### What leaves all badges as they are -/

section
variable (h : Hall) (i : GuestId) (n : Notice) (m : Move) (d : String) (o : Option GuestId)
  (k : Nat) (w : Bool)

theorem badge?_congr {h h' : Hall} (hg : h'.guest? = h.guest?) : h'.badge? = h.badge? := by
  funext j
  rw [badge?, hg, badge?]

@[simp] theorem badge?_tables (ts : Tables) : { h with tables := ts }.badge? = h.badge? := rfl

@[simp] theorem badge?_send : (h.send i n).badge? = h.badge? := badge?_congr (guest?_send ..)

@[simp] theorem badge?_hangUp (l : Option Line) : (h.hangUp l).badge? = h.badge? :=
  badge?_congr (guest?_hangUp ..)

theorem badge?_revise {f : Guest → Guest} (hf : ∀ g, (f g).badge = g.badge) :
    (h.revise i f).badge? = h.badge? := by
  funext j
  rw [badge?, guest?_revise, badge?, Function.update_apply]
  split
  · subst j
    cases h.guest? i <;> simp [hf]
  · rfl

@[simp] theorem badge?_sendPlace : (h.sendPlace i).badge? = h.badge? :=
  badge?_congr (guest?_sendPlace ..)

@[simp] theorem badge?_sendToOpponent : (h.sendToOpponent i n).badge? = h.badge? :=
  badge?_congr (guest?_sendToOpponent ..)

@[simp] theorem badge?_rise :
    (h.revise i fun g => { g with table := none }).badge? = h.badge? :=
  badge?_revise _ _ fun _ => rfl

@[simp] theorem badge?_toLobby : (h.toLobby i).badge? = h.badge? := by
  have sit (g : Guest) : ({ g with table := none }.settle .waiting).badge = g.badge :=
    Guest.badge_settle { g with table := none } .waiting
  rw [toLobby, badge?_send, badge?_revise _ _ sit]

@[simp] theorem badge?_breakUp : (h.breakUp i n).badge? = h.badge? := by
  unfold breakUp
  split
  · rfl
  · cases h.opponent? i <;> simp

@[simp] theorem badge?_showMove : (h.showMove i o m d).badge? = h.badge? :=
  badge?_congr (guest?_showMove ..)

@[simp] theorem badge?_passTurn : (h.passTurn i o).badge? = h.badge? := by
  unfold passTurn
  cases o <;> simp [badge?_revise]

@[simp] theorem badge?_settleGame : (h.settleGame i o k w).badge? = h.badge? := by
  rw [settleGame_eq]
  cases o <;> simp

@[simp] theorem badge?_welcomeBack : (h.welcomeBack i).badge? = h.badge? := by
  unfold welcomeBack
  rw [badge?_sendToOpponent, badge?_sendPlace, badge?_send]
  rfl

@[simp] theorem badge?_restore (b : Nat) : (h.revise i (·.restore b)).badge? = h.badge? :=
  badge?_revise _ _ fun _ => rfl

@[simp] theorem badge?_ping : (h.revise i Guest.ping).badge? = h.badge? :=
  badge?_revise _ _ fun _ => rfl

@[simp] theorem badge?_lose : (h.revise i Guest.lose).badge? = h.badge? :=
  badge?_revise _ _ fun _ => rfl

theorem badge?_onPong : (h.onPong i).badge? = h.badge? := by
  unfold onPong
  repeat' split
  all_goals simp

theorem badge?_onMove : (h.onMove i m).1.badge? = h.badge? := by
  unfold onMove
  split
  · rfl
  · rename_i g _
    split
    · rfl
    · rename_i t _
      dsimp only
      cases t.play (g.name.getD "") m with
      | error e => exact badge?_send ..
      | ok p =>
        dsimp only
        cases p.2.winner <;> simp

theorem badge?_onLeave : (h.onLeave i).1.badge? = h.badge? := by
  unfold onLeave
  split <;> simp

theorem badge?_writeFailed : (h.writeFailed i).badge? = h.badge? := by
  unfold writeFailed
  dsimp only
  repeat' split
  all_goals simp

theorem badge?_pair (p : Pair) : (h.pair p).badge? = h.badge? := by
  rw [pair, badge?_congr (guest?_announce _)]
  have sit (k : Nat) (p : Phase) (g : Guest) : (g.sit k p).badge = g.badge :=
    Guest.badge_settle { g with table := some k } p
  rw [seat, badge?_revise _ _ (sit _ _), badge?_revise _ _ (sit _ _), badge?_tables]

theorem badge?_strike : (h.strike i).badge? = update h.badge? i none := by
  funext j
  rw [badge?, guest?_strike, Function.update_apply, Function.update_apply, badge?]
  split <;> rfl

theorem badge?_drop : (h.drop i).badge? = update h.badge? i none := by
  rw [drop, badge?_strike, badge?_breakUp]

end

/-! ### Giving a name

Whoever gives a name is there, so it is roused first. What follows depends on who holds the name. -/

def roused (h : Hall) (i : GuestId) : Hall := h.revise i (·.restore h.decayBudget)

theorem guest?_roused_of_ne (hj : j ≠ i) : (h.roused i).guest? j = h.guest? j := by
  rw [roused, guest?_revise, Function.update_of_ne hj]

theorem guest?_roused_self (hg : h.guest? i = some g) :
    (h.roused i).guest? i = some (g.restore h.decayBudget) := by
  rw [roused, guest?_revise, Function.update_self, hg]
  rfl

theorem obey_connect (hg : h.guest? i = some g) (n : String) :
    h.obey i (.connect n) = h.onConnect i n := by
  simp [obey, hg, Command.isAllowed]

theorem obey_connect_stranger (hg : h.guest? i = some g) (hn : g.name = none) (n : String) :
    h.obey i (.connect n) = (h.onFirstName i g n, .stay) := by
  rw [obey_connect hg, onConnect, hg]
  simp [hn]

theorem findName?_roused (n : String) : (h.roused i).roster.findName? n = h.roster.findName? n :=
  Roster.findName?_modify (f := (·.restore h.decayBudget)) (fun _ => rfl) n

theorem obey_connect_fresh (hg : h.guest? i = some g) (hn : g.name = none)
    (hfree : h.roster.findName? n = none) :
    h.obey i (.connect n) = ((((h.roused i).revise i fun g =>
      { g with name := some n }.settle .waiting).send i .connected).send i .lobby, .stay) := by
  have hr : h.revise i (·.restore h.decayBudget) = h.roused i := rfl
  rw [obey_connect_stranger hg hn, onFirstName, hr, findName?_roused, hfree]
  rfl

/-- A name that is held is taken over if the holder called from the same address and does not
answer. -/
theorem obey_connect_held (hg : h.guest? i = some g) (hn : g.name = none)
    (hf : h.roster.findName? n = some o) (hgo : h.guest? o = some go) :
    h.obey i (.connect n) = (if Recognition.judge (some go) g.origin = .nameInUse
      then (h.roused i).send i .nameInUse
      else ((h.roused i).handedOver o i).welcomeBack i, .stay) := by
  have hr : h.revise i (·.restore h.decayBudget) = h.roused i := rfl
  have hne : o ≠ i := ne_of_named hg hn hgo (by simp [found_name hf hgo])
  rw [obey_connect_stranger hg hn, onFirstName, hr, findName?_roused, hf, Option.bind_some,
    guest?_roused_of_ne hne, hgo]
  cases hj : Recognition.judge (some go) g.origin with
  | fresh => cases Recognition.judge_eq_fresh.1 hj
  | nameInUse => rfl
  | shortAbsence | longAbsence => rfl

theorem badge?_onOwnName : (h.onOwnName i g).badge? = h.badge? := by
  unfold onOwnName
  split <;> simp

theorem obey_connect_own (hg : h.guest? i = some g) {own : String} (hn : g.name = some own)
    (n : String) : (h.obey i (.connect n)).1.badge? = h.badge? := by
  rw [obey_connect hg, onConnect, hg]
  dsimp only
  rw [hn]
  dsimp only
  split
  · exact badge?_onOwnName
  · rfl

theorem badge?_obey {c : Command} (hc : ∀ n, c ≠ .connect n) :
    (h.obey i c).1.badge? = h.badge? := by
  unfold obey
  split
  · rfl
  · split
    · rfl
    · cases c with
      | connect n => exact absurd rfl (hc n)
      | ping => exact badge?_send ..
      | pong => exact badge?_onPong ..
      | move m => exact badge?_onMove ..
      | leave => exact badge?_onLeave ..
      | chat text => exact badge?_sendToOpponent ..
      | exit => rfl

theorem badge?_handedOver (hg : h.guest? i = some g) (hgo : h.guest? o = some go) (hne : o ≠ i) :
    (h.handedOver o i).badge? = update (update h.badge? o (some (none, go.origin, none))) i
      (some (go.name, g.origin, g.line)) := by
  funext j
  rw [badge?, guest?_handedOver hg hgo hne]
  simp only [Function.update_apply]
  split
  · rfl
  · split <;> rfl

/-- What a stranger that gives a name gets, and what becomes of the badges. -/
inductive Naming (h : Hall) (i : GuestId) (g : Guest) (n : String) :
    (GuestId → Option (Option String × Origin × Option Line)) → Prop
  | fresh (free : h.roster.findName? n = none) :
      Naming h i g n (update h.badge? i (some (some n, g.origin, g.line)))
  | refused {o : GuestId} {go : Guest} (found : h.roster.findName? n = some o)
      (there : h.guest? o = some go)
      (in_use : Recognition.judge (some go) g.origin = .nameInUse) : Naming h i g n h.badge?
  | taken {o : GuestId} {go : Guest} (found : h.roster.findName? n = some o)
      (there : h.guest? o = some go)
      (back : Recognition.judge (some go) g.origin ≠ .nameInUse) :
      Naming h i g n (update (update h.badge? o (some (none, go.origin, none))) i
        (some (some n, g.origin, g.line)))

theorem naming_obey (hg : h.guest? i = some g) (hn : g.name = none) (n : String) :
    Naming h i g n (h.obey i (.connect n)).1.badge? := by
  have hr : (h.roused i).badge? = h.badge? := badge?_restore ..
  cases hf : h.roster.findName? n with
  | none =>
    have hname : ((h.roused i).revise i fun g => { g with name := some n }.settle .waiting).badge? =
        update h.badge? i (some (some n, g.origin, g.line)) := by
      funext j
      rw [badge?, guest?_revise, guest?_roused_self hg, Function.update_apply,
        Function.update_apply]
      split
      · rw [Option.map_some, Option.map_some, Guest.badge_settle]
        rfl
      · exact congrFun hr j
    rw [obey_connect_fresh hg hn hf, badge?_send, badge?_send, hname]
    exact .fresh hf
  | some o =>
    obtain ⟨go, hgo, hno⟩ := Roster.findName?_eq_some hf
    have hgo : h.guest? o = some go := hgo
    rw [obey_connect_held hg hn hf hgo]
    split
    · rename_i hj
      rw [badge?_send, hr]
      exact .refused hf hgo hj
    · rename_i hj
      have hne : o ≠ i := ne_of_named hg hn hgo (by simp [hno])
      rw [badge?_welcomeBack, badge?_handedOver (guest?_roused_self hg)
        ((guest?_roused_of_ne hne).trans hgo) hne, hr, hno]
      exact .taken hf hgo hj

/-! ### Newcomers and pairs -/

theorem badge?_accept {id : GuestId} {origin : Origin} {line : Line} (hid : i ≠ id)
    (hplace : h.roster.size < h.capacity ∨ h.roster.longestDisconnected? ≠ some i) :
    (h.accept id origin line).1.badge? i = h.badge? i := by
  have enrol (k : Hall) : (k.enrol id origin line).badge? i = k.badge? i := by
    rw [badge?, guest?_enrol_of_ne hid, badge?]
  unfold accept
  split
  · exact enrol h
  · rename_i hfull
    have hne := hplace.resolve_left hfull
    split
    · rename_i old hold
      have hold' : i ≠ old := by
        rintro rfl
        exact hne hold
      dsimp only
      rw [enrol, badge?_drop, Function.update_of_ne hold']
    · rfl

/-- The place of a guest that is not disconnected is not given away. -/
theorem longestDisconnected?_ne (hg : h.guest? i = some g) (hp : g.phase ≠ .disconnected) :
    h.roster.longestDisconnected? ≠ some i := by
  intro hi
  obtain ⟨x, hx, hxp, -⟩ := Roster.longestDisconnected?_eq_some hi
  obtain rfl := Option.some.inj (hg.symm.trans hx)
  exact hp hxp

theorem badge?_foldl_pair (ps : List Pair) : (ps.foldl pair h).badge? = h.badge? := by
  induction ps generalizing h with
  | nil => rfl
  | cons p ps ih => rw [List.foldl_cons, ih, badge?_pair]

theorem Reached.badge?_matchmake {c m b : Nat} {as : List (GuestId × Line)}
    (r : Reached c m b first as h) : h.matchmake.badge? = h.badge? := by
  rw [matchmake_eq (Reached.orderly r) (Reached.first_le r), badge?_foldl_pair]

/-! ### Sweeps -/

theorem badge?_sweepGuest_of_ne (hj : j ≠ i) : (h.sweepGuest i).badge? j = h.badge? j := by
  have fade : (h.revise i fun g => { g with decay := g.decay - 1 }).badge? = h.badge? :=
    badge?_revise _ _ fun _ => rfl
  have cut : ((h.send i .kicked).revise i (·.disconnect h.decayBudget)).badge? j = h.badge? j := by
    rw [badge?, guest?_revise, Function.update_of_ne hj, guest?_send]
    rfl
  unfold sweepGuest
  split
  · rfl
  · split
    · rw [badge?_drop, Function.update_of_ne hj]
    · split
      · dsimp only
        split <;> simp
      · simp [cut]
      · dsimp only
        split
        · rw [badge?_drop, Function.update_of_ne hj, fade]
        · rw [fade]
      all_goals rw [badge?_send, badge?_ping]

/-- A guest with a name is kept as long as it is not disconnected. -/
theorem badge?_sweepGuest_self (hg : h.guest? i = some g) (hn : g.name = some n)
    (hp : g.phase ≠ .disconnected) :
    ∃ l, (h.sweepGuest i).badge? i = some (some n, g.origin, l) := by
  have hb : h.badge? i = some (some n, g.origin, g.line) := by
    rw [badge?, hg, Option.map_some, Guest.badge, hn]
  have hab : ¬ g.isAbandoned = true := by simp [Guest.isAbandoned, hn]
  unfold sweepGuest
  rw [hg]
  dsimp only
  rw [if_neg hab]
  cases hphase : g.phase with
  | pinged =>
    refine ⟨g.line, ?_⟩
    dsimp only
    split <;> simpa using hb
  | lost =>
    refine ⟨none, ?_⟩
    dsimp only
    rw [badge?_sendToOpponent, badge?_hangUp, badge?, guest?_revise, Function.update_self,
      guest?_send, hg, Option.map_some, Option.map_some, ← hn]
    rfl
  | disconnected => exact absurd hphase hp
  | new | waiting | onTurn | onStand =>
    refine ⟨g.line, ?_⟩
    dsimp only
    rw [badge?_send, badge?_ping, hb]

theorem badge?_foldl_sweepGuest {is : List GuestId} (hi : i ∉ is) :
    (is.foldl sweepGuest h).badge? i = h.badge? i := by
  induction is generalizing h with
  | nil => rfl
  | cons j is ih =>
    rw [List.mem_cons, not_or] at hi
    rw [List.foldl_cons, ih hi.2, badge?_sweepGuest_of_ne hi.1]

theorem Orderly.foldl_sweepGuest (ho : h.Orderly first) (is : List GuestId) :
    (is.foldl sweepGuest h).Orderly first := by
  induction is generalizing h with
  | nil => exact ho
  | cons i is ih => exact ih (Row.sweepGuest.orderly ho)

/-- A sweep comes to a guest once. -/
theorem exists_sweep_split (hg : h.guest? i = some g) : ∃ before after,
    h.roster.ids = before ++ i :: after ∧ i ∉ before ∧ i ∉ after ∧
      h.sweep = after.foldl sweepGuest ((before.foldl sweepGuest h).sweepGuest i) := by
  obtain ⟨before, after, hids⟩ := List.append_of_mem (Roster.mem_ids_iff.2 ⟨g, hg⟩)
  have hnodup : (before ++ i :: after).Nodup := hids ▸ h.roster.nodup
  obtain ⟨-, hcons, hdisj⟩ := List.nodup_append.1 hnodup
  refine ⟨before, after, hids, fun hi => ?_, (List.nodup_cons.1 hcons).1, ?_⟩
  · exact hdisj i hi i (List.mem_cons_self ..) rfl
  · rw [sweep, hids, List.foldl_append, List.foldl_cons]

end Hall

end Tafl
