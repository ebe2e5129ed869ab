import Tafl.Proofs.Hall.Reconnections

/-! # What a command comes to

In a hall in order there are six things that a command can make of the guests and the tables
(`Orderly.reply`). What is true of the records after a command is proved by looking at these. A
guest that has to leave for a command has changed nothing by it (`fst_obey_of_leave`). -/

namespace Tafl
open Function (update)

namespace Hall

/-- What the hall `h'` has become of `h` when the guest `i`, whose record is `g`, has given the
command `c`. -/
inductive Reply (h : Hall) (i : GuestId) (g : Guest) (c : Command) (h' : Hall) : Prop
  | same (guests : h'.guest? = h.guest?)
  /-- A sign of life. -/
  | back (asked : c = .pong ∨ ∃ n, c = .connect n)
      (guests : h'.guest? = update h.guest? i (some (g.restore h.decayBudget)))
  | name {n : String} (asked : c = .connect n) (stranger : g.name = none)
      (guests : h'.guest? = update h.guest? i
        (some ({ g.restore h.decayBudget with name := some n }.settle .waiting)))
  | resume {n : String} {o : GuestId} {go : Guest} (asked : c = .connect n)
      (returns : h.Returns o i go g n)
      (guests : h'.guest? = update (update h.guest? o (some go.relict)) i
        (some (g.heir go h.decayBudget)))
  | turn {o : GuestId} {go : Guest} {t t' : Table} {m : Move} {r : Report} (asked : c = .move m)
      (duel : Duel h.guest? h.tables.get? i o g go t t.onTurn)
      (move : t.play (t.player t.onTurn) m = .ok (t', r)) (goes_on : r.winner = none)
      (guests : h'.guest? = update (update h.guest? i (some (g.settle .onStand))) o
        (some (go.settle .onTurn)))
      (table : h'.tables.get? t.id = some t')
  | ended {o : GuestId} {go : Guest} {t : Table} {s : Side} (asked : (∃ m, c = .move m) ∨ c = .leave)
      (duel : Duel h.guest? h.tables.get? i o g go t s)
      (guests : h'.guest? = update (update h.guest? i (some g.released)) o (some go.released))
      (closed : h'.tables.get? t.id = none)

variable {h : Hall} {first : Nat} {i : GuestId} {g : Guest} {n : String}

theorem fst_obey_of_leave {c : Command} {why : Departure} (hv : (h.obey i c).2 = .leave why) :
    (h.obey i c).1 = h := by
  unfold obey at hv ⊢
  split at hv
  · cases hv
  · split at hv
    · simp_all
    · cases c with
      | ping | pong | chat => simp at hv
      | connect n =>
        simp only [onConnect] at hv ⊢
        repeat' split at hv
        all_goals simp_all
      | move m =>
        simp only [onMove] at hv ⊢
        repeat' split at hv
        all_goals simp_all
      | leave =>
        simp only [onLeave] at hv ⊢
        split at hv <;> simp_all
      | exit => simp_all

/-! ### One case for each command -/

theorem reply_pong (hg : h.guest? i = some g) : h.Reply i g .pong (h.onPong i) := by
  have hguest := guest?_onPong hg
  split at hguest
  · exact .back (.inl rfl) hguest
  · exact .same hguest

theorem reply_own_name (hg : h.guest? i = some g) : h.Reply i g (.connect n) (h.onOwnName i g) := by
  unfold onOwnName
  split
  · refine .back (.inr ⟨n, rfl⟩) ?_
    rw [guest?_welcomeBack, guest?_revise, hg]
    rfl
  · exact .same (guest?_send ..)

theorem reply_connect (hg : h.guest? i = some g) (hl : g.line ≠ none) :
    h.Reply i g (.connect n) (h.obey i (.connect n)).1 := by
  have hroused : (h.roused i).guest? = update h.guest? i (some (g.restore h.decayBudget)) := by
    rw [roused, guest?_revise, hg]
    rfl
  cases hn : g.name with
  | some own =>
    rw [obey_connect hg, onConnect, hg]
    dsimp only
    rw [hn]
    dsimp only
    split
    · exact reply_own_name hg
    · exact .same rfl
  | none =>
    cases hf : h.roster.findName? n with
    | none =>
      rw [obey_connect_fresh hg hn hf]
      refine .name rfl hn ?_
      rw [guest?_send, guest?_send, guest?_revise, hroused, Function.update_self,
        Function.update_idem]
      rfl
    | some o =>
      obtain ⟨go, hgo, hno⟩ := Roster.findName?_eq_some hf
      rw [obey_connect_held hg hn hf hgo]
      split
      · exact .back (.inr ⟨n, rfl⟩) ((guest?_send ..).trans hroused)
      · rename_i hj
        obtain ⟨horigin, haway⟩ := Recognition.judge_of_absence hj
        have r : h.Returns o i go g n := ⟨hgo, hno, haway, hg, hn, hl, horigin⟩
        exact .resume rfl r (guest?_welcomeBack.trans r.guest?_resumed)

theorem Orderly.reply_move (ho : h.Orderly first) (hg : h.guest? i = some g) (m : Move) :
    h.Reply i g (.move m) (h.onMove i m).1 := by
  cases ht : h.table? i with
  | none =>
    rw [onMove_of_table?_eq_none hg ht]
    exact .same rfl
  | some t =>
    obtain ⟨o, go, s, d⟩ := ho.duel_of_table? hg ht
    cases hm : t.play (t.player s) m with
    | error e =>
      rw [onMove_of_error d hm]
      exact .same (guest?_send ..)
    | ok p =>
      obtain ⟨t', r⟩ := p
      obtain ⟨rfl, b, -, rfl⟩ := play_eq_ok_of_duel d hm
      cases hw : r.winner with
      | none =>
        rw [ho.onMove_turn d hm hw]
        dsimp only
        have hguest := guest?_turn d (h.tables.replace (t.after b r)) m (t.after b r).board.digits
        have ht := tables_turn d (t.after b r) rfl m (t.after b r).board.digits
        exact .turn rfl d hm hw hguest (by rw [ht, Function.update_self])
      | some w =>
        rw [ho.onMove_finish d hm hw]
        dsimp only
        have hguest := guest?_finish d (h.tables.replace (t.after b r)) m
          (t.after b r).board.digits (t.after b r).id
          ((t.after b r).sideOf? (t.player t.onTurn) = some w)
        have ht := tables_finish d (t.after b r) rfl m (t.after b r).board.digits
          ((t.after b r).sideOf? (t.player t.onTurn) = some w)
        exact .ended (.inl ⟨m, rfl⟩) d hguest (by rw [ht, Function.update_self])

theorem Orderly.reply_leave (ho : h.Orderly first) (hg : h.guest? i = some g) :
    h.Reply i g .leave (h.onLeave i).1 := by
  unfold onLeave
  rw [hg, Option.bind_some]
  split
  · rename_i hk
    obtain ⟨k, hk⟩ := Option.isSome_iff_exists.1 hk
    obtain ⟨o, go, t, s, -, d⟩ := ho.duel hg hk
    exact .ended (.inr rfl) d (ho.guest?_quit d) (by rw [ho.tables_quit d, Function.update_self])
  · exact .same rfl

theorem Orderly.reply (ho : h.Orderly first) (hg : h.guest? i = some g) (hl : g.line ≠ none)
    (c : Command) : h.Reply i g c (h.obey i c).1 := by
  by_cases hc : ∃ n, c = .connect n
  · obtain ⟨n, rfl⟩ := hc
    exact reply_connect hg hl
  · unfold Hall.obey
    rw [hg]
    dsimp only
    split
    · exact .same rfl
    · cases c with
      | ping => exact .same (guest?_send ..)
      | pong => exact reply_pong hg
      | connect n => exact absurd ⟨n, rfl⟩ hc
      | move m => exact ho.reply_move hg m
      | leave => exact ho.reply_leave hg
      | chat text => exact .same (guest?_sendToOpponent ..)
      | exit => exact .same rfl

end Hall

end Tafl
