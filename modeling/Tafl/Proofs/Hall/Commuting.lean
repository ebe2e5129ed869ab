import Tafl.Proofs.Hall.Lines
import Tafl.Proofs.Hall.Parties

/-! # Unrelated guests

`Hall.after_unrelated`: when things come over the lines of two guests with names that do not play
each other, it does not matter what is dealt with first. Neither of the two can tell whether the
other one has been heard (`Party.Apart.alike`), and the effects of the two do not get in each
other's way (`agrees_perform`). -/

namespace Tafl

namespace Party

/-- What one party does is not noticed by another one that has nothing in common with it. -/
theorem Apart.alike {p q : Party} {es : List Effect} (ap : p.Apart q)
    (hes : ∀ e ∈ es, e.Within p) (h : Hall) : q.Alike h (h.perform es) where
  guests i hi := Hall.guest?_perform hes fun hp => ap.guests i hp hi
  tables j hj := Hall.get?_perform hes fun hp => ap.tables j hp hj
  budget := Hall.decayBudget_perform h es

end Party

namespace Hall
variable {h : Hall} {first : Nat} {i j o : GuestId} {g gi gj : Guest} {l : Line}

/-! ### Parties that have nothing in common -/

/-- Whoever else is in the party of a guest sits at its table. -/
theorem Orderly.member_cases (ho : h.Orderly first) (hg : h.guest? i = some g)
    (hm : (h.partyOf i).Member o) : o = i ∨
      ∃ go k, h.guest? o = some go ∧ go.table = some k ∧ g.table = some k := by
  refine hm.imp_right fun hop => ?_
  obtain ⟨go, t, s, d⟩ := ho.exists_duel hg hop
  exact ⟨go, t.id, d.there, d.table_there, d.table_here⟩

theorem exists_member_of_reaches (hl : (h.partyOf i).Reaches l) :
    ∃ o, (h.partyOf i).Member o ∧ h.line? o = some l := by
  rcases hl with hhost | hrival
  · exact ⟨i, .inl rfl, hhost⟩
  · obtain ⟨o, ho, hol⟩ := Option.bind_eq_some_iff.1 hrival
    exact ⟨o, .inr ho, hol⟩

theorem Orderly.apart_partyOf (ho : h.Orderly first) (ap : h.Apart) (hgi : h.guest? i = some gi)
    (hgj : h.guest? j = some gj) (hij : i ≠ j)
    (htable : ∀ k, gi.table = some k → gj.table ≠ some k) :
    (h.partyOf i).Apart (h.partyOf j) := by
  have guests (o : GuestId) (hi : (h.partyOf i).Member o) : ¬ (h.partyOf j).Member o := by
    intro hj
    rcases ho.member_cases hgi hi with rfl | ⟨x, k, hx, hxk, hik⟩
    · rcases ho.member_cases hgj hj with e | ⟨y, k, hy, hyk, hjk⟩
      · exact hij e
      · obtain rfl := Option.some.inj (hgi.symm.trans hy)
        exact htable k hyk hjk
    · rcases ho.member_cases hgj hj with rfl | ⟨y, k', hy, hyk, hjk⟩
      · obtain rfl := Option.some.inj (hgj.symm.trans hx)
        exact htable k hik hxk
      · obtain rfl := Option.some.inj (hx.symm.trans hy)
        obtain rfl := Option.some.inj (hxk.symm.trans hyk)
        exact htable k hik hjk
  refine ⟨guests, fun k hi hj => ?_, fun l hi hj => ?_⟩
  · obtain ⟨x, hx, hxk⟩ := Option.bind_eq_some_iff.1 hi
    obtain ⟨y, hy, hyk⟩ := Option.bind_eq_some_iff.1 hj
    obtain rfl := Option.some.inj (hgi.symm.trans hx)
    obtain rfl := Option.some.inj (hgj.symm.trans hy)
    exact htable k hxk hyk
  · obtain ⟨o, hoi, hol⟩ := exists_member_of_reaches hi
    obtain ⟨o', hoj, hol'⟩ := exists_member_of_reaches hj
    obtain rfl := apart_iff.1 ap o o' l hol hol'
    exact guests o hoi hoj

/-! ### Either order -/

/-- What comes from two guests whose parties have nothing in common comes to the same in either
order. -/
theorem Orderly.agrees_receive (ho : h.Orderly first) (hgi : h.guest? i = some gi)
    (hgj : h.guest? j = some gj) (hni : gi.name ≠ none) (hnj : gj.name ≠ none)
    (ap : (h.partyOf i).Apart (h.partyOf j)) (bi bj : ByteArray) :
    ((h.receive i bi).receive j bj).Agrees ((h.receive j bj).receive i bi) := by
  have fi := ho.fits hgi hni
  have fj := ho.fits hgj hnj
  have oi : (h.receive i bi).Orderly first := (ho.receive i bi).orderly ho
  have oj : (h.receive j bj).Orderly first := (ho.receive j bj).orderly ho
  -- neither of the two notices what the other one has done
  have ai : (h.partyOf j).Alike h (h.receive i bi) := by
    obtain ⟨es, hes, hh, -⟩ := ((Tandem.refl fi (.refl _ h)).receive ho ho bi).effects
    rw [show h.receive i bi = _ from hh]
    exact ap.alike hes h
  have aj : (h.partyOf i).Alike h (h.receive j bj) := by
    obtain ⟨es, hes, hh, -⟩ := ((Tandem.refl fj (.refl _ h)).receive ho ho bj).effects
    rw [show h.receive j bj = _ from hh]
    exact ap.symm.alike hes h
  -- so each of them does the same, whether it comes first or not
  obtain ⟨es, hes, hi, hji⟩ := ((Tandem.refl fi aj).receive ho oj bi).effects
  obtain ⟨es', hes', hj, hij⟩ := ((Tandem.refl fj ai).receive ho oi bj).effects
  have hi : h.receive i bi = h.perform es := hi
  have hj : h.receive j bj = h.perform es' := hj
  have hij : (h.receive i bi).receive j bj = (h.receive i bi).perform es' := hij
  have hji : (h.receive j bj).receive i bi = (h.receive j bj).perform es := hji
  rw [hij, hji, hi, hj]
  exact agrees_perform ap hes hes' h

/-- When something has come from each of two guests with names that are not at the same table, it
does not matter what is read first: the guests, the tables and the numbers are the same, and so is
all that was put out on each line. -/
theorem after_unrelated (capacity maxTables budget : Nat) {xs : List Incident}
    (hp : Incident.Plausible xs) {i j : GuestId} {gi gj : Guest} (bi bj : ByteArray) :
    let h := (vacant capacity maxTables budget).after xs
    h.guest? i = some gi → h.guest? j = some gj → gi.name ≠ none → gj.name ≠ none → i ≠ j →
      (∀ k, gi.table = some k → gj.table ≠ some k) →
        ((h.receive i bi).receive j bj).Agrees ((h.receive j bj).receive i bi) := by
  intro h hgi hgj hni hnj hij htable
  obtain ⟨first, r⟩ := hp.reached capacity maxTables budget
  have ho : h.Orderly first := Reached.orderly r
  exact ho.agrees_receive hgi hgj hni hnj
    (ho.apart_partyOf (Reached.apart r hp.lines) hgi hgj hij htable) bi bj

/-- Ada moves and chats in one game, and what comes from Carl in the other one makes no sense, so
that he is thrown out. -/
theorem after_unrelated_two_games :
    let xs : List Incident := [.arrival 1 "a" 0, .command 1 (.connect "Ada"), .arrival 2 "b" 1,
      .command 2 (.connect "Bob"), .arrival 3 "c" 2, .command 3 (.connect "Carl"),
      .arrival 4 "d" 3, .command 4 (.connect "Dora"), .matchmake]
    let gi : Guest := { name := some "Ada", origin := "a", table := some 1, phase := .onTurn,
                        saved := .new, decay := 3, line := some 0 }
    let gj : Guest := { name := some "Carl", origin := "c", table := some 2, phase := .onTurn,
                        saved := .new, decay := 3, line := some 2 }
    let bi := (Request.frame [.move ⟨⟨3, 0⟩, ⟨3, 1⟩⟩, .chat "well?"]).toUTF8
    let bj := "nonsense".toUTF8
    let h := (vacant 4 2 3).after xs
    (Incident.Plausible xs ∧ h.guest? 1 = some gi ∧ h.guest? 3 = some gj ∧ gi.name ≠ none ∧
        gj.name ≠ none ∧ 1 ≠ 3 ∧ ∀ k, gi.table = some k → gj.table ≠ some k) ∧
      (((h.receive 1 bi).receive 3 bj).roster.ids = [1, 2, 4] ∧
        ((h.receive 1 bi).receive 3 bj).sentOn 1 ≠ h.sentOn 1) ∧
      ((h.receive 1 bi).receive 3 bj).Agrees ((h.receive 3 bj).receive 1 bi) := by
  intro xs gi gj bi bj h
  have hp : Incident.Plausible xs := by decide +kernel
  have hgi : h.guest? 1 = some gi := by decide +kernel
  have hgj : h.guest? 3 = some gj := by decide +kernel
  have hni : gi.name ≠ none := by simp [gi]
  have hnj : gj.name ≠ none := by simp [gj]
  have htable : ∀ k, gi.table = some k → gj.table ≠ some k := by rintro k ⟨⟩; simp [gj]
  exact ⟨⟨hp, hgi, hgj, hni, hnj, by decide, htable⟩,
    ⟨by decide +kernel, by decide +kernel⟩,
    after_unrelated 4 2 3 hp bi bj hgi hgj hni hnj (by decide) htable⟩

end Hall

end Tafl
