import Tafl.Proofs.Hall.Guises
import Tafl.Proofs.Hall.Reconnections

/-! # Where a read ends

`receive` is said of what came in at once, and where that ends is up to the network. It does not
matter (`receive_append`), as long as no frame is cut: the bytes are counted only, which can be
done at any time (`obeyAll_credit`), and once a guest had to leave, no further command of it is
carried out, be it in the same read or in the next one (`obeyAll_append`). -/

namespace Tafl.Hall

/-- Counts bytes that came in. -/
def credit (h : Hall) (bytes : Nat) : Hall :=
  { h with tally.bytesReceived := h.tally.bytesReceived + bytes }

variable {h : Hall} {i : GuestId} {n : Nat}

/-! ### Counting is independent of everything else -/

@[simp] theorem line?_credit : (h.credit n).line? = h.line? := rfl

theorem credit_credit (m : Nat) : (h.credit m).credit n = h.credit (m + n) := by
  simp only [credit, Nat.add_assoc]

/-- The guise in which some bytes more have come in. -/
theorem disguise_bytes (h : Hall) (n : Nat) : h.disguise { bytes := n } = h.credit n := by
  have hroster : h.roster.disguise (fun _ g => g) = h.roster :=
    Roster.disguise_eq_self fun _ _ => rfl
  simp only [disguise, hroster, List.nil_append, credit]

theorem discreet_bytes (n : Nat) : Guise.Discreet { bytes := n } where
  name _ _ := rfl
  table _ _ := rfl
  line _ _ := rfl
  settle _ _ _ _ := rfl
  seat _ _ _ := rfl
  saved _ _ := rfl
  decay _ _ := rfl
  disconnected _ _ := Iff.rfl
  waiting _ _ := Iff.rfl
  judge _ _ _ := rfl
  abandon _ _ := rfl
  arriving _ _ _ _ := rfl

theorem obeyAll_credit (cs : List Command) :
    (h.credit n).obeyAll i cs = (h.obeyAll i cs).credit n := by
  have hplain : Guise.Plain { bytes := n } i := fun _ => rfl
  rw [← disguise_bytes, hplain.obeyAll (discreet_bytes n), disguise_bytes]

/-! ### The line of a guest that obeys -/

theorem line?_congr {h' : Hall} (hs : h'.guest? = h.guest?) (j : GuestId) :
    h'.line? j = h.line? j := by
  rw [line?, hs, line?]

theorem line?_onConnect (name : String) : (h.onConnect i name).1.line? i = h.line? i := by
  cases hg : h.guest? i with
  | none => simp [onConnect, hg]
  | some g =>
    have hroused : (h.roused i).line? i = h.line? i := line?_revise _ _ _ _ fun _ => rfl
    cases hn : g.name with
    | none =>
      rw [← obey_connect hg]
      cases hf : h.roster.findName? name with
      | none =>
        rw [obey_connect_fresh hg hn hf, line?_send, line?_send, ← hroused]
        exact line?_revise _ _ _ _ fun _ => Guest.line_settle _
      | some o =>
        obtain ⟨go, hgo, hno⟩ := Roster.findName?_eq_some hf
        have hne : o ≠ i := ne_of_named hg hn hgo (by simp [hno])
        have hgo' : (h.roused i).guest? o = some go := (guest?_roused_of_ne hne).trans hgo
        rw [obey_connect_held hg hn hf hgo]
        split
        · rw [line?_send, hroused]
        · rw [line?_congr guest?_welcomeBack, line?,
            guest?_handedOver (guest?_roused_self hg) hgo' hne, Function.update_self,
            line?_of_guest? hg]
          rfl
    | some own =>
      simp only [onConnect, hg, hn]
      split
      · unfold onOwnName
        split
        · exact (line?_congr guest?_welcomeBack i).trans hroused
        · exact line?_send ..
      · rfl

theorem line?_onMove (m : Move) : (h.onMove i m).1.line? i = h.line? i := by
  unfold onMove
  cases h.guest? i with
  | none => rfl
  | some g =>
    cases h.table? i with
    | none => rfl
    | some t =>
      dsimp only
      cases t.play (g.name.getD "") m with
      | error e => exact line?_send ..
      | ok x =>
        obtain ⟨t', report⟩ := x
        dsimp only
        cases report.winner <;> simp

theorem line?_onLeave : (h.onLeave i).1.line? i = h.line? i := by
  unfold onLeave
  split <;> simp

/-- No command takes the line from the guest that gives it. -/
theorem line?_obey (c : Command) : (h.obey i c).1.line? i = h.line? i := by
  unfold obey
  cases hg : h.guest? i with
  | none => rfl
  | some g =>
    dsimp only
    split
    · rfl
    · cases c with
      | ping => exact line?_send ..
      | pong =>
        rw [line?, guest?_onPong hg, line?_of_guest? hg]
        split <;> simp [hg, Guest.restore]
      | connect name => exact line?_onConnect name
      | move m => exact line?_onMove m
      | leave => exact line?_onLeave
      | chat text => exact line?_congr (guest?_sendToOpponent ..) i
      | exit => rfl

/-! ### Reads that come together -/

theorem obeyAll_append {as bs : List Command} (hl : (h.line? i).isSome = true) :
    h.obeyAll i (as ++ bs) =
      if ((h.obeyAll i as).line? i).isNone then h.obeyAll i as else (h.obeyAll i as).obeyAll i bs := by
  induction as generalizing h with
  | nil => simp [obeyAll, Option.isSome_iff_ne_none.1 hl]
  | cons a as ih =>
    have hline := line?_obey (h := h) (i := i) a
    rw [List.cons_append, obeyAll, obeyAll]
    rcases hk : h.obey i a with ⟨k, v⟩
    rw [hk] at hline
    cases v with
    | stay => exact ih (hline.symm ▸ hl)
    | leave why => simp [line?, guest?_drop_self]

theorem receive_of_decode {bytes : ByteArray} {rs : List Request}
    (hd : Request.decode bytes = .ok rs) (h : Hall) (i : GuestId) : h.receive i bytes =
      if (h.line? i).isNone then h.credit bytes.size
      else (h.obeyAll i rs.flatten).credit bytes.size := by
  rw [← obeyAll_credit]
  unfold receive
  rw [hd]
  rfl

/-- Two reads of whole frames come to the same as one read of all of them, even if the guest has to
leave in the middle. -/
theorem receive_append {a b : ByteArray} {as bs : List Request} (ha : Request.decode a = .ok as)
    (hb : Request.decode b = .ok bs) (hsize : (a ++ b).size ≤ Request.maxRead) (h : Hall)
    (i : GuestId) : Request.decode (a ++ b) = .ok (as ++ bs) ∧
      h.receive i (a ++ b) = (h.receive i a).receive i b := by
  have hab := Request.decode_append ha hb hsize
  refine ⟨hab, ?_⟩
  rw [receive_of_decode hab, receive_of_decode ha, receive_of_decode hb, ByteArray.size_append]
  cases hl : h.line? i with
  | none => simp [hl, credit_credit]
  | some l =>
    rw [List.flatten_append, obeyAll_append (by simp [hl])]
    simp only [Option.isNone_some, Bool.false_eq_true, if_false, line?_credit, obeyAll_credit,
      ← credit_credit]
    split <;> rfl

/-- A stranger gives its name, leaves a game that it does not play, and sends more. -/
theorem receive_append_leaving :
    let h := (vacant 1 1 2).run [.event (.connected 1 "a" 0)]
    let a := ("\r\n" ++ Request.frame [.connect "Ada"] ++ "\n" ++
      Request.frame [.leave, .chat "bye"]).toUTF8
    let b := ("\n" ++ Request.frame [.connect "Eve"]).toUTF8
    let as : List Request := [[.connect "Ada"], [.leave, .chat "bye"]]
    let bs : List Request := [[.connect "Eve"]]
    (Request.decode a = .ok as ∧ Request.decode b = .ok bs ∧ (a ++ b).size ≤ Request.maxRead) ∧
      ((h.receive 1 a).guest? 1 = none ∧
        (h.receive 1 a).sentOn 0 = [.frame .connected, .frame .lobby, .close]) ∧
      Request.decode (a ++ b) = .ok (as ++ bs) ∧
        h.receive 1 (a ++ b) = (h.receive 1 a).receive 1 b := by
  intro h a b as bs
  have ha : Request.decode a = .ok as := by decide +kernel
  have hb : Request.decode b = .ok bs := by decide +kernel
  have hsize : (a ++ b).size ≤ Request.maxRead := by decide +kernel
  exact ⟨⟨ha, hb, hsize⟩, by decide +kernel, receive_append ha hb hsize h 1⟩

end Tafl.Hall
