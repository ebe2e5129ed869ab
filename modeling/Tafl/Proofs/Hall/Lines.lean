import Tafl.Proofs.Hall.Runs

/-! # What goes over the lines

`Hall.run_lines`: whatever is asked of a hall, frames go out over a line as long as a guest has it,
the line is closed once when the guest loses it, and after that nothing is put out on it. Everything
that happens in between is said by `Carries`, line by line; most operations leave every guest its
line and only say something (`Feeds`). -/

namespace Tafl

namespace Hall

def Held (h : Hall) (l : Line) : Prop := ∃ i, h.line? i = some l

/-- All guests keep their lines, and frames are put out on lines that are open, if any. -/
structure Feeds (h h' : Hall) : Prop where
  line : h'.line? = h.line?
  sent : ∀ l, ∃ ns : List Notice, h'.sentOn l = h.sentOn l ++ ns.map .frame ∧
    (ns ≠ [] → h.Held l)

/-- What happens to a line between two moments. -/
inductive Carries (h h' : Hall) (l : Line) : Prop
  | stays (before : h.Held l) (after : h'.Held l) (ns : List Notice)
      (sent : h'.sentOn l = h.sentOn l ++ ns.map .frame)
  | ends (before : h.Held l) (after : ¬ h'.Held l) (ns : List Notice)
      (sent : h'.sentOn l = h.sentOn l ++ ns.map .frame ++ [.close])
  | rests (before : ¬ h.Held l) (after : ¬ h'.Held l) (sent : h'.sentOn l = h.sentOn l)

variable {h h' k : Hall} {first : Nat} {i j o : GuestId} {g gi go : Guest} {t : Table} {s : Side}
  {l : Line}

/-! ### Saying something -/

namespace Feeds

theorem refl (h : Hall) : h.Feeds h := ⟨rfl, fun _ => ⟨[], by simp, fun e => absurd rfl e⟩⟩

theorem trans (f : h.Feeds k) (f' : k.Feeds h') : h.Feeds h' := by
  refine ⟨f'.line.trans f.line, fun l => ?_⟩
  obtain ⟨ns, hns, hheld⟩ := f.sent l
  obtain ⟨ms, hms, hheld'⟩ := f'.sent l
  refine ⟨ns ++ ms, by rw [hms, hns, List.map_append, List.append_assoc], fun hne => ?_⟩
  rcases ns with - | ⟨n, ns⟩
  · obtain ⟨j, hj⟩ := hheld' (by simpa using hne)
    exact ⟨j, f.line ▸ hj⟩
  · exact hheld (by simp)

theorem of_eq (f : h.Feeds k) (hl : h'.line? = k.line?) (hs : h'.sentOn = k.sentOn) :
    h.Feeds h' :=
  f.trans ⟨hl, fun _ => ⟨[], by simp [hs], fun e => absurd rfl e⟩⟩

theorem send (f : h.Feeds k) {n : Notice} : h.Feeds (k.send i n) := by
  refine f.trans ⟨funext fun _ => line?_send .., fun l => ?_⟩
  rw [sentOn_send, news]
  split
  · exact ⟨[n], rfl, fun _ => ⟨i, ‹_›⟩⟩
  · exact ⟨[], rfl, fun e => absurd rfl e⟩

theorem revise (f : h.Feeds k) {p : Guest → Guest} (hp : ∀ g, (p g).line = g.line) :
    h.Feeds (k.revise i p) :=
  f.of_eq (funext fun _ => line?_revise _ _ _ _ hp) rfl

theorem tables (f : h.Feeds k) {ts : Tables} : h.Feeds { k with tables := ts } := f.of_eq rfl rfl

theorem tally (f : h.Feeds k) {t : Tally} : h.Feeds { k with tally := t } := f.of_eq rfl rfl

theorem sendGame (f : h.Feeds k) : h.Feeds (k.sendGame i) := by
  unfold Hall.sendGame
  split
  · exact f.send.send.send.send
  · exact f

theorem sendPlace (f : h.Feeds k) : h.Feeds (k.sendPlace i) := by
  unfold Hall.sendPlace
  split
  · exact f.sendGame
  · exact f.send

theorem welcome (f : h.Feeds k) : h.Feeds (k.welcome i) := f.tally.send.sendPlace

theorem toLobby (f : h.Feeds k) : h.Feeds (k.toLobby i) :=
  (f.revise (by simp)).send

theorem breakUp (f : h.Feeds k) {n : Notice} : h.Feeds (k.breakUp i n) := by
  unfold Hall.breakUp
  split
  · exact f
  · rename_i n _
    have fr : h.Feeds ({ k with tables := k.tables.close n }.revise i fun g =>
        { g with table := none }) := f.tables.revise fun _ => rfl
    cases k.opponent? i with
    | none => exact fr
    | some o => exact fr.send.toLobby

theorem showMove (f : h.Feeds k) {m : Move} {d : String} : h.Feeds (k.showMove i (some o) m d) :=
  f.send.send.send.send

theorem passTurn (f : h.Feeds k) : h.Feeds (k.passTurn i (some o)) :=
  ((f.revise (by simp)).send.revise (by simp)).send

theorem settleGame (f : h.Feeds k) {n : Nat} {won : Bool} :
    h.Feeds (k.settleGame i (some o) n won) := by
  rw [settleGame_eq]
  exact f.tables.send.toLobby.send.toLobby

theorem pair (f : h.Feeds k) {p : Pair} : h.Feeds (k.pair p) :=
  ((f.tables.revise (by simp [Guest.sit])).revise (by simp [Guest.sit])).tally.sendGame.sendGame

theorem held_iff (f : h.Feeds h') : h'.Held l ↔ h.Held l := by
  unfold Held
  rw [f.line]

theorem carries (f : h.Feeds h') (l : Line) : h.Carries h' l := by
  obtain ⟨ns, hns, hheld⟩ := f.sent l
  by_cases hl : h.Held l
  · exact .stays hl (f.held_iff.2 hl) ns hns
  · have : ns = [] := by
      by_contra hne
      exact hl (hheld hne)
    subst this
    exact .rests hl (fun e => hl (f.held_iff.1 e)) (by simpa using hns)

end Feeds

/-! ### Lines that are given up -/

theorem apart_iff : h.Apart ↔ ∀ i j l, h.line? i = some l → h.line? j = some l → i = j := by
  simp only [Apart, line?_eq_some_iff]
  constructor
  · rintro ap i j l ⟨gi, hi, hil⟩ ⟨gj, hj, hjl⟩
    exact ap i j gi gj l hi hj hil hjl
  · intro ap i j gi gj l hi hj hil hjl
    exact ap i j l ⟨gi, hi, hil⟩ ⟨gj, hj, hjl⟩

theorem Feeds.apart (f : h.Feeds h') (ap : h.Apart) : h'.Apart := by
  rw [apart_iff] at ap ⊢
  rw [f.line]
  exact ap

namespace Carries

theorem refl (h : Hall) (l : Line) : h.Carries h l := (Feeds.refl h).carries l

theorem trans (c : h.Carries k l) (c' : k.Carries h' l) : h.Carries h' l := by
  rcases c with ⟨hb, ha, ns, hns⟩ | ⟨hb, ha, ns, hns⟩ | ⟨hb, ha, hns⟩
  · rcases c' with ⟨-, ha', ms, hms⟩ | ⟨-, ha', ms, hms⟩ | ⟨hb', -, -⟩
    · exact .stays hb ha' (ns ++ ms) (by rw [hms, hns, List.map_append, List.append_assoc])
    · refine .ends hb ha' (ns ++ ms) ?_
      rw [hms, hns, List.map_append, List.append_assoc (h.sentOn l)]
    · exact absurd ha hb'
  · rcases c' with ⟨hb', -, -, -⟩ | ⟨hb', -, -, -⟩ | ⟨-, ha', hms⟩
    · exact absurd hb' ha
    · exact absurd hb' ha
    · exact .ends hb ha' ns (hms.trans hns)
  · rcases c' with ⟨hb', -, -, -⟩ | ⟨hb', -, -, -⟩ | ⟨-, ha', hms⟩
    · exact absurd hb' ha
    · exact absurd hb' ha
    · exact .rests hb ha' (hms.trans hns)

/-- One guest loses its line, and the line is closed. -/
theorem of_cut (ap : h.Apart) (hi : h'.line? i = none) (hj : ∀ j, j ≠ i → h'.line? j = h.line? j)
    (hs : ∀ l, h'.sentOn l = h.sentOn l ++ if h.line? i = some l then [.close] else [])
    (l : Line) : h.Carries h' l := by
  have others (l : Line) : h'.Held l ↔ ∃ j, j ≠ i ∧ h.line? j = some l := by
    constructor
    · rintro ⟨j, hl⟩
      have hne : j ≠ i := by
        rintro rfl
        rw [hi] at hl
        cases hl
      exact ⟨j, hne, hj j hne ▸ hl⟩
    · rintro ⟨j, hne, hl⟩
      exact ⟨j, (hj j hne).trans hl⟩
  by_cases hil : h.line? i = some l
  · refine .ends ⟨i, hil⟩ (fun hheld => ?_) [] (by simp [hs, hil])
    obtain ⟨j, hne, hjl⟩ := (others l).1 hheld
    exact hne (apart_iff.1 ap j i l hjl hil)
  · have hsame : h'.Held l ↔ h.Held l := by
      rw [others]
      constructor
      · rintro ⟨j, -, hjl⟩
        exact ⟨j, hjl⟩
      · rintro ⟨j, hjl⟩
        exact ⟨j, fun e => hil (e ▸ hjl), hjl⟩
    have hsent : h'.sentOn l = h.sentOn l := by simp [hs, hil]
    by_cases hl : h.Held l
    · exact .stays hl (hsame.2 hl) [] (by simp [hsent])
    · exact .rests hl (fun e => hl (hsame.1 e)) hsent

theorem strike (ap : h.Apart) (l : Line) : h.Carries (h.strike i) l := by
  cases hg : h.guest? i with
  | none =>
    rw [Hall.strike, hg]
    exact refl h l
  | some g =>
    refine of_cut (i := i) ap ?_ (fun j hj => ?_) (fun l => ?_) l
    · rw [line?, guest?_strike, Function.update_self]
      rfl
    · rw [line?, guest?_strike, Function.update_of_ne hj]
      rfl
    · rw [sentOn_strike hg, line?_of_guest? hg]

theorem drop (ap : h.Apart) (l : Line) : h.Carries (h.drop i) l :=
  have f := (Feeds.refl h).breakUp (i := i) (n := .opponentGone)
  (f.carries l).trans (strike (f.apart ap) l)

theorem handedOver (ap : h.Apart) (hg : h.guest? i = some g) (hgo : h.guest? o = some go)
    (hne : o ≠ i) (l : Line) : h.Carries (h.handedOver o i) l := by
  have hguest := guest?_handedOver hg hgo hne
  refine of_cut (i := o) ap ?_ (fun j hj => ?_) (fun l => ?_) l
  · rw [line?, hguest, Function.update_of_ne hne, Function.update_self]
    rfl
  · rw [line?, hguest]
    by_cases hji : j = i
    · subst hji
      rw [Function.update_self, line?_of_guest? hg]
      rfl
    · rw [Function.update_of_ne hji, Function.update_of_ne hj]
      rfl
  · rw [sentOn_handedOver hg hgo hne, line?_of_guest? hgo]

theorem deed (ap : h.Apart) (hd : Deed i h h') (l : Line) : h.Carries h' l := by
  have f := Feeds.refl h
  cases hd with
  | received n => exact f.tally.carries l
  | aside => exact f.send.carries l
  | rouse => exact (f.revise (by intro; rfl)).carries l
  | name => exact (f.revise (by simp)).send.send.carries l
  | welcome => exact f.welcome.carries l
  | @resume old g go n here name line found there =>
    have hne : old ≠ i := ne_of_named here name there (by simp [found_name found there])
    exact (handedOver ap here there hne l).trans ((Feeds.refl _).welcome.carries l)
  | turn => exact f.tables.showMove.passTurn.carries l
  | finish => exact f.tables.showMove.settleGame.carries l
  | quit => exact f.send.breakUp.toLobby.carries l

theorem change (ap : h.Apart) (hc : Change i h h') (l : Line) : h.Carries h' l := by
  have f := Feeds.refl h
  cases hc with
  | deed hd => exact deed ap hd l
  | ping | lose | fade => exact (f.revise (by intro; rfl)).carries l
  | @cut g here =>
    refine (f.send.carries l).trans
      (of_cut (h := h.send i .kicked) (i := i) (f.send.apart ap) ?_ (fun j hj => ?_)
        (fun l => ?_) l)
    · simp [line?, guest?_revise, here, Guest.disconnect]
    · simp [line?, guest?_revise, hj]
    · rw [sentOn_hangUp_option, sentOn_revise, line?_send, line?_of_guest? here]
  | expire =>
    have fr := f.revise (i := i) (p := fun g => { g with decay := g.decay - 1 }) fun _ => rfl
    exact (fr.carries l).trans (drop (fr.apart ap) l)
  | drop => exact drop ap l

end Carries

/-! ### Closing time -/

theorem sentOn_send_strike (hg : h.guest? i = some g) (l : Line) :
    ((h.send i .shutdown).strike i).sentOn l =
      h.sentOn l ++ if h.line? i = some l then [.frame .shutdown, .close] else [] := by
  have hg' : (h.send i .shutdown).guest? i = some g := by rwa [guest?_send]
  rw [sentOn_strike hg', sentOn_send, line?_of_guest? hg, news]
  split <;> simp

/-- When guests are sent away one after the other, each of them hears of it and loses its line. -/
theorem sentOn_foldl_strike (ap : h.Apart) {is : List GuestId} (his : is.Nodup)
    (hmem : ∀ i ∈ is, ∃ g, h.guest? i = some g) (l : Line) :
    (is.foldl (fun h i => (h.send i .shutdown).strike i) h).sentOn l =
      h.sentOn l ++ if ∃ i ∈ is, h.line? i = some l then [.frame .shutdown, .close] else [] := by
  induction is generalizing h with
  | nil => simp
  | cons i is ih =>
    rw [List.nodup_cons] at his
    obtain ⟨g, hg⟩ := hmem i (List.mem_cons_self ..)
    have hsheds := (Evolves.refl h).send (i := i) (n := .shutdown) |>.strike (i := i) |>.sheds
    -- the guests that follow are still there, with their lines
    have later {j : GuestId} (hj : j ∈ is) :
        ((h.send i .shutdown).strike i).guest? j = h.guest? j := by
      rw [guest?_strike, guest?_send, Function.update_of_ne]
      rintro rfl
      exact his.1 hj
    have hline : (∃ j ∈ is, ((h.send i .shutdown).strike i).line? j = some l) ↔
        ∃ j ∈ is, h.line? j = some l := by
      refine exists_congr fun j => and_congr_right fun hj => ?_
      rw [line?, later hj, line?]
    have hmem' (j : GuestId) (hj : j ∈ is) :
        ∃ g, ((h.send i .shutdown).strike i).guest? j = some g := by
      rw [later hj]
      exact hmem j (List.mem_cons_of_mem _ hj)
    rw [List.foldl_cons, ih (hsheds.apart ap) his.2 hmem', sentOn_send_strike hg]
    simp only [hline, List.exists_mem_cons_iff]
    by_cases hil : h.line? i = some l
    · have hno : ¬ ∃ j ∈ is, h.line? j = some l := by
        rintro ⟨j, hj, hjl⟩
        obtain rfl := apart_iff.1 ap i j l hil hjl
        exact his.1 hj
      simp [hil, hno]
    · simp [hil]

theorem held_iff : h.Held l ↔ ∃ i ∈ h.roster.ids, h.line? i = some l := by
  constructor
  · rintro ⟨i, hl⟩
    obtain ⟨g, hg, -⟩ := (line?_eq_some_iff h i l).1 hl
    exact ⟨i, Roster.mem_ids_iff.2 ⟨g, hg⟩, hl⟩
  · rintro ⟨i, -, hl⟩
    exact ⟨i, hl⟩

theorem sentOn_shutDown (ap : h.Apart) (l : Line) : h.shutDown.sentOn l = h.sentOn l ++
    if ∃ i ∈ h.roster.ids, h.line? i = some l then [.frame .shutdown, .close] else [] := by
  have hnodup : h.roster.ids.Nodup := h.roster.nodup
  exact sentOn_foldl_strike ap hnodup (fun _ hi => Roster.mem_ids_iff.1 hi) l

theorem not_held_shutDown : ¬ h.shutDown.Held l := by
  rintro ⟨i, hl⟩
  simp [line?, guest?_shutDown] at hl

theorem Carries.shutDown (ap : h.Apart) (l : Line) : h.Carries h.shutDown l := by
  have hsent := sentOn_shutDown ap l
  by_cases hl : h.Held l
  · rw [if_pos (held_iff.1 hl)] at hsent
    exact .ends hl not_held_shutDown [.shutdown] (by simp [hsent])
  · rw [if_neg (fun e => hl (held_iff.2 e)), List.append_nil] at hsent
    exact .rests hl not_held_shutDown hsent

/-! ### Every line of every run -/

/-- Frames went out over each of the lines `ls`, and each one that nobody has any more was closed at
last. Nothing was put out on any other line. -/
structure Wired (h : Hall) (ls : List Line) : Prop where
  held : ∀ l, h.Held l → l ∈ ls ∧ ∃ ns : List Notice, h.sentOn l = ns.map .frame
  closed : ∀ l ∈ ls, ¬ h.Held l → ∃ ns : List Notice, h.sentOn l = ns.map .frame ++ [.close]
  silent : ∀ l, l ∉ ls → h.sentOn l = []

namespace Wired
variable {ls : List Line}

theorem carries (w : h.Wired ls) (hc : ∀ l, h.Carries h' l) : h'.Wired ls where
  held l hl := by
    rcases hc l with ⟨hb, -, ns, hns⟩ | ⟨-, ha, -, -⟩ | ⟨-, ha, -⟩
    · obtain ⟨hmem, ms, hms⟩ := w.held l hb
      exact ⟨hmem, ms ++ ns, by rw [hns, hms, List.map_append]⟩
    · exact absurd hl ha
    · exact absurd hl ha
  closed l hmem hl := by
    rcases hc l with ⟨-, ha, -, -⟩ | ⟨hb, -, ns, hns⟩ | ⟨hb, -, hns⟩
    · exact absurd ha hl
    · obtain ⟨-, ms, hms⟩ := w.held l hb
      exact ⟨ms ++ ns, by rw [hns, hms, List.map_append]⟩
    · rw [hns]
      exact w.closed l hmem hb
  silent l hl := by
    rcases hc l with ⟨hb, -, -, -⟩ | ⟨hb, -, -, -⟩ | ⟨-, -, hns⟩
    · exact absurd (w.held l hb).1 hl
    · exact absurd (w.held l hb).1 hl
    · rw [hns, w.silent l hl]

theorem enrol (w : h.Wired ls) {id : GuestId} {origin : Origin} {line : Line}
    (hid : h.guest? id = none) (hline : line ∉ ls) :
    (h.enrol id origin line).Wired (ls ++ [line]) := by
  have hsent : (h.enrol id origin line).sentOn = h.sentOn := rfl
  have hheld (l : Line) : (h.enrol id origin line).Held l ↔ l = line ∨ h.Held l := by
    have hl (j : GuestId) : (h.enrol id origin line).line? j =
        if j = id then some line else h.line? j := by
      rw [line?, guest?_enrol, Function.update_apply]
      split <;> rfl
    constructor
    · rintro ⟨j, hj⟩
      rw [hl] at hj
      split at hj
      · exact .inl (Option.some.inj hj).symm
      · exact .inr ⟨j, hj⟩
    · rintro (rfl | ⟨j, hj⟩)
      · exact ⟨id, by rw [hl, if_pos rfl]⟩
      · have hne : j ≠ id := by
          rintro rfl
          simp [line?, hid] at hj
        exact ⟨j, by rwa [hl, if_neg hne]⟩
  refine ⟨fun l hl => ?_, fun l hmem hl => ?_, fun l hl => ?_⟩
  · rcases (hheld l).1 hl with rfl | hl
    · exact ⟨by simp, [], by rw [hsent, w.silent l hline]; rfl⟩
    · obtain ⟨hmem, hns⟩ := w.held l hl
      exact ⟨List.mem_append_left _ hmem, hns⟩
  · rw [hheld, not_or] at hl
    rcases List.mem_append.1 hmem with hmem | hmem
    · exact w.closed l hmem hl.2
    · exact absurd (List.mem_singleton.1 hmem) hl.1
  · rw [List.mem_append, not_or] at hl
    exact w.silent l hl.1

theorem refuse (w : h.Wired ls) {line : Line} (hline : line ∉ ls) :
    ((h.post line .serverFull).hangUp (some line)).Wired (ls ++ [line]) := by
  have hheld (l : Line) : ((h.post line .serverFull).hangUp (some line)).Held l ↔ h.Held l :=
    Iff.rfl
  have hsent (l : Line) : ((h.post line .serverFull).hangUp (some line)).sentOn l =
      h.sentOn l ++ if l = line then [.frame .serverFull, .close] else [] := by
    rw [sentOn_hangUp, sentOn_post]
    split <;> simp
  have hother {l : Line} (hl : l ∈ ls) :
      ((h.post line .serverFull).hangUp (some line)).sentOn l = h.sentOn l := by
    have hne : l ≠ line := by
      rintro rfl
      exact hline hl
    rw [hsent, if_neg hne, List.append_nil]
  refine ⟨fun l hl => ?_, fun l hmem hl => ?_, fun l hl => ?_⟩
  · obtain ⟨hmem, hns⟩ := w.held l ((hheld l).1 hl)
    exact ⟨List.mem_append_left _ hmem, by rwa [hother hmem]⟩
  · rcases List.mem_append.1 hmem with hmem | hmem
    · rw [hother hmem]
      exact w.closed l hmem hl
    · obtain rfl := List.mem_singleton.1 hmem
      exact ⟨[.serverFull], by rw [hsent, w.silent l hline, if_pos rfl]; rfl⟩
  · rw [List.mem_append, not_or, List.mem_singleton] at hl
    rw [hsent, w.silent l hl.1, if_neg hl.2]
    rfl

theorem close_mem_iff (w : h.Wired ls) (hl : l ∈ ls) :
    .close ∈ h.sentOn l ↔ ∀ i, h.line? i ≠ some l := by
  by_cases hheld : h.Held l
  · obtain ⟨-, ns, hns⟩ := w.held l hheld
    obtain ⟨i, hi⟩ := hheld
    rw [hns]
    constructor
    · intro hc
      simp at hc
    · intro hno
      exact absurd hi (hno i)
  · obtain ⟨ns, hns⟩ := w.closed l hl hheld
    rw [hns]
    constructor
    · intro _ i hi
      exact hheld ⟨i, hi⟩
    · intro _
      simp

end Wired

namespace Reached
variable {c m b : Nat} {as : List (GuestId × Line)}

theorem wired (r : Reached c m b first as h) (hl : (as.map Prod.snd).Nodup) :
    h.Wired (as.map Prod.snd) := by
  induction r with
  | refl =>
    refine ⟨fun l hl => ?_, fun l hmem => ?_, fun l _ => rfl⟩
    · obtain ⟨i, hi⟩ := hl
      cases hi
    · cases hmem
  | change r hc ih => exact (ih hl).carries (Carries.change (Reached.apart r hl) hc)
  | pair r _ _ _ ih => exact (ih hl).carries (Feeds.refl _).pair.carries
  | enrol origin line r hf ih =>
    rw [List.map_append, List.nodup_append] at hl
    rw [List.map_append]
    exact (ih hl.1).enrol (Reached.guest?_fresh r hf) fun hm => hl.2.2 line hm line (by simp) rfl
  | refuse id line r _ ih =>
    rw [List.map_append, List.nodup_append] at hl
    rw [List.map_append]
    exact (ih hl.1).refuse fun hm => hl.2.2 line hm line (by simp) rfl
  | shutDown r ih => exact (ih hl).carries (Carries.shutDown (Reached.apart r hl))

end Reached

/-- Somebody who has come and has no line any more does not get one again. -/
theorem Leads.line?_eq_none {first₀ : Nat} {as₀ as : List (GuestId × Line)} {h₀ : Hall}
    (l : Leads first₀ as₀ h₀ first as h) (hi : i ∈ as₀.map Prod.fst) (hl : h₀.line? i = none) :
    h.line? i = none := by
  have hrecord := l.record (P := fun g => g.line = none) (fun b g g' ht hg => ?_) hi fun g hg => ?_
  · cases hg : h.guest? i with
    | none => simp [line?, hg]
    | some g => rw [line?_of_guest? hg, hrecord.2 g hg]
  · rcases ht.line_eq with e | e
    · rw [e, hg]
    · exact e
  · rwa [line?_of_guest? hg] at hl

/-- What is asked of the lines in a hall to which the guests `as` have come. -/
structure Disciplined (h : Hall) (as : List (GuestId × Line)) : Prop where
  /-- Frames go out, then the line is closed, once and for all. -/
  traffic : ∀ a ∈ as, ∃ ns : List Notice,
    h.sentOn a.2 = ns.map .frame ∨ h.sentOn a.2 = ns.map .frame ++ [.close]
  closed_iff : ∀ a ∈ as, .close ∈ h.sentOn a.2 ↔ ∀ i, h.line? i ≠ some a.2
  apart : ∀ i j l, h.line? i = some l → h.line? j = some l → i = j
  farewell : ∀ i l, h.line? i = some l →
    h.shutDown.sentOn l = h.sentOn l ++ [.frame .shutdown, .close]
  empty : h.shutDown.roster.ids = []

theorem Wired.disciplined {as as' : List (GuestId × Line)} (w : h.Wired (as'.map Prod.snd))
    (hp : as'.Perm as) (ap : h.Apart) : h.Disciplined as where
  traffic a ha := by
    by_cases hl : h.Held a.2
    · obtain ⟨-, ns, hns⟩ := w.held a.2 hl
      exact ⟨ns, .inl hns⟩
    · obtain ⟨ns, hns⟩ := w.closed a.2 (List.mem_map_of_mem (hp.mem_iff.2 ha)) hl
      exact ⟨ns, .inr hns⟩
  closed_iff a ha := w.close_mem_iff (List.mem_map_of_mem (hp.mem_iff.2 ha))
  apart := apart_iff.1 ap
  farewell i l hl := by rw [sentOn_shutDown ap, if_pos (held_iff.1 ⟨i, hl⟩)]
  empty := by
    rw [List.eq_nil_iff_forall_not_mem]
    intro i hi
    obtain ⟨g, hg⟩ := Roster.mem_ids_iff.1 hi
    have : h.shutDown.guest? i = some g := hg
    rw [guest?_shutDown] at this
    cases this

/-- Whatever is asked of a hall, over every line frames go out and then at most one request to close
it, which comes when no record has the line any more. A record without a line never has one again.
Nobody comes twice under one number, and everybody comes on a line of its own. -/
theorem run_lines (capacity maxTables budget : Nat) {steps later : List Step}
    (hids : ((arrivals (steps ++ later)).map Prod.fst).Nodup)
    (hlines : ((arrivals steps).map Prod.snd).Nodup) :
    let h := (vacant capacity maxTables budget).run steps
    h.Disciplined (arrivals steps) ∧
      ∀ i g, h.guest? i = some g → g.line = none → (h.run later).line? i = none := by
  intro h
  have hsplit : arrivals (steps ++ later) = arrivals steps ++ arrivals later := List.flatMap_append
  rw [hsplit] at hids
  have hids₁ := hids
  rw [List.map_append] at hids₁
  obtain ⟨first, as, -, hp, r⟩ :=
    Reached.run (.refl : Reached capacity maxTables budget ..) (List.nodup_append.1 hids₁).1
  have hl : (as.map Prod.snd).Nodup := (hp.map Prod.snd).nodup_iff.2 hlines
  refine ⟨(Reached.wired r hl).disciplined hp (Reached.apart r hl), fun i g hg hgl => ?_⟩
  have hids₂ : ((as ++ arrivals later).map Prod.fst).Nodup :=
    ((hp.append_right _).map Prod.fst).nodup_iff.2 hids
  obtain ⟨_, _, -, -, l⟩ := Reached.run r hids₂
  exact l.line?_eq_none (Reached.came r hg).1 (line?_of_guest? hg ▸ hgl)

/-- A guest is swept until its line is given up, and somebody else finds no place. Then the first
one comes back over a new line. -/
theorem run_lines_comeback :
    let steps : List Step := [.event (.connected 1 "a" 0),
      .event (.data 1 (Request.frame [.connect "Ada"]).toUTF8), .event (.connected 2 "b" 1),
      .sweep, .sweep, .sweep]
    let later : List Step := [.event (.connected 3 "a" 2),
      .event (.data 3 (Request.frame [.connect "Ada"]).toUTF8), .shutDown]
    let h := (vacant 1 2 3).run steps
    (((arrivals (steps ++ later)).map Prod.fst).Nodup ∧ ((arrivals steps).map Prod.snd).Nodup) ∧
      (h.sentOn 0 = [.frame .connected, .frame .lobby, .frame .ping, .frame .ping, .frame .kicked,
        .close] ∧ h.sentOn 1 = [.frame .serverFull, .close]) ∧
      h.Disciplined (arrivals steps) ∧
      ∀ i g, h.guest? i = some g → g.line = none → (h.run later).line? i = none := by
  intro steps later h
  have hids : ((arrivals (steps ++ later)).map Prod.fst).Nodup := by decide
  have hlines : ((arrivals steps).map Prod.snd).Nodup := by decide
  exact ⟨⟨hids, hlines⟩, by decide +kernel, run_lines 1 2 3 hids hlines⟩

end Hall

end Tafl
