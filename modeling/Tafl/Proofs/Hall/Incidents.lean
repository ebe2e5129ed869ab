import Tafl.Proofs.Hall.Runs

/-! # One thing at a time

A step of a hall can be many things at once: a batch is events of many guests, and what came in is
as many commands as it holds. `Incident` is the smallest of these. Every run is a row of incidents
(`exists_plausible`), so what is said of all rows of incidents also holds in the middle of a
batch, and between two commands that came in together. -/

namespace Tafl

inductive Incident where
  | received (n : Nat)
  | command (id : GuestId) (c : Command)
  /-- A guest is dropped for what it sent, or because it has closed its line. -/
  | leave (id : GuestId)
  | arrival (id : GuestId) (origin : Origin) (line : Line)
  | writeFailed (id : GuestId)
  | matchmake
  | sweep
  | shutDown

namespace Incident

def arrivals : Incident → List (GuestId × Line)
  | arrival id _ line => [(id, line)]
  | received _ | command _ _ | leave _ | writeFailed _ | matchmake | sweep | shutDown => []

/-- The guest whose own command or departure it is. -/
def author? : Incident → Option GuestId
  | command id _ | leave id => some id
  | received _ | arrival _ _ _ | writeFailed _ | matchmake | sweep | shutDown => none

/-- A command has to be such as can come over a line. -/
def IsSent : Incident → Prop
  | command _ c => c.IsSent
  | received _ | leave _ | arrival _ _ _ | writeFailed _ | matchmake | sweep | shutDown => True

instance : DecidablePred IsSent
  | command _ c => inferInstanceAs (Decidable c.IsSent)
  | received _ | leave _ | arrival _ _ _ | writeFailed _ | matchmake | sweep | shutDown =>
    .isTrue trivial

/-- Nobody comes twice under one number, everybody comes on a line of its own, and the commands are
such as can come over a line. -/
structure Plausible (xs : List Incident) : Prop where
  ids : ((xs.flatMap arrivals).map Prod.fst).Nodup
  lines : ((xs.flatMap arrivals).map Prod.snd).Nodup
  sent : ∀ x ∈ xs, x.IsSent

instance (xs : List Incident) : Decidable (Plausible xs) :=
  decidable_of_iff (((xs.flatMap arrivals).map Prod.fst).Nodup ∧
      ((xs.flatMap arrivals).map Prod.snd).Nodup ∧ ∀ x ∈ xs, x.IsSent)
    ⟨fun h => ⟨h.1, h.2.1, h.2.2⟩, fun p => ⟨p.ids, p.lines, p.sent⟩⟩

theorem Plausible.left {xs ys : List Incident} (p : Plausible (xs ++ ys)) : Plausible xs := by
  obtain ⟨hids, hlines, hsent⟩ := p
  rw [List.flatMap_append, List.map_append] at hids hlines
  exact ⟨(List.nodup_append.1 hids).1, (List.nodup_append.1 hlines).1,
    fun x hx => hsent x (List.mem_append_left _ hx)⟩

theorem Plausible.ids_concat {xs : List Incident} {x : Incident} (p : Plausible (xs ++ [x])) :
    ((xs.flatMap arrivals ++ x.arrivals).map Prod.fst).Nodup := by
  have hids := p.ids
  rwa [List.flatMap_append, List.flatMap_singleton] at hids

end Incident

namespace Hall

/-- What a guest without a line sends is ignored. -/
def meet (h : Hall) : Incident → Hall
  | .received n => { h with tally.bytesReceived := h.tally.bytesReceived + n }
  | .command id c => if (h.line? id).isSome then (h.obey id c).1 else h
  | .leave id => h.lineClosed id
  | .arrival id origin line => (h.accept id origin line).1
  | .writeFailed id => h.writeFailed id
  | .matchmake => h.matchmake
  | .sweep => h.sweep
  | .shutDown => h.shutDown

def after (h : Hall) (xs : List Incident) : Hall := xs.foldl meet h

variable {h h' : Hall} {first : Nat} {i : GuestId} {g : Guest}

theorem after_append (h : Hall) (xs ys : List Incident) :
    h.after (xs ++ ys) = (h.after xs).after ys :=
  List.foldl_append

/-! ### Incidents lead from hall to hall -/

namespace Reached
variable {c m b : Nat} {as : List (GuestId × Line)}

theorem meet (r : Reached c m b first as h) {x : Incident}
    (hf : ((as ++ x.arrivals).map Prod.fst).Nodup) (hs : x.IsSent) :
    ∃ first', Leads first as h first' (as ++ x.arrivals) (h.meet x) := by
  have l : Leads first as h first as h := .refl
  have alone {h' : Hall} {first' : Nat} (hx : x.arrivals = []) (l : Leads first as h first' as h') :
      ∃ first', Leads first as h first' (as ++ x.arrivals) h' :=
    ⟨first', by rwa [hx, List.append_nil]⟩
  cases x with
  | received n => exact alone rfl (l.change (i := 0) (.deed (.received n)))
  | command id c =>
    suffices Leads first as h first as (h.meet (.command id c)) from alone rfl this
    unfold Hall.meet
    dsimp only
    split
    · rename_i hl
      exact l.row ((Reached.orderly r).obey hl hs).row
    · exact l
  | leave id => exact alone rfl (l.row (.lineClosed (i := id)))
  | arrival id origin line =>
    exact ⟨first, l.accept (newcomer_notMem hf) origin line⟩
  | writeFailed id => exact alone rfl (l.row (.writeFailed (i := id)))
  | matchmake => exact alone rfl (Reached.matchmake r)
  | sweep => exact alone rfl l.sweep
  | shutDown => exact alone rfl l.shutDown

theorem after {xs : List Incident} (r : Reached c m b first as h)
    (hf : ((as ++ xs.flatMap Incident.arrivals).map Prod.fst).Nodup) (hs : ∀ x ∈ xs, x.IsSent) :
    ∃ first', Leads first as h first' (as ++ xs.flatMap Incident.arrivals) (h.after xs) := by
  induction xs generalizing h as first with
  | nil =>
    refine ⟨first, ?_⟩
    rw [List.flatMap_nil, List.append_nil]
    exact .refl
  | cons x xs ih =>
    rw [List.flatMap_cons, ← List.append_assoc] at hf ⊢
    have hfx : ((as ++ x.arrivals).map Prod.fst).Nodup := nodup_ids_left hf
    obtain ⟨first₁, l₁⟩ := Reached.meet r hfx (hs x (List.mem_cons_self ..))
    obtain ⟨first₂, l₂⟩ := ih (r.trans l₁) hf fun y hy => hs y (List.mem_cons_of_mem _ hy)
    exact ⟨first₂, l₁.trans l₂⟩

end Reached

end Hall

/-- Where plausible incidents lead. -/
theorem Incident.Plausible.reached {xs : List Incident} (p : Incident.Plausible xs) (c m b : Nat) :
    ∃ first, Hall.Reached c m b first (xs.flatMap Incident.arrivals)
      ((Hall.vacant c m b).after xs) := by
  obtain ⟨first, l⟩ := Hall.Reached.after (.refl : Hall.Reached c m b ..) p.ids p.sent
  exact ⟨first, l⟩

theorem Incident.Plausible.leads {xs ys : List Incident} (p : Incident.Plausible (xs ++ ys))
    {c m b first : Nat} {h : Hall} (r : Hall.Reached c m b first (xs.flatMap Incident.arrivals) h) :
    ∃ first', Hall.Leads first (xs.flatMap Incident.arrivals) h first'
      ((xs ++ ys).flatMap Incident.arrivals) (h.after ys) := by
  rw [List.flatMap_append]
  refine Hall.Reached.after r ?_ fun x hx => p.sent x (List.mem_append_right _ hx)
  rw [← List.flatMap_append]
  exact p.ids

namespace Hall
variable {h h' k : Hall} {first : Nat} {i : GuestId}

/-! ### Every run is a row of incidents -/

/-- A row of incidents leads from one hall to the other. The guests `as` come meanwhile. -/
def Unfolds (h : Hall) (as : List (GuestId × Line)) (h' : Hall) : Prop :=
  ∃ xs : List Incident, h' = h.after xs ∧ xs.flatMap Incident.arrivals = as ∧ ∀ x ∈ xs, x.IsSent

namespace Unfolds
variable {as as' : List (GuestId × Line)}

theorem refl (h : Hall) : h.Unfolds [] h := ⟨[], rfl, rfl, by simp⟩

theorem trans (u : h.Unfolds as k) (u' : k.Unfolds as' h') : h.Unfolds (as ++ as') h' := by
  obtain ⟨xs, rfl, rfl, hxs⟩ := u
  obtain ⟨ys, rfl, rfl, hys⟩ := u'
  refine ⟨xs ++ ys, (after_append ..).symm, List.flatMap_append, fun x hx => ?_⟩
  rcases List.mem_append.1 hx with hx | hx
  · exact hxs x hx
  · exact hys x hx

theorem meet {x : Incident} (hx : x.IsSent) : h.Unfolds x.arrivals (h.meet x) :=
  ⟨[x], rfl, by simp, by simpa using hx⟩

theorem drop (hl : (h.line? i).isSome = true) : h.Unfolds [] (h.drop i) := by
  have u : h.Unfolds [] (h.lineClosed i) := meet (x := .leave i) trivial
  rwa [lineClosed, if_pos hl] at u

theorem obeyAll {cs : List Command} (hcs : ∀ c ∈ cs, c.IsSent) (ho : h.Orderly first)
    (hl : (h.line? i).isSome = true) : h.Unfolds [] (h.obeyAll i cs) := by
  induction cs generalizing h with
  | nil => exact refl h
  | cons c cs ih =>
    have hc := hcs c (List.mem_cons_self ..)
    have hd := ho.obey hl hc
    have hl' := hd.line?_eq.symm ▸ hl
    have u : h.Unfolds [] (h.obey i c).1 := by
      have u := meet (h := h) (x := .command i c) hc
      rwa [Hall.meet, if_pos hl] at u
    unfold Hall.obeyAll
    rcases hv : h.obey i c with ⟨k, v⟩
    rw [hv] at hd hl' u
    cases v with
    | stay => exact u.trans (ih (fun c hc => hcs c (List.mem_cons_of_mem _ hc)) (hd.orderly ho) hl')
    | leave why => exact u.trans (drop hl')

theorem receive (ho : h.Orderly first) (bytes : ByteArray) :
    h.Unfolds [] (h.receive i bytes) := by
  have u : h.Unfolds [] { h with tally.bytesReceived := h.tally.bytesReceived + bytes.size } :=
    meet (x := .received bytes.size) trivial
  unfold Hall.receive
  dsimp only
  generalize hk : { h with tally.bytesReceived := h.tally.bytesReceived + bytes.size } = k at u
  have ho : k.Orderly first := by subst hk; exact ho
  split
  · exact u
  · rename_i hl
    have hl : (k.line? i).isSome = true := by
      cases hk : k.line? i <;> simp_all
    split
    · exact u.trans (drop hl)
    · rename_i rs hd
      exact u.trans (obeyAll (isSent_of_decode hd) ho hl)

theorem handle (ho : h.Orderly first) (e : Event) : h.Unfolds e.arrivals (h.handle e) := by
  cases e with
  | connected id origin line => exact meet (x := .arrival id origin line) trivial
  | data id bytes => exact receive ho bytes
  | closed id => exact meet (x := .leave id) trivial
  | writeFailed id => exact meet (x := .writeFailed id) trivial

end Unfolds

namespace Reached
variable {c m b : Nat} {as : List (GuestId × Line)}

theorem unfolds_foldl_handle {es : List Event} (r : Reached c m b first as h)
    (hf : ((as ++ es.flatMap Event.arrivals).map Prod.fst).Nodup) :
    h.Unfolds (es.flatMap Event.arrivals) (es.foldl Hall.handle h) := by
  induction es generalizing h as with
  | nil => exact .refl h
  | cons e es ih =>
    rw [List.flatMap_cons, ← List.append_assoc] at hf
    have hfe : ((as ++ e.arrivals).map Prod.fst).Nodup := nodup_ids_left hf
    rw [List.flatMap_cons]
    exact (Unfolds.handle (Reached.orderly r) e).trans (ih (r.trans (Reached.handle r hfe)) hf)

theorem unfolds_step (r : Reached c m b first as h) {s : Step}
    (hf : ((as ++ s.arrivals).map Prod.fst).Nodup) :
    ∃ as', as'.Perm s.arrivals ∧ h.Unfolds as' (h.step s) := by
  cases s with
  | event e => exact ⟨_, .refl _, .handle (Reached.orderly r) e⟩
  | batch es =>
    have hp : ((arrange h.roster es).flatMap Event.arrivals).Perm (es.flatMap Event.arrivals) :=
      (arrange_perm h.roster es).flatMap_right _
    have u := unfolds_foldl_handle r (((hp.append_left as).map Prod.fst).nodup_iff.2 hf)
    have u' := u.trans (Unfolds.meet (x := .matchmake) trivial)
    refine ⟨_, ?_, u'⟩
    rw [Incident.arrivals, List.append_nil]
    exact hp
  | matchmake => exact ⟨_, .refl _, .meet (x := .matchmake) trivial⟩
  | sweep => exact ⟨_, .refl _, .meet (x := .sweep) trivial⟩
  | shutDown => exact ⟨_, .refl _, .meet (x := .shutDown) trivial⟩

theorem unfolds_run {steps : List Step} (r : Reached c m b first as h)
    (hf : ((as ++ Tafl.arrivals steps).map Prod.fst).Nodup) :
    ∃ as', as'.Perm (Tafl.arrivals steps) ∧ h.Unfolds as' (h.run steps) := by
  induction steps generalizing h as first with
  | nil => exact ⟨[], .refl _, .refl h⟩
  | cons s steps ih =>
    have hcons : as ++ Tafl.arrivals (s :: steps) = as ++ s.arrivals ++ Tafl.arrivals steps :=
      (List.append_assoc ..).symm
    rw [hcons] at hf
    have hfs : ((as ++ s.arrivals).map Prod.fst).Nodup := nodup_ids_left hf
    obtain ⟨_, as₁, -, hp₁, l⟩ := Reached.step r hfs
    obtain ⟨as₂, hp₂, u⟩ := unfolds_step r hfs
    have hp := hp₁.append_right (Tafl.arrivals steps)
    obtain ⟨as₃, hp₃, u'⟩ := ih (r.trans l) ((hp.map Prod.fst).nodup_iff.2 hf)
    exact ⟨as₂ ++ as₃, hp₂.append hp₃, u.trans u'⟩

end Reached

/-- Whatever is asked of a vacant hall, plausible incidents lead there one at a time. -/
theorem exists_plausible (capacity maxTables budget : Nat) {steps : List Step}
    (hids : ((Tafl.arrivals steps).map Prod.fst).Nodup)
    (hlines : ((Tafl.arrivals steps).map Prod.snd).Nodup) :
    ∃ xs, Incident.Plausible xs ∧ (xs.flatMap Incident.arrivals).Perm (Tafl.arrivals steps) ∧
      (vacant capacity maxTables budget).run steps =
        (vacant capacity maxTables budget).after xs := by
  obtain ⟨-, hp, xs, hrun, rfl, hsent⟩ :=
    Reached.unfolds_run (.refl : Reached capacity maxTables budget ..) hids
  exact ⟨xs, ⟨(hp.map Prod.fst).nodup_iff.2 hids, (hp.map Prod.snd).nodup_iff.2 hlines, hsent⟩, hp,
    hrun⟩

end Hall

end Tafl
