import Mathlib.Algebra.GroupWithZero.Nat
import Tafl.Proofs.Hall.Effects
import Tafl.Proofs.Hall.Incidents

/-! # The accounts of a hall

What a hall notes of its past agrees with what has happened (`Hall.run_accounts`). Whatever guests
do and sweeps bring about leaves the totals balanced (`Balances`: for each operation there is one
lemma); newcomers and new tables raise both sides of them. -/

namespace Tafl

/-- The size of what goes out over a line. -/
def Outgoing.size : Outgoing → Nat
  | frame n => n.frame.utf8ByteSize
  | close => 0

/-- The size of what came in. -/
def Event.size : Event → Nat
  | data _ bytes => bytes.size
  | connected _ _ _ | closed _ | writeFailed _ => 0

def Step.size : Step → Nat
  | event e => e.size
  | batch es => (es.map Event.size).sum
  | matchmake | sweep | shutDown => 0

namespace Roster
variable {r : Roster} {i : GuestId} {g : Guest}

theorem ids_handOver (r : Roster) (source heir : GuestId) (budget : Nat) :
    (r.handOver source heir budget).ids = r.ids := by
  unfold handOver
  split
  · split
    · rfl
    · rw [ids_modify, ids_modify]
  · rfl

theorem size_erase (hg : r.get? i = some g) : (r.erase i).size + 1 = r.size := by
  have hi : i ∈ r.ids := mem_ids_iff.2 ⟨g, hg⟩
  have hn : r.ids.Nodup := r.nodup
  have hids : (r.erase i).ids = r.ids.erase i := by
    rw [ids_erase, hn.erase_eq_filter]
    refine List.filter_congr fun j _ => ?_
    by_cases hj : j = i <;> simp [hj]
  rw [← length_ids, hids, ← length_ids, List.length_erase_add_one hi]

theorem size_insert (hi : i ∉ r.ids) : (r.insert i g).size = r.size + 1 := by
  rw [insert, dif_neg hi, size, List.length_append, size]
  rfl

end Roster

theorem Tables.size_openFor (ts : Tables) (black white : String) :
    (ts.openFor black white).size = ts.size + 1 := List.length_append

namespace Hall

/-- The size of all frames that were ever put out. -/
def bytesOut (h : Hall) : Nat := (h.outbox.map fun e => e.2.size).sum

/-- Nobody has come and no table was opened. Who is gone, and what was sent, is accounted for. -/
structure Balances (h h' : Hall) : Prop where
  ids : h'.roster.ids.Sublist h.roster.ids
  tables : (h'.tables.running.map Table.id).Sublist (h.tables.running.map Table.id)
  opened : h'.tables.opened = h.tables.opened
  limit : h'.tables.limit = h.tables.limit
  capacity : h'.capacity = h.capacity
  connected : h'.tally.connected = h.tally.connected
  disconnected : h'.tally.disconnected + h'.roster.size = h.tally.disconnected + h.roster.size
  announced : h'.tally.tablesOpened = h.tally.tablesOpened
  received : h'.tally.bytesReceived = h.tally.bytesReceived
  sent : h'.tally.bytesSent + h.bytesOut = h.tally.bytesSent + h'.bytesOut

variable {h h' h'' : Hall} {i : GuestId} {o : Option GuestId} {n : Notice}

namespace Balances

theorem refl (h : Hall) : h.Balances h :=
  ⟨.refl _, .refl _, rfl, rfl, rfl, rfl, rfl, rfl, rfl, rfl⟩

theorem trans (b : h.Balances h') (b' : h'.Balances h'') : h.Balances h'' where
  ids := b'.ids.trans b.ids
  tables := b'.tables.trans b.tables
  opened := b'.opened.trans b.opened
  limit := b'.limit.trans b.limit
  capacity := b'.capacity.trans b.capacity
  connected := b'.connected.trans b.connected
  disconnected := b'.disconnected.trans b.disconnected
  announced := b'.announced.trans b.announced
  received := b'.received.trans b.received
  sent := by
    have := b.sent
    have := b'.sent
    omega

/-! ### The small operations -/

theorem post (l : Line) : h.Balances (h.post l n) :=
  { refl h with sent := by simp [Hall.post, bytesOut, Outgoing.size]; omega }

theorem hangUp (l : Option Line) : h.Balances (h.hangUp l) := by
  cases l with
  | none => exact refl h
  | some l => exact { refl h with sent := by simp [Hall.hangUp, bytesOut, Outgoing.size] }

theorem roster {r : Roster} (hr : r.ids = h.roster.ids) : h.Balances { h with roster := r } :=
  have hsize : r.size = h.roster.size := by rw [← r.length_ids, hr, Roster.length_ids]
  { refl h with
    ids := hr ▸ .refl _
    disconnected := congrArg (h.tally.disconnected + ·) hsize }

theorem revise (f : Guest → Guest) : h.Balances (h.revise i f) := roster (Roster.ids_modify ..)

theorem close (k : Nat) : h.Balances { h with tables := h.tables.close k } :=
  { refl h with tables := List.filter_sublist.map Table.id }

theorem replace (t : Table) : h.Balances { h with tables := h.tables.replace t } :=
  { refl h with tables := h.tables.map_id_replace t ▸ .refl _ }

theorem reconnected (m : Nat) : h.Balances { h with tally.reconnected := m } := { refl h with }

theorem send : h.Balances (h.send i n) := by
  unfold Hall.send
  cases h.line? i with
  | none => exact refl h
  | some l => exact post l

theorem sendToOpponent : h.Balances (h.sendToOpponent i n) := by
  unfold Hall.sendToOpponent
  cases h.opponent? i with
  | none => exact refl h
  | some o => exact send

theorem sendGame : h.Balances (h.sendGame i) := by
  unfold Hall.sendGame
  split
  · exact send.trans (send.trans (send.trans send))
  · exact refl h

theorem sendPlace : h.Balances (h.sendPlace i) := by
  unfold Hall.sendPlace
  split
  · exact sendGame
  · exact send

theorem toLobby : h.Balances (h.toLobby i) := (revise _).trans send

/-! ### Leaving -/

theorem breakUp : h.Balances (h.breakUp i n) := by
  unfold Hall.breakUp
  split
  · exact refl h
  · rename_i k _
    have hclosed : h.Balances ({ h with tables := h.tables.close k }.revise i
        fun g => { g with table := none }) := (close k).trans (revise _)
    cases h.opponent? i with
    | none => exact hclosed
    | some o => exact hclosed.trans (send.trans toLobby)

theorem strike : h.Balances (h.strike i) := by
  unfold Hall.strike
  cases hg : h.guest? i with
  | none => exact refl h
  | some g =>
    have hsize : (h.roster.erase i).size + 1 = h.roster.size := Roster.size_erase hg
    have herased : h.Balances { h with
        roster := h.roster.erase i, tally.disconnected := h.tally.disconnected + 1 } :=
      { refl h with
        ids := List.filter_sublist.map Prod.fst
        disconnected := by dsimp only; omega }
    exact herased.trans (hangUp g.line)

theorem drop : h.Balances (h.drop i) := breakUp.trans strike

theorem shutDown : h.Balances h.shutDown := by
  unfold Hall.shutDown
  generalize h.roster.ids = is
  induction is generalizing h with
  | nil => exact refl h
  | cons i is ih => exact (send.trans strike).trans ih

/-! ### Commands -/

theorem onPong : h.Balances (h.onPong i) := by
  unfold Hall.onPong
  split
  · exact refl h
  · split
    · split
      · exact (revise _).trans sendToOpponent
      · exact revise _
    · exact refl h

theorem welcomeBack : h.Balances (h.welcomeBack i) :=
  (reconnected _).trans (send.trans (sendPlace.trans sendToOpponent))

theorem onOwnName (g : Guest) : h.Balances (h.onOwnName i g) := by
  unfold Hall.onOwnName
  split
  · exact (revise _).trans welcomeBack
  · exact send

theorem onFirstName (g : Guest) (name : String) : h.Balances (h.onFirstName i g name) := by
  unfold Hall.onFirstName
  refine (revise (i := i) (·.restore h.decayBudget)).trans ?_
  generalize h.revise i (·.restore h.decayBudget) = k
  dsimp only
  split
  · exact (revise _).trans (send.trans send)
  · exact send
  · exact refl k
  · exact (roster (Roster.ids_handOver ..)).trans ((hangUp _).trans welcomeBack)

theorem onConnect (name : String) : h.Balances (h.onConnect i name).1 := by
  unfold Hall.onConnect
  split
  · exact refl h
  · split
    · exact onFirstName _ name
    · split
      · exact onOwnName _
      · exact refl h

theorem showMove (m : Move) (digits : String) : h.Balances (h.showMove i o m digits) := by
  unfold Hall.showMove
  cases o with
  | none => exact send.trans send
  | some o => exact (send.trans send).trans (send.trans send)

theorem passTurn : h.Balances (h.passTurn i o) := by
  unfold Hall.passTurn
  cases o with
  | none => exact (revise _).trans send
  | some o => exact ((revise _).trans send).trans ((revise _).trans send)

theorem settleGame (k : Nat) (won : Bool) : h.Balances (h.settleGame i o k won) := by
  unfold Hall.settleGame
  cases o with
  | none => exact send.trans ((close k).trans toLobby)
  | some o => exact (send.trans ((close k).trans toLobby)).trans (send.trans toLobby)

theorem onMove (m : Move) : h.Balances (h.onMove i m).1 := by
  unfold Hall.onMove
  split
  · exact refl h
  · split
    · exact refl h
    · dsimp only
      split
      · exact send
      · split
        · exact (replace _).trans ((showMove m _).trans (settleGame _ _))
        · exact (replace _).trans ((showMove m _).trans passTurn)

theorem onLeave : h.Balances (h.onLeave i).1 := by
  unfold Hall.onLeave
  split
  · exact send.trans (breakUp.trans toLobby)
  · exact refl h

theorem obey (c : Command) : h.Balances (h.obey i c).1 := by
  unfold Hall.obey
  cases h.guest? i with
  | none => exact refl h
  | some g =>
    dsimp only
    split
    · exact refl h
    · cases c with
      | ping => exact send
      | pong => exact onPong
      | connect name => exact onConnect name
      | move m => exact onMove m
      | leave => exact onLeave
      | chat text => exact sendToOpponent
      | exit => exact refl h

theorem obeyAll (cs : List Command) : h.Balances (h.obeyAll i cs) := by
  induction cs generalizing h with
  | nil => exact refl h
  | cons c cs ih =>
    have hc : h.Balances (h.obey i c).1 := obey c
    unfold Hall.obeyAll
    split
    · rename_i k hk
      rw [hk] at hc
      exact hc.trans ih
    · rename_i k why hk
      rw [hk] at hc
      exact hc.trans drop

/-! ### Lines and sweeps -/

theorem lineClosed : h.Balances (h.lineClosed i) := by
  unfold Hall.lineClosed
  split
  · exact drop
  · exact refl h

theorem writeFailed : h.Balances (h.writeFailed i) := by
  unfold Hall.writeFailed
  split
  · exact refl h
  · split
    · exact refl h
    · dsimp only
      split
      · exact (revise _).trans sendToOpponent
      · exact revise _

theorem sweepGuest : h.Balances (h.sweepGuest i) := by
  unfold Hall.sweepGuest
  split
  · exact refl h
  · split
    · exact drop
    · split
      · dsimp only
        split
        · exact ((revise _).trans send).trans sendToOpponent
        · exact (revise _).trans send
      · exact (send.trans (revise _)).trans ((hangUp _).trans sendToOpponent)
      · dsimp only
        split
        · exact (revise _).trans drop
        · exact revise _
      all_goals exact (revise _).trans send

theorem sweep : h.Balances h.sweep := by
  unfold Hall.sweep
  generalize h.roster.ids = is
  induction is generalizing h with
  | nil => exact refl h
  | cons i is ih => exact sweepGuest.trans ih

end Balances

/-- Whoever goes leaves a free place. -/
theorem size_drop_lt {g : Guest} (hg : h.guest? i = some g) :
    (h.drop i).roster.size < h.roster.size := by
  have b : h.Balances (h.drop i) := .drop
  have hle := b.ids.length_le
  rw [← Roster.length_ids, ← Roster.length_ids]
  refine hle.lt_of_ne fun he => ?_
  have hi : i ∈ h.roster.ids := Roster.mem_ids_iff.2 ⟨g, hg⟩
  rw [← b.ids.eq_of_length he] at hi
  obtain ⟨x, hx⟩ := Roster.mem_ids_iff.1 hi
  cases guest?_drop_self.symm.trans hx

theorem openFor_pair (p : Pair) : (h.pair p).tables = h.tables.openFor p.1.2 p.2.2 :=
  tables_announce _

/-! ### The totals -/

/-- A hall with room for `c` guests and `m` tables, in which `read` bytes have come in, has no more
of them, and knows how many have come and gone, and how much was read and sent. -/
structure Accounts (h : Hall) (c m read : Nat) : Prop where
  capacity : h.capacity = c
  limit : h.tables.limit = m
  guests_le : h.roster.size ≤ c
  tables_le : h.tables.size ≤ m
  connected : h.tally.connected = h.tally.disconnected + h.roster.size
  opened : h.tally.tablesOpened = h.tables.opened
  numbers : ∀ t ∈ h.tables.running, t.id ≤ h.tables.opened
  received : h.tally.bytesReceived = read
  sent : h.tally.bytesSent = h.bytesOut

variable {c m r : Nat}

namespace Accounts

theorem vacant (c m b : Nat) : (vacant c m b).Accounts c m 0 :=
  ⟨rfl, rfl, Nat.zero_le _, Nat.zero_le _, rfl, rfl, nofun, rfl, rfl⟩

theorem balances (a : h.Accounts c m r) (b : h.Balances h') : h'.Accounts c m r where
  capacity := b.capacity.trans a.capacity
  limit := b.limit.trans a.limit
  guests_le := by
    have := b.ids.length_le
    rw [Roster.length_ids, Roster.length_ids] at this
    exact this.trans a.guests_le
  tables_le := by
    have := b.tables.length_le
    rw [List.length_map, List.length_map] at this
    exact this.trans a.tables_le
  connected := by rw [b.connected, a.connected, b.disconnected]
  opened := by rw [b.announced, a.opened, b.opened]
  numbers := h'.tables.id_le_opened
  received := b.received.trans a.received
  sent := by
    have := b.sent
    have := a.sent
    omega

theorem receive (a : h.Accounts c m r) (bytes : ByteArray) :
    (h.receive i bytes).Accounts c m (r + bytes.size) := by
  have hread : Accounts { h with tally.bytesReceived := h.tally.bytesReceived + bytes.size }
      c m (r + bytes.size) := { a with received := congrArg (· + bytes.size) a.received }
  unfold Hall.receive
  dsimp only
  split
  · exact hread
  · split
    · exact hread.balances .drop
    · exact hread.balances (.obeyAll _)

theorem enrol (a : h.Accounts c m r) (hroom : h.roster.size < c) {id : GuestId}
    (hfresh : id ∉ h.roster.ids) (origin : Origin) (line : Line) :
    (h.enrol id origin line).Accounts c m r := by
  have hsize : (h.enrol id origin line).roster.size = h.roster.size + 1 := Roster.size_insert hfresh
  exact { a with
    guests_le := hsize.trans_le hroom
    connected := by
      rw [hsize]
      exact congrArg (· + 1) a.connected }

theorem accept (a : h.Accounts c m r) {id : GuestId} (hfresh : id ∉ h.roster.ids) (origin : Origin)
    (line : Line) : (h.accept id origin line).1.Accounts c m r := by
  unfold Hall.accept
  split
  · rename_i hroom
    exact a.enrol (a.capacity ▸ hroom) hfresh origin line
  · split
    · rename_i old hold
      obtain ⟨g, hg, -⟩ := Roster.longestDisconnected?_eq_some hold
      have b : h.Balances (h.drop old) := .drop
      exact (a.balances b).enrol ((size_drop_lt hg).trans_le a.guests_le)
        (fun hi => hfresh (b.ids.subset hi)) origin line
    · have b : h.Balances ((h.post line .serverFull).hangUp (some line)) :=
        (Balances.post line).trans (.hangUp _)
      exact a.balances b

theorem handle (a : h.Accounts c m r) {e : Event}
    (hfresh : ∀ x ∈ e.arrivals, x.1 ∉ h.roster.ids) : (h.handle e).Accounts c m (r + e.size) := by
  cases e with
  | connected id origin line => exact a.accept (hfresh (id, line) (by simp [Event.arrivals])) ..
  | data id bytes => exact a.receive bytes
  | closed id => exact a.balances .lineClosed
  | writeFailed id => exact a.balances .writeFailed

/-- A table that is opened is counted and announced. -/
theorem pair (a : h.Accounts c m r) (hroom : h.tables.size < m) (p : Pair) :
    (h.pair p).Accounts c m r := by
  have hids : (h.seat p).roster.ids = h.roster.ids :=
    (Roster.ids_modify ..).trans (Roster.ids_modify ..)
  have hguests : (h.seat p).roster.size = h.roster.size := by
    rw [← Roster.length_ids, hids, Roster.length_ids]
  have hseat : Accounts { h.seat p with tally.tablesOpened := h.tally.tablesOpened + 1 } c m r :=
    { a with
      guests_le := hguests.trans_le a.guests_le
      tables_le := (h.tables.size_openFor ..).trans_le hroom
      connected := a.connected.trans (congrArg _ hguests.symm)
      opened := congrArg (· + 1) a.opened
      numbers := (h.seat p).tables.id_le_opened }
  exact hseat.balances (Balances.sendGame.trans Balances.sendGame)

theorem foldl_pair {ps : List Pair} (a : h.Accounts c m r) (hps : h.tables.size + ps.length ≤ m) :
    (ps.foldl Hall.pair h).Accounts c m r := by
  induction ps generalizing h with
  | nil => exact a
  | cons p ps ih =>
    rw [List.length_cons] at hps
    refine ih (a.pair (by omega) p) ?_
    rw [openFor_pair, Tables.size_openFor]
    omega

end Accounts

/-! ### The numbers of the tables -/

/-- No table was opened. -/
structure Closes (h h' : Hall) : Prop where
  limit : h'.tables.limit = h.tables.limit
  opened : h'.tables.opened = h.tables.opened
  tables : (h'.tables.running.map Table.id).Sublist (h.tables.running.map Table.id)

theorem Balances.closes (b : h.Balances h') : h.Closes h' := ⟨b.limit, b.opened, b.tables⟩

namespace Closes

theorem of_eq (ht : h'.tables = h.tables) : h.Closes h' := ⟨by rw [ht], by rw [ht], ht ▸ .refl _⟩

theorem trans (c : h.Closes h') (c' : h'.Closes h'') : h.Closes h'' :=
  ⟨c'.limit.trans c.limit, c'.opened.trans c.opened, c'.tables.trans c.tables⟩

theorem receive (bytes : ByteArray) : h.Closes (h.receive i bytes) := by
  have hread : h.Closes { h with tally.bytesReceived := h.tally.bytesReceived + bytes.size } :=
    of_eq rfl
  unfold Hall.receive
  dsimp only
  split
  · exact hread
  · split
    · exact hread.trans Balances.drop.closes
    · exact hread.trans (Balances.obeyAll _).closes

theorem accept (id : GuestId) (origin : Origin) (line : Line) :
    h.Closes (h.accept id origin line).1 := by
  unfold Hall.accept
  split
  · exact of_eq rfl
  · split
    · exact Balances.drop.closes.trans (of_eq rfl)
    · exact of_eq (tables_hangUp _ _)

theorem handle (e : Event) : h.Closes (h.handle e) := by
  cases e with
  | connected id origin line => exact accept id origin line
  | data id bytes => exact receive bytes
  | closed id => exact Balances.lineClosed.closes
  | writeFailed id => exact Balances.writeFailed.closes

theorem foldl_handle (es : List Event) : h.Closes (es.foldl Hall.handle h) := by
  induction es generalizing h with
  | nil => exact of_eq rfl
  | cons e es ih => exact (handle e).trans ih

end Closes

/-- The numbers of new tables are higher than all that were given before. -/
structure Renews (h h' : Hall) : Prop where
  opened_le : h.tables.opened ≤ h'.tables.opened
  numbers : ∀ t ∈ h'.tables.running,
    t.id ∈ h.tables.running.map Table.id ∨ h.tables.opened < t.id

theorem Closes.renews (c : h.Closes h') : h.Renews h' :=
  ⟨c.opened.ge, fun _ ht => .inl (c.tables.subset (List.mem_map_of_mem ht))⟩

namespace Renews

theorem refl (h : Hall) : h.Renews h := Closes.renews (.of_eq rfl)

theorem trans (s : h.Renews h') (s' : h'.Renews h'') : h.Renews h'' where
  opened_le := s.opened_le.trans s'.opened_le
  numbers t ht := by
    rcases s'.numbers t ht with hold | hnew
    · obtain ⟨u, hu, hut⟩ := List.mem_map.1 hold
      exact hut ▸ s.numbers u hu
    · exact .inr (s.opened_le.trans_lt hnew)

theorem pair (p : Pair) : h.Renews (h.pair p) where
  opened_le := opened_pair.ge.trans' (Nat.le_succ _)
  numbers t ht := by
    rw [openFor_pair] at ht
    rcases List.mem_append.1 ht with ht | ht
    · exact .inl (List.mem_map_of_mem ht)
    · obtain rfl := List.mem_singleton.1 ht
      exact .inr (Nat.lt_succ_self _)

theorem foldl_pair (ps : List Pair) : h.Renews (ps.foldl Hall.pair h) := by
  induction ps generalizing h with
  | nil => exact refl h
  | cons p ps ih => exact (pair p).trans ih

end Renews

/-! ### Runs -/

namespace Reached
variable {first b : Nat} {as : List (GuestId × Line)}

theorem newcomers_notMem {bs : List (GuestId × Line)} (l : Reached c m b first as h)
    (hf : ((as ++ bs).map Prod.fst).Nodup) : ∀ x ∈ bs, x.1 ∉ h.roster.ids := by
  intro x hx hi
  obtain ⟨g, hg⟩ := Roster.mem_ids_iff.1 hi
  rw [List.map_append, List.nodup_append] at hf
  exact hf.2.2 _ (Reached.came l hg).1 _ (List.mem_map_of_mem hx) rfl

theorem accounts_matchmake (l : Reached c m b first as h) (a : h.Accounts c m r) :
    h.matchmake.Accounts c m r ∧ h.Renews h.matchmake := by
  rw [matchmake_eq (Reached.orderly l) (Reached.first_le l)]
  refine ⟨a.foldl_pair ?_, .foldl_pair _⟩
  have hfree : h.pairs.length ≤ h.tables.free := List.length_take_le ..
  have := a.tables_le
  rw [Tables.free, a.limit] at hfree
  omega

theorem accounts_foldl_handle {es : List Event} (l : Reached c m b first as h)
    (hf : ((as ++ es.flatMap Event.arrivals).map Prod.fst).Nodup) (a : h.Accounts c m r) :
    (es.foldl Hall.handle h).Accounts c m (r + (es.map Event.size).sum) := by
  induction es generalizing h as r with
  | nil => exact a
  | cons e es ih =>
    rw [List.flatMap_cons, ← List.append_assoc] at hf
    have hfe : ((as ++ e.arrivals).map Prod.fst).Nodup := nodup_ids_left hf
    rw [List.map_cons, List.sum_cons, ← Nat.add_assoc]
    exact ih (Leads.trans l (Reached.handle l hfe)) hf
      (a.handle (Reached.newcomers_notMem l hfe))

theorem accounts_step {s : Step} (l : Reached c m b first as h)
    (hf : ((as ++ s.arrivals).map Prod.fst).Nodup) (a : h.Accounts c m r) :
    (h.step s).Accounts c m (r + s.size) ∧ h.Renews (h.step s) := by
  cases s with
  | event e => exact ⟨a.handle (Reached.newcomers_notMem l hf), (Closes.handle e).renews⟩
  | batch es =>
    have hp := arrange_perm h.roster es
    have hf' := (((hp.flatMap_right Event.arrivals).append_left as).map Prod.fst).nodup_iff.2 hf
    obtain ⟨a', s⟩ := Reached.accounts_matchmake (Leads.trans l (Reached.foldl_handle l hf'))
      (Reached.accounts_foldl_handle l hf' a)
    rw [(hp.map Event.size).sum_nat] at a'
    exact ⟨a', (Closes.foldl_handle _).renews.trans s⟩
  | matchmake => exact Reached.accounts_matchmake l a
  | sweep => exact ⟨a.balances .sweep, Balances.sweep.closes.renews⟩
  | shutDown => exact ⟨a.balances .shutDown, Balances.shutDown.closes.renews⟩

theorem accounts_run {steps : List Step} (l : Reached c m b first as h)
    (hf : ((as ++ arrivals steps).map Prod.fst).Nodup) (a : h.Accounts c m r) :
    (h.run steps).Accounts c m (r + (steps.map Step.size).sum) ∧ h.Renews (h.run steps) := by
  induction steps generalizing h as first r with
  | nil => exact ⟨a, .refl _⟩
  | cons s steps ih =>
    have hcons : as ++ arrivals (s :: steps) = as ++ s.arrivals ++ arrivals steps :=
      (List.append_assoc ..).symm
    rw [hcons] at hf
    have hfs : ((as ++ s.arrivals).map Prod.fst).Nodup := nodup_ids_left hf
    obtain ⟨a₁, s₁⟩ := Reached.accounts_step l hfs a
    obtain ⟨_, as₁, -, hp, l₁⟩ := Reached.step l hfs
    have hf₁ := ((hp.append_right (arrivals steps)).map Prod.fst).nodup_iff.2 hf
    obtain ⟨a₂, s₂⟩ := ih (Leads.trans l l₁) hf₁ a₁
    rw [List.map_cons, List.sum_cons, ← Nat.add_assoc]
    exact ⟨a₂, s₁.trans s₂⟩

end Reached

/-- Whatever is asked of a hall, before and after a shutdown, it never has more guests or tables
than it has room for, its totals are right, and no number of a table is given twice. Nobody comes
twice under one number. -/
theorem run_accounts (capacity maxTables budget : Nat) {steps later : List Step}
    (hids : ((arrivals (steps ++ later)).map Prod.fst).Nodup) :
    let h := (vacant capacity maxTables budget).run steps
    h.Accounts capacity maxTables (steps.map Step.size).sum ∧ h.Renews (h.run later) := by
  intro h
  have hsplit : arrivals (steps ++ later) = arrivals steps ++ arrivals later := List.flatMap_append
  rw [hsplit] at hids
  have l : Reached capacity maxTables budget 0 [] _ := .refl
  have hf : (([] ++ arrivals steps).map Prod.fst).Nodup := nodup_ids_left hids
  obtain ⟨a, -⟩ := Reached.accounts_run l hf (.vacant ..)
  rw [Nat.zero_add] at a
  obtain ⟨_, as, -, hp, l₁⟩ := Reached.run l hf
  have hf₁ := ((hp.append_right (arrivals later)).map Prod.fst).nodup_iff.2 hids
  exact ⟨a, (Reached.accounts_run (Leads.trans l l₁) hf₁ a).2⟩

/-- A third guest is refused. Ada leaves the game, and a new one is opened with the next pairing; it
is left over when the hall is shut down. The two who come then play at a third table. -/
theorem run_accounts_three_tables :
    let steps : List Step := [.event (.connected 1 "a" 0), .event (.connected 2 "b" 1),
      .batch [.data 2 (Request.frame [.connect "Bob"]).toUTF8,
        .data 1 (Request.frame [.connect "Ada"]).toUTF8, .connected 3 "c" 2],
      .batch [.data 1 (Request.frame [.leave]).toUTF8], .shutDown]
    let later : List Step := [.event (.connected 4 "a" 3), .event (.connected 5 "b" 4),
      .batch [.data 4 (Request.frame [.connect "Ada"]).toUTF8,
        .data 5 (Request.frame [.connect "Bob"]).toUTF8]]
    let h := (vacant 2 2 3).run steps
    ((arrivals (steps ++ later)).map Prod.fst).Nodup ∧
      (h.tally.connected = 2 ∧ h.tally.bytesReceived = 27 ∧ h.tally.tablesOpened = 2 ∧
        h.tables.running.map Table.id = [2] ∧
        (h.run later).tables.running.map Table.id = [2, 3]) ∧
      h.Accounts 2 2 (steps.map Step.size).sum ∧ h.Renews (h.run later) := by
  intro steps later h
  have hids : ((arrivals (steps ++ later)).map Prod.fst).Nodup := by decide
  exact ⟨hids, by decide +kernel, run_accounts 2 2 3 hids⟩

end Hall

end Tafl
