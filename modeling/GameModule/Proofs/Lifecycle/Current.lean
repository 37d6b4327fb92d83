import GameModule.Proofs.Lifecycle.Conservation

/-!
# The cell keeps one current game

The abstract lifecycle has one variable: the current game, set by an opening when the new game is
parked and unset by a shutdown. The cell, its generation and all suspended requests together stand
for that variable: the current game is parked, or it is out with the one request that began at the
cell's generation. The relation needs the generation to be fresh whenever it is counted up, so it
holds as long as fewer than 2^64 openings and shutdowns were begun.
-/
namespace GameModule

/-! ## The abstract lifecycle -/

namespace Event

/-- The current game after an event. A new game is parked in the same breath in which it is made,
and a shutdown clears the cell before anything else. -/
def current : Event → Option GameId → Option GameId
  | .opened id, _ => some id
  | .entered .stop, _ => none
  | _, before => before

/-- Whether an opening or a shutdown begins. -/
def isLifecycle : Event → Bool
  | .entered (.start _) | .entered .stop => true
  | _ => false

/-- The event leaves the current game alone and begins no opening or shutdown. -/
def IsPlain (e : Event) : Prop := (∀ before, e.current before = before) ∧ e.isLifecycle = false

end Event

namespace Machine

/-- The current game of the abstract lifecycle. -/
def current (m : Machine) : Option GameId := m.history.foldr Event.current none

/-- Openings and shutdowns begun so far. -/
def entries (m : Machine) : Nat := m.history.countP Event.isLifecycle

end Machine

/-! ## The relation, and what each step on the cell does to it -/

/-- The cell stands for `current` while `outs` are the requests under way, innermost first: the
game each has out and the generation at which it was taken. -/
structure Tracks (cell : Cell) (current : Option GameId) (outs : List (GameId × UInt64)) :
    Prop where
  bounded : ∀ p ∈ outs, p.2 ≤ cell.generation
  descending : outs.Pairwise fun inner outer => outer.2 < inner.2
  parked : ∀ id, cell.slot = some id → current = some id
  out : ∀ p ∈ outs, p.2 = cell.generation → cell.slot = none ∧ current = some p.1
  found : ∀ id, cell.slot = none → current = some id → (id, cell.generation) ∈ outs

namespace Tracks

variable {cell : Cell} {current : Option GameId} {outs : List (GameId × UInt64)}

theorem empty : Tracks Cell.empty none [] where
  bounded := by simp
  descending := .nil
  parked := by simp [Cell.empty]
  out := by simp
  found := by simp

/-- A request takes the parked game out. Nothing else was taken at this generation, because the
slot would be empty. -/
theorem checkOut (h : Tracks cell current outs) {id : GameId} (hs : cell.slot = some id) :
    Tracks cell.checkOut.2 current ((id, cell.generation) :: outs) := by
  have hlt : ∀ p ∈ outs, p.2 < cell.generation := by
    intro p hp
    refine UInt64.lt_of_le_of_ne (h.bounded p hp) fun he => ?_
    have hn := (h.out p hp he).1
    rw [hs] at hn
    cases hn
  simp only [Cell.checkOut, hs]
  constructor
  · intro p hp
    rcases List.mem_cons.mp hp with rfl | hp
    · exact UInt64.le_refl _
    · exact h.bounded p hp
  · exact List.Pairwise.cons hlt h.descending
  · intro id' hn
    cases hn
  · intro p hp he
    rcases List.mem_cons.mp hp with rfl | hp
    · exact ⟨rfl, h.parked id hs⟩
    · exact absurd he (UInt64.ne_of_lt (hlt p hp))
  · intro id' _ hc
    rw [h.parked id hs] at hc
    cases hc
    exact List.mem_cons_self

/-- A request that began at the cell's generation puts its game back. -/
theorem keep {id : GameId} {generation : UInt64}
    (h : Tracks cell current ((id, generation) :: outs))
    (hk : cell.generation = generation ∧ cell.slot = none) :
    Tracks (cell.putBack id generation).2 current outs := by
  obtain ⟨rfl, hs⟩ := hk
  have hcur := (h.out _ List.mem_cons_self rfl).2
  obtain ⟨hlt, hd⟩ := List.pairwise_cons.mp h.descending
  simp only [Cell.putBack, hs, and_self, ↓reduceIte]
  constructor
  · intro p hp
    exact h.bounded p (List.mem_cons_of_mem _ hp)
  · exact hd
  · intro id' hn
    cases hn
    exact hcur
  · intro p hp he
    exact absurd he (UInt64.ne_of_lt (hlt p hp))
  · intro id' hn
    cases hn

/-- A request that does not put its game back began at an earlier generation, so the current game
is none of its business. -/
theorem retire {id : GameId} {generation : UInt64}
    (h : Tracks cell current ((id, generation) :: outs))
    (hk : ¬ (cell.generation = generation ∧ cell.slot = none)) :
    Tracks (cell.putBack id generation).2 current outs := by
  have hne : cell.generation ≠ generation := by
    intro he
    exact hk ⟨he, (h.out _ List.mem_cons_self he.symm).1⟩
  simp only [Cell.putBack, hk, ↓reduceIte]
  constructor
  · intro p hp
    exact h.bounded p (List.mem_cons_of_mem _ hp)
  · exact (List.pairwise_cons.mp h.descending).2
  · exact h.parked
  · intro p hp
    exact h.out p (List.mem_cons_of_mem _ hp)
  · intro id' hs hc
    rcases List.mem_cons.mp (h.found id' hs hc) with he | hm
    · exact absurd (congrArg Prod.snd he) hne
    · exact hm

theorem lt_succ {a b : UInt64} (h : a ≤ b) (hb : b.toNat + 1 < UInt64.size) : a < b + 1 := by
  rw [UInt64.le_iff_toNat_le] at h
  rw [UInt64.lt_iff_toNat_lt, UInt64.toNat_add, UInt64.toNat_one, Nat.mod_eq_of_lt hb]
  omega

/-- Counting up makes a generation at which no request began, so whatever comes to the slot is
the current game. -/
theorem renew (h : Tracks cell current outs) (hb : cell.generation.toNat + 1 < UInt64.size)
    (slot : Option GameId) :
    Tracks { cell with slot, generation := cell.generation + 1 } slot outs := by
  have hlt : ∀ p ∈ outs, p.2 < cell.generation + 1 := fun p hp => lt_succ (h.bounded p hp) hb
  constructor
  · intro p hp
    exact UInt64.le_of_lt (hlt p hp)
  · exact h.descending
  · intro id hs
    exact hs
  · intro p hp he
    exact absurd he (UInt64.ne_of_lt (hlt p hp))
  · intro id hs hc
    exact absurd (hs.symm.trans hc) nofun

theorem park (h : Tracks cell current outs) (hb : cell.generation.toNat + 1 < UInt64.size)
    (id : GameId) : Tracks (cell.park id).2 (some id) outs :=
  h.renew hb (some id)

theorem clear (h : Tracks cell current outs) (hb : cell.generation.toNat + 1 < UInt64.size) :
    Tracks cell.clear.2 none outs :=
  h.renew hb none

end Tracks

/-! ## Every tick keeps the relation -/

/-- The game a request has out, and the generation at which it was taken. -/
def Work.outing? : Work → Option (GameId × UInt64)
  | .running id generation => some (id, generation)
  | _ => none

def outings (s : Machine × Control) : List (GameId × UInt64) :=
  (pending s).filterMap Work.outing?

/-- The generation never runs ahead of the openings and shutdowns begun; an opening under way has
yet to count it up. While they fit in 64 bits, the cell stands for the current game. -/
structure Follows (s : Machine × Control) : Prop where
  counted : s.1.cell.generation.toNat + (pending s).count .opening ≤ s.1.entries
  tracks : s.1.entries < UInt64.size → Tracks s.1.cell s.1.current (outings s)

theorem follows_initial (exported : List String) : Follows (Machine.initial exported, .host) where
  counted := Nat.le_refl _
  tracks _ := .empty

section Plain

variable {new history : List Event}

theorem current_append (hq : ∀ e ∈ new, ∀ before, e.current before = before) :
    (new ++ history).foldr Event.current none = history.foldr Event.current none := by
  induction new with
  | nil => rfl
  | cons e new ih =>
    rw [List.cons_append, List.foldr_cons, hq e List.mem_cons_self]
    exact ih fun e' he => hq e' (List.mem_cons_of_mem _ he)

theorem entries_plain (hq : ∀ e ∈ new, e.IsPlain) :
    (new ++ history).countP Event.isLifecycle = history.countP Event.isLifecycle := by
  have hn : new.countP Event.isLifecycle = 0 :=
    List.countP_eq_zero.mpr fun e he => by rw [(hq e he).2]; exact Bool.false_ne_true
  rw [List.countP_append, hn, Nat.zero_add]

end Plain

@[simp] theorem isPlain_noted (n : Notice) : (Event.noted n).IsPlain := ⟨fun _ => rfl, rfl⟩

@[simp] theorem isPlain_called (game : Option GameId) (c : HostCall Text.Bytes) :
    (Event.called game c).IsPlain := ⟨fun _ => rfl, rfl⟩

@[simp] theorem isPlain_closed (id : GameId) : (Event.closed id).IsPlain := ⟨fun _ => rfl, rfl⟩

@[simp] theorem isPlain_returned (result : EntryResult) : (Event.returned result).IsPlain :=
  ⟨fun _ => rfl, rfl⟩

theorem isPlain_stored {e : Event} (h : ∃ f v, e = .stored f v) : e.IsPlain := by
  obtain ⟨f, v, rfl⟩ := h
  exact ⟨fun _ => rfl, rfl⟩

theorem arrive_plain (m : Machine) (r : HostRequest) :
    ∃ new, (m.arrive r).history = new ++ m.history ∧ ∀ e ∈ new, e.IsPlain :=
  m.arrive_history r ⟨fun _ => rfl, rfl⟩ isPlain_noted

section Keep

variable {s t : Machine × Control}

/-- Nothing is begun and the current game stays; the requests under way may change with the
cell. -/
theorem Follows.plain (h : Follows s) (new : List Event) (hh : t.1.history = new ++ s.1.history)
    (hq : ∀ e ∈ new, e.IsPlain) (hg : t.1.cell.generation = s.1.cell.generation)
    (ho : (pending t).count .opening = (pending s).count .opening)
    (ht : Tracks s.1.cell s.1.current (outings s) → Tracks t.1.cell s.1.current (outings t)) :
    Follows t := by
  have he : t.1.entries = s.1.entries := by
    rw [Machine.entries, hh, entries_plain hq]
    rfl
  have hc : t.1.current = s.1.current := by
    rw [Machine.current, hh, current_append fun e he => (hq e he).1]
    rfl
  constructor
  · rw [hg, ho, he]
    exact h.counted
  · intro hf
    rw [hc]
    exact ht (h.tracks (he ▸ hf))

/-- An opening begins. -/
theorem Follows.start (h : Follows s) (new : List Event) {exports : Exports Bool}
    (hh : t.1.history = new ++ .entered (.start exports) :: s.1.history)
    (hq : ∀ e ∈ new, e.IsPlain) (hc : t.1.cell = s.1.cell)
    (ho : (pending t).count .opening ≤ (pending s).count .opening + 1)
    (ht : outings t = outings s) : Follows t := by
  have he : t.1.entries = s.1.entries + 1 := by
    rw [Machine.entries, hh, entries_plain hq]
    exact List.countP_cons_of_pos rfl
  have hcur : t.1.current = s.1.current := by
    rw [Machine.current, hh, current_append fun e he => (hq e he).1]
    rfl
  constructor
  · have hs := h.counted
    rw [hc, he]
    omega
  · intro hf
    rw [hc, hcur, ht]
    exact h.tracks (by omega)

theorem toNat_succ_le (g : UInt64) : (g + 1).toNat ≤ g.toNat + 1 := by
  rw [UInt64.toNat_add, UInt64.toNat_one]
  exact Nat.mod_le _ _

/-- A shutdown begins, and the cell is cleared. -/
theorem Follows.stop (h : Follows s) (new : List Event)
    (hh : t.1.history = new ++ .entered .stop :: s.1.history)
    (hq : ∀ e ∈ new, e.IsPlain) (hc : t.1.cell = s.1.cell.clear.2)
    (ho : (pending t).count .opening = (pending s).count .opening)
    (ht : outings t = outings s) : Follows t := by
  have he : t.1.entries = s.1.entries + 1 := by
    rw [Machine.entries, hh, entries_plain hq]
    exact List.countP_cons_of_pos rfl
  have hcur : t.1.current = none := by
    rw [Machine.current, hh, current_append fun e he => (hq e he).1]
    rfl
  have hs := h.counted
  constructor
  · have hg := toNat_succ_le s.1.cell.generation
    rw [hc, he, ho]
    change (s.1.cell.generation + 1).toNat + _ ≤ _
    omega
  · intro hf
    rw [hc, hcur, ht]
    exact (h.tracks (by omega)).clear (by omega)

/-- A game is made and parked. The opening that made it was counted when it began, so there is
room for the generation. -/
theorem Follows.park (h : Follows s) (new : List Event) (id : GameId)
    (hh : t.1.history = new ++ .opened id :: s.1.history)
    (hq : ∀ e ∈ new, e.IsPlain) (hc : t.1.cell = (s.1.cell.park id).2)
    (ho : (pending t).count .opening + 1 = (pending s).count .opening)
    (ht : outings t = outings s) : Follows t := by
  have he : t.1.entries = s.1.entries := by
    rw [Machine.entries, hh, entries_plain hq]
    rfl
  have hcur : t.1.current = some id := by
    rw [Machine.current, hh, current_append fun e he => (hq e he).1]
    rfl
  have hs := h.counted
  constructor
  · have hg := toNat_succ_le s.1.cell.generation
    rw [hc, he]
    change (s.1.cell.generation + 1).toNat + _ ≤ _
    omega
  · intro hf
    rw [hc, hcur, ht]
    exact (h.tracks (by omega)).park (by omega) id

end Keep

theorem follows_tick {s t : Machine × Control} (h : Tick s t) (hl : Balanced s) (hb : Follows s) :
    Follows t := by
  cases h with
  | write m id w => exact hb.plain [] rfl (by simp) rfl rfl fun h => h
  | writeInts m ints => exact hb.plain [] rfl (by simp) rfl rfl fun h => h
  | reveal m symbols => exact hb.plain [] rfl (by simp) rfl rfl fun h => h
  | unbound m exports _ =>
    exact hb.start [_, _] rfl (by simp) rfl (Nat.le_succ _) rfl
  | bound m exports _ =>
    refine hb.start [_] rfl (by simp) rfl ?_ rfl
    simp [pending, Control.works, Machine.note, Machine.emit]
  | stopped m _ hs =>
    exact hb.stop [] rfl (by simp) rfl rfl rfl
  | stoppedEmpty m _ hs =>
    exact hb.stop [_, _] rfl (by simp) rfl rfl rfl
  | checkedOut m r _ hs _ =>
    obtain ⟨new, hh, hq⟩ := arrive_plain m r
    refine hb.plain new hh hq ?_ ?_ fun h => ?_
    · simp [Cell.checkOut, hs]
    · simp [pending, Control.works]
    · have ho := h.checkOut hs
      simpa [outings, pending, Control.works, Work.outing?] using ho
  | lost m r _ hs hg =>
    -- the slot would lose the current game, but a parked game was made
    exact absurd hg (hl.parked_ne_none hs)
  | skipped m r _ hs =>
    obtain ⟨new, hh, hq⟩ := arrive_plain m r
    generalize (if m.cell.running > 0 then Notice.reentered r.name else .withoutGame r.name) = n
    refine hb.plain (.returned (r.result false) :: .noted n :: new) ?_ ?_ ?_ ?_ fun h => ?_
    · simp [hh, Machine.note, Machine.leave, Machine.emit]
    · simpa using hq
    · simp [Machine.note, Machine.leave, Machine.emit]
    · simp [pending, Control.works, Machine.note, Machine.leave, Machine.emit]
    · simpa [outings, pending, Control.works, Machine.note, Machine.leave, Machine.emit] using h
  | answered m reply hs hc =>
    have hp := pending_answered hs hc
    exact hb.plain [] rfl (by simp) rfl (by rw [hp]) fun h => by
      rwa [outings, hp]
  | openingNote m exports n o => exact hb.plain [_] rfl (by simp) rfl rfl fun h => h
  | openingCall m exports u c resume => exact hb.plain [_] rfl (by simp) rfl rfl fun h => h
  | parked m exports u config _ hs =>
    obtain ⟨new, hh, hn⟩ := m.made_history exports config
    refine hb.park (.returned (.table (some m.games.length)) :: new) m.games.length
      ?_ ?_ ?_ ?_ ?_
    · simp [hh, Machine.leave, Machine.emit]
    · simpa using fun e he => isPlain_stored (hn e he)
    · simp [Machine.leave, Machine.emit]
    · simp [pending, Control.works, Machine.leave, Machine.emit]
    · simp [outings, pending, Control.works, List.filterMap_cons, Work.outing?, Machine.leave,
        Machine.emit]
  | replaced m exports u config _ hs =>
    obtain ⟨new, hh, hn⟩ := m.made_history exports config
    refine hb.park (.noted .replacing :: new) m.games.length ?_ ?_ ?_ ?_ ?_
    · simp [hh, Machine.note, Machine.emit]
    · simpa using fun e he => isPlain_stored (hn e he)
    · simp [Machine.note, Machine.emit]
    · simp [pending, Control.works, Machine.note, Machine.emit]
    · simp [outings, pending, Control.works, List.filterMap_cons, Work.outing?, Machine.note,
        Machine.emit]
  | runningNote m r id generation n o => exact hb.plain [_] rfl (by simp) rfl rfl fun h => h
  | runningCall m r id generation g c resume =>
    exact hb.plain [_] rfl (by simp) rfl rfl fun h => h
  | kept m r id generation g accepted _ hk =>
    obtain ⟨new, hh, hn⟩ := (m.setGame id g).announce_history r id
    refine hb.plain (.returned (r.result accepted) :: new) (congrArg (List.cons _) hh)
      ?_ ?_ ?_ fun h => ?_
    · simpa using fun e he => isPlain_stored (hn e he)
    · simp [Cell.putBack, hk, Machine.leave, Machine.emit]
    · simp [pending, Control.works, Machine.leave, Machine.emit, Machine.setGame]
    · simpa [outings, pending, Control.works, Machine.leave, Machine.emit, Machine.setGame]
        using h.keep hk
  | retired m r id generation g accepted _ hk =>
    obtain ⟨new, hh, hn⟩ := (m.setGame id g).announce_history r id
    refine hb.plain new hh (fun e he => isPlain_stored (hn e he)) ?_ ?_ fun h => ?_
    · simp [Cell.putBack, hk]
    · simp [pending, Control.works, Machine.setGame]
    · simpa [outings, pending, Control.works, List.filterMap_cons, Work.outing?, Machine.setGame]
        using h.retire hk
  | shutdown m id result hg => exact hb.plain [] rfl (by simp) rfl rfl fun h => h
  | shutdownLost m id result hg => exact hb.plain [_] rfl (by simp) rfl rfl fun h => h
  | closingNote m id result n o => exact hb.plain [_] rfl (by simp) rfl rfl fun h => h
  | closingCall m id result g c resume =>
    exact hb.plain [_] rfl (by simp) rfl rfl fun h => h
  | closed m id result g => exact hb.plain [_, _] rfl (by simp) rfl rfl fun h => h

theorem follows_run {exported : List String} {moves : List Move} {m : Machine}
    (h : (Machine.initial exported).run moves = some m) : Follows (m, .host) := by
  have hP := Machine.run_keeps (P := fun s => Balanced s ∧ Follows s)
    (fun ht hp => ⟨balanced_tick ht hp.1, follows_tick ht hp.1 hp.2⟩) h
    ⟨balanced_initial exported, follows_initial exported⟩
  exact hP.2

/-! ## A game that is no longer current stays so -/

/-- The game was made, and is not the current one any more. -/
def Retired (id : GameId) (s : Machine × Control) : Prop :=
  id < s.1.games.length ∧ s.1.current ≠ some id

/-- No tick makes it current again: the only game a tick can make current is a new one. -/
theorem retired_tick {s t : Machine × Control} {id : GameId} (h : Tick s t) (hr : Retired id s) :
    Retired id t := by
  obtain ⟨hg, new, hh, hn⟩ := tick_history h
  refine ⟨Nat.lt_of_lt_of_le hr.1 hg, ?_⟩
  rw [Machine.current, hh]
  clear hh
  -- on the events of the tick, of which an opening alone names a game
  induction new with
  | nil => exact hr.2
  | cons e new ih =>
    have hrest := ih fun e' he => hn e' (List.mem_cons_of_mem _ he)
    have he := hn e List.mem_cons_self
    cases e with
    | opened id' =>
      obtain rfl : id' = s.1.games.length := he
      intro hc
      exact Nat.lt_irrefl _ (Option.some.inj hc ▸ hr.1)
    | entered entry =>
      cases entry with
      | stop => exact (Option.some_ne_none id).symm
      | start exports => exact hrest
      | request r => exact hrest
    | _ => exact hrest

/-! ## The cell refines the abstract lifecycle -/

namespace Machine

/-- The games that requests have out, innermost first, with the generation each request began
at. -/
def taken (m : Machine) : List (GameId × UInt64) := m.stack.filterMap (·.work.outing?)

theorem outings_host (m : Machine) : outings (m, .host) = m.taken := List.filterMap_map

theorem map_taken (m : Machine) : m.taken.map Prod.fst = m.checkedOut := by
  rw [taken, checkedOut, List.map_filterMap]
  congr 1
  funext f
  cases f <;> rfl

/-- A game that is out is out once. -/
theorem taken_once {m : Machine} (hb : Balanced (m, .host)) {id : GameId} {generation : UInt64}
    (h : (id, generation) ∈ m.taken) :
    m.taken.filter (fun p => p.1 = id) = [(id, generation)] := by
  have hle : (m.taken.filter fun p => p.1 = id).length ≤ 1 := by
    have hc := List.nodup_iff_count.mp hb.nodup id
    have hk : m.checkedOut.count id = (m.taken.filter fun p => p.1 = id).length := by
      rw [← map_taken, List.count, List.countP_map, List.countP_eq_length_filter]
      rfl
    rw [count_ledger, hk] at hc
    omega
  have hm : (id, generation) ∈ m.taken.filter fun p => p.1 = id := by simp [h]
  obtain ⟨p, hp⟩ := List.length_eq_one_iff.mp
    (Nat.le_antisymm hle (List.length_pos_of_mem hm))
  rw [hp] at hm ⊢
  rw [List.mem_singleton.mp hm]

end Machine

/-- The cell refines the abstract lifecycle. While fewer than 2^64 openings and shutdowns were
begun, at any moment at which the host has control: without a current game the slot is empty and
no request began at the cell's generation; the current game is parked, or the slot is empty and the
game is out with one request, which began at the cell's generation. Outside all calls the parked
game is the current one, and a game that is not current any more never gets back into the slot. -/
theorem cell_refines_current (exported : List String) (moves : List Move) (m : Machine)
    (h : (Machine.initial exported).run moves = some m) (hf : m.entries < UInt64.size) :
    (m.current = none → m.cell.slot = none ∧ ∀ p ∈ m.taken, p.2 ≠ m.cell.generation) ∧
    (∀ id, m.current = some id →
      m.cell.slot = some id ∨
        m.cell.slot = none ∧ m.taken.filter (fun p => p.1 = id) = [(id, m.cell.generation)]) ∧
    (m.stack = [] → m.cell.slot = m.current) ∧
    (∀ id < m.games.length, m.current ≠ some id →
      ∀ moves' m', m.run moves' = some m' → m'.entries < UInt64.size → m'.cell.slot ≠ some id) := by
  have hb := balanced_run h
  have hw := follows_run h
  have ht := hw.tracks hf
  rw [Machine.outings_host] at ht
  refine ⟨?_, ?_, ?_, ?_⟩
  · intro hc
    constructor
    · cases hs : m.cell.slot with
      | none => rfl
      | some id => exact absurd (ht.parked id hs) (by rw [hc]; nofun)
    · intro p hp he
      exact absurd (ht.out p hp he).2 (by rw [hc]; nofun)
  · intro id hc
    cases hs : m.cell.slot with
    | none => exact Or.inr ⟨rfl, Machine.taken_once hb (ht.found id hs hc)⟩
    | some id' =>
      left
      rw [← hc, ht.parked id' hs]
  · intro he
    cases hs : m.cell.slot with
    | none =>
      cases hc : m.current with
      | none => rfl
      | some id =>
        have hm := ht.found id hs hc
        rw [Machine.taken, he] at hm
        cases hm
    | some id => rw [ht.parked id hs]
  · intro id hi hn moves' m' hr hf' hs
    have hP := Machine.run_keeps (P := fun s => Balanced s ∧ Follows s ∧ Retired id s)
      (fun ht hp => ⟨balanced_tick ht hp.1, follows_tick ht hp.1 hp.2.1, retired_tick ht hp.2.2⟩)
      hr ⟨hb, hw, hi, hn⟩
    exact hP.2.2.2 ((hP.2.1.tracks hf').parked id hs)

/-- Inside the frame of the second game, which was opened from inside the command of the first one
after that was stopped. -/
theorem cell_refines_current_nested :
    ∃ m, (Machine.initial symbols).run (nestedRetirement.take 13) = some m ∧ m.entries = 3 ∧
      m.current = some 1 ∧ m.taken = [(1, 3), (0, 1)] ∧
      m.taken.filter (fun p => p.1 = 1) = [(1, m.cell.generation)] ∧
      ∀ moves' m', m.run moves' = some m' → m'.entries < UInt64.size → m'.cell.slot ≠ some 0 := by
  have hr : ((Machine.initial symbols).run (nestedRetirement.take 13)).any
      fun m => m.entries = 3 ∧ m.games.length = 2 ∧ m.current = some 1 ∧ m.cell.slot = none ∧
        m.taken = [(1, 3), (0, 1)] := by decide +kernel
  obtain ⟨m, hm, he⟩ := (Option.any_eq_true _ _).mp hr
  obtain ⟨hn, hg, hc, hs, ht⟩ := of_decide_eq_true he
  obtain ⟨-, hcur, -, hret⟩ := cell_refines_current _ _ m hm (by rw [hn]; decide)
  refine ⟨m, hm, hn, hc, ht, ?_, hret 0 (by omega) (by rw [hc]; decide)⟩
  rcases hcur 1 hc with hp | hp
  · rw [hs] at hp
    cases hp
  · exact hp.2

end GameModule
