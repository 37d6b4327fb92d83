import GameModule.Proofs.Lifecycle.Tick

/-!
# Where the games are

A game that was made is parked in the cell, out with a request, inside its own shutdown, or shut
down. The ledger lists the games of all four places; at every tick the list is a permutation of
the games made so far, so no game is in two places and none is lost. The host's callbacks may nest
in any way: suspended work is read off the stack, whatever its depth.
-/
namespace GameModule

/-! ## Reading work and events -/

/-- What work in hand or suspended stands for in the ledger. -/
inductive Work where
  | opening
  /-- A request has a game out since `generation`. -/
  | running (id : GameId) (generation : UInt64)
  /-- A game is being shut down, and the entry point then gives `result` back. -/
  | closing (id : GameId) (result : EntryResult)
deriving DecidableEq

def EntryResult.isTable : EntryResult → Bool
  | .table (some _) => true
  | _ => false

namespace Work

def out? : Work → Option GameId
  | .running id _ => some id
  | _ => none

def closing? : Work → Option GameId
  | .closing id _ => some id
  | _ => none

def game? : Work → Option GameId
  | .opening => none
  | .running id _ | .closing id _ => some id

/-- Whether a new game's table is still to be returned. -/
def owesTable : Work → Bool
  | .closing _ result => result.isTable
  | _ => false

end Work

def Frame.work : Frame → Work
  | .opening .. => .opening
  | .running _ id generation .. => .running id generation
  | .closing id result .. => .closing id result

def Control.works : Control → List Work
  | .host => []
  | .opening .. => [.opening]
  | .running _ id generation _ => [.running id generation]
  | .retiring id result | .closing id result _ => [.closing id result]

def pending (s : Machine × Control) : List Work := s.2.works ++ s.1.stack.map Frame.work

namespace Event

def closed? : Event → Option GameId
  | .closed id => some id
  | _ => none

def caller? : Event → Option GameId
  | .called game _ => game
  | _ => none

/-- Whether an opening gave its table back. -/
def isOpening : Event → Bool
  | .returned result => result.isTable
  | _ => false

/-- Neither a call for a game, nor the end of a shutdown or of an opening. -/
def IsQuiet (e : Event) : Prop := e.closed? = none ∧ e.caller? = none ∧ e.isOpening = false

end Event

namespace Machine

/-- The games that requests have out, innermost first. -/
def checkedOut (m : Machine) : List GameId := m.stack.filterMap (·.work.out?)

/-- The games that are inside their own shutdown, innermost first. -/
def shuttingDown (m : Machine) : List GameId := m.stack.filterMap (·.work.closing?)

/-- The games that were shut down, the latest first. -/
def shutDown (m : Machine) : List GameId := m.history.filterMap Event.closed?

/-- Openings that were carried through, nested ones included. -/
def openings (m : Machine) : Nat := m.history.countP Event.isOpening

/-- The calls made for a game, the latest first. -/
def callsFor (m : Machine) (id : GameId) : List Event :=
  m.history.filter fun e => e.caller? = some id

end Machine

/-! ## The ledger -/

/-- The games in the cell, under way and shut down. -/
def ledger (s : Machine × Control) : List GameId :=
  s.1.cell.slot.toList ++ ((pending s).filterMap Work.game? ++ s.1.shutDown)

/-- No call for a game comes after the end of its shutdown. Histories are read latest first. -/
def CallsInLife (history : List Event) : Prop :=
  history.Pairwise fun later earlier => ∀ id, later.caller? = some id → earlier.closed? ≠ some id

structure Balanced (s : Machine × Control) : Prop where
  places : (ledger s).Perm (List.range s.1.games.length)
  tables : s.1.openings + (pending s).countP Work.owesTable = s.1.games.length
  calls : CallsInLife s.1.history

theorem balanced_initial (exported : List String) :
    Balanced (Machine.initial exported, .host) where
  places := .refl _
  tables := rfl
  calls := .nil

/-- The ledger has no room for a game twice. -/
theorem Balanced.nodup {s : Machine × Control} (h : Balanced s) : (ledger s).Nodup :=
  h.places.nodup_iff.mpr List.nodup_range

theorem Balanced.lt_of_mem {s : Machine × Control} (h : Balanced s) {id : GameId}
    (hi : id ∈ ledger s) : id < s.1.games.length :=
  List.mem_range.mp (h.places.mem_iff.mp hi)

/-- The parked game is there. -/
theorem Balanced.parked_ne_none {m : Machine} {id : GameId} (h : Balanced (m, .host))
    (hs : m.cell.slot = some id) : m.games[id]? ≠ none := by
  have hi : id ∈ ledger (m, .host) := by simp [ledger, hs]
  simpa using h.lt_of_mem hi

/-- A game that is to be shut down is there. -/
theorem Balanced.retiring_ne_none {m : Machine} {id : GameId} {result : EntryResult}
    (h : Balanced (m, .retiring id result)) : m.games[id]? ≠ none := by
  have hi : id ∈ ledger (m, .retiring id result) := by
    simp [ledger, pending, Control.works, Work.game?]
  simpa using h.lt_of_mem hi

/-! ## Quiet events -/

section Quiet

variable {new history : List Event}

theorem filterMap_closed_quiet (hq : ∀ e ∈ new, e.IsQuiet) :
    (new ++ history).filterMap Event.closed? = history.filterMap Event.closed? := by
  have hn : new.filterMap Event.closed? = [] :=
    List.filterMap_eq_nil_iff.mpr fun e he => (hq e he).1
  rw [List.filterMap_append, hn, List.nil_append]

theorem countP_opening_quiet (hq : ∀ e ∈ new, e.IsQuiet) :
    (new ++ history).countP Event.isOpening = history.countP Event.isOpening := by
  have hn : new.countP Event.isOpening = 0 :=
    List.countP_eq_zero.mpr fun e he => by rw [(hq e he).2.2]; exact Bool.false_ne_true
  rw [List.countP_append, hn, Nat.zero_add]

theorem callsInLife_quiet (hq : ∀ e ∈ new, e.caller? = none) (h : CallsInLife history) :
    CallsInLife (new ++ history) := by
  induction new with
  | nil => exact h
  | cons e new ih =>
    refine List.Pairwise.cons ?_ (ih fun e' he => hq e' (List.mem_cons_of_mem _ he))
    intro earlier _ id hc
    rw [hq e List.mem_cons_self] at hc
    cases hc

end Quiet

@[simp] theorem isQuiet_noted (n : Notice) : (Event.noted n).IsQuiet := ⟨rfl, rfl, rfl⟩

@[simp] theorem isQuiet_entered (e : Entry) : (Event.entered e).IsQuiet := ⟨rfl, rfl, rfl⟩

theorem isQuiet_opened (id : GameId) : (Event.opened id).IsQuiet := ⟨rfl, rfl, rfl⟩

theorem isQuiet_stored {e : Event} (h : ∃ f v, e = .stored f v) : e.IsQuiet := by
  obtain ⟨f, v, rfl⟩ := h
  exact ⟨rfl, rfl, rfl⟩

@[simp] theorem isQuiet_returned (result : EntryResult) :
    (Event.returned result).IsQuiet ↔ result.isTable = false :=
  ⟨fun h => h.2.2, fun h => ⟨rfl, rfl, h⟩⟩

@[simp] theorem isTable_result (r : HostRequest) (accepted : Bool) :
    (r.result accepted).isTable = false := by
  unfold HostRequest.result
  split <;> rfl

/-! ## One tick keeps the balance -/

section Keep

variable {s t : Machine × Control}

/-- Games may trade places while only quiet events happen. -/
theorem Balanced.quiet (h : Balanced s) (new : List Event)
    (hh : t.1.history = new ++ s.1.history) (hq : ∀ e ∈ new, e.IsQuiet)
    (hp : t.1.cell.slot.toList ++ (pending t).filterMap Work.game? =
      s.1.cell.slot.toList ++ (pending s).filterMap Work.game?)
    (ht : (pending t).countP Work.owesTable = (pending s).countP Work.owesTable)
    (hg : t.1.games.length = s.1.games.length) : Balanced t := by
  constructor
  · rw [ledger, Machine.shutDown, hh, filterMap_closed_quiet hq, ← List.append_assoc, hp,
      List.append_assoc, hg]
    exact h.places
  · rw [Machine.openings, hh, countP_opening_quiet hq, ht, hg]
    exact h.tables
  · rw [hh]
    exact callsInLife_quiet (fun e he => (hq e he).2.1) h.calls

/-- A call is made for a game that is under way, or for none. -/
theorem Balanced.called (h : Balanced s) {game : Option GameId} {c : HostCall Text.Bytes}
    (hh : t.1.history = .called game c :: s.1.history)
    (hi : ∀ id, game = some id → id ∈ (pending s).filterMap Work.game?)
    (hs : t.1.cell.slot = s.1.cell.slot) (hp : pending t = pending s)
    (hg : t.1.games.length = s.1.games.length) : Balanced t := by
  constructor
  · rw [ledger, Machine.shutDown, hh, hs, hp, hg]
    exact h.places
  · rw [Machine.openings, hh, hp, hg]
    exact h.tables
  · rw [hh]
    refine List.Pairwise.cons ?_ h.calls
    intro earlier he id hc hd
    -- the game would be under way and shut down at once
    have hout : id ∈ (pending s).filterMap Work.game? := hi id hc
    have hdone : id ∈ s.1.shutDown := List.mem_filterMap.mpr ⟨earlier, he, hd⟩
    have hn := (List.nodup_append.mp h.nodup).2.1
    exact (List.nodup_append.mp hn).2.2 id hout id hdone rfl

theorem Balanced.closed (h : Balanced s) {id : GameId} {result : EntryResult} {ws : List Work}
    (hh : t.1.history = .returned result :: .closed id :: s.1.history)
    (hs : t.1.cell.slot = s.1.cell.slot) (hp : pending s = .closing id result :: ws)
    (hp' : pending t = ws) (hg : t.1.games.length = s.1.games.length) : Balanced t := by
  constructor
  · have hb := h.places
    rw [ledger, hp] at hb
    rw [ledger, Machine.shutDown, hh, hs, hp', hg]
    refine List.Perm.trans (List.Perm.append_left _ ?_) hb
    exact List.perm_middle
  · have hb := h.tables
    rw [hp, List.countP_cons] at hb
    rw [Machine.openings, hh, List.countP_cons, List.countP_cons, hp', hg]
    change s.1.openings + 0 + (if result.isTable then 1 else 0) + _ = _
    change s.1.openings + (_ + (if result.isTable then 1 else 0)) = _ at hb
    omega
  · rw [hh]
    have hq : ∀ e ∈ [Event.returned result, .closed id], e.caller? = none := by simp [Event.caller?]
    exact callsInLife_quiet hq h.calls

/-- A game is made and parked. What was parked before it comes out, as `ws'`, and either the table
is given back as the `last` event or it is owed by `ws'`. -/
theorem Balanced.opened (h : Balanced s) (new : List Event) (last : Event) (ws ws' : List Work)
    (hh : t.1.history = last :: (new ++ .opened s.1.games.length :: s.1.history))
    (hq : ∀ e ∈ new, e.IsQuiet) (hl : last.closed? = none ∧ last.caller? = none)
    (hs : t.1.cell.slot = some s.1.games.length)
    (hp : pending s = .opening :: ws) (hp' : pending t = ws' ++ ws)
    (ho : ws'.filterMap Work.game? = s.1.cell.slot.toList)
    (ht : [last].countP Event.isOpening + ws'.countP Work.owesTable = 1)
    (hg : t.1.games.length = s.1.games.length + 1) : Balanced t := by
  have hh' : t.1.history = last :: ((new ++ [.opened s.1.games.length]) ++ s.1.history) := by
    rw [hh, List.append_assoc]
    rfl
  have hq' : ∀ e ∈ new ++ [.opened s.1.games.length], e.IsQuiet := by
    intro e he
    rcases List.mem_append.mp he with he | he
    · exact hq e he
    · rw [List.mem_singleton.mp he]
      exact isQuiet_opened _
  constructor
  · have hd : t.1.shutDown = s.1.shutDown := by
      rw [Machine.shutDown, hh', List.filterMap_cons_none hl.1, filterMap_closed_quiet hq']
      rfl
    have hb := h.places
    rw [ledger, hp] at hb
    change (s.1.cell.slot.toList ++ (ws.filterMap Work.game? ++ s.1.shutDown)).Perm _ at hb
    rw [ledger, hd, hs, hp', List.filterMap_append, ho, hg, List.range_succ]
    -- the new game moves from the front of the ledger to the end of the range
    refine (List.perm_append_singleton _ _).symm.trans (List.Perm.append_right _ ?_)
    rw [List.append_assoc]
    exact hb
  · have hb := h.tables
    rw [hp] at hb
    change s.1.openings + ws.countP Work.owesTable = _ at hb
    rw [Machine.openings, hh', ← List.singleton_append, List.countP_append,
      countP_opening_quiet hq', hp', List.countP_append, hg]
    change _ + s.1.openings + _ = _
    omega
  · rw [hh']
    have hc := callsInLife_quiet (fun e he => (hq' e he).2.1) h.calls
    have hlast : ∀ e ∈ [last], e.caller? = none := by simpa using hl.2
    exact callsInLife_quiet hlast hc

end Keep

theorem resumed_works {f : Frame} {games : List Resident}
    {reply : (c : HostCall Text.Bytes) → c.Reply} {c : Control}
    (h : f.resumed games reply = some c) : c.works = [f.work] := by
  cases f with
  | opening exports call resume =>
    obtain rfl := Option.some.inj h
    rfl
  | running r id generation call resume =>
    obtain ⟨res, _, rfl⟩ := Option.map_eq_some_iff.mp h
    rfl
  | closing id result call resume =>
    obtain ⟨res, _, rfl⟩ := Option.map_eq_some_iff.mp h
    rfl

/-- Answering takes the innermost work off the stack and into hand. -/
theorem pending_answered {m : Machine} {f : Frame} {rest : List Frame} {c : Control}
    {reply : (c : HostCall Text.Bytes) → c.Reply} (hs : m.stack = f :: rest)
    (hc : f.resumed m.games reply = some c) :
    pending ({ m with stack := rest }, c) = pending (m, .host) := by
  simp only [pending, resumed_works hc, hs]
  rfl

theorem arrive_quiet (m : Machine) (r : HostRequest) :
    ∃ new, (m.arrive r).history = new ++ m.history ∧ ∀ e ∈ new, e.IsQuiet :=
  m.arrive_history r (isQuiet_entered _) isQuiet_noted

@[simp] theorem setGame_length (m : Machine) (id : GameId) (g : Game) :
    (m.setGame id g).games.length = m.games.length := by
  simp [Machine.setGame]

theorem balanced_tick {s t : Machine × Control} (h : Tick s t) (hb : Balanced s) :
    Balanced t := by
  cases h with
  | write m id w => exact hb.quiet [] rfl (by simp) rfl rfl (by simp [Machine.modifyGame])
  | writeInts m ints => exact hb.quiet [] rfl (by simp) rfl rfl rfl
  | reveal m symbols => exact hb.quiet [] rfl (by simp) rfl rfl rfl
  | unbound m exports _ =>
    exact hb.quiet [_, _, _] rfl (by simp [EntryResult.isTable]) rfl rfl rfl
  | bound m exports _ => exact hb.quiet [_, _] rfl (by simp) rfl rfl rfl
  | stopped m _ hs =>
    refine hb.quiet [_] rfl (by simp) ?_ rfl rfl
    simp [pending, Control.works, Cell.clear, hs, Work.game?, Machine.emit]
  | stoppedEmpty m _ hs =>
    refine hb.quiet [_, _, _] rfl (by simp [EntryResult.isTable]) ?_ rfl rfl
    simp [pending, Control.works, Cell.clear, hs, Machine.emit, Machine.note, Machine.leave]
  | checkedOut m r _ hs _ =>
    obtain ⟨new, hh, hq⟩ := arrive_quiet m r
    refine hb.quiet new hh hq ?_ ?_ (by simp)
    · simp [pending, Control.works, Cell.checkOut, hs, Work.game?]
    · simp [pending, Control.works, Work.owesTable]
  | lost m r _ hs hg => exact absurd hg (hb.parked_ne_none hs)
  | skipped m r _ hs =>
    obtain ⟨new, hh, hq⟩ := arrive_quiet m r
    generalize (if m.cell.running > 0 then Notice.reentered r.name else .withoutGame r.name) = n
    refine hb.quiet (.returned (r.result false) :: .noted n :: new) ?_ ?_ ?_ ?_ ?_
    · simp [hh, Machine.note, Machine.leave, Machine.emit]
    · simpa using hq
    · simp [pending, Control.works, Machine.note, Machine.leave, Machine.emit]
    · simp [pending, Control.works, Machine.note, Machine.leave, Machine.emit]
    · simp [Machine.note, Machine.leave, Machine.emit]
  | answered m reply hs hc =>
    have hp := pending_answered hs hc
    exact hb.quiet [] rfl (by simp) (by rw [hp]) (by rw [hp]) rfl
  | openingNote m exports n o => exact hb.quiet [_] rfl (by simp) rfl rfl rfl
  | openingCall m exports u c resume => exact hb.called rfl (by simp) rfl rfl rfl
  | parked m exports u config _ hs =>
    obtain ⟨new, hh, hn⟩ := Machine.made_history m exports config
    refine hb.opened new (.returned (.table (some m.games.length))) (m.stack.map Frame.work) [] ?_
      (fun e he => isQuiet_stored (hn e he)) ⟨rfl, rfl⟩ rfl rfl ?_ ?_ rfl ?_
    · simp [hh, Machine.leave, Machine.emit]
    · simp [pending, Control.works, Machine.leave, Machine.emit]
    · simp [hs]
    · simp [Machine.leave, Machine.emit]
  | @replaced m exports u config old _ hs =>
    obtain ⟨new, hh, hn⟩ := Machine.made_history m exports config
    refine hb.opened new (.noted .replacing) (m.stack.map Frame.work)
      [.closing old (.table (some m.games.length))] ?_
      (fun e he => isQuiet_stored (hn e he)) ⟨rfl, rfl⟩ rfl rfl ?_ ?_ rfl ?_
    · simp [hh, Machine.note, Machine.emit]
    · simp [pending, Control.works, Machine.note, Machine.emit]
    · simp [hs, Work.game?]
    · simp [Machine.note, Machine.emit]
  | runningNote m r id generation n o => exact hb.quiet [_] rfl (by simp) rfl rfl rfl
  | runningCall m r id generation g c resume =>
    exact hb.called rfl (by simp [pending, Control.works, Work.game?]) rfl rfl
      (setGame_length m id g)
  | kept m r id generation g accepted _ hk =>
    obtain ⟨new, hh, hn⟩ := Machine.announce_history (m.setGame id g) r id
    refine hb.quiet (.returned (r.result accepted) :: new) ?_ ?_ ?_ ?_ ?_
    · exact congrArg (List.cons _) hh
    · simpa using fun e he => isQuiet_stored (hn e he)
    · simp [pending, Control.works, Cell.putBack, hk, Work.game?, Machine.leave, Machine.emit,
        Machine.setGame]
    · simp [pending, Control.works, Work.owesTable, Machine.leave, Machine.emit, Machine.setGame]
    · simp [Machine.leave, Machine.emit]
  | retired m r id generation g accepted _ hk =>
    obtain ⟨new, hh, hn⟩ := Machine.announce_history (m.setGame id g) r id
    refine hb.quiet new hh (fun e he => isQuiet_stored (hn e he)) ?_ ?_ ?_
    · simp [pending, Control.works, Cell.putBack, hk, Work.game?, Machine.setGame]
    · simp [pending, Control.works, Work.owesTable, Machine.setGame]
    · simp
  | shutdown m id result hg => exact hb.quiet [] rfl (by simp) rfl rfl rfl
  | shutdownLost m id result hg => exact absurd hg hb.retiring_ne_none
  | closingNote m id result n o => exact hb.quiet [_] rfl (by simp) rfl rfl rfl
  | closingCall m id result g c resume =>
    exact hb.called rfl (by simp [pending, Control.works, Work.game?]) rfl rfl
      (setGame_length m id g)
  | closed m id result g => exact hb.closed rfl rfl rfl rfl (setGame_length m id g)

theorem balanced_run {exported : List String} {moves : List Move} {m : Machine}
    (h : (Machine.initial exported).run moves = some m) : Balanced (m, .host) :=
  Machine.run_keeps balanced_tick h (balanced_initial exported)

end GameModule
