import GameModule.Lifecycle.Machine
import Mathlib.Logic.Relation

/-!
# What the module does between two host moves

A host move is answered by a chain of ticks. Each tick does one thing: it emits a notice, hands a
call to the host, or takes one locked step on the cell. `Tick` lists all of them with their guards,
`step_ticks` says that a move does nothing else, and `run_keeps` turns what one tick keeps into
what every run keeps. No reachability is assumed anywhere in this module.
-/
namespace GameModule

open Text (Bytes)

/-- Who has control, and the work in hand. -/
inductive Control where
  | host
  | opening (exports : Exports Bool) (o : Outcome Unit Config)
  | running (r : HostRequest) (id : GameId) (generation : UInt64) (o : Outcome Game Bool)
  /-- A game is out of the cell for good, and its shutdown has yet to begin. -/
  | retiring (id : GameId) (result : EntryResult)
  | closing (id : GameId) (result : EntryResult) (o : Outcome Game Unit)

/-- What suspended work goes on with after a reply; nothing if its game is not there. -/
def Frame.resumed (games : List Resident) (reply : (c : HostCall Bytes) → c.Reply) :
    Frame → Option Control
  | .opening exports c resume => some (.opening exports (resume (c.receive (reply c.send)) ()))
  | .running r id generation c resume =>
    games[id]?.map fun res => .running r id generation (resume (c.receive (reply c.send)) res.game)
  | .closing id result c resume =>
    games[id]?.map fun res => .closing id result (resume (c.receive (reply c.send)) res.game)

namespace Machine

def setCell (m : Machine) (c : Cell) : Machine := { m with cell := c }

@[simp] theorem setCell_cell (m : Machine) (c : Cell) : (m.setCell c).cell = c := rfl
@[simp] theorem setCell_games (m : Machine) (c : Cell) : (m.setCell c).games = m.games := rfl
@[simp] theorem setCell_stack (m : Machine) (c : Cell) : (m.setCell c).stack = m.stack := rfl
@[simp] theorem setCell_history (m : Machine) (c : Cell) : (m.setCell c).history = m.history := rfl

/-- A request came in. -/
def arrive (m : Machine) (r : HostRequest) : Machine :=
  let m := m.emit (.entered (.request r))
  if r.lacksInput then m.note .missingInput else m

/-- A new game with its tables, and the host told about it; the game is not parked yet. -/
def made (m : Machine) (exports : Exports Bool) (config : Config) : Machine :=
  let info := (Game.create config .standard).exportInfo
  let m := { m with games := m.games ++ [Resident.mk (Game.create config .standard) exports] }.emit
    (.opened m.games.length)
  let m := m.store exports .apiVersion info.apiVersion
  let m := m.store exports .edictSize info.edictSize
  let m := m.store exports .maxEdicts info.maxEdicts
  m.store exports .numEdicts info.numEdicts

/-- After spawning, the host is told how many edicts there are. -/
def announce (m : Machine) (r : HostRequest) (id : GameId) : Machine :=
  match r, m.games[id]? with
  | .spawnEntities .., some res => m.store res.exports .numEdicts res.game.numEdicts
  | _, _ => m

end Machine

/-- One thing the module does, or the host while it has control. -/
inductive Tick : Machine × Control → Machine × Control → Prop
  | write (m : Machine) (id : GameId) (w : Game.HostWrite) :
      Tick (m, .host) (m.modifyGame id (·.write w), .host)
  | writeInts (m : Machine) (ints : Exports Int) : Tick (m, .host) ({ m with ints }, .host)
  | reveal (m : Machine) (symbols : List String) :
      Tick (m, .host) ({ m with exported := m.exported ++ symbols }, .host)
  | unbound (m : Machine) (exports : Exports Bool) {cause : BindError}
      (hb : bind m.exported = .error cause) :
      Tick (m, .host)
        (((m.emit (.entered (.start exports))).note (.unbound cause)).leave (.table none), .host)
  | bound (m : Machine) (exports : Exports Bool) {count : Nat} (hb : bind m.exported = .ok count) :
      Tick (m, .host)
        ((m.emit (.entered (.start exports))).note (.bound count),
          .opening exports (Game.opening ()))
  | stopped (m : Machine) {id : GameId} (hf : m.cell.held = false) (hs : m.cell.slot = some id) :
      Tick (m, .host)
        ((m.emit (.entered .stop)).setCell m.cell.clear.2, .retiring id .nothing)
  | stoppedEmpty (m : Machine) (hf : m.cell.held = false) (hs : m.cell.slot = none) :
      Tick (m, .host)
        ((((m.emit (.entered .stop)).setCell m.cell.clear.2).note
          (if m.cell.running > 0 then .shutdownDeferred else .shutdownWithoutGame)).leave .nothing,
          .host)
  | checkedOut (m : Machine) (r : HostRequest) {id : GameId} {res : Resident}
      (hf : m.cell.held = false) (hs : m.cell.slot = some id) (hg : m.games[id]? = some res) :
      Tick (m, .host)
        ((m.arrive r).setCell m.cell.checkOut.2,
          .running r id m.cell.generation (Game.perform (r.decode id res.game.place) res.game))
  | lost (m : Machine) (r : HostRequest) {id : GameId}
      (hf : m.cell.held = false) (hs : m.cell.slot = some id) (hg : m.games[id]? = none) :
      Tick (m, .host) (((m.arrive r).setCell m.cell.checkOut.2).leave (r.result false), .host)
  | skipped (m : Machine) (r : HostRequest) (hf : m.cell.held = false) (hs : m.cell.slot = none) :
      Tick (m, .host)
        (((m.arrive r).note
          (if m.cell.running > 0 then .reentered r.name else .withoutGame r.name)).leave
            (r.result false), .host)
  | answered (m : Machine) (reply : (c : HostCall Bytes) → c.Reply) {f : Frame}
      {rest : List Frame} {c : Control} (hs : m.stack = f :: rest)
      (hc : f.resumed m.games reply = some c) :
      Tick (m, .host) ({ m with stack := rest }, c)
  | openingNote (m : Machine) (exports : Exports Bool) (n : Notice) (o : Outcome Unit Config) :
      Tick (m, .opening exports (.note n o)) (m.note n, .opening exports o)
  | openingCall (m : Machine) (exports : Exports Bool) (u : Unit) (c : HostCall String)
      (resume : c.Answer → Unit → Outcome Unit Config) :
      Tick (m, .opening exports (.call u c resume))
        ((m.emit (.called none c.send)).push (.opening exports c resume), .host)
  | parked (m : Machine) (exports : Exports Bool) (u : Unit) (config : Config)
      (hf : m.cell.held = false) (hs : m.cell.slot = none) :
      Tick (m, .opening exports (.done u config))
        (((m.made exports config).setCell (m.cell.park m.games.length).2).leave
          (.table (some m.games.length)), .host)
  | replaced (m : Machine) (exports : Exports Bool) (u : Unit) (config : Config) {old : GameId}
      (hf : m.cell.held = false) (hs : m.cell.slot = some old) :
      Tick (m, .opening exports (.done u config))
        (((m.made exports config).setCell (m.cell.park m.games.length).2).note .replacing,
          .retiring old (.table (some m.games.length)))
  | runningNote (m : Machine) (r : HostRequest) (id : GameId) (generation : UInt64) (n : Notice)
      (o : Outcome Game Bool) :
      Tick (m, .running r id generation (.note n o)) (m.note n, .running r id generation o)
  | runningCall (m : Machine) (r : HostRequest) (id : GameId) (generation : UInt64) (g : Game)
      (c : HostCall String) (resume : c.Answer → Game → Outcome Game Bool) :
      Tick (m, .running r id generation (.call g c resume))
        (((m.setGame id g).emit (.called (some id) c.send)).push
          (.running r id generation c resume), .host)
  | kept (m : Machine) (r : HostRequest) (id : GameId) (generation : UInt64) (g : Game)
      (accepted : Bool) (hf : m.cell.held = false)
      (hk : m.cell.generation = generation ∧ m.cell.slot = none) :
      Tick (m, .running r id generation (.done g accepted))
        ((((m.setGame id g).announce r id).setCell (m.cell.putBack id generation).2).leave
          (r.result accepted), .host)
  | retired (m : Machine) (r : HostRequest) (id : GameId) (generation : UInt64) (g : Game)
      (accepted : Bool) (hf : m.cell.held = false)
      (hk : ¬ (m.cell.generation = generation ∧ m.cell.slot = none)) :
      Tick (m, .running r id generation (.done g accepted))
        (((m.setGame id g).announce r id).setCell (m.cell.putBack id generation).2,
          .retiring id (r.result accepted))
  | shutdown (m : Machine) (id : GameId) (result : EntryResult) {res : Resident}
      (hg : m.games[id]? = some res) :
      Tick (m, .retiring id result) (m, .closing id result (Game.closing res.game))
  | shutdownLost (m : Machine) (id : GameId) (result : EntryResult) (hg : m.games[id]? = none) :
      Tick (m, .retiring id result) (m.leave result, .host)
  | closingNote (m : Machine) (id : GameId) (result : EntryResult) (n : Notice)
      (o : Outcome Game Unit) :
      Tick (m, .closing id result (.note n o)) (m.note n, .closing id result o)
  | closingCall (m : Machine) (id : GameId) (result : EntryResult) (g : Game)
      (c : HostCall String) (resume : c.Answer → Game → Outcome Game Unit) :
      Tick (m, .closing id result (.call g c resume))
        (((m.setGame id g).emit (.called (some id) c.send)).push (.closing id result c resume),
          .host)
  | closed (m : Machine) (id : GameId) (result : EntryResult) (g : Game) :
      Tick (m, .closing id result (.done g ()))
        (((m.setGame id g).emit (.closed id)).leave result, .host)

/-- Any number of ticks. -/
abbrev Ticks := Relation.ReflTransGen Tick

namespace Machine

/-! ## What writing to the host's integers and taking a request in leave alone -/

theorem store_cell (m : Machine) (exports : Exports Bool) (field : ExportField) (value : Int) :
    (m.store exports field value).cell = m.cell := by
  unfold store
  split <;> rfl

theorem store_games (m : Machine) (exports : Exports Bool) (field : ExportField) (value : Int) :
    (m.store exports field value).games = m.games := by
  unfold store
  split <;> rfl

theorem store_stack (m : Machine) (exports : Exports Bool) (field : ExportField) (value : Int) :
    (m.store exports field value).stack = m.stack := by
  unfold store
  split <;> rfl

theorem store_history (m : Machine) (exports : Exports Bool) (field : ExportField) (value : Int) :
    ∃ new, (m.store exports field value).history = new ++ m.history ∧
      ∀ e ∈ new, ∃ f v, e = .stored f v := by
  unfold store
  split
  · exact ⟨[.stored field value], rfl, by simp⟩
  · exact ⟨[], rfl, by simp⟩

@[simp] theorem made_cell (m : Machine) (exports : Exports Bool) (config : Config) :
    (m.made exports config).cell = m.cell := by
  simp only [made, store_cell]
  rfl

@[simp] theorem made_games (m : Machine) (exports : Exports Bool) (config : Config) :
    (m.made exports config).games = m.games ++ [⟨Game.create config .standard, exports⟩] := by
  simp only [made, store_games]
  rfl

@[simp] theorem made_stack (m : Machine) (exports : Exports Bool) (config : Config) :
    (m.made exports config).stack = m.stack := by
  simp only [made, store_stack]
  rfl

theorem made_history (m : Machine) (exports : Exports Bool) (config : Config) :
    ∃ new, (m.made exports config).history = new ++ .opened m.games.length :: m.history ∧
      ∀ e ∈ new, ∃ f v, e = .stored f v := by
  unfold made
  obtain ⟨new₁, h₁, hs₁⟩ := store_history (m := { m with games := _ }.emit _) exports .apiVersion _
  obtain ⟨new₂, h₂, hs₂⟩ := store_history (m := store _ _ _ _) exports .edictSize _
  obtain ⟨new₃, h₃, hs₃⟩ := store_history (m := store _ _ _ _) exports .maxEdicts _
  obtain ⟨new₄, h₄, hs₄⟩ := store_history (m := store _ _ _ _) exports .numEdicts _
  refine ⟨new₄ ++ (new₃ ++ (new₂ ++ new₁)), ?_, ?_⟩
  · rw [h₄, h₃, h₂, h₁]
    simp only [List.append_assoc]
    rfl
  · simp only [List.mem_append]
    rintro e (he | he | he | he)
    · exact hs₄ e he
    · exact hs₃ e he
    · exact hs₂ e he
    · exact hs₁ e he

@[simp] theorem announce_cell (m : Machine) (r : HostRequest) (id : GameId) :
    (m.announce r id).cell = m.cell := by
  unfold announce
  split
  · exact store_cell ..
  · rfl

@[simp] theorem announce_games (m : Machine) (r : HostRequest) (id : GameId) :
    (m.announce r id).games = m.games := by
  unfold announce
  split
  · exact store_games ..
  · rfl

@[simp] theorem announce_stack (m : Machine) (r : HostRequest) (id : GameId) :
    (m.announce r id).stack = m.stack := by
  unfold announce
  split
  · exact store_stack ..
  · rfl

theorem announce_history (m : Machine) (r : HostRequest) (id : GameId) :
    ∃ new, (m.announce r id).history = new ++ m.history ∧ ∀ e ∈ new, ∃ f v, e = .stored f v := by
  unfold announce
  split
  · exact store_history ..
  · exact ⟨[], rfl, by simp⟩

@[simp] theorem arrive_cell (m : Machine) (r : HostRequest) : (m.arrive r).cell = m.cell := by
  unfold arrive
  split <;> rfl

@[simp] theorem arrive_games (m : Machine) (r : HostRequest) : (m.arrive r).games = m.games := by
  unfold arrive
  split <;> rfl

@[simp] theorem arrive_stack (m : Machine) (r : HostRequest) : (m.arrive r).stack = m.stack := by
  unfold arrive
  split <;> rfl

/-- A request that comes in leaves its entry in the history, and notices. -/
theorem arrive_history {P : Event → Prop} (m : Machine) (r : HostRequest)
    (he : P (.entered (.request r))) (hn : ∀ n, P (.noted n)) :
    ∃ new, (m.arrive r).history = new ++ m.history ∧ ∀ e ∈ new, P e := by
  unfold arrive
  split
  · exact ⟨[.noted .missingInput, .entered (.request r)], rfl, by simp [he, hn]⟩
  · exact ⟨[.entered (.request r)], rfl, by simp [he]⟩

/-! ## The locked steps -/

/-- A step on the cell changes nothing else. -/
theorem locked_eq {α : Type} {m m' : Machine} {f : Cell → α × Cell} {a : α}
    (h : m.locked f = some (a, m')) : ∃ c, m' = m.setCell c := by
  obtain ⟨c, -, hc⟩ := Option.map_eq_some_iff.mp h
  exact ⟨_, (Prod.mk.inj hc).2.symm⟩

theorem locked_held {α : Type} {m : Machine} (f : Cell → α × Cell) (hf : m.cell.held = true) :
    m.locked f = none := by
  simp [locked, Cell.acquire, hf]

theorem locked_checkOut {m : Machine} (hf : m.cell.held = false) :
    m.locked Cell.checkOut = some (m.cell.slot, m.setCell m.cell.checkOut.2) := by
  obtain ⟨exported, ⟨slot, generation, running, held⟩, games, ints, stack, history⟩ := m
  obtain rfl : held = false := hf
  cases slot <;> rfl

theorem locked_putBack {m : Machine} (id : GameId) (generation : UInt64)
    (hf : m.cell.held = false) :
    m.locked (·.putBack id generation) =
      some (decide (m.cell.generation = generation ∧ m.cell.slot = none),
        m.setCell (m.cell.putBack id generation).2) := by
  obtain ⟨exported, ⟨slot, now, running, held⟩, games, ints, stack, history⟩ := m
  obtain rfl : held = false := hf
  by_cases hk : now = generation ∧ slot = none
  · simp [locked, Cell.acquire, Cell.putBack, Cell.release, setCell, hk]
  · simp [locked, Cell.acquire, Cell.putBack, Cell.release, setCell, hk]

theorem locked_park {m : Machine} (id : GameId) (hf : m.cell.held = false) :
    m.locked (·.park id) = some (m.cell.slot, m.setCell (m.cell.park id).2) := by
  obtain ⟨exported, ⟨slot, generation, running, held⟩, games, ints, stack, history⟩ := m
  obtain rfl : held = false := hf
  rfl

theorem locked_clear {m : Machine} (hf : m.cell.held = false) :
    m.locked Cell.clear = some (m.cell.slot, m.setCell m.cell.clear.2) := by
  obtain ⟨exported, ⟨slot, generation, running, held⟩, games, ints, stack, history⟩ := m
  obtain rfl : held = false := hf
  rfl

/-! ## Entering and ending, with the lock free -/

theorem finishRunning_kept {m : Machine} (r : HostRequest) (id : GameId) (generation : UInt64)
    (accepted : Bool) (hf : m.cell.held = false)
    (hk : m.cell.generation = generation ∧ m.cell.slot = none) :
    m.finishRunning r id generation accepted =
      some (((m.announce r id).setCell (m.cell.putBack id generation).2).leave
        (r.result accepted)) := by
  have hc := announce_cell m r id
  change ((m.announce r id).locked (·.putBack id generation)).bind _ = _
  rw [locked_putBack id generation (hc ▸ hf), hc, decide_eq_true hk]
  rfl

theorem finishRunning_retired {m : Machine} (r : HostRequest) (id : GameId) (generation : UInt64)
    (accepted : Bool) (hf : m.cell.held = false)
    (hk : ¬ (m.cell.generation = generation ∧ m.cell.slot = none)) :
    m.finishRunning r id generation accepted =
      some (((m.announce r id).setCell (m.cell.putBack id generation).2).close id
        (r.result accepted)) := by
  have hc := announce_cell m r id
  change ((m.announce r id).locked (·.putBack id generation)).bind _ = _
  rw [locked_putBack id generation (hc ▸ hf), hc, decide_eq_false hk]
  rfl

theorem enter_stop_parked {m : Machine} {id : GameId} (hf : m.cell.held = false)
    (hs : m.cell.slot = some id) :
    m.enter .stop =
      some (((m.emit (.entered .stop)).setCell m.cell.clear.2).close id .nothing) := by
  change ((m.emit (.entered .stop)).locked Cell.clear).bind _ = _
  have hl := locked_clear (m := m.emit (.entered .stop)) hf
  change _ = some (m.cell.slot, _) at hl
  rw [hl, hs]
  rfl

theorem enter_stop_empty {m : Machine} (hf : m.cell.held = false) (hs : m.cell.slot = none) :
    m.enter .stop =
      some ((((m.emit (.entered .stop)).setCell m.cell.clear.2).note
        (if m.cell.running > 0 then .shutdownDeferred else .shutdownWithoutGame)).leave
          .nothing) := by
  change ((m.emit (.entered .stop)).locked Cell.clear).bind _ = _
  have hl := locked_clear (m := m.emit (.entered .stop)) hf
  change _ = some (m.cell.slot, _) at hl
  rw [hl, hs]
  by_cases hr : m.cell.running > 0
  · rw [if_pos hr]
    exact congrArg some (if_pos hr)
  · rw [if_neg hr]
    exact congrArg some (if_neg hr)

theorem enter_request_skipped {m : Machine} (r : HostRequest) (hf : m.cell.held = false)
    (hs : m.cell.slot = none) :
    m.enter (.request r) =
      some (((m.arrive r).note
        (if m.cell.running > 0 then .reentered r.name else .withoutGame r.name)).leave
          (r.result false)) := by
  have hc := arrive_cell m r
  have hn : (m.arrive r).setCell m.cell.checkOut.2 = m.arrive r := by
    rw [Cell.checkOut, hs, ← hc]
    rfl
  change ((m.arrive r).locked Cell.checkOut).bind _ = _
  rw [locked_checkOut (hc ▸ hf), hc, hs, hn]
  simp only [Option.bind_some, hc]
  by_cases hr : m.cell.running > 0
  · rw [if_pos hr, if_pos hr]
    rfl
  · rw [if_neg hr, if_neg hr]
    rfl

theorem enter_request_parked {m : Machine} (r : HostRequest) {id : GameId} {res : Resident}
    (hf : m.cell.held = false) (hs : m.cell.slot = some id) (hg : m.games[id]? = some res) :
    m.enter (.request r) =
      ((m.arrive r).setCell m.cell.checkOut.2).continueRunning r id m.cell.generation
        (Game.perform (r.decode id res.game.place) res.game) := by
  have hc := arrive_cell m r
  have hgen : m.cell.checkOut.2.generation = m.cell.generation := by rw [Cell.checkOut, hs]
  change ((m.arrive r).locked Cell.checkOut).bind _ = _
  rw [locked_checkOut (hc ▸ hf), hc, hs]
  simp only [Option.bind_some, setCell_cell, setCell_games, arrive_games, hgen, hg]

theorem enter_request_lost {m : Machine} (r : HostRequest) {id : GameId}
    (hf : m.cell.held = false) (hs : m.cell.slot = some id) (hg : m.games[id]? = none) :
    m.enter (.request r) =
      some (((m.arrive r).setCell m.cell.checkOut.2).leave (r.result false)) := by
  have hc := arrive_cell m r
  change ((m.arrive r).locked Cell.checkOut).bind _ = _
  rw [locked_checkOut (hc ▸ hf), hc, hs]
  simp only [Option.bind_some, setCell_games, arrive_games, hg]

/-! ## Work runs in ticks -/

theorem continueClosing_ticks (m : Machine) (id : GameId) (result : EntryResult)
    (o : Outcome Game Unit) :
    Ticks (m, .closing id result o) (m.continueClosing id result o, .host) := by
  induction o generalizing m with
  | done g _ => exact .single (.closed m id result g)
  | note n rest ih => exact .head (.closingNote m id result n rest) (ih (m.note n))
  | call g c resume _ => exact .single (.closingCall m id result g c resume)

theorem close_ticks (m : Machine) (id : GameId) (result : EntryResult) :
    Ticks (m, .retiring id result) (m.close id result, .host) := by
  cases hg : m.games[id]? with
  | none =>
    simp only [close, hg]
    exact .single (.shutdownLost m id result hg)
  | some res =>
    simp only [close, hg]
    exact .head (.shutdown m id result hg) (continueClosing_ticks m id result _)

theorem finishRunning_ticks {m m' : Machine} (r : HostRequest) (id : GameId)
    (generation : UInt64) (g : Game) (accepted : Bool)
    (h : (m.setGame id g).finishRunning r id generation accepted = some m') :
    Ticks (m, .running r id generation (.done g accepted)) (m', .host) := by
  cases hf : m.cell.held with
  | true =>
    have hl : ((m.setGame id g).announce r id).cell.held = true := by rwa [announce_cell]
    change (((m.setGame id g).announce r id).locked (·.putBack id generation)).bind _ = _ at h
    rw [locked_held _ hl] at h
    cases h
  | false =>
    by_cases hk : m.cell.generation = generation ∧ m.cell.slot = none
    · rw [finishRunning_kept (m := m.setGame id g) r id generation accepted hf hk] at h
      obtain rfl := Option.some.inj h
      exact .single (.kept m r id generation g accepted hf hk)
    · rw [finishRunning_retired (m := m.setGame id g) r id generation accepted hf hk] at h
      obtain rfl := Option.some.inj h
      exact .head (.retired m r id generation g accepted hf hk) (close_ticks _ id _)

theorem continueRunning_ticks {m m' : Machine} (r : HostRequest) (id : GameId)
    (generation : UInt64) (o : Outcome Game Bool)
    (h : m.continueRunning r id generation o = some m') :
    Ticks (m, .running r id generation o) (m', .host) := by
  induction o generalizing m with
  | done g accepted => exact finishRunning_ticks r id generation g accepted h
  | note n rest ih => exact .head (.runningNote m r id generation n rest) (ih h)
  | call g c resume _ =>
    obtain rfl := Option.some.inj h
    exact .single (.runningCall m r id generation g c resume)

theorem finishOpening_ticks {m m' : Machine} (exports : Exports Bool) (u : Unit) (config : Config)
    (h : m.finishOpening exports config = some m') :
    Ticks (m, .opening exports (.done u config)) (m', .host) := by
  have hc := made_cell m exports config
  change ((m.made exports config).locked (·.park m.games.length)).bind _ = some m' at h
  cases hf : m.cell.held with
  | true => rw [locked_held _ (hc ▸ hf)] at h; cases h
  | false =>
    rw [locked_park _ (hc ▸ hf), hc] at h
    obtain rfl := Option.some.inj h
    cases hs : m.cell.slot with
    | none => exact .single (.parked m exports u config hf hs)
    | some old => exact .head (.replaced m exports u config hf hs) (close_ticks _ old _)

theorem continueOpening_ticks {m m' : Machine} (exports : Exports Bool) (o : Outcome Unit Config)
    (h : m.continueOpening exports o = some m') :
    Ticks (m, .opening exports o) (m', .host) := by
  induction o generalizing m with
  | done u config => exact finishOpening_ticks exports u config h
  | note n rest ih => exact .head (.openingNote m exports n rest) (ih h)
  | call u c resume _ =>
    obtain rfl := Option.some.inj h
    exact .single (.openingCall m exports u c resume)

/-! ## Moves run in ticks -/

theorem start_ticks {m m' : Machine} (exports : Exports Bool)
    (h : m.enter (.start exports) = some m') : Ticks (m, .host) (m', .host) := by
  change (m.emit (.entered (.start exports))).start exports = some m' at h
  cases hb : bind m.exported with
  | error cause =>
    simp only [start, emit, hb] at h
    obtain rfl := Option.some.inj h
    exact .single (.unbound m exports hb)
  | ok count =>
    simp only [start, emit, hb] at h
    exact .head (.bound m exports hb) (continueOpening_ticks exports _ h)

theorem stop_ticks {m m' : Machine} (h : m.enter .stop = some m') :
    Ticks (m, .host) (m', .host) := by
  cases hf : m.cell.held with
  | true =>
    change ((m.emit (.entered .stop)).locked Cell.clear).bind _ = some m' at h
    rw [locked_held _ (m := m.emit (.entered .stop)) hf] at h
    cases h
  | false =>
    cases hs : m.cell.slot with
    | none =>
      rw [enter_stop_empty hf hs] at h
      obtain rfl := Option.some.inj h
      exact .single (.stoppedEmpty m hf hs)
    | some id =>
      rw [enter_stop_parked hf hs] at h
      obtain rfl := Option.some.inj h
      exact .head (.stopped m hf hs) (close_ticks _ id _)

theorem request_ticks {m m' : Machine} (r : HostRequest)
    (h : m.enter (.request r) = some m') : Ticks (m, .host) (m', .host) := by
  cases hf : m.cell.held with
  | true =>
    have hl : (m.arrive r).cell.held = true := by rwa [arrive_cell]
    change ((m.arrive r).locked Cell.checkOut).bind _ = some m' at h
    rw [locked_held _ hl] at h
    cases h
  | false =>
    cases hs : m.cell.slot with
    | none =>
      rw [enter_request_skipped r hf hs] at h
      obtain rfl := Option.some.inj h
      exact .single (.skipped m r hf hs)
    | some id =>
      cases hg : m.games[id]? with
      | none =>
        rw [enter_request_lost r hf hs hg] at h
        obtain rfl := Option.some.inj h
        exact .single (.lost m r hf hs hg)
      | some res =>
        rw [enter_request_parked r hf hs hg] at h
        exact .head (.checkedOut m r hf hs hg) (continueRunning_ticks r id _ _ h)

theorem answer_ticks {m m' : Machine} (reply : (c : HostCall Bytes) → c.Reply)
    (h : m.answer reply = some m') : Ticks (m, .host) (m', .host) := by
  cases hs : m.stack with
  | nil => simp only [answer, hs] at h; cases h
  | cons f rest =>
    simp only [answer, hs] at h
    cases f with
    | opening exports c resume =>
      exact .head (.answered m reply hs rfl) (continueOpening_ticks exports _ h)
    | running r id generation c resume =>
      cases hg : m.games[id]? with
      | none => simp only [hg] at h; cases h
      | some res =>
        simp only [hg] at h
        exact .head (.answered m reply hs (by simp only [Frame.resumed, hg]; rfl))
          (continueRunning_ticks r id generation _ h)
    | closing id result c resume =>
      cases hg : m.games[id]? with
      | none => simp only [hg] at h; cases h
      | some res =>
        simp only [hg] at h
        obtain rfl := Option.some.inj h
        exact .head (.answered m reply hs (by simp only [Frame.resumed, hg]; rfl))
          (continueClosing_ticks _ id result _)

/-- A host move is a chain of ticks from host control to host control. -/
theorem step_ticks {m m' : Machine} {move : Move} (h : m.step move = some m') :
    Ticks (m, .host) (m', .host) := by
  cases move with
  | enter e =>
    cases e with
    | start exports => exact start_ticks exports h
    | stop => exact stop_ticks h
    | request r => exact request_ticks r h
  | answer reply => exact answer_ticks reply h
  | write id w =>
    obtain rfl := Option.some.inj h
    exact .single (.write m id w)
  | writeInts ints =>
    obtain rfl := Option.some.inj h
    exact .single (.writeInts m ints)
  | reveal symbols =>
    obtain rfl := Option.some.inj h
    exact .single (.reveal m symbols)

theorem run_ticks {m m' : Machine} {moves : List Move} (h : m.run moves = some m') :
    Ticks (m, .host) (m', .host) := by
  induction moves generalizing m with
  | nil =>
    obtain rfl := Option.some.inj h
    exact .refl
  | cons move moves ih =>
    obtain ⟨mid, hm, hr⟩ := Option.bind_eq_some_iff.mp h
    exact (step_ticks hm).trans (ih hr)

/-- What every tick keeps, every run keeps. -/
theorem run_keeps {P : Machine × Control → Prop} (hP : ∀ {s t}, Tick s t → P s → P t)
    {m m' : Machine} {moves : List Move} (h : m.run moves = some m') (h₀ : P (m, .host)) :
    P (m', .host) := by
  have hr := run_ticks h
  generalize (m', Control.host) = t at hr
  induction hr with
  | refl => exact h₀
  | tail _ ht ih => exact hP ht ih

end Machine

end GameModule
