import GameModule.Proofs.Game.Shape
import GameModule.Proofs.Lifecycle.Current

/-!
# What a tick comes to

A request leaves its game to the host until its last call is answered, and only then has its
effect; a shutdown has none. So most ticks change nothing but the history, and the others do one of
a few things to the cell, the games and the work under way. `Turn` lists these with what they add
to the history, and `tick_turn` says that a tick is one of them.
-/
namespace GameModule

open Text (Bytes)

/-! ## Work under way that waits for its last answer -/

/-- What a host's request may do to game `id`. -/
def HostRequest.Carries (r : HostRequest) (id : GameId) (g g' : Game) (ok : Bool) : Prop :=
  ∃ place, Game.Carries (r.decode id place) g g' ok

def Control.Defers (games : List Resident) : Control → Prop
  | .running r id _ o => ∃ res, games[id]? = some res ∧ o.Defers (r.Carries id) res.game
  | .closing id _ o => ∃ res, games[id]? = some res ∧ o.Defers Game.Stays res.game
  | .host | .opening .. | .retiring .. => True

def Frame.Defers : Frame → Prop
  | .opening .. => True
  | .running r id _ _ resume => ∀ a g, (resume a g).Defers (r.Carries id) g
  | .closing _ _ _ resume => ∀ a g, (resume a g).Defers Game.Stays g

theorem Frame.Defers.resumed {f : Frame} (h : f.Defers) {games : List Resident}
    {reply : (c : HostCall Bytes) → c.Reply} {c : Control}
    (hc : f.resumed games reply = some c) : c.Defers games := by
  cases f with
  | opening exports call resume =>
    obtain rfl := Option.some.inj hc
    trivial
  | running r id generation call resume =>
    obtain ⟨res, hg, rfl⟩ := Option.map_eq_some_iff.mp hc
    exact ⟨res, hg, h _ _⟩
  | closing id result call resume =>
    obtain ⟨res, hg, rfl⟩ := Option.map_eq_some_iff.mp hc
    exact ⟨res, hg, h _ _⟩

theorem Control.Defers.suspended {c : Control} {games : List Resident} (h : c.Defers games)
    {f : Frame} (hf : c.Suspends f) : f.Defers := by
  unfold Control.Suspends at hf
  split at hf
  · subst hf
    trivial
  · subst hf
    obtain ⟨res, -, hdef⟩ := h
    exact hdef.2
  · subst hf
    obtain ⟨res, -, hdef⟩ := h
    exact hdef.2
  · exact hf.elim

/-- All work under way waits for its last answer, in hand and suspended. -/
structure Deferred (s : Machine × Control) : Prop where
  hand : s.2.Defers s.1.games
  suspended : ∀ f ∈ s.1.stack, f.Defers

theorem deferred_initial (exported : List String) : Deferred (Machine.initial exported, .host) where
  hand := trivial
  suspended _ h := absurd h List.not_mem_nil

theorem deferred_tick {s t : Machine × Control} (h : Tick s t) (hd : Deferred s) : Deferred t := by
  have hhand : t.2.Defers t.1.games := by
    cases h with
    | checkedOut m r _ _ hg =>
      refine ⟨_, by simpa using hg, ?_⟩
      exact (Game.perform_defers _ _).imp fun _ _ _ he => ⟨_, he⟩
    | answered m reply hs hc => exact (hd.suspended _ (by simp [hs])).resumed hc
    | runningNote => exact hd.hand
    | shutdown m id result hg => exact ⟨_, hg, Game.closing_defers _⟩
    | closingNote => exact hd.hand
    | _ => trivial
  refine ⟨hhand, fun f hf => ?_⟩
  rcases tick_stack h with hs | ⟨f', hs, hsus⟩ | ⟨f', reply, hs, -⟩
  · exact hd.suspended f (hs ▸ hf)
  · rcases List.mem_cons.mp (hs ▸ hf) with rfl | hf
    · exact hd.hand.suspended hsus
    · exact hd.suspended f hf
  · exact hd.suspended f (hs ▸ List.mem_cons_of_mem _ hf)

/-! ## Tasks -/

/-- Work in hand or suspended: what it is for, without what is left of it. -/
inductive Task where
  | opening (exports : Exports Bool)
  | running (r : HostRequest) (id : GameId) (generation : UInt64)
  | closing (id : GameId) (result : EntryResult)

def Task.work : Task → Work
  | .opening _ => .opening
  | .running _ id generation => .running id generation
  | .closing id result => .closing id result

def Frame.task : Frame → Task
  | .opening exports .. => .opening exports
  | .running r id generation .. => .running r id generation
  | .closing id result .. => .closing id result

def Control.tasks : Control → List Task
  | .host => []
  | .opening exports _ => [.opening exports]
  | .running r id generation _ => [.running r id generation]
  | .retiring id result | .closing id result _ => [.closing id result]

/-- The work under way, innermost first. -/
def tasks (s : Machine × Control) : List Task := s.2.tasks ++ s.1.stack.map Frame.task

theorem pending_eq (s : Machine × Control) : pending s = (tasks s).map Task.work := by
  have hf : Task.work ∘ Frame.task = Frame.work := by
    funext f
    cases f <;> rfl
  rw [pending, tasks, List.map_append, List.map_map, hf]
  congr 1
  cases s.2 <;> rfl

theorem outings_eq (s : Machine × Control) :
    outings s = (tasks s).filterMap fun task => task.work.outing? := by
  rw [outings, pending_eq, List.filterMap_map]
  rfl

theorem tasks_answered {m : Machine} {f : Frame} {rest : List Frame} {c : Control}
    {reply : (c : HostCall Bytes) → c.Reply} (hs : m.stack = f :: rest)
    (hc : f.resumed m.games reply = some c) :
    tasks ({ m with stack := rest }, c) = tasks (m, .host) := by
  have ht : c.tasks = [f.task] := by
    cases f with
    | opening exports call resume =>
      obtain rfl := Option.some.inj hc
      rfl
    | running r id generation call resume =>
      obtain ⟨res, _, rfl⟩ := Option.map_eq_some_iff.mp hc
      rfl
    | closing id result call resume =>
      obtain ⟨res, _, rfl⟩ := Option.map_eq_some_iff.mp hc
      rfl
  simp only [tasks, ht, hs]
  rfl

/-! ## Turns -/

/-- The event of writing an integer of the host, if the host passed it. -/
def Exports.stored (exports : Exports Bool) (field : ExportField) (value : Int) : List Event :=
  if exports.get field then [.stored field value] else []

/-- The events of telling the host about a new game, the latest first. -/
def Exports.told (exports : Exports Bool) (info : ExportInfo) : List Event :=
  exports.stored .numEdicts info.numEdicts ++ (exports.stored .maxEdicts info.maxEdicts ++
    (exports.stored .edictSize info.edictSize ++ exports.stored .apiVersion info.apiVersion))

/-- The events of telling the host about game `g` after a request, where only spawning tells. -/
def Resident.announced (res : Resident) (r : HostRequest) (g : Game) : List Event :=
  if r.isSpawn then res.exports.stored .numEdicts g.numEdicts else []

namespace Machine

theorem store_history_eq (m : Machine) (exports : Exports Bool) (field : ExportField)
    (value : Int) :
    (m.store exports field value).history = exports.stored field value ++ m.history := by
  unfold store Exports.stored
  split <;> rfl

theorem made_history_eq (m : Machine) (exports : Exports Bool) (config : Config) :
    (m.made exports config).history =
      exports.told (Game.create config .standard).exportInfo ++
        .opened m.games.length :: m.history := by
  simp only [made, store_history_eq, Exports.told, List.append_assoc]
  rfl

theorem announce_history_eq {m : Machine} {id : GameId} {res : Resident} (r : HostRequest)
    (hg : m.games[id]? = some res) :
    (m.announce r id).history = res.announced r res.game ++ m.history := by
  cases r with
  | spawnEntities map entities spawnPoint =>
    simp only [announce, hg]
    exact store_history_eq ..
  | _ => rfl

theorem setGame_games {m : Machine} {id : GameId} {res : Resident} (g : Game)
    (hg : m.games[id]? = some res) :
    (m.setGame id g).games = m.games.set id { res with game := g } := by
  have hi := (List.getElem?_eq_some_iff.mp hg).1
  refine List.ext_getElem? fun n => ?_
  change (m.games.modify id _)[n]? = _
  by_cases hn : id = n
  · subst hn
    rw [List.getElem?_modify_eq, List.getElem?_set_self hi, hg]
    rfl
  · rw [List.getElem?_modify_ne _ _ hn, List.getElem?_set_ne hn]

theorem setGame_get {m : Machine} {id : GameId} {res : Resident} (g : Game)
    (hg : m.games[id]? = some res) : (m.setGame id g).games[id]? = some { res with game := g } := by
  rw [setGame_games g hg, List.getElem?_set_self (List.getElem?_eq_some_iff.mp hg).1]

/-- A game that is set to itself stays. -/
theorem setGame_self {m : Machine} {id : GameId} {res : Resident} (hg : m.games[id]? = some res) :
    (m.setGame id res.game).games = m.games := by
  obtain ⟨hi, rfl⟩ := List.getElem?_eq_some_iff.mp hg
  rw [setGame_games _ hg]
  exact List.set_getElem_self hi

end Machine

/-- Only a notice or a call. -/
def Event.IsIdle : Event → Prop
  | .noted _ | .called .. => True
  | _ => False

section Current

variable {new history : List Event}

theorem current_idle (hn : ∀ e ∈ new, e.IsIdle) :
    (new ++ history).foldr Event.current none = history.foldr Event.current none := by
  refine current_append fun e he before => ?_
  have hi := hn e he
  cases e with
  | noted => rfl
  | called => rfl
  | _ => exact hi.elim

@[simp] theorem current_stored (exports : Exports Bool) (field : ExportField) (value : Int) :
    (exports.stored field value ++ history).foldr Event.current none =
      history.foldr Event.current none := by
  unfold Exports.stored
  split <;> rfl

@[simp] theorem current_told (exports : Exports Bool) (info : ExportInfo) :
    (exports.told info ++ history).foldr Event.current none =
      history.foldr Event.current none := by
  simp only [Exports.told, List.append_assoc, current_stored]

@[simp] theorem current_announced (res : Resident) (r : HostRequest) (g : Game) :
    (res.announced r g ++ history).foldr Event.current none =
      history.foldr Event.current none := by
  unfold Resident.announced
  split
  · exact current_stored ..
  · rfl

end Current

/-- What a tick comes to. -/
inductive Turn (s t : Machine × Control) : Prop
  | idle (new : List Event) (hn : ∀ e ∈ new, e.IsIdle) (hh : t.1.history = new ++ s.1.history)
      (hcur : t.1.current = s.1.current) (hc : t.1.cell = s.1.cell) (hg : t.1.games = s.1.games)
      (hk : tasks t = tasks s)
  | wrote (id : GameId) (w : Game.HostWrite) (hh : t.1.history = s.1.history)
      (hcur : t.1.current = s.1.current) (hc : t.1.cell = s.1.cell)
      (hg : t.1.games = s.1.games.modify id fun r => { r with game := r.game.write w })
      (hk : tasks t = tasks s)
  /-- An opening that fails to bind, or a request without a game. -/
  | turnedAway (e : Entry) (result : EntryResult) (new : List Event)
      (hr : result.isTable = false) (hn : ∀ e ∈ new, e.IsIdle)
      (hh : t.1.history = .returned result :: (new ++ .entered e :: s.1.history))
      (hcur : t.1.current = s.1.current) (hc : t.1.cell = s.1.cell) (hg : t.1.games = s.1.games)
      (hk : tasks t = tasks s)
  | stoppedEmpty (new : List Event) (hn : ∀ e ∈ new, e.IsIdle) (hs : s.1.cell.slot = none)
      (hh : t.1.history = .returned .nothing :: (new ++ .entered .stop :: s.1.history))
      (hcur : t.1.current = none) (hc : t.1.cell = s.1.cell.clear.2)
      (hg : t.1.games = s.1.games) (hk : tasks t = tasks s)
  | stopped (id : GameId) (hs : s.1.cell.slot = some id)
      (hh : t.1.history = .entered .stop :: s.1.history) (hcur : t.1.current = none)
      (hc : t.1.cell = s.1.cell.clear.2) (hg : t.1.games = s.1.games)
      (hk : tasks t = .closing id .nothing :: tasks s)
  | started (exports : Exports Bool) (new : List Event) (hn : ∀ e ∈ new, e.IsIdle)
      (hh : t.1.history = new ++ .entered (.start exports) :: s.1.history)
      (hcur : t.1.current = s.1.current) (hc : t.1.cell = s.1.cell) (hg : t.1.games = s.1.games)
      (hk : tasks t = .opening exports :: tasks s)
  | taken (r : HostRequest) (id : GameId) (new : List Event) (hn : ∀ e ∈ new, e.IsIdle)
      (hs : s.1.cell.slot = some id)
      (hh : t.1.history = new ++ .entered (.request r) :: s.1.history)
      (hcur : t.1.current = s.1.current) (hc : t.1.cell = s.1.cell.checkOut.2)
      (hg : t.1.games = s.1.games) (hk : tasks t = .running r id s.1.cell.generation :: tasks s)
  | parked (exports : Exports Bool) (config : Config) (rest : List Task)
      (hs : s.1.cell.slot = none) (hk : tasks s = .opening exports :: rest)
      (hh : t.1.history = .returned (.table (some s.1.games.length)) ::
        (exports.told (Game.create config .standard).exportInfo ++
          .opened s.1.games.length :: s.1.history))
      (hcur : t.1.current = some s.1.games.length)
      (hc : t.1.cell = (s.1.cell.park s.1.games.length).2)
      (hg : t.1.games = s.1.games ++ [⟨Game.create config .standard, exports⟩])
      (hk' : tasks t = rest)
  | replaced (exports : Exports Bool) (config : Config) (old : GameId) (rest : List Task)
      (hs : s.1.cell.slot = some old) (hk : tasks s = .opening exports :: rest)
      (hh : t.1.history = .noted .replacing ::
        (exports.told (Game.create config .standard).exportInfo ++
          .opened s.1.games.length :: s.1.history))
      (hcur : t.1.current = some s.1.games.length)
      (hc : t.1.cell = (s.1.cell.park s.1.games.length).2)
      (hg : t.1.games = s.1.games ++ [⟨Game.create config .standard, exports⟩])
      (hk' : tasks t = .closing old (.table (some s.1.games.length)) :: rest)
  | kept (r : HostRequest) (id : GameId) (g : Game) (accepted : Bool) (res : Resident)
      (rest : List Task) (hs : s.1.cell.slot = none)
      (hk : tasks s = .running r id s.1.cell.generation :: rest) (hi : s.1.games[id]? = some res)
      (he : r.Carries id res.game g accepted)
      (hh : t.1.history = .returned (r.result accepted) ::
        (res.announced r g ++ s.1.history))
      (hcur : t.1.current = s.1.current)
      (hc : t.1.cell = (s.1.cell.putBack id s.1.cell.generation).2)
      (hg : t.1.games = s.1.games.set id { res with game := g }) (hk' : tasks t = rest)
  | retired (r : HostRequest) (id : GameId) (generation : UInt64) (g : Game) (accepted : Bool)
      (res : Resident) (rest : List Task)
      (hs : ¬ (s.1.cell.generation = generation ∧ s.1.cell.slot = none))
      (hk : tasks s = .running r id generation :: rest) (hi : s.1.games[id]? = some res)
      (he : r.Carries id res.game g accepted)
      (hh : t.1.history = res.announced r g ++ s.1.history)
      (hcur : t.1.current = s.1.current)
      (hc : t.1.cell = (s.1.cell.putBack id generation).2)
      (hg : t.1.games = s.1.games.set id { res with game := g })
      (hk' : tasks t = .closing id (r.result accepted) :: rest)
  | closed (id : GameId) (result : EntryResult) (rest : List Task)
      (hk : tasks s = .closing id result :: rest)
      (hh : t.1.history = .returned result :: .closed id :: s.1.history)
      (hcur : t.1.current = s.1.current) (hc : t.1.cell = s.1.cell) (hg : t.1.games = s.1.games)
      (hk' : tasks t = rest)

theorem turn_games {s t : Machine × Control} (h : Turn s t) :
    s.1.games.length ≤ t.1.games.length := by
  cases h with
  | idle new hn hh hcur hc hg => simp [hg]
  | wrote id w hh hcur hc hg => simp [hg]
  | turnedAway e result new hr hn hh hcur hc hg => simp [hg]
  | stoppedEmpty new hn hs hh hcur hc hg => simp [hg]
  | stopped id hs hh hcur hc hg => simp [hg]
  | started exports new hn hh hcur hc hg => simp [hg]
  | taken r id new hn hs hh hcur hc hg => simp [hg]
  | parked exports config rest hs hk hh hcur hc hg => simp [hg]
  | replaced exports config old rest hs hk hh hcur hc hg => simp [hg]
  | kept r id g accepted res rest hs hk hi he hh hcur hc hg => simp [hg]
  | retired r id generation g accepted res rest hs hk hi he hh hcur hc hg => simp [hg]
  | closed id result rest hk hh hcur hc hg => simp [hg]

/-- A turn adds to the history. -/
theorem turn_history {s t : Machine × Control} (h : Turn s t) : s.1.history <:+ t.1.history := by
  cases h with
  | idle new hn hh => rw [hh]; exact List.suffix_append ..
  | wrote id w hh => exact hh ▸ List.suffix_rfl
  | turnedAway e result new hr hn hh =>
    rw [hh]
    exact ((List.suffix_cons ..).trans (List.suffix_append ..)).trans (List.suffix_cons ..)
  | stoppedEmpty new hn hs hh =>
    rw [hh]
    exact ((List.suffix_cons ..).trans (List.suffix_append ..)).trans (List.suffix_cons ..)
  | stopped id hs hh => rw [hh]; exact List.suffix_cons ..
  | started exports new hn hh =>
    rw [hh]
    exact (List.suffix_cons ..).trans (List.suffix_append ..)
  | taken r id new hn hs hh =>
    rw [hh]
    exact (List.suffix_cons ..).trans (List.suffix_append ..)
  | parked exports config rest hs hk hh =>
    rw [hh]
    exact ((List.suffix_cons ..).trans (List.suffix_append ..)).trans (List.suffix_cons ..)
  | replaced exports config old rest hs hk hh =>
    rw [hh]
    exact ((List.suffix_cons ..).trans (List.suffix_append ..)).trans (List.suffix_cons ..)
  | kept r id g accepted res rest hs hk hi he hh =>
    rw [hh]
    exact (List.suffix_append ..).trans (List.suffix_cons ..)
  | retired r id generation g accepted res rest hs hk hi he hh =>
    rw [hh]
    exact List.suffix_append ..
  | closed id result rest hk hh =>
    rw [hh]
    exact (List.suffix_cons ..).trans (List.suffix_cons ..)

@[simp] theorem isIdle_noted (n : Notice) : (Event.noted n).IsIdle := trivial

@[simp] theorem isIdle_called (game : Option GameId) (c : HostCall Bytes) :
    (Event.called game c).IsIdle := trivial

/-- Taking a request in leaves notices after its entry. -/
theorem arrive_idle (m : Machine) (r : HostRequest) :
    ∃ new, (m.arrive r).history = new ++ .entered (.request r) :: m.history ∧
      ∀ e ∈ new, e.IsIdle := by
  unfold Machine.arrive
  split
  · exact ⟨[.noted .missingInput], rfl, by simp⟩
  · exact ⟨[], rfl, by simp⟩

theorem tick_turn {s t : Machine × Control} (h : Tick s t) (hb : Balanced s) (hd : Deferred s) :
    Turn s t := by
  cases h with
  | write m id w => exact .wrote id w rfl rfl rfl rfl rfl
  | writeInts m ints => exact .idle [] (by simp) rfl rfl rfl rfl rfl
  | reveal m symbols => exact .idle [] (by simp) rfl rfl rfl rfl rfl
  | unbound m exports _ =>
    exact .turnedAway (.start exports) _ [_] rfl (by simp) rfl rfl rfl rfl rfl
  | bound m exports _ => exact .started exports [_] (by simp) rfl rfl rfl rfl rfl
  | stopped m _ hs => exact .stopped _ hs rfl rfl rfl rfl rfl
  | stoppedEmpty m _ hs => exact .stoppedEmpty [_] (by simp) hs rfl rfl rfl rfl rfl
  | checkedOut m r _ hs hg =>
    obtain ⟨new, hh, hn⟩ := arrive_idle m r
    refine .taken r _ new hn hs hh ?_ rfl (by simp) ?_
    · simp only [Machine.current, Machine.setCell_history, hh, current_idle hn]
      rfl
    · simp [tasks, Control.tasks]
  | lost m r _ hs hg => exact absurd hg (hb.parked_ne_none hs)
  | skipped m r _ hs =>
    obtain ⟨new, hh, hn⟩ := arrive_idle m r
    generalize (if m.cell.running > 0 then Notice.reentered r.name else .withoutGame r.name) = n
    have hn' : ∀ e ∈ Event.noted n :: new, e.IsIdle := by simpa using hn
    have hh' : (((m.arrive r).note n).leave (r.result false)).history =
        .returned (r.result false) :: (.noted n :: new ++ .entered (.request r) :: m.history) := by
      simp [hh, Machine.note, Machine.leave, Machine.emit]
    refine .turnedAway (.request r) _ (.noted n :: new) (isTable_result r false) hn' hh'
      ?_ ?_ ?_ ?_
    · simp only [Machine.current, hh', List.foldr_cons, current_idle hn']
      rfl
    · simp [Machine.note, Machine.leave, Machine.emit]
    · simp [Machine.note, Machine.leave, Machine.emit]
    · simp [tasks, Control.tasks, Machine.note, Machine.leave, Machine.emit]
  | answered m reply hs hc => exact .idle [] (by simp) rfl rfl rfl rfl (tasks_answered hs hc)
  | openingNote m exports n o => exact .idle [_] (by simp) rfl rfl rfl rfl rfl
  | openingCall m exports u c resume => exact .idle [_] (by simp) rfl rfl rfl rfl rfl
  | parked m exports u config _ hs =>
    have hh := congrArg (List.cons (.returned (.table (some m.games.length))))
      (m.made_history_eq exports config)
    refine .parked exports config (m.stack.map Frame.task) hs rfl hh ?_ rfl ?_ ?_
    · exact (congrArg (List.foldr Event.current none) hh).trans (current_told exports _)
    · exact m.made_games exports config
    · exact congrArg (List.map Frame.task) (m.made_stack exports config)
  | replaced m exports u config _ hs =>
    have hh := congrArg (List.cons (.noted .replacing)) (m.made_history_eq exports config)
    refine .replaced exports config _ (m.stack.map Frame.task) hs rfl hh ?_ rfl ?_ ?_
    · exact (congrArg (List.foldr Event.current none) hh).trans (current_told exports _)
    · exact m.made_games exports config
    · exact congrArg (List.cons _ ·) (congrArg (List.map Frame.task) (m.made_stack exports config))
  | runningNote m r id generation n o => exact .idle [_] (by simp) rfl rfl rfl rfl rfl
  | runningCall m r id generation g c resume =>
    obtain ⟨res, hi, hdef⟩ := hd.hand
    obtain rfl : g = res.game := hdef.1
    exact .idle [_] (by simp) rfl rfl rfl (Machine.setGame_self hi) rfl
  | kept m r id generation g accepted _ hk =>
    obtain ⟨res, hi, hdef⟩ := hd.hand
    obtain ⟨rfl, hs⟩ := hk
    have hh := congrArg (List.cons (.returned (r.result accepted)))
      (Machine.announce_history_eq r (Machine.setGame_get g hi))
    refine .kept r id g accepted res (m.stack.map Frame.task) hs rfl hi hdef hh ?_ rfl ?_ ?_
    · exact (congrArg (List.foldr Event.current none) hh).trans (current_announced res r g)
    · exact ((m.setGame id g).announce_games r id).trans (Machine.setGame_games g hi)
    · exact congrArg (List.map Frame.task) ((m.setGame id g).announce_stack r id)
  | retired m r id generation g accepted _ hk =>
    obtain ⟨res, hi, hdef⟩ := hd.hand
    have hh := Machine.announce_history_eq r (Machine.setGame_get g hi)
    refine .retired r id generation g accepted res (m.stack.map Frame.task) hk rfl hi hdef hh
      ?_ rfl ?_ ?_
    · exact (congrArg (List.foldr Event.current none) hh).trans (current_announced res r g)
    · exact ((m.setGame id g).announce_games r id).trans (Machine.setGame_games g hi)
    · exact congrArg (fun stack => _ :: stack.map Frame.task)
        ((m.setGame id g).announce_stack r id)
  | shutdown m id result hg => exact .idle [] (by simp) rfl rfl rfl rfl rfl
  | shutdownLost m id result hg => exact absurd hg hb.retiring_ne_none
  | closingNote m id result n o => exact .idle [_] (by simp) rfl rfl rfl rfl rfl
  | closingCall m id result g c resume =>
    obtain ⟨res, hi, hdef⟩ := hd.hand
    obtain rfl : g = res.game := hdef.1
    exact .idle [_] (by simp) rfl rfl rfl (Machine.setGame_self hi) rfl
  | closed m id result g =>
    obtain ⟨res, hi, hdef⟩ := hd.hand
    obtain rfl : g = res.game := hdef
    exact .closed id result (m.stack.map Frame.task) rfl rfl rfl rfl (Machine.setGame_self hi) rfl

/-- What is known of every state of a run. -/
structure Sound (s : Machine × Control) : Prop where
  balanced : Balanced s
  follows : Follows s
  deferred : Deferred s

theorem sound_initial (exported : List String) : Sound (Machine.initial exported, .host) where
  balanced := balanced_initial exported
  follows := follows_initial exported
  deferred := deferred_initial exported

theorem sound_tick {s t : Machine × Control} (h : Tick s t) (hs : Sound s) : Sound t where
  balanced := balanced_tick h hs.balanced
  follows := follows_tick h hs.balanced hs.follows
  deferred := deferred_tick h hs.deferred

/-- What every turn keeps holds at every tick. -/
theorem ticks_keep_turn {P : Machine × Control → Prop}
    (hP : ∀ {s t}, Turn s t → Sound s → Sound t → P s → P t) {s t : Machine × Control}
    (h : Ticks s t) (hs : Sound s) (h₀ : P s) : Sound t ∧ P t := by
  induction h with
  | refl => exact ⟨hs, h₀⟩
  | tail _ ht ih =>
    have hsound := sound_tick ht ih.1
    exact ⟨hsound, hP (tick_turn ht ih.1.balanced ih.1.deferred) ih.1 hsound ih.2⟩

/-- What every turn keeps, every run keeps. -/
theorem run_keeps_turn {P : Machine × Control → Prop}
    (hP : ∀ {s t}, Turn s t → Sound s → Sound t → P s → P t) {exported : List String}
    {moves : List Move} {m : Machine} (h : (Machine.initial exported).run moves = some m)
    (h₀ : P (Machine.initial exported, .host)) : P (m, .host) :=
  (ticks_keep_turn hP (Machine.run_ticks h) (sound_initial exported) h₀).2

end GameModule
