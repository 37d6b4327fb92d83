import GameModule.Proofs.Game.Handle
import GameModule.Proofs.Lifecycle.ExportBlock

/-!
# Who writes the host's integers

The module writes to the integers at the end of an opening and at the end of a spawning, and
nowhere else. Calls nest, so the work that ends in a move is not in general what the host asked for
last. `Machine.underway` keeps the calls the host is in beside the machine, each with the machine
it found, and the work on the stack serves these calls one by one (`Attended`). So each write can
be put down to a call: the one that opened the game it is about, or one that took this game out.
-/
namespace GameModule

open Text (Bytes)

/-! ## What is written -/

/-- A write to one of the host's integers. -/
def Event.isStored : Event → Bool
  | .stored .. => true
  | _ => false

/-- The host's integers after an event. -/
def Exports.after (ints : Exports Int) : Event → Exports Int
  | .stored field value => ints.set field value
  | _ => ints

/-- The host's integers after some events, the latest first. -/
def Exports.replay (ints : Exports Int) (new : List Event) : Exports Int :=
  new.foldr (fun e ints => ints.after e) ints

theorem replay_silent {new : List Event} (hn : ∀ e ∈ new, e.isStored = false)
    (ints : Exports Int) : ints.replay new = ints := by
  induction new with
  | nil => rfl
  | cons e new ih =>
    have he := hn e List.mem_cons_self
    have hrest := ih fun e' he' => hn e' (List.mem_cons_of_mem _ he')
    change (ints.replay new).after e = ints
    rw [hrest]
    cases e with
    | stored => cases he
    | _ => rfl

/-- From `m` to `m'` the module writes to the integers what `writes` says, the latest first, and
nothing else. -/
def Machine.Writes (m m' : Machine) (writes : List Event) : Prop :=
  ∃ new, m'.history = new ++ m.history ∧ new.filter Event.isStored = writes ∧
    m'.ints = m.ints.replay new

namespace Machine.Writes

variable {m m₁ m' : Machine} {w w' : List Event}

theorem silent (new : List Event) (hh : m'.history = new ++ m.history)
    (hn : ∀ e ∈ new, e.isStored = false) (hi : m'.ints = m.ints) : m.Writes m' [] := by
  refine ⟨new, hh, List.filter_eq_nil_iff.mpr fun e he => ?_, ?_⟩
  · rw [hn e he]
    exact Bool.false_ne_true
  · rw [hi, replay_silent hn]

theorem same (hh : m'.history = m.history) (hi : m'.ints = m.ints) : m.Writes m' [] :=
  silent [] hh (by simp) hi

theorem emit (m : Machine) {e : Event} (he : e.isStored = false) : m.Writes (m.emit e) [] :=
  silent [e] rfl (by simpa using he) rfl

theorem note (m : Machine) (n : Notice) : m.Writes (m.note n) [] := emit m rfl

theorem trans (h : m.Writes m₁ w) (h' : m₁.Writes m' w') : m.Writes m' (w' ++ w) := by
  obtain ⟨new, hh, rfl, hi⟩ := h
  obtain ⟨new', hh', rfl, hi'⟩ := h'
  refine ⟨new' ++ new, ?_, List.filter_append .., ?_⟩
  · rw [hh', hh, List.append_assoc]
  · rw [hi', hi, Exports.replay, Exports.replay, Exports.replay, List.foldr_append]

theorem store (m : Machine) (exports : Exports Bool) (field : ExportField) (value : Int) :
    m.Writes (m.store exports field value) (exports.stored field value) := by
  unfold Machine.store Exports.stored
  split
  · exact ⟨[.stored field value], rfl, rfl, rfl⟩
  · exact same rfl rfl

theorem made (m : Machine) (exports : Exports Bool) (config : Config) :
    m.Writes (m.made exports config) (exports.told (Game.create config .standard).exportInfo) := by
  have hopened (games : List Resident) :
      m.Writes ({ m with games }.emit (.opened m.games.length)) [] :=
    silent [.opened m.games.length] rfl (by simp [Event.isStored]) rfl
  have hfirst (games : List Resident) (version : Int) :=
    (hopened games).trans (store _ exports .apiVersion version)
  simp only [List.append_nil] at hfirst
  exact (((hfirst _ _).trans (store _ exports .edictSize _)).trans
    (store _ exports .maxEdicts _)).trans (store _ exports .numEdicts _)

theorem announce {id : GameId} {res : Resident} (r : HostRequest) (hi : m.games[id]? = some res) :
    m.Writes (m.announce r id) (res.announced r res.game) := by
  cases r with
  | spawnEntities map entities spawnPoint =>
    simp only [Machine.announce, hi]
    exact store m res.exports .numEdicts _
  | _ => exact same rfl rfl

end Machine.Writes

/-! ## Calls -/

/-- A call of the host, with the machine that it found. -/
structure Call where
  entry : Entry
  found : Machine

namespace Call

/-- The call is an opening, and the host's functions were bound. -/
def Opens (call : Call) (exports : Exports Bool) : Prop :=
  call.entry = .start exports ∧ ∃ count, bind call.found.exported = .ok count

/-- The call is a request, and game `id` was there to be taken out. -/
def TakesOut (call : Call) (r : HostRequest) (id : GameId) : Prop :=
  call.entry = .request r ∧ call.found.cell.slot = some id

end Call

/-- Whatever the host answers, the work comes to a result as `P` says. -/
def Outcome.Yields {σ α : Type} (P : α → Prop) : Outcome σ α → Prop
  | .done _ a => P a
  | .note _ rest => rest.Yields P
  | .call _ _ resume => ∀ a s, (resume a s).Yields P

theorem Game.opening_yields : (Game.opening ()).Yields Config.Fits := by
  intro clients _ entities _ tracing _
  change ((Game.trace _ _ >>= fun _ => pure _) ()).Yields Config.Fits
  rw [Game.trace_bind]
  split
  · exact fun _ _ => Config.fits_clamped ..
  · exact Config.fits_clamped ..

/-- What a request does to game `id`; spawning is not refused. -/
def HostRequest.Completes (r : HostRequest) (id : GameId) (g g' : Game) (ok : Bool) : Prop :=
  r.Carries id g g' ok ∧ (r.isSpawn = true → ok = true)

theorem Game.perform_completes (r : HostRequest) (id : GameId) (place : Placement) (g : Game) :
    (Game.perform (r.decode id place) g).Defers (r.Completes id) g := by
  cases r with
  | spawnEntities map entities spawnPoint =>
    change (Game.perform (.spawnEntities ..) g).Defers _ g
    rw [Game.perform, Activity.get_bind]
    exact Game.defers_trace _ _ _ fun g => ⟨⟨place, .inl ⟨rfl, rfl⟩⟩, fun _ => rfl⟩
  | _ =>
    exact (Game.perform_defers _ g).imp fun _ _ _ hc =>
      ⟨⟨place, hc⟩, (absurd · Bool.false_ne_true)⟩

theorem HostRequest.Completes.numEdicts_of_spawn {r : HostRequest} {id : GameId} {g g' : Game}
    {ok : Bool} (h : r.Completes id g g' ok) (hr : r.isSpawn = true) :
    g'.numEdicts = g.config.maxClients + 1 := by
  obtain ⟨⟨place, ⟨-, he⟩ | ⟨hok, -⟩⟩, hspawn⟩ := h
  · rw [Game.effect_numEdicts he, isSpawn_decode, if_pos hr]
  · rw [hspawn hr] at hok
    cases hok

theorem HostRequest.eq_spawn {r : HostRequest} (hr : r.isSpawn = true) :
    ∃ map entities spawnPoint, r = .spawnEntities map entities spawnPoint := by
  cases r with
  | spawnEntities map entities spawnPoint => exact ⟨map, entities, spawnPoint, rfl⟩
  | _ => cases hr

/-- The work is done for the call, or is the shutdown of a game that the call retired. -/
def Frame.Serves (f : Frame) (call : Call) : Prop :=
  match f with
  | .opening exports _ resume =>
    call.Opens exports ∧ ∀ a u, (resume a u).Yields Config.Fits
  | .running r id _ _ resume =>
    call.TakesOut r id ∧ ∀ a g, (resume a g).Defers (r.Completes id) g
  | .closing _ _ _ resume => ∀ a g, (resume a g).Defers Game.Stays g

/-- What the module does for a call, up to its end or the next call to the host. -/
structure Machine.Works (call : Call) (m m' : Machine) (games : List Resident)
    (writes : List Event) : Prop where
  writes : m.Writes m' writes
  games : m'.games = games
  stack : m'.stack = m.stack ∨ ∃ f : Frame, m'.stack = f :: m.stack ∧ f.Serves call

namespace Machine.Works

variable {call : Call} {m m₁ m' : Machine} {games : List Resident} {w w' : List Event}
  {id : GameId} {res : Resident}

/-- Something was done before that left the integers and the stack alone. -/
theorem after (h : Works call m₁ m' games w) (hw : m.Writes m₁ []) (hs : m₁.stack = m.stack) :
    Works call m m' games w := by
  refine ⟨?_, h.games, hs ▸ h.stack⟩
  rw [← List.append_nil w]
  exact hw.trans h.writes

/-- Nothing is left to do but what leaves the integers and the games alone. -/
theorem ending (h : Works call m₁ m' m₁.games []) (hw : m.Writes m₁ w) (hg : m₁.games = games)
    (hs : m₁.stack = m.stack) : Works call m m' games w :=
  ⟨hw.trans h.writes, h.games.trans hg, hs ▸ h.stack⟩

theorem leave (m : Machine) (result : EntryResult) : Works call m (m.leave result) m.games [] :=
  ⟨.emit m rfl, rfl, .inl rfl⟩

theorem continueClosing (hi : m.games[id]? = some res) (result : EntryResult)
    {o : Outcome Game Unit} (hd : o.Defers Game.Stays res.game) :
    Works call m (m.continueClosing id result o) m.games [] := by
  induction o generalizing m with
  | done g _ =>
    obtain rfl : g = res.game := hd
    refine ⟨.silent [.returned result, .closed id] rfl ?_ rfl, setGame_self hi, .inl rfl⟩
    simp [Event.isStored]
  | note n rest ih => exact (ih (m := m.note n) hi hd).after (.note m n) rfl
  | call g c resume _ =>
    obtain ⟨rfl, hres⟩ := hd
    exact ⟨.silent [.called (some id) c.send] rfl (by simp [Event.isStored]) rfl,
      setGame_self hi, .inr ⟨.closing id result c resume, rfl, hres⟩⟩

theorem close (m : Machine) (id : GameId) (result : EntryResult) :
    Works call m (m.close id result) m.games [] := by
  unfold Machine.close
  split
  · next res hi => exact continueClosing hi result (Game.closing_defers res.game)
  · exact leave m result

theorem replacing (m : Machine) (old : GameId) (result : EntryResult) :
    Works call m ((m.note .replacing).close old result) m.games [] :=
  (close (m.note .replacing) old result).after (.note m .replacing) rfl

/-- The end of a request, where a spawned game is told about. -/
theorem finishRunning {r : HostRequest} {generation : UInt64} {accepted : Bool}
    (hi : m.games[id]? = some res) (hm : m.finishRunning r id generation accepted = some m') :
    Works call m m' m.games (res.announced r res.game) := by
  change ((m.announce r id).locked (·.putBack id generation)).bind _ = some m' at hm
  obtain ⟨⟨kept, m₁⟩, hl, hm⟩ := Option.bind_eq_some_iff.mp hm
  obtain ⟨c, rfl⟩ := locked_eq hl
  obtain rfl := Option.some.inj hm
  -- the host is told before it is known whether the game was retired
  have hw : m.Writes ((m.announce r id).setCell c) (res.announced r res.game) := .announce r hi
  cases kept with
  | true => exact (leave ..).ending hw (m.announce_games r id) (m.announce_stack r id)
  | false => exact (close ..).ending hw (m.announce_games r id) (m.announce_stack r id)

/-- A request goes on. It makes another call, or it has its effect and ends. -/
theorem continueRunning {r : HostRequest} (hcall : call.TakesOut r id)
    (hi : m.games[id]? = some res) {generation : UInt64} {o : Outcome Game Bool}
    (hd : o.Defers (r.Completes id) res.game)
    (hm : m.continueRunning r id generation o = some m') :
    Works call m m' m.games [] ∨
      ∃ g ok, r.Completes id res.game g ok ∧
        Works call m m' (m.games.set id { res with game := g }) (res.announced r g) := by
  induction o generalizing m with
  | done g accepted =>
    have h : Works call _ m' _ _ := finishRunning (m := m.setGame id g) (setGame_get g hi) hm
    rw [setGame_games g hi] at h
    exact .inr ⟨g, accepted, hd, h.writes, h.games, h.stack⟩
  | note n rest ih =>
    rcases ih (m := m.note n) hi hd hm with h | ⟨g, ok, hc, h⟩
    · exact .inl (h.after (.note m n) rfl)
    · exact .inr ⟨g, ok, hc, h.after (.note m n) rfl⟩
  | call g c resume _ =>
    obtain ⟨rfl, hres⟩ := hd
    obtain rfl := Option.some.inj hm
    exact .inl ⟨.silent [.called (some id) c.send] rfl (by simp [Event.isStored]) rfl,
      setGame_self hi, .inr ⟨.running r id generation c resume, rfl, hcall, hres⟩⟩

/-- The end of an opening, where the host is told about the new game. -/
theorem finishOpening {exports : Exports Bool} {config : Config}
    (hm : m.finishOpening exports config = some m') :
    Works call m m' (m.games ++ [⟨Game.create config .standard, exports⟩])
      (exports.told (Game.create config .standard).exportInfo) := by
  change ((m.made exports config).locked (·.park m.games.length)).bind _ = some m' at hm
  obtain ⟨⟨previous, m₁⟩, hl, hm⟩ := Option.bind_eq_some_iff.mp hm
  obtain ⟨c, rfl⟩ := locked_eq hl
  obtain rfl := Option.some.inj hm
  have hw : m.Writes ((m.made exports config).setCell c) _ := .made m exports config
  cases previous with
  | none => exact (leave ..).ending hw (m.made_games exports config) (m.made_stack exports config)
  | some old =>
    exact (replacing ..).ending hw (m.made_games exports config) (m.made_stack exports config)

/-- An opening goes on. It makes another call, or it ends with a new game. -/
theorem continueOpening {exports : Exports Bool} (hcall : call.Opens exports)
    {o : Outcome Unit Config} (hy : o.Yields Config.Fits)
    (hm : m.continueOpening exports o = some m') :
    Works call m m' m.games [] ∨
      ∃ config : Config, config.Fits ∧
        Works call m m' (m.games ++ [⟨Game.create config .standard, exports⟩])
          (exports.told (Game.create config .standard).exportInfo) := by
  induction o generalizing m with
  | done u config => exact .inr ⟨config, hy, finishOpening hm⟩
  | note n rest ih =>
    rcases ih (m := m.note n) hy hm with h | ⟨config, hf, h⟩
    · exact .inl (h.after (.note m n) rfl)
    · exact .inr ⟨config, hf, h.after (.note m n) rfl⟩
  | call u c resume _ =>
    obtain rfl := Option.some.inj hm
    exact .inl ⟨.silent [.called none c.send] rfl (by simp [Event.isStored]) rfl, rfl,
      .inr ⟨.opening exports c resume, rfl, hcall, hy⟩⟩

end Machine.Works

/-! ## The games and what the host is told of them -/

/-- What a game has for good: the integers it was given, its settings, and the length of its
table. -/
def Resident.terms (res : Resident) : Exports Bool × Config × Nat :=
  (res.exports, res.game.config, res.game.edicts.length)

/-- The tables of a game are in shape, for settings within the limits. -/
structure Resident.Fitting (res : Resident) : Prop where
  shaped : Game.Shaped res.game.config .standard res.game
  fits : res.game.config.Fits

theorem Resident.Fitting.edicts {res : Resident} (h : res.Fitting) :
    res.game.edicts.length = res.game.config.maxEntities := h.shaped.edicts

/-- What a move tells the host of the games, the latest write first, and the call that does it. -/
inductive Tells (games games' : List Resident) : Option Call → List Event → Prop
  /-- Nothing; then no game is new, and none has another number of edicts. -/
  | nothing (call : Option Call) (hc : counts games' = counts games) : Tells games games' call []
  | opened (call : Call) (exports : Exports Bool) (g : Game) (hcall : call.Opens exports)
      (hg : games' = games ++ [⟨g, exports⟩])
      (hn : 2 ≤ g.edicts.length ∧ g.edicts.length ≤ 1024) :
      Tells games games' (some call) (exports.told ⟨1, 280, g.edicts.length, 1⟩)
  | spawned (call : Call) (map entities spawnPoint : Option Bytes) (id : GameId) (res : Resident)
      (hcall : call.TakesOut (.spawnEntities map entities spawnPoint) id)
      (hi : games[id]? = some res)
      (hn : 1 ≤ res.game.config.maxClients + 1 ∧
        res.game.config.maxClients + 1 ≤ res.game.edicts.length) :
      Tells games games' (some call)
        (res.exports.stored .numEdicts (res.game.config.maxClients + 1))

/-- What a move leaves of the games, besides what it tells of them. -/
structure Accounts (games games' : List Resident) (call : Option Call) (writes : List Event) :
    Prop where
  tells : Tells games games' call writes
  fitting : ∀ res ∈ games', res.Fitting
  terms : games.map Resident.terms <+: games'.map Resident.terms

namespace Accounts

variable {games : List Resident} {call : Call}

theorem same (hf : ∀ res ∈ games, res.Fitting) (call : Option Call) :
    Accounts games games call [] :=
  ⟨.nothing call rfl, hf, List.prefix_rfl⟩

theorem opened (hf : ∀ res ∈ games, res.Fitting) {exports : Exports Bool}
    (hcall : call.Opens exports) {config : Config} (hc : config.Fits) :
    Accounts games (games ++ [⟨Game.create config .standard, exports⟩]) (some call)
      (exports.told (Game.create config .standard).exportInfo) := by
  have hs := Game.shaped_create config .standard
  have hinfo : (Game.create config .standard).exportInfo =
      ⟨1, 280, (Game.create config .standard).edicts.length, 1⟩ := by
    rw [Game.exportInfo, Game.stride_eq]
    rfl
  refine ⟨?_, ?_, ?_⟩
  · rw [hinfo]
    refine .opened call exports _ hcall rfl ?_
    have hclient := hc.client
    have hroom := hc.room
    have hentities : config.maxEntities ≤ 1024 := hc.entities
    rw [hs.edicts]
    omega
  · simp only [List.forall_mem_append, List.forall_mem_singleton]
    exact ⟨hf, hs, hc⟩
  · rw [List.map_append]
    exact List.prefix_append ..

/-- A game is changed within its terms. -/
theorem set (hf : ∀ res ∈ games, res.Fitting) {id : GameId} {res : Resident} {g : Game}
    (hi : games[id]? = some res) (hs : Game.Shaped res.game.config .standard g) :
    (∀ r ∈ games.set id { res with game := g }, r.Fitting) ∧
      (games.set id { res with game := g }).map Resident.terms = games.map Resident.terms := by
  have hres := hf res (List.mem_of_getElem? hi)
  constructor
  · intro r hr
    rcases List.mem_or_eq_of_mem_set hr with hr | rfl
    · exact hf r hr
    · exact ⟨hs.config_eq ▸ hs, hs.config_eq ▸ hres.fits⟩
  · refine map_set_same _ hi ?_
    rw [Resident.terms, Resident.terms, hs.config_eq, hs.edicts, hres.edicts]

theorem carried (hf : ∀ res ∈ games, res.Fitting) {r : HostRequest} {id : GameId}
    (hcall : call.TakesOut r id) {res : Resident} (hi : games[id]? = some res) {g : Game} {ok : Bool}
    (hc : r.Completes id res.game g ok) :
    Accounts games (games.set id { res with game := g }) (some call) (res.announced r g) := by
  have hres := hf res (List.mem_of_getElem? hi)
  obtain ⟨hfit, hterms⟩ := set hf hi (hc.1.shaped hres.shaped)
  refine ⟨?_, hfit, hterms ▸ List.prefix_rfl⟩
  cases hr : r.isSpawn with
  | true =>
    -- the number was set at the end of the spawning, so nothing the host did inside it shows
    have hroom := hres.fits.room
    rw [← hres.edicts] at hroom
    have hn : g.numEdicts = res.game.config.maxClients + 1 := hc.numEdicts_of_spawn hr
    obtain ⟨map, entities, spawnPoint, rfl⟩ := HostRequest.eq_spawn hr
    change Tells _ _ _ (res.exports.stored .numEdicts g.numEdicts)
    rw [hn]
    exact .spawned call map entities spawnPoint id res hcall hi ⟨by omega, hroom⟩
  | false =>
    rw [Resident.announced, hr]
    exact .nothing _ (map_set_same _ hi (hc.1.numEdicts hr))

theorem wrote (hf : ∀ res ∈ games, res.Fitting) (id : GameId) (w : Game.HostWrite) :
    Accounts games (games.modify id fun r => { r with game := r.game.write w }) none [] := by
  rw [List.modify_eq_set_getElem?]
  cases hi : games[id]? with
  | none => exact same hf none
  | some res =>
    have hres := hf res (List.mem_of_getElem? hi)
    obtain ⟨hfit, hterms⟩ := set hf hi (hres.shaped.write w)
    refine ⟨.nothing _ (map_set_same _ hi ?_), hfit, hterms ▸ List.prefix_rfl⟩
    cases w <;> rfl

end Accounts

/-! ## Calls under way -/

/-- The host's integers after the host's own part in a move. -/
def Move.ints (before : Exports Int) : Move → Exports Int
  | .writeInts ints => ints
  | .enter _ | .answer _ | .write .. | .reveal _ => before

namespace Machine

/-- The calls under way after a move from `m` to `m'`: a call that comes in is under way for as long
as its work is on the stack. -/
def callsAfter (m m' : Machine) (calls : List Call) : Move → List Call
  | .enter e => if m.stack.length < m'.stack.length then ⟨e, m⟩ :: calls else calls
  | .answer _ => if m'.stack.length < m.stack.length then calls.tail else calls
  | .write .. | .writeInts _ | .reveal _ => calls

/-- The calls under way after a run, innermost first. -/
def underway (m : Machine) (calls : List Call) : List Move → List Call
  | [] => calls
  | move :: moves =>
    match m.step move with
    | some m' => m'.underway (m.callsAfter m' calls move) moves
    | none => calls

/-- The call that a move makes the module work for. -/
def atWork (m : Machine) (calls : List Call) : Move → Option Call
  | .enter e => some ⟨e, m⟩
  | .answer _ => calls.head?
  | .write .. | .writeInts _ | .reveal _ => none

/-- A move after which the module has only a shutdown to do: one of its own, or what is left of the
shutdown of a game that was retired. -/
def shutsDown (m : Machine) : Move → Bool
  | .enter .stop => true
  | .answer _ =>
    match m.stack with
    | .closing .. :: _ => true
    | _ => false
  | _ => false

/-- The work on the stack serves the calls under way, and all games are in shape. -/
structure Attended (m : Machine) (calls : List Call) : Prop where
  frames : List.Forall₂ Frame.Serves m.stack calls
  fitting : ∀ res ∈ m.games, res.Fitting

/-- What was done for a call, with the writes and the games accounted for. -/
structure Settles (call : Call) (m m' : Machine) (writes : List Event) : Prop where
  works : Works call m m' m'.games writes
  accounts : Accounts m.games m'.games (some call) writes

variable {m m' : Machine} {calls : List Call}

theorem Works.settles {call : Call} {games : List Resident} {w : List Event}
    (h : Works call m m' games w) (ha : Accounts m.games games (some call) w) :
    Settles call m m' w := by
  obtain rfl := h.games
  exact ⟨h, ha⟩

theorem start_settles (hf : ∀ res ∈ m.games, res.Fitting) {exports : Exports Bool}
    (hm : m.enter (.start exports) = some m') :
    ∃ writes, Settles ⟨.start exports, m⟩ m m' writes := by
  change (m.emit (.entered (.start exports))).start exports = some m' at hm
  cases hb : bind m.exported with
  | error cause =>
    simp only [start, emit, hb] at hm
    obtain rfl := Option.some.inj hm
    refine ⟨[], Works.settles ⟨.silent [.returned (.table none), .noted (.unbound cause),
      .entered (.start exports)] rfl ?_ rfl, rfl, .inl rfl⟩ (.same hf _)⟩
    simp [Event.isStored]
  | ok count =>
    simp only [start, emit, hb] at hm
    have hw : m.Writes ((m.emit (.entered (.start exports))).note (.bound count)) [] :=
      .silent [.noted (.bound count), .entered (.start exports)] rfl (by simp [Event.isStored]) rfl
    have hcall : Call.Opens ⟨.start exports, m⟩ exports := ⟨rfl, count, hb⟩
    rcases Works.continueOpening hcall Game.opening_yields hm with h | ⟨config, hc, h⟩
    · exact ⟨_, (h.after hw rfl).settles (.same hf _)⟩
    · exact ⟨_, (h.after hw rfl).settles (.opened hf hcall hc)⟩

theorem stop_settles (hf : ∀ res ∈ m.games, res.Fitting) (hm : m.enter .stop = some m') :
    Settles ⟨.stop, m⟩ m m' [] := by
  obtain ⟨⟨parked, m₁⟩, hl, hm⟩ := Option.bind_eq_some_iff.mp hm
  obtain ⟨c, rfl⟩ := locked_eq hl
  obtain rfl := Option.some.inj hm
  have hw : m.Writes ((m.emit (.entered .stop)).setCell c) [] := .emit m rfl
  refine Works.settles ?_ (.same hf _)
  cases parked with
  | some id => exact (Works.close ..).after hw rfl
  | none =>
    simp only
    split
    · exact (Works.leave ..).after (hw.trans (.note ..)) rfl
    · exact (Works.leave ..).after (hw.trans (.note ..)) rfl

theorem arrive_writes (m : Machine) (r : HostRequest) : m.Writes (m.arrive r) [] := by
  unfold arrive
  split
  · exact .silent [.noted .missingInput, .entered (.request r)] rfl (by simp [Event.isStored]) rfl
  · exact .emit m rfl

/-- A request that finds no game comes to nothing. -/
theorem request_settles (hf : ∀ res ∈ m.games, res.Fitting) {r : HostRequest}
    (hm : m.enter (.request r) = some m') :
    ∃ writes, Settles ⟨.request r, m⟩ m m' writes := by
  have hstack := m.arrive_stack r
  have hgames := m.arrive_games r
  have hw (cell : Cell) : m.Writes ((m.arrive r).setCell cell) [] := m.arrive_writes r
  cases hheld : m.cell.held with
  | true =>
    have hl : (m.arrive r).cell.held = true := by rwa [arrive_cell]
    change ((m.arrive r).locked Cell.checkOut).bind _ = some m' at hm
    rw [locked_held _ hl] at hm
    cases hm
  | false =>
    cases hs : m.cell.slot with
    | none =>
      rw [enter_request_skipped r hheld hs] at hm
      obtain rfl := Option.some.inj hm
      refine ⟨[], Works.settles ?_ (.same hf _)⟩
      exact (Works.leave ..).ending ((m.arrive_writes r).trans (.note ..)) hgames hstack
    | some id =>
      cases hi : m.games[id]? with
      | none =>
        rw [enter_request_lost r hheld hs hi] at hm
        obtain rfl := Option.some.inj hm
        refine ⟨[], Works.settles ?_ (.same hf _)⟩
        exact (Works.leave ..).ending (hw m.cell.checkOut.2) hgames hstack
      | some res =>
        rw [enter_request_parked r hheld hs hi] at hm
        have hcall : Call.TakesOut ⟨.request r, m⟩ r id := ⟨rfl, hs⟩
        have hi' : ((m.arrive r).setCell m.cell.checkOut.2).games[id]? = some res := by
          rwa [setCell_games, hgames]
        have hd := Game.perform_completes r id res.game.place res.game
        have hc := Works.continueRunning hcall hi' hd hm
        rw [setCell_games, hgames] at hc
        rcases hc with h | ⟨g, ok, hc, h⟩
        · exact ⟨_, (h.after (hw _) hstack).settles (.same hf _)⟩
        · exact ⟨_, (h.after (hw _) hstack).settles (.carried hf hcall hi hc)⟩

theorem enter_settles (hf : ∀ res ∈ m.games, res.Fitting) {e : Entry} (hm : m.enter e = some m') :
    ∃ writes, Settles ⟨e, m⟩ m m' writes ∧ (m.shutsDown (.enter e) = true → writes = []) := by
  cases e with
  | start exports =>
    obtain ⟨writes, h⟩ := start_settles hf hm
    exact ⟨writes, h, (absurd · Bool.false_ne_true)⟩
  | stop => exact ⟨[], stop_settles hf hm, fun _ => rfl⟩
  | request r =>
    obtain ⟨writes, h⟩ := request_settles hf hm
    exact ⟨writes, h, (absurd · Bool.false_ne_true)⟩

/-- The work on top of the stack goes on, for the innermost call. -/
theorem answer_settles {f : Frame} {rest : List Frame} {call : Call} (hs : m.stack = f :: rest)
    (hserves : f.Serves call) (hf : ∀ res ∈ m.games, res.Fitting)
    {reply : (c : HostCall Bytes) → c.Reply} (hm : m.answer reply = some m') :
    ∃ writes, Settles call { m with stack := rest } m' writes ∧
      (m.shutsDown (.answer reply) = true → writes = []) := by
  simp only [shutsDown, hs]
  cases f with
  | opening exports c resume =>
    simp only [answer, hs] at hm
    rcases Works.continueOpening hserves.1 (hserves.2 _ _) hm with h | ⟨config, hc, h⟩
    · exact ⟨_, h.settles (.same hf _), fun _ => rfl⟩
    · exact ⟨_, h.settles (.opened hf hserves.1 hc), (absurd · Bool.false_ne_true)⟩
  | running r id generation c resume =>
    cases hi : m.games[id]? with
    | none =>
      simp only [answer, hs, hi] at hm
      cases hm
    | some res =>
      simp only [answer, hs, hi] at hm
      rcases Works.continueRunning (m := { m with stack := rest }) hserves.1 hi (hserves.2 _ _) hm
        with h | ⟨g, ok, hc, h⟩
      · exact ⟨_, h.settles (.same hf _), fun _ => rfl⟩
      · exact ⟨_, h.settles (.carried hf hserves.1 hi hc), (absurd · Bool.false_ne_true)⟩
  | closing id result c resume =>
    cases hi : m.games[id]? with
    | none =>
      simp only [answer, hs, hi] at hm
      cases hm
    | some res =>
      simp only [answer, hs, hi] at hm
      obtain rfl := Option.some.inj hm
      refine ⟨[], Works.settles ?_ (.same hf _), fun _ => rfl⟩
      exact Works.continueClosing (m := { m with stack := rest }) hi result (hserves _ _)

/-- What a move does to the integers and the games, and whom it does it for. -/
theorem Attended.step (h : m.Attended calls) {move : Move} (hm : m.step move = some m') :
    ∃ writes, { m with ints := move.ints m.ints }.Writes m' writes ∧
      Accounts m.games m'.games (m.atWork calls move) writes ∧
      (m.shutsDown move = true → writes = []) ∧ m'.Attended (m.callsAfter m' calls move) := by
  cases move with
  | enter e =>
    obtain ⟨writes, ⟨⟨hw, -, hstack⟩, ha⟩, hdown⟩ := enter_settles h.fitting hm
    refine ⟨writes, hw, ha, hdown, ?_, ha.fitting⟩
    rcases hstack with hs | ⟨f, hs, hserves⟩
    · rw [callsAfter, hs, if_neg (Nat.lt_irrefl _)]
      exact h.frames
    · have hlt : m.stack.length < m'.stack.length := by simp [hs]
      rw [callsAfter, if_pos hlt, hs]
      exact .cons hserves h.frames
  | answer reply =>
    cases hs : m.stack with
    | nil =>
      simp only [Machine.step, answer, hs] at hm
      cases hm
    | cons f rest =>
      obtain ⟨call, outer, hserves, hrest, rfl⟩ := List.forall₂_cons_left_iff.mp (hs ▸ h.frames)
      obtain ⟨writes, ⟨⟨hw, -, hstack⟩, ha⟩, hdown⟩ := answer_settles hs hserves h.fitting hm
      refine ⟨writes, hw, ha, hdown, ?_, ha.fitting⟩
      -- the innermost call returns, or its work is suspended once more
      rcases hstack with hs' | ⟨f', hs', hserves'⟩
      · have hlt : m'.stack.length < m.stack.length := by simp [hs, hs']
        rw [callsAfter, if_pos hlt, hs']
        exact hrest
      · have hle : ¬ m'.stack.length < m.stack.length := by simp [hs, hs']
        rw [callsAfter, if_neg hle, hs']
        exact .cons hserves' hrest
  | write id w =>
    obtain rfl := Option.some.inj hm
    have ha := Accounts.wrote h.fitting id w
    exact ⟨[], .same rfl rfl, ha, fun _ => rfl, h.frames, ha.fitting⟩
  | writeInts ints =>
    obtain rfl := Option.some.inj hm
    exact ⟨[], .same rfl rfl, .same h.fitting _, fun _ => rfl, h.frames, h.fitting⟩
  | reveal symbols =>
    obtain rfl := Option.some.inj hm
    exact ⟨[], .same rfl rfl, .same h.fitting _, fun _ => rfl, h.frames, h.fitting⟩

theorem Attended.run (h : m.Attended calls) {moves : List Move} (hm : m.run moves = some m') :
    m'.Attended (m.underway calls moves) ∧
      m.games.map Resident.terms <+: m'.games.map Resident.terms := by
  induction moves generalizing m calls with
  | nil =>
    obtain rfl := Option.some.inj hm
    exact ⟨h, List.prefix_rfl⟩
  | cons move moves ih =>
    obtain ⟨mid, hstep, hrest⟩ := Option.bind_eq_some_iff.mp hm
    obtain ⟨_, -, ha, -, hmid⟩ := h.step hstep
    obtain ⟨hend, hterms⟩ := ih hmid hrest
    simp only [underway, hstep]
    exact ⟨hend, ha.terms.trans hterms⟩

end Machine

/-- Only openings and spawnings write to the host's integers, and what they write is in range. Take
any run, with calls nested in any way and openings that were passed any of the four integers, and
any move of the host after it. All that happens to the integers in this move is what the host
writes itself and the writes in the history. Either there are none, and then no game is new or has
another number of edicts; or they are made for an opening whose functions were bound, the
innermost call, and tell of its new game through the integers that were passed to it: version 1,
size 280, the length of the table, which is in 2 .. 1024, and one edict; or they are made for a
spawning, the innermost call, that took its game out, and tell of the number of edicts of this
game through the integer that was passed when it was opened: one more than there are clients, at
least 1 and at most the length of the table. A shutdown makes none, be it asked for or due because
a game was stopped or replaced. From then on every game keeps the integers it was given, its
settings and the length of its table. -/
theorem host_ints_written_by (exported : List String) (moves : List Move) (m m' : Machine)
    (move : Move) (h : (Machine.initial exported).run moves = some m)
    (hm : m.step move = some m') :
    ∃ new, m'.history = new ++ m.history ∧ m'.ints = (move.ints m.ints).replay new ∧
      Tells m.games m'.games (m.atWork ((Machine.initial exported).underway [] moves) move)
        (new.filter Event.isStored) ∧
      (m.shutsDown move = true → new.filter Event.isStored = []) ∧
      ∀ later m'', m'.run later = some m'' →
        m'.games.map Resident.terms <+: m''.games.map Resident.terms := by
  have h₀ : (Machine.initial exported).Attended [] := ⟨.nil, fun _ hr => absurd hr List.not_mem_nil⟩
  obtain ⟨writes, ⟨new, hh, rfl, hints⟩, ha, hdown, hm'⟩ := (h₀.run h).1.step hm
  exact ⟨new, hh, hints, ha.tells, hdown, fun _ _ hlater => (hm'.run hlater).2⟩

/-- A game is opened inside the spawning of another one, and is passed none of the integers. -/
def silentlyReplaced : List Move :=
  let reply : Move := .answer obligingHost
  [.enter (.start (.all true)), reply, reply, reply, reply,
    .enter (.request (.spawnEntities none none none)),
    .enter (.start (.all false)), reply, reply, reply, reply]

/-- The spawning ends after the second game was opened, and tells of the first one's edicts. -/
theorem host_ints_written_by_outer :
    ∃ m m' new, (Machine.initial symbols).run silentlyReplaced = some m ∧
      m.step (.answer obligingHost) = some m' ∧
      m.games.map (·.exports) = [.all true, .all false] ∧
      m'.history = new ++ m.history ∧ (new.filter Event.isStored).length = 1 ∧
      m'.ints = m.ints.replay new ∧ m.ints.numEdicts = 1 ∧ m'.ints.numEdicts = 2 := by
  have hr : ((Machine.initial symbols).run silentlyReplaced).any fun m =>
      m.games.map (·.exports) = [.all true, .all false] ∧ m.ints.numEdicts = 1 ∧
        m.history.countP Event.isStored = 4 ∧
        (m.step (.answer obligingHost)).any fun m' =>
          m'.ints.numEdicts = 2 ∧ m'.history.countP Event.isStored = 5 := by decide +kernel
  obtain ⟨m, hrun, he⟩ := (Option.any_eq_true _ _).mp hr
  obtain ⟨hexports, hone, hfour, hstep⟩ := of_decide_eq_true he
  obtain ⟨m', hm, he'⟩ := (Option.any_eq_true _ _).mp hstep
  obtain ⟨htwo, hfive⟩ := of_decide_eq_true he'
  obtain ⟨new, hh, hints, -⟩ := host_ints_written_by symbols _ m m' _ hrun hm
  refine ⟨m, m', new, hrun, hm, hexports, hh, ?_, hints, hone, htwo⟩
  rw [hh, List.countP_append, hfour] at hfive
  rw [← List.countP_eq_length_filter]
  omega

end GameModule
