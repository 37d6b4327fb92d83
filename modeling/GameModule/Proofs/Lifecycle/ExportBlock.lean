import GameModule.Proofs.Lifecycle.Report
import Mathlib.Data.List.Forall2

/-!
# Which game the host's integers describe

The integers are written in one go when a game is made, before it is parked, and the number of
edicts again at the end of every spawning, before the game is put back. So three of them are always
those of the latest game, which is the one that is parked, if any. The fourth is too, unless the
latest game was made while another one was being spawned: that spawning ends later, finds its game
retired, and has already written the number of edicts of a game that is about to be shut down.
-/
namespace GameModule

/-! ## What a request leaves of the numbers -/

theorem isSpawn_decode (r : HostRequest) (id : GameId) (place : Placement) :
    (r.decode id place).isSpawn = r.isSpawn := by
  cases r <;> rfl

theorem HostRequest.Carries.shaped {r : HostRequest} {id : GameId} {g g' : Game} {ok : Bool}
    (h : r.Carries id g g' ok) {config : Config} {place : Placement}
    (hs : Game.Shaped config place g) : Game.Shaped config place g' := by
  obtain ⟨_, ⟨-, he⟩ | ⟨-, rfl⟩⟩ := h
  · exact hs.effect he
  · exact hs

theorem HostRequest.Carries.numEdicts {r : HostRequest} {id : GameId} {g g' : Game} {ok : Bool}
    (h : r.Carries id g g' ok) (hr : r.isSpawn = false) : g'.numEdicts = g.numEdicts := by
  obtain ⟨place, ⟨-, he⟩ | ⟨-, rfl⟩⟩ := h
  · rw [Game.effect_numEdicts he, isSpawn_decode, hr]
    rfl
  · rfl

/-! ## The integers and the games -/

/-- A game that was given all four integers, with its tables in shape. -/
structure Resident.Intact (res : Resident) : Prop where
  full : res.exports = .all true
  shaped : Game.Shaped res.game.config .standard res.game

/-- The table lengths of the games. -/
def sizes (games : List Resident) : List Nat := games.map (·.game.edicts.length)

/-- The numbers of edicts of the games. -/
def counts (games : List Resident) : List Nat := games.map (·.game.numEdicts)

/-- The latest game, or one that was being spawned when the latest was made. -/
def Privy (games : List Resident) (rep : Report) (id : GameId) : Prop :=
  id + 1 = games.length ∨ id ∈ rep.during

/-- The integers are those of the latest game, with the number of edicts of the one that told it
last. -/
structure Booked (games : List Resident) (rep : Report) : Prop where
  intact : ∀ (id : GameId) (res : Resident), games[id]? = some res → res.Intact
  told : ∀ id, id + 1 = games.length → ∃ (w size count : Nat), rep.teller = some w ∧
    Privy games rep w ∧ (sizes games)[id]? = some size ∧ (counts games)[w]? = some count ∧
    rep.ints = ⟨Limits.apiVersion, Edict.stride, size, count⟩

section Booked

variable {games : List Resident} {rep : Report} {id : GameId} {res : Resident} {g : Game}

theorem Booked.withCalls (hb : Booked games rep) (calls : List (Entry × Option GameId)) :
    Booked games { rep with calls } := ⟨hb.intact, hb.told⟩

theorem map_set_same {β : Type} (f : Resident → β) (hi : games[id]? = some res) {new : Resident}
    (hf : f new = f res) : (games.set id new).map f = games.map f := by
  obtain ⟨hlt, rfl⟩ := List.getElem?_eq_some_iff.mp hi
  rw [List.map_set, hf, ← List.getElem_map f (h := by simpa using hlt)]
  exact List.set_getElem_self _

theorem Booked.intact_set (hb : Booked games rep) (hi : games[id]? = some res)
    (hs : Game.Shaped res.game.config .standard g) (n : GameId) (r : Resident)
    (hn : (games.set id { res with game := g })[n]? = some r) : r.Intact := by
  by_cases he : id = n
  · subst he
    rw [List.getElem?_set_self (List.getElem?_eq_some_iff.mp hi).1] at hn
    obtain rfl := Option.some.inj hn
    exact ⟨(hb.intact _ _ hi).full, hs.config_eq ▸ hs⟩
  · rw [List.getElem?_set_ne he] at hn
    exact hb.intact n r hn

/-- The tables of a game never change their lengths. -/
theorem Booked.sizes_set (hb : Booked games rep) (hi : games[id]? = some res)
    (hs : Game.Shaped res.game.config .standard g) :
    sizes (games.set id { res with game := g }) = sizes games := by
  refine map_set_same _ hi ?_
  change g.edicts.length = res.game.edicts.length
  rw [hs.edicts, (hb.intact id res hi).shaped.edicts]

/-- A game changes, but not its number of edicts. -/
theorem Booked.set (hb : Booked games rep) (hi : games[id]? = some res)
    (hs : Game.Shaped res.game.config .standard g) (hn : g.numEdicts = res.game.numEdicts) :
    Booked (games.set id { res with game := g }) rep := by
  refine ⟨hb.intact_set hi hs, ?_⟩
  have hcounts : counts (games.set id { res with game := g }) = counts games :=
    map_set_same _ hi hn
  simp only [hb.sizes_set hi hs, hcounts, Privy, List.length_set]
  exact hb.told

/-- A game that was spawned tells its number of edicts. -/
theorem Booked.spawned (hb : Booked games rep) (hi : games[id]? = some res)
    (hs : Game.Shaped res.game.config .standard g) (hp : Privy games rep id) :
    Booked (games.set id { res with game := g })
      { rep with ints := rep.ints.set .numEdicts g.numEdicts, teller := some id } := by
  refine ⟨hb.intact_set hi hs, fun n hn => ?_⟩
  rw [List.length_set] at hn
  obtain ⟨_, size, _, -, -, hsize, -, hints⟩ := hb.told n hn
  refine ⟨id, size, g.numEdicts, rfl, ?_, ?_, ?_, ?_⟩
  · simpa only [Privy, List.length_set] using hp
  · rw [hb.sizes_set hi hs]
    exact hsize
  · have hlt := (List.getElem?_eq_some_iff.mp hi).1
    rw [counts, List.map_set, List.getElem?_set_self (by simpa using hlt)]
  · change rep.ints.set .numEdicts g.numEdicts = _
    rw [hints]
    rfl

/-- A new game is made, and the host is told. -/
theorem Booked.made (hb : Booked games rep) (config : Config) (calls : List (Entry × Option GameId))
    (during : List GameId) :
    Booked (games ++ [⟨Game.create config .standard, .all true⟩])
      ⟨calls, (Game.create config .standard).exportInfo.ints, some games.length, during⟩ := by
  constructor
  · intro n r hn
    rcases List.mem_append.mp (List.mem_of_getElem? hn) with hm | hm
    · obtain ⟨i, hi⟩ := List.mem_iff_getElem?.mp hm
      exact hb.intact i r hi
    · rw [List.mem_singleton.mp hm]
      exact ⟨rfl, Game.shaped_create config .standard⟩
  · intro n hn
    obtain rfl : n = games.length := by simpa using hn
    refine ⟨games.length, _, _, rfl, Or.inl hn, ?_, ?_, rfl⟩
    · simp [sizes, Game.exportInfo]
    · simp [counts, Game.exportInfo]

end Booked

/-! ## The work under way and the calls under way -/

/-- The work serves a call as the history reports it. A retired game is shut down in the call that
retired it, whichever that is. -/
def Task.Serves : Task → Entry × Option GameId → Prop
  | .opening exports, call => exports = .all true ∧ call.1 = .start exports
  | .running r id _, call => call = (.request r, some id)
  | .closing .., _ => True

theorem mem_spawning {tasks : List Task} {rep : Report}
    (h : List.Forall₂ Task.Serves tasks rep.calls) {r : HostRequest} {id : GameId}
    {generation : UInt64} (hm : .running r id generation ∈ tasks) (hr : r.isSpawn = true) :
    id ∈ rep.spawning := by
  have hcall : (Entry.request r, some id) ∈ rep.calls := by
    generalize rep.calls = calls at h
    induction h with
    | nil => cases hm
    | cons hs _ ih =>
      rcases List.mem_cons.mp hm with rfl | hm
      · cases hs
        exact List.mem_cons_self
      · exact List.mem_cons_of_mem _ (ih hm)
  refine List.mem_filterMap.mpr ⟨_, hcall, ?_⟩
  simp [Report.spawned?, hr]

/-- The history reports what is under way, and the integers of the latest game. -/
structure Reported (s : Machine × Control) : Prop where
  calls : List.Forall₂ Task.Serves (tasks s) (report s.1.history).calls
  latest : ∀ id, s.1.current = some id → id + 1 = s.1.games.length
  spawns : ∀ r id generation, .running r id generation ∈ tasks s → r.isSpawn = true →
    Privy s.1.games (report s.1.history) id
  booked : Booked s.1.games (report s.1.history)

theorem reported_initial (exported : List String) :
    Reported (Machine.initial exported, .host) where
  calls := .nil
  latest := nofun
  spawns _ _ _ h := absurd h List.not_mem_nil
  booked := ⟨fun _ _ h => by simp [Machine.initial] at h, nofun⟩

section Turn

variable {s t : Machine × Control}

/-- Calls come and go; the games and what was told of them stay. -/
theorem Reported.quiet (h : Reported s) {ts : List Task} {calls : List (Entry × Option GameId)}
    (hk : tasks t = ts) (hrep : report t.1.history = { report s.1.history with calls })
    (hcalls : List.Forall₂ Task.Serves ts calls)
    (hcur : t.1.current = s.1.current ∨ t.1.current = none) (hg : t.1.games = s.1.games)
    (hsp : ∀ r id generation, .running r id generation ∈ ts →
      .running r id generation ∈ tasks s ∨ s.1.current = some id) : Reported t := by
  refine ⟨by rw [hrep, hk]; exact hcalls, ?_, ?_, ?_⟩
  · intro id hid
    rw [hg]
    rcases hcur with hcur | hcur
    · exact h.latest id (hcur ▸ hid)
    · rw [hcur] at hid
      cases hid
  · intro r id generation hm hr
    rw [hrep, hg]
    rcases hsp r id generation (hk ▸ hm) with hm | hid
    · exact h.spawns r id generation hm hr
    · exact Or.inl (h.latest id hid)
  · rw [hrep, hg]
    exact h.booked.withCalls calls

/-- A game is made. Whatever is being spawned then is remembered. -/
theorem Reported.made (h : Reported s) {exports : Exports Bool} {config : Config}
    {rest ts : List Task} {calls : List (Entry × Option GameId)}
    (hk : tasks s = .opening exports :: rest) (hk' : tasks t = ts)
    (hcalls : List.Forall₂ Task.Serves ts calls)
    (hrep : report t.1.history = ⟨calls, (Game.create config .standard).exportInfo.ints,
      some s.1.games.length, (report s.1.history).spawning⟩)
    (hcur : t.1.current = some s.1.games.length)
    (hg : t.1.games = s.1.games ++ [⟨Game.create config .standard, .all true⟩])
    (hsp : ∀ r id generation, .running r id generation ∈ ts →
      .running r id generation ∈ rest) : Reported t := by
  refine ⟨by rw [hrep, hk']; exact hcalls, ?_, ?_, ?_⟩
  · intro id hid
    rw [hcur] at hid
    obtain rfl := Option.some.inj hid
    simp [hg]
  · intro r id generation hm hr
    have hrest := hsp r id generation (hk' ▸ hm)
    rw [hrep]
    right
    exact mem_spawning h.calls (hk ▸ List.mem_cons_of_mem _ hrest) hr
  · rw [hrep, hg]
    exact h.booked.made ..

/-- The innermost request ends, and if it spawned, the host is told. -/
theorem Reported.ended (h : Reported s) {r : HostRequest} {id : GameId} {generation : UInt64}
    {res : Resident} {g : Game} {accepted : Bool} {rest ts : List Task}
    {outer calls : List (Entry × Option GameId)}
    (hk : tasks s = .running r id generation :: rest) (hk' : tasks t = ts)
    (ho : (report s.1.history).calls = (.request r, some id) :: outer)
    (hcalls : List.Forall₂ Task.Serves ts calls) (hi : s.1.games[id]? = some res)
    (he : r.Carries id res.game g accepted)
    (hrep : report t.1.history = { report (res.announced r g ++ s.1.history) with calls })
    (hcur : t.1.current = s.1.current) (hg : t.1.games = s.1.games.set id { res with game := g })
    (hsp : ∀ r id generation, .running r id generation ∈ ts →
      .running r id generation ∈ rest) : Reported t := by
  have hres := h.booked.intact id res hi
  have hs := he.shaped hres.shaped
  rw [report_announced ho hres.full] at hrep
  have hb : Booked t.1.games (report t.1.history) := by
    rw [hrep, hg]
    cases hr : r.isSpawn with
    | true =>
      -- the write does not ask whether the game is still the current one
      have hp := h.spawns r id generation (hk ▸ List.mem_cons_self) hr
      exact (h.booked.spawned hi hs hp).withCalls calls
    | false => exact (h.booked.set hi hs (he.numEdicts hr)).withCalls calls
  have hduring : (report t.1.history).during = (report s.1.history).during := by
    rw [hrep]
    split <;> rfl
  refine ⟨by rw [hrep, hk']; exact hcalls, ?_, ?_, hb⟩
  · intro id' hid
    rw [hg, List.length_set]
    exact h.latest id' (hcur ▸ hid)
  · intro r' id' generation' hm hr
    have hrest := hsp r' id' generation' (hk' ▸ hm)
    rw [Privy, hg, List.length_set, hduring]
    exact h.spawns r' id' generation' (hk ▸ List.mem_cons_of_mem _ hrest) hr

/-- The host writes to the records of a game. -/
theorem Reported.wrote (h : Reported s) {id : GameId} {w : Game.HostWrite}
    (hh : t.1.history = s.1.history) (hcur : t.1.current = s.1.current)
    (hg : t.1.games = s.1.games.modify id fun r => { r with game := r.game.write w })
    (hk : tasks t = tasks s) : Reported t := by
  have hb : Booked t.1.games (report s.1.history) := by
    rw [hg, List.modify_eq_set_getElem?]
    cases hi : s.1.games[id]? with
    | none => exact h.booked
    | some res =>
      refine h.booked.set hi ((h.booked.intact id res hi).shaped.write w) ?_
      cases w <;> rfl
  have hlen : t.1.games.length = s.1.games.length := by rw [hg, List.length_modify]
  refine ⟨by rw [hh, hk]; exact h.calls, ?_, ?_, by rw [hh]; exact hb⟩
  · rw [hcur, hlen]
    exact h.latest
  · simp only [hh, hk, Privy, hlen]
    exact h.spawns

theorem reported_turn (h : Turn s t) (hs : Sound s) (hf : Full t.1.history)
    (he : s.1.entries < UInt64.size) (hr : Reported s) : Reported t := by
  cases h with
  | idle new hn hh hcur hc hg hk =>
    have hrep : report t.1.history = report s.1.history := by rw [hh, report_idle hn]
    exact hr.quiet hk hrep hr.calls (.inl hcur) hg fun _ _ _ => Or.inl
  | wrote id w hh hcur hc hg hk => exact hr.wrote hh hcur hg hk
  | turnedAway e result new _ hn hh hcur hc hg hk =>
    have hrep : report t.1.history = report s.1.history := by
      rw [hh, report, report_idle hn]
      rfl
    exact hr.quiet hk hrep hr.calls (.inl hcur) hg fun _ _ _ => Or.inl
  | stoppedEmpty new hn _ hh hcur hc hg hk =>
    have hrep : report t.1.history = report s.1.history := by
      rw [hh, report, report_idle hn]
      rfl
    exact hr.quiet hk hrep hr.calls (.inr hcur) hg fun _ _ _ => Or.inl
  | stopped id _ hh hcur hc hg hk =>
    have hrep : report t.1.history = { report s.1.history with
        calls := (.stop, s.1.current) :: (report s.1.history).calls } := by
      rw [hh]
      rfl
    refine hr.quiet hk hrep (.cons trivial hr.calls) (.inr hcur) hg ?_
    exact fun _ _ _ hm => Or.inl (List.mem_of_ne_of_mem (by nofun) hm)
  | started exports new hn hh hcur hc hg hk =>
    have hall : exports = .all true :=
      hf exports (hh ▸ List.mem_append_right _ List.mem_cons_self)
    have hrep : report t.1.history = { report s.1.history with
        calls := (.start exports, s.1.current) :: (report s.1.history).calls } := by
      rw [hh, report_idle hn]
      rfl
    refine hr.quiet hk hrep (.cons ⟨hall, rfl⟩ hr.calls) (.inl hcur) hg ?_
    exact fun _ _ _ hm => Or.inl (List.mem_of_ne_of_mem (by nofun) hm)
  | taken r id new hn hslot hh hcur hc hg hk =>
    -- the parked game is the current one, so the call is reported for the game it runs on
    have hid : s.1.current = some id := (hs.follows.tracks he).parked id hslot
    have hrep : report t.1.history = { report s.1.history with
        calls := (.request r, some id) :: (report s.1.history).calls } := by
      rw [hh, report_idle hn, ← hid]
      rfl
    refine hr.quiet hk hrep (.cons rfl hr.calls) (.inl hcur) hg ?_
    intro r' id' generation' hm
    rcases List.mem_cons.mp hm with heq | hm
    · cases heq
      exact Or.inr hid
    · exact Or.inl hm
  | parked exports config rest _ hk hh hcur hc hg hk' =>
    obtain ⟨⟨entry, game⟩, calls, ⟨rfl, rfl⟩, hrest, hcalls⟩ :=
      List.forall₂_cons_left_iff.mp (hk ▸ hr.calls)
    have hrep : report t.1.history = ⟨calls, (Game.create config .standard).exportInfo.ints,
        some s.1.games.length, (report s.1.history).spawning⟩ := by
      rw [hh, report, report_told hcalls, hcalls]
      rfl
    exact hr.made hk hk' hrest hrep hcur hg fun _ _ _ hm => hm
  | replaced exports config old rest _ hk hh hcur hc hg hk' =>
    obtain ⟨⟨entry, game⟩, calls, ⟨rfl, rfl⟩, hrest, hcalls⟩ :=
      List.forall₂_cons_left_iff.mp (hk ▸ hr.calls)
    have hrep : report t.1.history = ⟨(.start (.all true), game) :: calls,
        (Game.create config .standard).exportInfo.ints, some s.1.games.length,
        (report s.1.history).spawning⟩ := by
      rw [hh, report, report_told hcalls, hcalls]
      rfl
    refine hr.made hk hk' (.cons trivial hrest) hrep hcur hg ?_
    exact fun _ _ _ hm => List.mem_of_ne_of_mem (by nofun) hm
  | kept r id g accepted res rest _ hk hi hcar hh hcur hc hg hk' =>
    obtain ⟨_, calls, rfl, hrest, hcalls⟩ := List.forall₂_cons_left_iff.mp (hk ▸ hr.calls)
    have hrep : report t.1.history = { report (res.announced r g ++ s.1.history) with calls } := by
      rw [hh, report, Report.after, calls_announced, hcalls]
      rfl
    exact hr.ended hk hk' hcalls hrest hi hcar hrep hcur hg fun _ _ _ hm => hm
  | retired r id generation g accepted res rest _ hk hi hcar hh hcur hc hg hk' =>
    obtain ⟨_, calls, rfl, hrest, hcalls⟩ := List.forall₂_cons_left_iff.mp (hk ▸ hr.calls)
    have hrep : report t.1.history = { report (res.announced r g ++ s.1.history) with
        calls := (.request r, some id) :: calls } := by
      rw [hh, ← hcalls, ← calls_announced res r g]
    refine hr.ended hk hk' hcalls (.cons trivial hrest) hi hcar hrep hcur hg ?_
    exact fun _ _ _ hm => List.mem_of_ne_of_mem (by nofun) hm
  | closed id result rest hk hh hcur hc hg hk' =>
    obtain ⟨_, calls, -, hrest, hcalls⟩ := List.forall₂_cons_left_iff.mp (hk ▸ hr.calls)
    have hrep : report t.1.history = { report s.1.history with calls } := by
      rw [hh, report, report, Report.after, Report.after, hcalls]
      rfl
    refine hr.quiet hk' hrep hrest (.inl hcur) hg ?_
    exact fun _ _ _ hm => Or.inl (hk ▸ List.mem_cons_of_mem _ hm)

/-- While the openings and shutdowns begun fit in 64 bits and every opening got all four
integers, the history reports what it should. -/
def Trusted (s : Machine × Control) : Prop :=
  Full s.1.history → s.1.entries < UInt64.size → Reported s

theorem trusted_turn (h : Turn s t) (hs : Sound s) (hr : Trusted s) : Trusted t := by
  intro hf he
  have hsuf := turn_history h
  have hle : s.1.entries ≤ t.1.entries := hsuf.sublist.countP_le
  have hfs : Full s.1.history := fun exports hm => hf exports (hsuf.subset hm)
  exact reported_turn h hs hf (by omega) (hr hfs (by omega))

end Turn

theorem trusted_run {exported : List String} {moves : List Move} {m : Machine}
    (h : (Machine.initial exported).run moves = some m) : Trusted (m, .host) :=
  run_keeps_turn (fun ht hs _ => trusted_turn ht hs) h fun _ _ => reported_initial exported

/-- The host's integers describe the live game, but for a late spawning. Let the host pass all four
integers to every opening and leave them alone, and let the openings and shutdowns begun fit in
64 bits. Whenever a game is parked, in any nesting of calls, the first three integers are its own,
and the fourth is the number of edicts of the game that told it last. That is the parked game, or
one that was being spawned when the parked game was made; so if none was, all four are its own. -/
theorem export_block_describes (exported : List String) (moves : List Move) (m : Machine)
    (h : (Machine.initial exported).run moves = some m)
    (ht : ∀ move ∈ moves, move.isTidy = true) (hf : m.entries < UInt64.size) (id : GameId)
    (hid : m.cell.slot = some id) :
    ∃ res w other, m.games[id]? = some res ∧ m.games[w]? = some other ∧
      (report m.history).teller = some w ∧ (w = id ∨ w ∈ (report m.history).during) ∧
      m.ints = ⟨1, Edict.stride, res.game.edicts.length, other.game.numEdicts⟩ ∧
      ((report m.history).during = [] → m.ints = res.game.exportInfo.ints) := by
  have htallied := run_tallied h ht
  have hr : Reported (m, .host) := trusted_run h htallied.full hf
  have hcur : m.current = some id := ((follows_run h).tracks hf).parked id hid
  have hlatest : id + 1 = m.games.length := hr.latest id hcur
  obtain ⟨w, size, count, hteller, hp, hsize, hcount, hints⟩ := hr.booked.told id hlatest
  rw [sizes, List.getElem?_map, Option.map_eq_some_iff] at hsize
  rw [counts, List.getElem?_map, Option.map_eq_some_iff] at hcount
  obtain ⟨res, hres, rfl⟩ := hsize
  obtain ⟨other, hother, rfl⟩ := hcount
  have hw : w = id ∨ w ∈ (report m.history).during :=
    hp.imp_left fun hlast => Nat.succ.inj (hlast.trans hlatest.symm)
  refine ⟨res, w, other, hres, hother, hteller, hw, htallied.ints.trans hints, fun hd => ?_⟩
  obtain rfl : w = id := hw.resolve_right (by simp [hd])
  obtain rfl : res = other := Option.some.inj (hres.symm.trans hother)
  exact htallied.ints.trans hints

/-- A game is opened inside a request of another one, which is shut down when the request ends. -/
def openedInside (r : HostRequest) : List Move :=
  let reply : Move := .answer obligingHost
  let opening : List Move := [.enter (.start (.all true)), reply, reply, reply, reply]
  opening ++ .enter (.request r) :: opening ++ [reply, reply]

/-- The second game is opened inside a frame of the first one, and spawned after that. -/
theorem export_block_describes_spawned :
    let moves := openedInside .runFrame ++
      [.enter (.request (.spawnEntities none none none)), .answer obligingHost]
    ∃ m res, (Machine.initial symbols).run moves = some m ∧ m.stack = [] ∧
      m.cell.slot = some 1 ∧ m.games[1]? = some res ∧ res.game.numEdicts = 2 ∧
      m.ints = res.game.exportInfo.ints := by
  intro moves
  have hr : ((Machine.initial symbols).run moves).any fun m =>
      m.stack.length = 0 ∧ m.cell.slot = some 1 ∧ m.entries = 2 ∧ (report m.history).during = [] ∧
        m.games[1]?.any (·.game.numEdicts = 2) := by decide +kernel
  obtain ⟨m, hm, he⟩ := (Option.any_eq_true _ _).mp hr
  obtain ⟨hstack, hslot, hentries, hduring, hnum⟩ := of_decide_eq_true he
  obtain ⟨res, -, -, hres, -, -, -, -, hints⟩ := export_block_describes symbols moves m hm
    (by decide) (by rw [hentries]; decide) 1 hslot
  rw [hres] at hnum
  exact ⟨m, res, hm, List.eq_nil_of_length_eq_zero hstack, hslot, hres, of_decide_eq_true hnum,
    hints hduring⟩

/-- The second game is opened inside the spawning of the first one. It has one edict, and the host
is told of the two that the first one had. -/
theorem export_block_of_retired_game :
    ∃ m res, (Machine.initial symbols).run
        (openedInside (.spawnEntities none none none)) = some m ∧
      (∀ move ∈ openedInside (.spawnEntities none none none), move.isTidy = true) ∧
      m.stack = [] ∧ m.cell.slot = some 1 ∧ m.games[1]? = some res ∧ res.game.numEdicts = 1 ∧
      m.ints.numEdicts = 2 ∧ m.ints ≠ res.game.exportInfo.ints := by
  have hr : ((Machine.initial symbols).run
      (openedInside (.spawnEntities none none none))).any fun m =>
        m.stack.length = 0 ∧ m.cell.slot = some 1 ∧ m.ints.numEdicts = 2 ∧
          m.games[1]?.any (·.game.numEdicts = 1) := by decide +kernel
  obtain ⟨m, hm, he⟩ := (Option.any_eq_true _ _).mp hr
  obtain ⟨hstack, hslot, hints, hgame⟩ := of_decide_eq_true he
  obtain ⟨res, hres, hnum⟩ := (Option.any_eq_true _ _).mp hgame
  have hone : res.game.numEdicts = 1 := of_decide_eq_true hnum
  refine ⟨m, res, hm, by decide, List.eq_nil_of_length_eq_zero hstack, hslot, hres, hone, hints, ?_⟩
  intro heq
  have hcount : m.ints.numEdicts = res.game.numEdicts := congrArg Exports.numEdicts heq
  rw [hints, hone] at hcount
  exact absurd hcount (by decide)

end GameModule
