import GameModule.Proofs.Lifecycle.Current
import GameModule.Proofs.Lifecycle.Reentry

/-!
# Binding is all or nothing

The host functions are looked up one after the other, in the order of the table of symbols: binding
succeeds if the host exports the whole table, and otherwise names the first symbol it does not
export. An opening binds before it does anything else, so one that fails to bind leaves nothing
behind but its entry, a notice and its return. The module never reads the history, hence whatever
the host does next goes as if the opening had not been tried. Nothing is assumed of the machine.
-/
namespace GameModule

open Text (Bytes)

/-! ## Looking symbols up -/

/-- Symbols that are looked up in turn fail at the first one that is not exported. -/
theorem forM_lookUp (exported names : List String) :
    forM names (lookUp exported) =
      match names.find? (! exported.contains ·) with
      | some symbol => .error (.missing symbol)
      | none => .ok () := by
  induction names with
  | nil => rfl
  | cons name names ih =>
    rw [List.forM_cons]
    cases he : exported.contains name with
    | true =>
      rw [lookUp, if_pos he, List.find?_cons_of_neg (by rw [he]; decide)]
      exact ih
    | false =>
      rw [lookUp, if_neg (by rw [he]; decide), List.find?_cons_of_pos (by rw [he]; rfl)]
      rfl

/-- The functions are bound in the order of the table. -/
theorem bind_eq_forM (exported : List String) :
    bind exported = (do forM symbols (lookUp exported); return symbols.length) := by
  simp only [bind, symbols, List.map_cons, List.map_nil, List.forM_cons, List.forM_nil, bind_assoc,
    pure_bind]

theorem bind_eq (exported : List String) :
    bind exported =
      match symbols.find? (! exported.contains ·) with
      | some symbol => .error (.missing symbol)
      | none => .ok 41 := by
  rw [bind_eq_forM, forM_lookUp]
  cases symbols.find? (! exported.contains ·) <;> rfl

theorem bind_eq_ok_iff {exported : List String} {count : Nat} :
    bind exported = .ok count ↔ count = 41 ∧ ∀ symbol ∈ symbols, symbol ∈ exported := by
  rw [bind_eq]
  cases hf : symbols.find? (! exported.contains ·) with
  | none =>
    rw [List.find?_eq_none] at hf
    have hall : ∀ symbol ∈ symbols, symbol ∈ exported := by
      intro symbol hs
      simpa using hf symbol hs
    constructor
    · intro h
      exact ⟨(Except.ok.inj h).symm, hall⟩
    · rintro ⟨rfl, -⟩
      rfl
  | some symbol =>
    have hs : symbol ∉ exported := by simpa using List.find?_some hf
    constructor
    · intro h
      cases h
    · rintro ⟨-, hall⟩
      exact absurd (hall symbol (List.mem_of_find?_eq_some hf)) hs

theorem bind_eq_error_iff {exported : List String} {cause : BindError} :
    bind exported = .error cause ↔
      ∃ before symbol after, symbols = before ++ symbol :: after ∧
        (∀ earlier ∈ before, earlier ∈ exported) ∧ symbol ∉ exported ∧ cause = .missing symbol := by
  have hfirst : ∀ symbol, symbols.find? (! exported.contains ·) = some symbol ↔
      ∃ before after, symbols = before ++ symbol :: after ∧
        (∀ earlier ∈ before, earlier ∈ exported) ∧ symbol ∉ exported := by
    intro symbol
    rw [List.find?_eq_some_iff_append]
    constructor
    · rintro ⟨hs, before, after, he, hb⟩
      exact ⟨before, after, he, by simpa using hb, by simpa using hs⟩
    · rintro ⟨before, after, he, hb, hs⟩
      exact ⟨by simpa using hs, before, after, he, by simpa using hb⟩
  rw [bind_eq]
  cases hf : symbols.find? (! exported.contains ·) with
  | none =>
    constructor
    · intro h
      cases h
    · rintro ⟨before, symbol, after, he, hb, hs, -⟩
      have hf' := (hfirst symbol).mpr ⟨before, after, he, hb, hs⟩
      rw [hf] at hf'
      cases hf'
  | some symbol =>
    constructor
    · intro h
      obtain ⟨before, after, he, hb, hs⟩ := (hfirst symbol).mp hf
      exact ⟨before, symbol, after, he, hb, hs, (Except.error.inj h).symm⟩
    · rintro ⟨before, symbol', after, he, hb, hs, rfl⟩
      have hf' := (hfirst symbol').mpr ⟨before, after, he, hb, hs⟩
      rw [hf] at hf'
      cases hf'
      rfl

/-! ## The module does not read the history -/

namespace Machine

/-- The machine after an older past. -/
def onto (m : Machine) (past : List Event) : Machine := { m with history := m.history ++ past }

section Onto

variable (m : Machine) (past : List Event)

theorem store_onto (exports : Exports Bool) (field : ExportField) (value : Int) :
    (m.onto past).store exports field value = (m.store exports field value).onto past := by
  unfold store
  split <;> rfl

theorem locked_onto {α : Type} (f : Cell → α × Cell) :
    (m.onto past).locked f = (m.locked f).map fun p => (p.1, p.2.onto past) := by
  unfold locked
  rw [Option.map_map]
  rfl

theorem announce_onto (r : HostRequest) (id : GameId) :
    (m.onto past).announce r id = (m.announce r id).onto past := by
  have hp : (m.onto past).games[id]? = m.games[id]? := rfl
  cases r with
  | spawnEntities map entities spawnPoint =>
    cases hg : m.games[id]? with
    | none => simp only [announce, hp, hg]
    | some res => simp only [announce, hp, hg, store_onto]
  | _ => rfl

theorem made_onto (exports : Exports Bool) (config : Config) :
    (m.onto past).made exports config = (m.made exports config).onto past := by
  simp only [made, ← store_onto]
  rfl

theorem arrive_onto (r : HostRequest) : (m.onto past).arrive r = (m.arrive r).onto past := by
  unfold arrive
  split <;> rfl

theorem continueClosing_onto (id : GameId) (result : EntryResult) (o : Outcome Game Unit) :
    (m.onto past).continueClosing id result o = (m.continueClosing id result o).onto past := by
  induction o generalizing m with
  | done g _ => rfl
  | note n rest ih => exact ih (m.note n)
  | call g c resume _ => rfl

theorem close_onto (id : GameId) (result : EntryResult) :
    (m.onto past).close id result = (m.close id result).onto past := by
  cases hg : m.games[id]? with
  | none =>
    simp only [close, onto, hg]
    rfl
  | some res =>
    simp only [close, hg, ← continueClosing_onto]
    simp only [onto, hg]

theorem finishRunning_onto (r : HostRequest) (id : GameId) (generation : UInt64)
    (accepted : Bool) :
    (m.onto past).finishRunning r id generation accepted =
      (m.finishRunning r id generation accepted).map (·.onto past) := by
  change (((m.onto past).announce r id).locked (·.putBack id generation)).bind _ =
    (((m.announce r id).locked (·.putBack id generation)).bind _).map _
  rw [announce_onto, locked_onto]
  cases (m.announce r id).locked (·.putBack id generation) with
  | none => rfl
  | some p =>
    obtain ⟨kept, m'⟩ := p
    cases kept with
    | true => rfl
    | false => exact congrArg some (close_onto ..)

theorem continueRunning_onto (r : HostRequest) (id : GameId) (generation : UInt64)
    (o : Outcome Game Bool) :
    (m.onto past).continueRunning r id generation o =
      (m.continueRunning r id generation o).map (·.onto past) := by
  induction o generalizing m with
  | done g accepted => exact finishRunning_onto (m.setGame id g) past r id generation accepted
  | note n rest ih => exact ih (m.note n)
  | call g c resume _ => rfl

theorem finishOpening_onto (exports : Exports Bool) (config : Config) :
    (m.onto past).finishOpening exports config =
      (m.finishOpening exports config).map (·.onto past) := by
  change (((m.onto past).made exports config).locked (·.park m.games.length)).bind _ =
    (((m.made exports config).locked (·.park m.games.length)).bind _).map _
  rw [made_onto, locked_onto]
  cases (m.made exports config).locked (·.park m.games.length) with
  | none => rfl
  | some p =>
    obtain ⟨previous, m'⟩ := p
    cases previous with
    | none => rfl
    | some old => exact congrArg some (close_onto (m'.note .replacing) past old _)

theorem continueOpening_onto (exports : Exports Bool) (o : Outcome Unit Config) :
    (m.onto past).continueOpening exports o =
      (m.continueOpening exports o).map (·.onto past) := by
  induction o generalizing m with
  | done u config => exact finishOpening_onto m past exports config
  | note n rest ih => exact ih (m.note n)
  | call u c resume _ => rfl

theorem start_onto (exports : Exports Bool) :
    (m.onto past).start exports = (m.start exports).map (·.onto past) := by
  have he : (m.onto past).exported = m.exported := rfl
  rw [start, start, he]
  cases bind m.exported with
  | error cause => rfl
  | ok count => exact continueOpening_onto (m.note (.bound count)) past exports _

theorem stop_onto : (m.onto past).stop = m.stop.map (·.onto past) := by
  change ((m.onto past).locked Cell.clear).bind _ = ((m.locked Cell.clear).bind _).map _
  rw [locked_onto]
  cases m.locked Cell.clear with
  | none => rfl
  | some p =>
    obtain ⟨parked, m'⟩ := p
    cases parked with
    | some id => exact congrArg some (close_onto ..)
    | none =>
      change some (if m'.cell.running > 0 then _ else _) = (some (if m'.cell.running > 0 then _
        else _)).map _
      split <;> rfl

theorem request_onto (r : HostRequest) :
    (m.onto past).enter (.request r) = (m.enter (.request r)).map (·.onto past) := by
  cases hf : m.cell.held with
  | true =>
    have hl : (m.arrive r).cell.held = true := by rwa [arrive_cell]
    change (((m.onto past).arrive r).locked Cell.checkOut).bind _ =
      (((m.arrive r).locked Cell.checkOut).bind _).map _
    rw [arrive_onto, locked_onto, locked_held _ hl]
    rfl
  | false =>
    cases hs : m.cell.slot with
    | none =>
      rw [enter_request_skipped (m := m.onto past) r hf hs, enter_request_skipped r hf hs,
        arrive_onto]
      rfl
    | some id =>
      cases hg : m.games[id]? with
      | none =>
        rw [enter_request_lost (m := m.onto past) r hf hs hg, enter_request_lost r hf hs hg,
          arrive_onto]
        rfl
      | some res =>
        rw [enter_request_parked (m := m.onto past) r hf hs hg, enter_request_parked r hf hs hg,
          arrive_onto]
        exact continueRunning_onto ((m.arrive r).setCell m.cell.checkOut.2) past r id _ _

theorem answer_onto (reply : (c : HostCall Bytes) → c.Reply) :
    (m.onto past).answer reply = (m.answer reply).map (·.onto past) := by
  have hp : (m.onto past).stack = m.stack := rfl
  cases hs : m.stack with
  | nil =>
    simp only [answer, hp, hs]
    rfl
  | cons frame stack =>
    cases frame with
    | opening exports c resume =>
      simp only [answer, hp, hs]
      exact continueOpening_onto { m with stack } past exports _
    | running r id generation c resume =>
      have hq : (m.onto past).games[id]? = m.games[id]? := rfl
      cases hg : m.games[id]? with
      | none =>
        simp only [answer, hp, hs, hq, hg]
        rfl
      | some res =>
        rw [answer_running (m := m.onto past) reply hs hg, answer_running reply hs hg]
        exact continueRunning_onto { m with stack } past r id generation _
    | closing id result c resume =>
      have hq : (m.onto past).games[id]? = m.games[id]? := rfl
      cases hg : m.games[id]? with
      | none =>
        simp only [answer, hp, hs, hq, hg]
        rfl
      | some res =>
        rw [answer_closing (m := m.onto past) reply hs hg, answer_closing reply hs hg]
        exact congrArg some (continueClosing_onto { m with stack } past id result _)

theorem step_onto (move : Move) : (m.onto past).step move = (m.step move).map (·.onto past) := by
  cases move with
  | enter e =>
    cases e with
    | start exports => exact start_onto (m.emit (.entered (.start exports))) past exports
    | stop => exact stop_onto (m.emit (.entered .stop)) past
    | request r => exact request_onto m past r
  | answer reply => exact answer_onto m past reply
  | write id w => rfl
  | writeInts ints => rfl
  | reveal symbols => rfl

theorem run_onto (moves : List Move) :
    (m.onto past).run moves = (m.run moves).map (·.onto past) := by
  induction moves generalizing m with
  | nil => rfl
  | cons move moves ih =>
    rw [run, run, step_onto]
    cases m.step move with
    | none => rfl
    | some m' => exact ih m'

end Onto

end Machine

/-! ## Openings that bind, and openings that do not -/

section Start

variable {m : Machine} {cause : BindError}

theorem step_start_unbound (exports : Exports Bool) (hb : bind m.exported = .error cause) :
    m.step (.enter (.start exports)) =
      some (m.withHistory (.returned (.table none) :: .noted (.unbound cause) ::
        .entered (.start exports) :: m.history)) := by
  change (m.emit (.entered (.start exports))).start exports = _
  simp only [Machine.start, Machine.emit, hb]
  rfl

/-- The first thing asked of the host is the number of clients. -/
theorem step_start_bound (exports : Exports Bool) (hb : bind m.exported = .ok 41) :
    ∃ m', m.step (.enter (.start exports)) = some m' ∧
      m'.history =
        .called none (HostCall.send (.cvar "maxclients" "4" (Cvar.serverInfo ||| Cvar.latched))) ::
          .noted (.bound 41) :: .entered (.start exports) :: m.history := by
  change ∃ m', (m.emit (.entered (.start exports))).start exports = some m' ∧ _
  simp only [Machine.start, Machine.emit, hb]
  exact ⟨_, rfl, rfl⟩

end Start

/-- Binding is all or nothing and reports the first gap. The table has 41 symbols, all different.
Whatever the host exports, binding succeeds if and only if that is the whole table, and it fails
with a symbol if and only if that is the first one of the table that is missing. An opening notes
its success before its first call, and only if it binds. An opening that fails to bind, with the
module in any state and inside any calls, returns no table. It makes no call and leaves the host's
integers, the cell, the games and all work under way as they were, and so the current game; and
whatever the host does next goes as if the opening had not been tried, but for the three events it
left in the history. -/
theorem binding_all_or_nothing (m : Machine) (exports : Exports Bool) :
    (symbols.length = 41 ∧ symbols.Nodup) ∧
    (∀ count, bind m.exported = .ok count ↔
      count = 41 ∧ ∀ symbol ∈ symbols, symbol ∈ m.exported) ∧
    (∀ cause, bind m.exported = .error cause ↔
      ∃ before symbol after, symbols = before ++ symbol :: after ∧
        (∀ earlier ∈ before, earlier ∈ m.exported) ∧ symbol ∉ m.exported ∧
        cause = .missing symbol) ∧
    (bind m.exported = .ok 41 →
      ∃ m' first, m.step (.enter (.start exports)) = some m' ∧
        m'.history = .called none first :: .noted (.bound 41) :: .entered (.start exports) ::
          m.history) ∧
    ∀ cause, bind m.exported = .error cause →
      ∃ m', m.step (.enter (.start exports)) = some m' ∧
        m'.history = .returned (.table none) :: .noted (.unbound cause) ::
          .entered (.start exports) :: m.history ∧
        m'.ints = m.ints ∧ m'.cell = m.cell ∧ m'.games = m.games ∧ m'.stack = m.stack ∧
        m'.exported = m.exported ∧ m'.current = m.current ∧
        ∀ moves, ∃ after : Option Machine,
          m.run moves = after.map (·.onto m.history) ∧
          m'.run moves = after.map (·.onto m'.history) := by
  refine ⟨⟨rfl, by decide +kernel⟩, fun _ => bind_eq_ok_iff, fun _ => bind_eq_error_iff, ?_, ?_⟩
  · intro hb
    obtain ⟨m', hm, hh⟩ := step_start_bound exports hb
    exact ⟨m', _, hm, hh⟩
  · intro cause hb
    refine ⟨_, step_start_unbound exports hb, rfl, rfl, rfl, rfl, rfl, rfl, rfl, ?_⟩
    intro moves
    -- both runs are the run of the machine without a past
    exact ⟨(m.withHistory []).run moves, (m.withHistory []).run_onto m.history moves,
      (m.withHistory []).run_onto _ moves⟩

/-- A symbol of the host is gone while a game is out with a command. -/
theorem binding_all_or_nothing_running :
    ∃ m m', (Machine.initial symbols).run (nestedRetirement.take 6) = some m ∧
      m.cell.slot = none ∧ m.cell.running = 1 ∧
      { m with exported := symbols.eraseIdx 6 }.step (.enter (.start (.all true))) = some m' ∧
      m'.history = .returned (.table none) ::
        .noted (.unbound (.missing "SV_Mono_Export_DPrintf")) :: .entered (.start (.all true)) ::
          m.history ∧
      m'.cell = m.cell ∧ m'.ints = m.ints := by
  have hr : ((Machine.initial symbols).run (nestedRetirement.take 6)).any fun m =>
      m.cell.slot = none ∧ m.cell.running = 1 := by decide +kernel
  obtain ⟨m, hm, he⟩ := (Option.any_eq_true _ _).mp hr
  obtain ⟨hs, hn⟩ := of_decide_eq_true he
  have hf : symbols.find? (! (symbols.eraseIdx 6).contains ·) = some "SV_Mono_Export_DPrintf" := by
    decide +kernel
  have hb : bind (symbols.eraseIdx 6) = .error (.missing "SV_Mono_Export_DPrintf") := by
    rw [bind_eq, hf]
  obtain ⟨-, -, -, -, hfail⟩ :=
    binding_all_or_nothing { m with exported := symbols.eraseIdx 6 } (.all true)
  obtain ⟨m', hstep, hh, hints, hcell, -⟩ := hfail _ hb
  exact ⟨m, m', hm, hs, hn, hstep, hh, hcell, hints⟩

end GameModule
