import GameModule.Proofs.Lifecycle.Reentry

/-!
# The lock is free at every call

A tick takes the lock, changes the cell and releases it in one go. Here such a tick is taken apart:
the module comes to wait for the lock, takes it, does a section of work, releases it, and only then
goes on. `LockStep` lists these steps, and `tick_lockSteps` says that every tick is a chain of them.
The lock is held exactly inside a section, no section calls the host or returns to it, and nobody
waits for a lock that is held. So the host may enter from inside any call.
-/
namespace GameModule

open Text (Bytes)

/-! ## Sections of work under the lock -/

/-- A section of work that is done with the lock held. -/
inductive Section where
  /-- A shutdown empties the slot. -/
  | clear
  | checkOut (r : HostRequest)
  | putBack (r : HostRequest) (id : GameId) (generation : UInt64) (accepted : Bool)
  /-- A new game is parked. -/
  | park (id : GameId)

/-- What follows a section once the lock is released: a notice may be left, and then there is work
in hand or the entry point returns. -/
inductive Sequel where
  | go (notice : Option Notice) (c : Control)
  | leave (notice : Option Notice) (result : EntryResult)

namespace Machine

def note? (m : Machine) : Option Notice → Machine
  | some n => m.note n
  | none => m

/-- The machine with its lock taken. -/
def withLock (m : Machine) : Machine := m.setCell { m.cell with held := true }

end Machine

def Sequel.follow (m : Machine) : Sequel → Machine × Control
  | .go notice c => (m.note? notice, c)
  | .leave notice result => ((m.note? notice).leave result, .host)

/-- Does a section, all of it with the lock held. A skipped request is logged here, before the lock
is released. -/
def Section.perform (m : Machine) : Section → Machine × Sequel
  | .clear =>
    let (parked, c) := m.cell.clear
    (m.setCell c, match parked with
      | some id => .go none (.retiring id .nothing)
      | none =>
        .leave (some (if c.running > 0 then .shutdownDeferred else .shutdownWithoutGame)) .nothing)
  | .checkOut r =>
    let (out, c) := m.cell.checkOut
    match out with
    | some id =>
      (m.setCell c, match m.games[id]? with
        | some res =>
          .go none
            (.running r id c.generation (Game.perform (r.decode id res.game.place) res.game))
        | none => .leave none (r.result false))
    | none =>
      ((m.setCell c).note (if c.running > 0 then .reentered r.name else .withoutGame r.name),
        .leave none (r.result false))
  | .putBack r id generation accepted =>
    let (kept, c) := m.cell.putBack id generation
    (m.setCell c,
      if kept then .leave none (r.result accepted) else .go none (.retiring id (r.result accepted)))
  | .park id =>
    let (previous, c) := m.cell.park id
    (m.setCell c, match previous with
      | some old => .go (some .replacing) (.retiring old (.table (some id)))
      | none => .leave none (.table (some id)))

/-! ## Steps of the lock -/

/-- Where the module stands with the lock. -/
inductive Standing where
  | outside (c : Control)
  /-- The next thing is to take the lock. -/
  | waiting (sec : Section)
  | inside (sec : Section)
  /-- The section is done and the lock still held. -/
  | leaving (q : Sequel)
  | released (q : Sequel)

def Standing.holds : Standing → Bool
  | .inside _ | .leaving _ => true
  | .outside _ | .waiting _ | .released _ => false

/-- One thing the module does, or the host while it has control, with the lock taken and released
on its own. -/
inductive LockStep : Machine × Standing → Machine × Standing → Prop
  /-- A tick that does not ask for the lock goes the same way with the lock held. -/
  | free {m m' : Machine} {c c' : Control} (h : Tick (m, c) (m', c'))
      (hu : Tick (m.withLock, c) (m'.withLock, c')) :
      LockStep (m, .outside c) (m', .outside c')
  | stop (m : Machine) :
      LockStep (m, .outside .host) (m.emit (.entered .stop), .waiting .clear)
  | request (m : Machine) (r : HostRequest) :
      LockStep (m, .outside .host) (m.arrive r, .waiting (.checkOut r))
  | finish (m : Machine) (r : HostRequest) (id : GameId) (generation : UInt64) (g : Game)
      (accepted : Bool) :
      LockStep (m, .outside (.running r id generation (.done g accepted)))
        ((m.setGame id g).announce r id, .waiting (.putBack r id generation accepted))
  | make (m : Machine) (exports : Exports Bool) (u : Unit) (config : Config) :
      LockStep (m, .outside (.opening exports (.done u config)))
        (m.made exports config, .waiting (.park m.games.length))
  | acquire {m : Machine} {c : Cell} (sec : Section) (hc : m.cell.acquire = some c) :
      LockStep (m, .waiting sec) (m.setCell c, .inside sec)
  | perform (m : Machine) (sec : Section) :
      LockStep (m, .inside sec) ((sec.perform m).1, .leaving (sec.perform m).2)
  | release (m : Machine) (q : Sequel) :
      LockStep (m, .leaving q) (m.setCell m.cell.release, .released q)
  | follow (m : Machine) (q : Sequel) :
      LockStep (m, .released q) ((q.follow m).1, .outside (q.follow m).2)

/-- Any number of steps. -/
abbrev LockSteps := Relation.ReflTransGen LockStep

/-! ## What a section leaves alone -/

section Perform

variable {m : Machine}

theorem perform_held (sec : Section) : (sec.perform m).1.cell.held = m.cell.held := by
  cases sec with
  | clear => rfl
  | checkOut r =>
    cases hs : m.cell.slot with
    | none => simp [Section.perform, Cell.checkOut, hs, Machine.note, Machine.emit]
    | some id => simp [Section.perform, Cell.checkOut, hs]
  | putBack r id generation accepted =>
    by_cases hk : m.cell.generation = generation ∧ m.cell.slot = none
    · simp [Section.perform, Cell.putBack, hk]
    · simp [Section.perform, Cell.putBack, hk]
  | park id => rfl

/-- A section never looks at the lock. -/
theorem perform_withLock (sec : Section) :
    sec.perform m.withLock = ((sec.perform m).1.withLock, (sec.perform m).2) := by
  cases sec with
  | clear => rfl
  | checkOut r =>
    cases hs : m.cell.slot with
    | none =>
      simp [Section.perform, Cell.checkOut, hs, Machine.withLock, Machine.setCell, Machine.note,
        Machine.emit]
    | some id => simp [Section.perform, Cell.checkOut, hs, Machine.withLock, Machine.setCell]
  | putBack r id generation accepted =>
    by_cases hk : m.cell.generation = generation ∧ m.cell.slot = none
    · simp [Section.perform, Cell.putBack, hk, Machine.withLock, Machine.setCell]
    · simp [Section.perform, Cell.putBack, hk, Machine.withLock, Machine.setCell]
  | park id => rfl

/-- A section leaves nothing in the history but a notice. -/
theorem perform_history (sec : Section) :
    ∃ new, (sec.perform m).1.history = new ++ m.history ∧ ∀ e ∈ new, ∃ n, e = .noted n := by
  cases sec with
  | checkOut r =>
    cases hs : m.cell.slot with
    | none =>
      generalize hn : (if m.cell.running > 0 then Notice.reentered r.name
        else .withoutGame r.name) = n
      refine ⟨[.noted n], ?_, by simp⟩
      simp [Section.perform, Cell.checkOut, hs, ← hn, Machine.note, Machine.emit]
    | some id => exact ⟨[], by simp [Section.perform, Cell.checkOut, hs], by simp⟩
  | _ => exact ⟨[], rfl, by simp⟩

end Perform

/-! ## A tick is a chain of steps -/

theorem acquire_of_free {c : Cell} (hf : c.held = false) :
    c.acquire = some { c with held := true } := by
  rw [Cell.acquire, hf]
  rfl

/-- A machine whose lock is free may take it, do a section, and release it. -/
theorem section_lockSteps {m : Machine} (sec : Section) {t : Machine × Control}
    (hf : m.cell.held = false) (ht : (sec.perform m).2.follow (sec.perform m).1 = t) :
    LockSteps (m, .waiting sec) (t.1, .outside t.2) := by
  have hrel : (sec.perform m).1.withLock.setCell (sec.perform m).1.withLock.cell.release =
      (sec.perform m).1 := by
    have hh : (sec.perform m).1.cell.held = false := (perform_held sec).trans hf
    simp only [Machine.withLock, Machine.setCell, Cell.release, ← hh]
  have hin := LockStep.perform m.withLock sec
  rw [perform_withLock] at hin
  have hout := LockStep.release (sec.perform m).1.withLock (sec.perform m).2
  rw [hrel] at hout
  have hend := LockStep.follow (sec.perform m).1 (sec.perform m).2
  rw [ht] at hend
  exact .head (.acquire sec (acquire_of_free hf)) (.head hin (.head hout (.single hend)))

theorem tick_lockSteps {s t : Machine × Control} (h : Tick s t) :
    LockSteps (s.1, .outside s.2) (t.1, .outside t.2) := by
  cases h with
  | write m id w => exact .single (.free (.write m id w) (.write m.withLock id w))
  | writeInts m ints => exact .single (.free (.writeInts m ints) (.writeInts m.withLock ints))
  | reveal m symbols => exact .single (.free (.reveal m symbols) (.reveal m.withLock symbols))
  | unbound m exports hb =>
    exact .single (.free (.unbound m exports hb) (.unbound m.withLock exports hb))
  | bound m exports hb => exact .single (.free (.bound m exports hb) (.bound m.withLock exports hb))
  | stopped m hf hs =>
    refine .head (.stop m) (section_lockSteps .clear hf ?_)
    simp [Section.perform, Cell.clear, Machine.emit, hs, Sequel.follow, Machine.note?]
  | stoppedEmpty m hf hs =>
    refine .head (.stop m) (section_lockSteps .clear hf ?_)
    simp [Section.perform, Cell.clear, Machine.emit, hs, Sequel.follow, Machine.note?]
  | checkedOut m r hf hs hg =>
    refine .head (.request m r) (section_lockSteps (.checkOut r) (by rwa [Machine.arrive_cell]) ?_)
    simp [Section.perform, Cell.checkOut, hs, hg, Sequel.follow, Machine.note?]
  | lost m r hf hs hg =>
    refine .head (.request m r) (section_lockSteps (.checkOut r) (by rwa [Machine.arrive_cell]) ?_)
    simp [Section.perform, Cell.checkOut, hs, hg, Sequel.follow, Machine.note?]
  | skipped m r hf hs =>
    -- the slot is left as it was found
    have hcell : (m.arrive r).setCell m.cell = m.arrive r := by
      rw [← Machine.arrive_cell m r]
      rfl
    refine .head (.request m r) (section_lockSteps (.checkOut r) (by rwa [Machine.arrive_cell]) ?_)
    simp [Section.perform, Cell.checkOut, hs, hcell, Sequel.follow, Machine.note?]
  | answered m reply hs hc =>
    exact .single (.free (.answered m reply hs hc) (.answered m.withLock reply hs hc))
  | openingNote m exports n o =>
    exact .single (.free (.openingNote m exports n o) (.openingNote m.withLock exports n o))
  | openingCall m exports u c resume =>
    exact .single (.free (.openingCall m exports u c resume)
      (.openingCall m.withLock exports u c resume))
  | parked m exports u config hf hs =>
    refine .head (.make m exports u config)
      (section_lockSteps (.park _) (by rwa [Machine.made_cell]) ?_)
    simp [Section.perform, Cell.park, hs, Sequel.follow, Machine.note?]
  | replaced m exports u config hf hs =>
    refine .head (.make m exports u config)
      (section_lockSteps (.park _) (by rwa [Machine.made_cell]) ?_)
    simp [Section.perform, Cell.park, hs, Sequel.follow, Machine.note?]
  | runningNote m r id generation n o =>
    exact .single (.free (.runningNote m r id generation n o)
      (.runningNote m.withLock r id generation n o))
  | runningCall m r id generation g c resume =>
    exact .single (.free (.runningCall m r id generation g c resume)
      (.runningCall m.withLock r id generation g c resume))
  | kept m r id generation g accepted hf hk =>
    refine .head (.finish m r id generation g accepted)
      (section_lockSteps (.putBack r id generation accepted) (by rwa [Machine.announce_cell]) ?_)
    simp [Section.perform, Machine.setGame, Cell.putBack, hk, Sequel.follow, Machine.note?]
  | retired m r id generation g accepted hf hk =>
    refine .head (.finish m r id generation g accepted)
      (section_lockSteps (.putBack r id generation accepted) (by rwa [Machine.announce_cell]) ?_)
    simp [Section.perform, Machine.setGame, Cell.putBack, hk, Sequel.follow, Machine.note?]
  | shutdown m id result hg =>
    exact .single (.free (.shutdown m id result hg) (.shutdown m.withLock id result hg))
  | shutdownLost m id result hg =>
    exact .single (.free (.shutdownLost m id result hg) (.shutdownLost m.withLock id result hg))
  | closingNote m id result n o =>
    exact .single (.free (.closingNote m id result n o) (.closingNote m.withLock id result n o))
  | closingCall m id result g c resume =>
    exact .single (.free (.closingCall m id result g c resume)
      (.closingCall m.withLock id result g c resume))
  | closed m id result g =>
    exact .single (.free (.closed m id result g) (.closed m.withLock id result g))

theorem ticks_lockSteps {s t : Machine × Control} (h : Ticks s t) :
    LockSteps (s.1, .outside s.2) (t.1, .outside t.2) := by
  induction h with
  | refl => exact .refl
  | tail _ ht ih => exact ih.trans (tick_lockSteps ht)

/-! ## The lock is held exactly inside a section -/

theorem acquire_held {c c' : Cell} (h : c.acquire = some c') : c'.held = true := by
  unfold Cell.acquire at h
  split at h
  · cases h
  · obtain rfl := Option.some.inj h
    rfl

theorem note?_cell (m : Machine) (n : Option Notice) : (m.note? n).cell = m.cell := by
  cases n <;> rfl

theorem follow_cell (m : Machine) (q : Sequel) : (q.follow m).1.cell = m.cell := by
  cases q with
  | go notice c => exact note?_cell m notice
  | leave notice result => exact note?_cell m notice

theorem held_lockStep {s t : Machine × Standing} (h : LockStep s t)
    (hs : s.1.cell.held = s.2.holds) : t.1.cell.held = t.2.holds := by
  cases h with
  | free h hu => exact free_tick h hs
  | stop m => exact hs
  | request m r => exact (congrArg Cell.held (m.arrive_cell r)).trans hs
  | finish m r id generation g accepted =>
    exact (congrArg Cell.held ((m.setGame id g).announce_cell r id)).trans hs
  | make m exports u config => exact (congrArg Cell.held (m.made_cell exports config)).trans hs
  | acquire sec hc => exact acquire_held hc
  | perform m sec => exact (perform_held sec).trans hs
  | release m q => rfl
  | follow m q => exact (congrArg Cell.held (follow_cell m q)).trans hs

theorem held_lockSteps {s t : Machine × Standing} (h : LockSteps s t)
    (hs : s.1.cell.held = s.2.holds) : t.1.cell.held = t.2.holds := by
  induction h with
  | refl => exact hs
  | tail _ hstep ih => exact held_lockStep hstep ih

/-- Control passes to the host, by a call or by a return. -/
def Event.handsOver : Event → Bool
  | .called .. | .returned _ => true
  | _ => false

/-- Control passes to the host outside the sections only. -/
theorem holds_of_handsOver {s t : Machine × Standing} (h : LockStep s t) {new : List Event}
    (hh : t.1.history = new ++ s.1.history) {e : Event} (he : e ∈ new) (ho : e.handsOver = true) :
    s.2.holds = false ∧ t.2.holds = false := by
  have hnone : ∀ {history : List Event}, history = new ++ history → False := by
    intro history hn
    rw [List.self_eq_append_left.mp hn] at he
    cases he
  cases h with
  | acquire sec hc => exact (hnone hh).elim
  | release m q => exact (hnone hh).elim
  | perform m sec =>
    obtain ⟨notices, hp, hn⟩ := perform_history (m := m) sec
    obtain rfl : new = notices := List.append_cancel_right (hh.symm.trans hp)
    obtain ⟨n, rfl⟩ := hn e he
    cases ho
  | _ => exact ⟨rfl, rfl⟩

/-! ## No entry point waits for its own lock -/

namespace Machine

variable {m : Machine}

theorem finishRunning_possible (hf : m.cell.held = false) (r : HostRequest) (id : GameId)
    (generation : UInt64) (accepted : Bool) :
    ∃ m', m.finishRunning r id generation accepted = some m' := by
  by_cases hk : m.cell.generation = generation ∧ m.cell.slot = none
  · exact ⟨_, finishRunning_kept r id generation accepted hf hk⟩
  · exact ⟨_, finishRunning_retired r id generation accepted hf hk⟩

theorem continueRunning_possible (hf : m.cell.held = false) (r : HostRequest) (id : GameId)
    (generation : UInt64) (o : Outcome Game Bool) :
    ∃ m', m.continueRunning r id generation o = some m' := by
  induction o generalizing m with
  | done g accepted =>
    exact finishRunning_possible (m := m.setGame id g) hf r id generation accepted
  | note n rest ih => exact ih (m := m.note n) hf
  | call g c resume => exact ⟨_, rfl⟩

theorem finishOpening_possible (hf : m.cell.held = false) (exports : Exports Bool)
    (config : Config) : ∃ m', m.finishOpening exports config = some m' := by
  change ∃ m', ((m.made exports config).locked (·.park m.games.length)).bind _ = some m'
  rw [locked_park _ (by rwa [made_cell])]
  exact ⟨_, rfl⟩

theorem continueOpening_possible (hf : m.cell.held = false) (exports : Exports Bool)
    (o : Outcome Unit Config) : ∃ m', m.continueOpening exports o = some m' := by
  induction o generalizing m with
  | done u config => exact finishOpening_possible hf exports config
  | note n rest ih => exact ih (m := m.note n) hf
  | call u c resume => exact ⟨_, rfl⟩

/-- With the lock free, every entry point runs to its first call or to its end. -/
theorem enter_possible (hf : m.cell.held = false) (e : Entry) : ∃ m', m.enter e = some m' := by
  cases e with
  | start exports =>
    change ∃ m', (m.emit (.entered (.start exports))).start exports = some m'
    cases hb : bind m.exported with
    | error cause =>
      simp only [start, emit, hb]
      exact ⟨_, rfl⟩
    | ok count =>
      simp only [start, emit, hb]
      refine continueOpening_possible ?_ exports _
      exact hf
  | stop =>
    cases hs : m.cell.slot with
    | none => exact ⟨_, enter_stop_empty hf hs⟩
    | some id => exact ⟨_, enter_stop_parked hf hs⟩
  | request r =>
    cases hs : m.cell.slot with
    | none => exact ⟨_, enter_request_skipped r hf hs⟩
    | some id =>
      cases hg : m.games[id]? with
      | none => exact ⟨_, enter_request_lost r hf hs hg⟩
      | some res =>
        rw [enter_request_parked r hf hs hg]
        refine continueRunning_possible ?_ r id _ _
        simp only [setCell_cell, Cell.checkOut, hs]
        exact hf

/-- With the lock free, suspended work is taken up by an answer and runs to its next call or to its
end. -/
theorem answer_possible (hb : Balanced (m, .host)) (hf : m.cell.held = false)
    (hs : m.stack ≠ []) (reply : (c : HostCall Bytes) → c.Reply) :
    ∃ m', m.answer reply = some m' := by
  obtain ⟨f, rest, hcons⟩ := List.exists_cons_of_ne_nil hs
  have hgame : ∀ id, f.work.game? = some id → ∃ res, m.games[id]? = some res := by
    intro id hid
    have hi : id ∈ ledger (m, .host) := by
      simp [ledger, pending, Control.works, hcons, hid]
    exact ⟨_, List.getElem?_eq_getElem (hb.lt_of_mem hi)⟩
  simp only [answer, hcons]
  cases f with
  | opening exports c resume =>
    exact continueOpening_possible (m := { m with stack := rest }) hf exports _
  | running r id generation c resume =>
    obtain ⟨res, hg⟩ := hgame id rfl
    simp only [hg]
    exact continueRunning_possible (m := { m with stack := rest }) hf r id generation _
  | closing id result c resume =>
    obtain ⟨res, hg⟩ := hgame id rfl
    simp only [hg]
    exact ⟨_, rfl⟩

end Machine

/-- The lock is never held across a call to the host. After any run, inside any nesting of calls,
the lock is free; and in whatever happens from then on it is held exactly inside the sections, it is
free whenever the module is about to take it, and it is free before and after every step by which
control passes to the host: every call, made for a game that is being made, runs a request or is
shut down, and every return of an entry point. So every entry point can be entered from inside any
call, and every call that is answered goes on. -/
theorem lock_free_at_calls (exported : List String) (moves : List Move) (m : Machine)
    (h : (Machine.initial exported).run moves = some m) :
    LockSteps (Machine.initial exported, .outside .host) (m, .outside .host) ∧
    m.cell.held = false ∧
    (∀ s, LockSteps (m, .outside .host) s →
      s.1.cell.held = s.2.holds ∧ ∀ sec, s.2 = .waiting sec → s.1.cell.acquire ≠ none) ∧
    (∀ s t new, LockSteps (m, .outside .host) s → LockStep s t →
      t.1.history = new ++ s.1.history → (∃ e ∈ new, e.handsOver = true) →
        s.1.cell.held = false ∧ t.1.cell.held = false) ∧
    (∀ e, ∃ m', m.enter e = some m') ∧
    (m.stack ≠ [] → ∀ reply, ∃ m', m.answer reply = some m') := by
  have hsteps : LockSteps (Machine.initial exported, .outside .host) (m, .outside .host) :=
    ticks_lockSteps (Machine.run_ticks h)
  have hf : m.cell.held = false := held_lockSteps hsteps rfl
  have hheld : ∀ s, LockSteps (m, .outside .host) s → s.1.cell.held = s.2.holds :=
    fun s hs => held_lockSteps hs hf
  refine ⟨hsteps, hf, ?_, ?_, Machine.enter_possible hf,
    Machine.answer_possible (balanced_run h) hf⟩
  · intro s hs
    refine ⟨hheld s hs, fun sec hw => ?_⟩
    have hfree : s.1.cell.held = false := by rw [hheld s hs, hw]; rfl
    rw [acquire_of_free hfree]
    nofun
  · rintro s t new hs hstep hh ⟨e, he, ho⟩
    obtain ⟨hbefore, hafter⟩ := holds_of_handsOver hstep hh he ho
    exact ⟨(hheld s hs).trans hbefore, (hheld t (hs.tail hstep)).trans hafter⟩

/-- Inside the frame of the second game, two requests deep. The host may stop the game there, and
the lock is taken and held while the slot is emptied. -/
theorem lock_free_at_calls_nested :
    ∃ m, (Machine.initial symbols).run (nestedRetirement.take 13) = some m ∧ m.stack.length = 2 ∧
      m.cell.held = false ∧ (∃ m', m.enter .stop = some m') ∧
      ∃ s, LockSteps (m, .outside .host) s ∧ s.2 = .inside .clear ∧ s.1.cell.held = true := by
  have hr : ((Machine.initial symbols).run (nestedRetirement.take 13)).any
      fun m => m.stack.length = 2 := by decide +kernel
  obtain ⟨m, hm, he⟩ := (Option.any_eq_true _ _).mp hr
  obtain ⟨-, hf, hheld, -, henter, -⟩ := lock_free_at_calls _ _ m hm
  have hs : LockSteps (m, .outside .host) _ :=
    .head (.stop m) (.single (.acquire .clear (acquire_of_free hf)))
  exact ⟨m, hm, of_decide_eq_true he, hf, henter .stop, _, hs, rfl, (hheld _ hs).1⟩

end GameModule
