import GameModule.Proofs.Lifecycle.Conservation

/-!
# Skipped re-entry is invisible

While a request or a shutdown is under way its game is out of the cell, so a request the host makes
from inside a call finds no game and is skipped. Two runs of one entry point are compared: in both
the host gives the same answers and makes the same writes, in one of them it also makes requests
from inside its calls. They stay equal in everything but the history. Openings and shutdowns from
inside a call are left out: they do retire the game.
-/
namespace GameModule

open Text (Bytes)

/-! ## The two hosts -/

/-- What a host may do at a call before it answers: make a request, or write to memory it may
write to. -/
inductive Aside where
  | request (r : HostRequest)
  | write (id : GameId) (w : Game.HostWrite)
  | writeInts (ints : Exports Int)
  | reveal (symbols : List String)

namespace Aside

def move : Aside → Move
  | .request r => .enter (.request r)
  | .write id w => .write id w
  | .writeInts ints => .writeInts ints
  | .reveal symbols => .reveal symbols

def isRequest : Aside → Bool
  | .request _ => true
  | _ => false

end Aside

/-- What a host does at one call. -/
structure Callback where
  asides : List Aside
  reply : (c : HostCall Bytes) → c.Reply

namespace Callback

def loud (c : Callback) : List Move := c.asides.map Aside.move ++ [.answer c.reply]

/-- The same answer and the same writes, without the requests. -/
def quiet (c : Callback) : List Move :=
  (c.asides.filter fun a => !a.isRequest).map Aside.move ++ [.answer c.reply]

end Callback

/-- The host deals with `n` calls. -/
def answers (speak : Callback → List Move) (host : Nat → Callback) (n : Nat) : List Move :=
  (List.range n).flatMap fun k => speak (host k)

theorem answers_succ (speak : Callback → List Move) (host : Nat → Callback) (n : Nat) :
    answers speak host (n + 1) =
      speak (host 0) ++ answers speak (fun k => host (k + 1)) n := by
  rw [answers, List.range_succ_eq_map, List.flatMap_cons, List.flatMap_map]
  rfl

theorem answers_add (speak : Callback → List Move) (host : Nat → Callback) (n k : Nat) :
    answers speak host (n + k) =
      answers speak host n ++ answers speak (fun i => host (n + i)) k := by
  rw [answers, List.range_add, List.flatMap_append, List.flatMap_map]
  rfl

/-! ## Histories that differ in skipped requests -/

def Event.isReturn : Event → Bool
  | .returned _ => true
  | _ => false

/-- The first history has skipped requests where the second has nothing: each is entered, leaves
notices and is turned down. All else is the same in both, and none of it is a return. -/
inductive Skips : List Event → List Event → Prop
  | nil : Skips [] []
  | both (e : Event) {new₁ new₂ : List Event} (he : e.isReturn = false) (h : Skips new₁ new₂) :
      Skips (e :: new₁) (e :: new₂)
  | skipped (r : HostRequest) (notices : List Notice) {new₁ new₂ : List Event}
      (h : Skips new₁ new₂) :
      Skips (.returned (r.result false) :: (notices.map .noted ++ .entered (.request r) :: new₁))
        new₂

/-- The call an event is, and the game it was made for. -/
def Event.call? : Event → Option (Option GameId × HostCall Bytes)
  | .called game c => some (game, c)
  | _ => none

/-- The host calls of a machine, the latest first. -/
def Machine.calls (m : Machine) : List (Option GameId × HostCall Bytes) :=
  m.history.filterMap Event.call?

namespace Skips

theorem append {new new₁ new₂ : List Event} (h : Skips new₁ new₂)
    (hn : ∀ e ∈ new, e.isReturn = false) : Skips (new ++ new₁) (new ++ new₂) := by
  induction new with
  | nil => exact h
  | cons e new ih =>
    refine .both e (hn e List.mem_cons_self) ?_
    exact ih fun e' he => hn e' (List.mem_cons_of_mem _ he)

theorem calls_eq {new₁ new₂ : List Event} (h : Skips new₁ new₂) :
    new₁.filterMap Event.call? = new₂.filterMap Event.call? := by
  induction h with
  | nil => rfl
  | both e _ _ ih => rw [List.filterMap_cons, List.filterMap_cons, ih]
  | skipped r notices h ih =>
    have hn : (notices.map Event.noted).filterMap Event.call? = [] := by
      rw [List.filterMap_map]
      exact List.filterMap_eq_nil_iff.mpr fun _ _ => rfl
    rw [List.filterMap_cons_none rfl, List.filterMap_append, hn, List.nil_append,
      List.filterMap_cons_none rfl]
    exact ih

/-- A connecting client that is skipped is refused. -/
theorem refused {new₁ new₂ : List Event} (h : Skips new₁ new₂) {accepted : Bool}
    (hm : .returned (.verdict accepted) ∈ new₁) : accepted = false := by
  induction h with
  | nil => cases hm
  | both e he _ ih =>
    rcases List.mem_cons.mp hm with rfl | hm
    · cases he
    · exact ih hm
  | skipped r notices _ ih =>
    rcases List.mem_cons.mp hm with hr | hm
    · rw [Event.returned.injEq] at hr
      unfold HostRequest.result at hr
      split at hr
      · cases hr
        rfl
      · cases hr
    · rcases List.mem_append.mp hm with hm | hm
      · obtain ⟨n, _, hn⟩ := List.mem_map.mp hm
        cases hn
      · rcases List.mem_cons.mp hm with hm | hm
        · cases hm
        · exact ih hm

end Skips

/-! ## Machines that differ in their history -/

namespace Machine

def withHistory (m : Machine) (h : List Event) : Machine := { m with history := h }

@[simp] theorem withHistory_games (m : Machine) (h : List Event) :
    (m.withHistory h).games = m.games := rfl

theorem arrive_withHistory (m : Machine) (r : HostRequest) :
    ∃ notices : List Notice, ∀ h, (m.withHistory h).arrive r =
      m.withHistory (notices.map .noted ++ .entered (.request r) :: h) := by
  cases hl : r.lacksInput with
  | true =>
    refine ⟨[.missingInput], fun h => ?_⟩
    rw [arrive, hl]
    rfl
  | false =>
    refine ⟨[], fun h => ?_⟩
    rw [arrive, hl]
    rfl

theorem store_withHistory (m : Machine) (exports : Exports Bool) (field : ExportField)
    (value : Int) :
    ∃ (m' : Machine) (new : List Event), m'.cell = m.cell ∧ m'.stack = m.stack ∧
      (∀ e ∈ new, e.isReturn = false) ∧ ∀ h,
        (m.withHistory h).store exports field value = m'.withHistory (new ++ h) := by
  cases he : exports.get field with
  | true =>
    refine ⟨{ m with ints := m.ints.set field value }, [.stored field value], rfl, rfl,
      by simp [Event.isReturn], fun h => ?_⟩
    rw [store, he]
    rfl
  | false =>
    refine ⟨m, [], rfl, rfl, by simp, fun h => ?_⟩
    rw [store, he]
    rfl

theorem announce_withHistory (m : Machine) (r : HostRequest) (id : GameId) :
    ∃ (m' : Machine) (new : List Event), m'.cell = m.cell ∧ m'.stack = m.stack ∧
      (∀ e ∈ new, e.isReturn = false) ∧ ∀ h,
        (m.withHistory h).announce r id = m'.withHistory (new ++ h) := by
  unfold announce
  simp only [withHistory_games]
  split
  · exact store_withHistory ..
  · exact ⟨m, [], rfl, rfl, by simp, fun _ => rfl⟩

theorem run_append (m : Machine) (moves moves' : List Move) :
    m.run (moves ++ moves') = (m.run moves).bind (·.run moves') := by
  induction moves generalizing m with
  | nil => rfl
  | cons move moves ih =>
    rw [List.cons_append, run, run, Option.bind_assoc]
    congr 1
    funext m'
    exact ih m'

end Machine

/-! ## Two runs from call to call -/

/-- Both runs come to the end of the entry point after the same number of calls. They give the
same result back and leave the same machine, and what they add to `base` differs in skipped
requests. -/
def Concludes (base : List Event) (m₁ m₂ : Machine) (host : Nat → Callback) : Prop :=
  ∃ (n : Nat) (m : Machine) (result : EntryResult) (new₁ new₂ : List Event),
    m₁.run (answers Callback.loud host n) =
      some (m.withHistory (.returned result :: (new₁ ++ base))) ∧
    m₂.run (answers Callback.quiet host n) =
      some (m.withHistory (.returned result :: (new₂ ++ base))) ∧
    m.stack = [] ∧ Skips new₁ new₂

/-- Nothing is in the cell, and its lock is free. -/
structure Vacant (m : Machine) : Prop where
  free : m.cell.held = false
  slot : m.cell.slot = none

section Conclude

variable {m : Machine} {new₁ new₂ : List Event}

theorem aside_request (base : List Event) (hv : Vacant m) (r : HostRequest) (h : Skips new₁ new₂) :
    ∃ new₁', (m.withHistory (new₁ ++ base)).enter (.request r) =
      some (m.withHistory (new₁' ++ base)) ∧ Skips new₁' new₂ := by
  obtain ⟨notices, ha⟩ := m.arrive_withHistory r
  have hs := Machine.enter_request_skipped (m := m.withHistory (new₁ ++ base)) r hv.free hv.slot
  rw [ha] at hs
  generalize (if (m.withHistory (new₁ ++ base)).cell.running > 0 then
    Notice.reentered r.name else .withoutGame r.name) = notice at hs
  refine ⟨_, hs.trans ?_, .skipped r (notice :: notices) h⟩
  simp only [List.map_cons, List.cons_append, List.append_assoc]
  rfl

/-- Requests made from inside a call leave the rest of the machine as it is; the writes are made
in both runs. -/
theorem asides_run (base : List Event) (hv : Vacant m) (asides : List Aside) (h : Skips new₁ new₂) :
    ∃ (m' : Machine) (new₁' : List Event),
      (m.withHistory (new₁ ++ base)).run (asides.map Aside.move) =
        some (m'.withHistory (new₁' ++ base)) ∧
      (m.withHistory (new₂ ++ base)).run ((asides.filter fun a => !a.isRequest).map Aside.move) =
        some (m'.withHistory (new₂ ++ base)) ∧
      Skips new₁' new₂ ∧ m'.cell = m.cell ∧ m'.stack = m.stack ∧
      m'.games.length = m.games.length := by
  induction asides generalizing m new₁ with
  | nil => exact ⟨m, new₁, rfl, rfl, h, rfl, rfl, rfl⟩
  | cons a asides ih =>
    cases a with
    | request r =>
      obtain ⟨new₁', he, hk⟩ := aside_request base hv r h
      obtain ⟨m', new, h₁, h₂, hr⟩ := ih hv hk
      refine ⟨m', new, ?_, h₂, hr⟩
      rw [List.map_cons, Machine.run]
      change ((m.withHistory (new₁ ++ base)).enter (.request r)).bind _ = _
      rw [he]
      exact h₁
    | write id w =>
      obtain ⟨m', new, h₁, h₂, hk, hc, hs, hg⟩ :=
        ih (m := m.modifyGame id (·.write w)) ⟨hv.free, hv.slot⟩ h
      refine ⟨m', new, h₁, h₂, hk, hc, hs, ?_⟩
      rw [hg, Machine.modifyGame, List.length_modify]
    | writeInts ints => exact ih (m := { m with ints }) ⟨hv.free, hv.slot⟩ h
    | reveal symbols =>
      exact ih (m := { m with exported := m.exported ++ symbols }) ⟨hv.free, hv.slot⟩ h

/-- At a call the host has its asides, and then its answer takes the work up again. -/
theorem concludes_called {base : List Event} {host : Nat → Callback} {f : Frame}
    (hv : Vacant m) (hs : m.stack = [f]) (h : Skips new₁ new₂)
    (hr : ∀ (m' : Machine) (new₁' : List Event), m'.cell = m.cell → m'.stack = [f] →
      m'.games.length = m.games.length → Skips new₁' new₂ →
      ∃ m₁ m₂, (m'.withHistory (new₁' ++ base)).answer (host 0).reply = some m₁ ∧
        (m'.withHistory (new₂ ++ base)).answer (host 0).reply = some m₂ ∧
        Concludes base m₁ m₂ fun k => host (k + 1)) :
    Concludes base (m.withHistory (new₁ ++ base)) (m.withHistory (new₂ ++ base)) host := by
  obtain ⟨m', new₁', h₁, h₂, hk, hc, hs', hg⟩ := asides_run base hv (host 0).asides h
  obtain ⟨m₁, m₂, ha₁, ha₂, n, hn⟩ := hr m' new₁' hc (hs'.trans hs) hg hk
  refine ⟨n + 1, ?_⟩
  have hl : (m.withHistory (new₁ ++ base)).run (host 0).loud = some m₁ := by
    rw [Callback.loud, Machine.run_append, h₁]
    change ((m'.withHistory (new₁' ++ base)).answer (host 0).reply).bind _ = _
    rw [ha₁]
    rfl
  have hq : (m.withHistory (new₂ ++ base)).run (host 0).quiet = some m₂ := by
    rw [Callback.quiet, Machine.run_append, h₂]
    change ((m'.withHistory (new₂ ++ base)).answer (host 0).reply).bind _ = _
    rw [ha₂]
    rfl
  rw [answers_succ, answers_succ, Machine.run_append, Machine.run_append, hl, hq]
  exact hn

theorem answer_running {r : HostRequest} {id : GameId} {generation : UInt64} {c : HostCall String}
    {resume : c.Answer → Game → Outcome Game Bool} {rest : List Frame} {res : Resident}
    (reply : (c : HostCall Bytes) → c.Reply)
    (hs : m.stack = .running r id generation c resume :: rest) (hg : m.games[id]? = some res) :
    m.answer reply = { m with stack := rest }.continueRunning r id generation
      (resume (c.receive (reply c.send)) res.game) := by
  simp only [Machine.answer, hs, hg]

theorem answer_closing {id : GameId} {result : EntryResult} {c : HostCall String}
    {resume : c.Answer → Game → Outcome Game Unit} {rest : List Frame} {res : Resident}
    (reply : (c : HostCall Bytes) → c.Reply)
    (hs : m.stack = .closing id result c resume :: rest) (hg : m.games[id]? = some res) :
    m.answer reply = some ({ m with stack := rest }.continueClosing id result
      (resume (c.receive (reply c.send)) res.game)) := by
  simp only [Machine.answer, hs, hg]

/-- A shutdown comes to its end. The induction is on what is left of it. -/
theorem concludes_closing (base : List Event) (host : Nat → Callback) (id : GameId)
    (result : EntryResult) (o : Outcome Game Unit) (hv : Vacant m) (hs : m.stack = [])
    (hi : id < m.games.length) (h : Skips new₁ new₂) :
    Concludes base ((m.withHistory (new₁ ++ base)).continueClosing id result o)
      ((m.withHistory (new₂ ++ base)).continueClosing id result o) host := by
  induction o generalizing m new₁ new₂ host with
  | done g _ =>
    have hk : Skips (.closed id :: new₁) (.closed id :: new₂) := .both _ rfl h
    exact ⟨0, m.setGame id g, result, _, _, rfl, rfl, hs, hk⟩
  | note n rest ih =>
    have hk : Skips (.noted n :: new₁) (.noted n :: new₂) := .both _ rfl h
    exact ih host hv hs hi hk
  | call g c resume ih =>
    have hk : Skips (.called (some id) c.send :: new₁) (.called (some id) c.send :: new₂) :=
      .both _ rfl h
    refine concludes_called (m := (m.setGame id g).push (.closing id result c resume))
      ⟨hv.free, hv.slot⟩ (congrArg (List.cons _) hs) hk ?_
    intro m' new₁' hc hs' hg hk'
    have hi' : id < m'.games.length := by
      rw [hg]
      exact Nat.lt_of_lt_of_eq hi (setGame_length m id g).symm
    have hres := List.getElem?_eq_getElem hi'
    refine ⟨_, _, answer_closing _ hs' hres, answer_closing _ hs' hres, ?_⟩
    exact ih _ _ _ (m := { m' with stack := [] }) ⟨hc ▸ hv.free, hc ▸ hv.slot⟩ rfl hi' hk'

/-- A request comes to its end, and its game goes back. The induction is on what is left of it. -/
theorem concludes_running (base : List Event) (host : Nat → Callback) (r : HostRequest)
    (id : GameId) (o : Outcome Game Bool) (hv : Vacant m) (hs : m.stack = [])
    (hi : id < m.games.length) (h : Skips new₁ new₂) :
    ∃ m₁ m₂,
      (m.withHistory (new₁ ++ base)).continueRunning r id m.cell.generation o = some m₁ ∧
      (m.withHistory (new₂ ++ base)).continueRunning r id m.cell.generation o = some m₂ ∧
      Concludes base m₁ m₂ host := by
  induction o generalizing m new₁ new₂ host with
  | done g accepted =>
    obtain ⟨m', new, -, hst, hn, ha⟩ := (m.setGame id g).announce_withHistory r id
    have hk : ∀ history,
        (m.withHistory history).continueRunning r id m.cell.generation (.done g accepted) =
          some ((m'.setCell (m.cell.putBack id m.cell.generation).2).withHistory
            (.returned (r.result accepted) :: (new ++ history))) := by
      intro history
      have hf := Machine.finishRunning_kept (m := (m.setGame id g).withHistory history) r id
        m.cell.generation accepted hv.free ⟨rfl, hv.slot⟩
      rw [ha] at hf
      exact hf
    rw [hk, hk, ← List.append_assoc, ← List.append_assoc]
    exact ⟨_, _, rfl, rfl, 0, _, _, _, _, rfl, rfl, hst.trans hs, h.append hn⟩
  | note n rest ih =>
    have hk : Skips (.noted n :: new₁) (.noted n :: new₂) := .both _ rfl h
    exact ih host hv hs hi hk
  | call g c resume ih =>
    have hk : Skips (.called (some id) c.send :: new₁) (.called (some id) c.send :: new₂) :=
      .both _ rfl h
    refine ⟨_, _, rfl, rfl, ?_⟩
    refine concludes_called
      (m := (m.setGame id g).push (.running r id m.cell.generation c resume))
      ⟨hv.free, hv.slot⟩ (congrArg (List.cons _) hs) hk ?_
    intro m' new₁' hc hs' hg hk'
    have hi' : id < m'.games.length := by
      rw [hg]
      exact Nat.lt_of_lt_of_eq hi (setGame_length m id g).symm
    have hres := List.getElem?_eq_getElem hi'
    -- nothing counted the generation up, so the request still ends by putting its game back
    have hgen : m'.cell.generation = m.cell.generation := by rw [hc]; rfl
    obtain ⟨m₁, m₂, h₁, h₂, hd⟩ := ih (c.receive ((host 0).reply c.send)) (m'.games[id]).game
      _ (m := { m' with stack := [] }) ⟨hc ▸ hv.free, hc ▸ hv.slot⟩ rfl hi' hk'
    have ha : ∀ history, (m'.withHistory history).answer (host 0).reply =
        ({ m' with stack := [] }.withHistory history).continueRunning r id m'.cell.generation
          (resume (c.receive ((host 0).reply c.send)) (m'.games[id]).game) := by
      intro history
      rw [hgen]
      exact answer_running (m := m'.withHistory history) _ hs' hres
    exact ⟨m₁, m₂, (ha _).trans h₁, (ha _).trans h₂, hd⟩

end Conclude

/-! ## The two runs of an entry point -/

/-- Nothing is under way, the lock is free and game `id` is parked. -/
structure AtRest (m : Machine) (id : GameId) : Prop where
  idle : m.stack = []
  free : m.cell.held = false
  parked : m.cell.slot = some id
  made : id < m.games.length

/-- The lock is free whenever the host has control. -/
theorem free_tick {s t : Machine × Control} (h : Tick s t) (hf : s.1.cell.held = false) :
    t.1.cell.held = false := by
  cases h with
  | checkedOut m r _ hs _ =>
    simp only [Machine.setCell_cell, Cell.checkOut, hs]
    exact hf
  | lost m r _ hs _ =>
    change m.cell.checkOut.2.held = false
    simp only [Cell.checkOut, hs]
    exact hf
  | skipped m r _ _ =>
    change (m.arrive r).cell.held = false
    rw [Machine.arrive_cell]
    exact hf
  | kept m r id generation g accepted _ hk =>
    change (m.cell.putBack id generation).2.held = false
    simp only [Cell.putBack, hk, and_self, ↓reduceIte]
    exact hf
  | retired m r id generation g accepted _ hk =>
    change (m.cell.putBack id generation).2.held = false
    simp only [Cell.putBack, hk, ↓reduceIte]
    exact hf
  | _ => exact hf

/-- A run outside all calls with a game in the cell is at rest. -/
theorem atRest_run {exported : List String} {moves : List Move} {m : Machine} {id : GameId}
    (h : (Machine.initial exported).run moves = some m) (hs : m.stack = [])
    (hp : m.cell.slot = some id) : AtRest m id where
  idle := hs
  free := Machine.run_keeps (P := fun s => s.1.cell.held = false) free_tick h rfl
  parked := hp
  made := by
    have hi : id ∈ ledger (m, .host) := by simp [ledger, hp]
    exact (balanced_run h).lt_of_mem hi

theorem concludes_enter {m : Machine} {id : GameId} (hr : AtRest m id) (e : Entry)
    (he : ∀ exports, e ≠ .start exports) (host : Nat → Callback) :
    ∃ m', m.enter e = some m' ∧ Concludes (.entered e :: m.history) m' m' host := by
  obtain ⟨res, hg⟩ : ∃ res, m.games[id]? = some res := ⟨_, List.getElem?_eq_getElem hr.made⟩
  cases e with
  | start exports => exact absurd rfl (he exports)
  | stop =>
    refine ⟨_, Machine.enter_stop_parked hr.free hr.parked, ?_⟩
    have hc : ((m.emit (.entered .stop)).setCell m.cell.clear.2).close id .nothing =
        ((m.setCell m.cell.clear.2).withHistory (.entered .stop :: m.history)).continueClosing id
          .nothing (Game.closing res.game) := by
      rw [Machine.close, Machine.setCell_games]
      simp only [Machine.emit, hg]
      rfl
    rw [hc]
    exact concludes_closing (m := m.setCell m.cell.clear.2) _ host id .nothing _ ⟨hr.free, rfl⟩
      hr.idle hr.made .nil
  | request r =>
    obtain ⟨notices, ha⟩ := m.arrive_withHistory r
    have hq : ∀ e ∈ notices.map Event.noted, e.isReturn = false := by simp [Event.isReturn]
    have hn : Skips (notices.map .noted) (notices.map .noted) := by
      have hk := Skips.nil.append hq
      rwa [List.append_nil] at hk
    have hp := Machine.enter_request_parked r hr.free hr.parked hg
    have hm : m.cell.checkOut.2 = { m.cell with slot := none, running := m.cell.running + 1 } := by
      rw [Cell.checkOut, hr.parked]
    have hv : Vacant (m.setCell m.cell.checkOut.2) := by
      constructor
      · rw [Machine.setCell_cell, hm]
        exact hr.free
      · rw [Machine.setCell_cell, hm]
    obtain ⟨m₁, m₂, h₁, h₂, hd⟩ := concludes_running (.entered (.request r) :: m.history) host r id
      (Game.perform (r.decode id res.game.place) res.game) hv hr.idle hr.made hn
    obtain rfl := Option.some.inj (h₁.symm.trans h₂)
    refine ⟨m₁, ?_, hd⟩
    have harr : m.arrive r =
        m.withHistory (notices.map .noted ++ .entered (.request r) :: m.history) := ha m.history
    have hgen : (m.setCell m.cell.checkOut.2).cell.generation = m.cell.generation := by
      rw [Machine.setCell_cell, hm]
    rw [Machine.enter_request_parked r hr.free hr.parked hg, harr, ← hgen]
    exact h₁

/-- A request made from inside a call is invisible to the game. Take a machine at rest, an entry
point other than an opening, and a host that makes any requests, and any writes, at each of its
calls. The entry point returns, and it returns the same as if the host had made no requests: the
cell, the games, the host's integers and the calls it was given are the same, the histories differ
in skipped requests, and every client that asked to connect from inside a call was refused. -/
theorem reentry_invisible (m : Machine) (id : GameId) (e : Entry) (host : Nat → Callback)
    (hr : AtRest m id) (he : ∀ exports, e ≠ .start exports) :
    ∃ (n : Nat) (m₁ m₂ : Machine) (result : EntryResult) (new₁ new₂ : List Event),
      m.run (.enter e :: answers Callback.loud host n) = some m₁ ∧
      m.run (.enter e :: answers Callback.quiet host n) = some m₂ ∧
      m₁.stack = [] ∧ m₂.stack = [] ∧
      m₁.cell = m₂.cell ∧ m₁.games = m₂.games ∧ m₁.ints = m₂.ints ∧ m₁.exported = m₂.exported ∧
      m₁.history = .returned result :: (new₁ ++ .entered e :: m.history) ∧
      m₂.history = .returned result :: (new₂ ++ .entered e :: m.history) ∧
      m₁.calls = m₂.calls ∧ Skips new₁ new₂ ∧
      ∀ accepted, .returned (.verdict accepted) ∈ new₁ → accepted = false := by
  obtain ⟨m', hm, n, b, result, new₁, new₂, h₁, h₂, hs, hk⟩ := concludes_enter hr e he host
  have hrun : ∀ moves, m.run (.enter e :: moves) = m'.run moves := by
    intro moves
    change (m.enter e).bind _ = _
    rw [hm]
    rfl
  refine ⟨n, _, _, result, new₁, new₂, (hrun _).trans h₁, (hrun _).trans h₂, hs, hs, rfl, rfl, rfl,
    rfl, rfl, rfl, ?_, hk, fun accepted ha => hk.refused ha⟩
  change List.filterMap _ (_ :: _) = List.filterMap _ (_ :: _)
  rw [List.filterMap_cons_none rfl, List.filterMap_cons_none rfl, List.filterMap_append,
    List.filterMap_append, hk.calls_eq]

/-- A host that tries to connect a client and to run a frame from inside each of its calls. -/
def insistentHost (_ : Nat) : Callback :=
  ⟨[.request (.client .null (.connect none)), .request .runFrame], obligingHost⟩

/-- The host is told that a client may not connect. -/
def Event.refuses : Event → Bool
  | .returned (.verdict false) => true
  | _ => false

theorem Event.refused_of_any {history : List Event} (h : history.any Event.refuses = true) :
    .returned (.verdict false) ∈ history := by
  obtain ⟨e, he, hv⟩ := List.any_eq_true.mp h
  unfold Event.refuses at hv
  split at hv
  · exact he
  · cases hv

/-- A command makes two calls, and from inside them a client is refused. -/
theorem reentry_invisible_command :
    ∃ m, (Machine.initial symbols).run (nestedRetirement.take 5) = some m ∧ AtRest m 0 ∧
      ∃ m₁ m₂ : Machine,
        m.run (.enter (.request .serverCommand) :: answers Callback.loud insistentHost 2) =
          some m₁ ∧
        m.run (.enter (.request .serverCommand) :: answers Callback.quiet insistentHost 2) =
          some m₂ ∧
        m₁.cell = m₂.cell ∧ m₁.games = m₂.games ∧ m₁.ints = m₂.ints ∧ m₁.calls = m₂.calls ∧
        .returned (.verdict false) ∈ m₁.history := by
  have hr : ((Machine.initial symbols).run (nestedRetirement.take 5)).any fun m =>
      m.stack.length = 0 ∧ m.cell.slot = some 0 ∧
        (∀ n < 2, (m.run (.enter (.request .serverCommand) ::
          answers Callback.quiet insistentHost n)).all (·.stack.length ≠ 0)) ∧
        (m.run (.enter (.request .serverCommand) ::
          answers Callback.quiet insistentHost 3)).isNone ∧
        (m.run (.enter (.request .serverCommand) ::
          answers Callback.loud insistentHost 2)).all (·.history.any Event.refuses) := by
    decide +kernel
  obtain ⟨m, hm, he⟩ := (Option.any_eq_true _ _).mp hr
  obtain ⟨hs, hp, hbusy, hdone, hrefused⟩ := of_decide_eq_true he
  have ha := atRest_run hm (List.eq_nil_of_length_eq_zero hs) hp
  obtain ⟨n, m₁, m₂, -, -, -, h₁, h₂, -, hs₂, hc, hg, hi, -, -, -, hcalls, -⟩ :=
    reentry_invisible m 0 (.request .serverCommand) insistentHost ha (by simp)
  -- a call is outstanding until the second answer, and none can be answered after it
  obtain rfl : n = 2 := by
    rcases Nat.lt_trichotomy n 2 with hn | rfl | hn
    · have hb := (Option.all_eq_true _ _).mp (hbusy n hn) m₂ h₂
      rw [hs₂] at hb
      cases hb
    · rfl
    · obtain ⟨k, rfl⟩ := Nat.exists_eq_add_of_le hn
      rw [answers_add, ← List.cons_append, Machine.run_append,
        Option.isNone_iff_eq_none.mp hdone] at h₂
      cases h₂
  have hv := Event.refused_of_any ((Option.all_eq_true _ _).mp hrefused m₁ h₁)
  exact ⟨m, hm, ha, m₁, m₂, h₁, h₂, hc, hg, hi, hcalls, hv⟩

end GameModule
