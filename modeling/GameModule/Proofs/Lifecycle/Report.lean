import GameModule.Proofs.Lifecycle.Turn

/-!
# What the history says about the host's integers

Calls nest, so the history alone says which calls are under way and which game was current when
each of them began. With that it says who wrote the host's integers, and when. `run_tallied` ties
the report to the machine: as long as the host leaves the integers alone, they are as reported.
-/
namespace GameModule

/-! ## The report -/

structure Report where
  /-- The calls under way, innermost first, each with the game that was current when it began. -/
  calls : List (Entry × Option GameId)
  ints : Exports Int
  /-- The game whose number of edicts was written last. -/
  teller : Option GameId
  /-- The games that were being spawned when the latest game was made. -/
  during : List GameId

namespace Report

def initial : Report := ⟨[], .all (-1), none, []⟩

/-- The game of a call that spawns. -/
def spawned? : Entry × Option GameId → Option GameId
  | (.request r, game) => if r.isSpawn then game else none
  | _ => none

/-- The games that are being spawned, innermost first. -/
def spawning (rep : Report) : List GameId := rep.calls.filterMap spawned?

/-- The game the innermost call is about: a request is about the game that was current when it
began, and anything else about the one that is current now. -/
def subject (rep : Report) (current : Option GameId) : Option GameId :=
  match rep.calls with
  | (.request _, game) :: _ => game
  | _ => current

def after (rep : Report) (current : Option GameId) : Event → Report
  | .entered e => { rep with calls := (e, current) :: rep.calls }
  | .returned _ => { rep with calls := rep.calls.tail }
  | .opened _ => { rep with during := rep.spawning }
  | .stored .numEdicts value =>
    { rep with ints := rep.ints.set .numEdicts value, teller := rep.subject current }
  | .stored field value => { rep with ints := rep.ints.set field value }
  | .called .. | .noted _ | .closed _ => rep

end Report

/-- What a history says, the latest event first. -/
def report : List Event → Report
  | [] => .initial
  | e :: history => (report history).after (history.foldr Event.current none) e

theorem report_idle {new history : List Event} (hn : ∀ e ∈ new, e.IsIdle) :
    report (new ++ history) = report history := by
  induction new with
  | nil => rfl
  | cons e new ih =>
    have hrest := ih fun e' he => hn e' (List.mem_cons_of_mem _ he)
    have hi := hn e List.mem_cons_self
    cases e with
    | noted => exact hrest
    | called => exact hrest
    | _ => exact hi.elim

def ExportInfo.ints (info : ExportInfo) : Exports Int :=
  ⟨info.apiVersion, info.edictSize, info.maxEdicts, info.numEdicts⟩

/-- A game is made in the innermost call, which is an opening, and all four integers are written. -/
theorem report_told {history : List Event} {e : Exports Bool} {game : Option GameId}
    {rest : List (Entry × Option GameId)} (hc : (report history).calls = (.start e, game) :: rest)
    (id : GameId) (info : ExportInfo) :
    report ((Exports.all true).told info ++ .opened id :: history) =
      ⟨(report history).calls, info.ints, some id, (report history).spawning⟩ := by
  have hs : (report history).subject (some id) = some id := by rw [Report.subject, hc]
  change Report.mk _ _ ((report history).subject (some id)) _ = _
  rw [hs]
  rfl

/-- A spawned game is told about in its own call. -/
theorem report_announced {history : List Event} {r : HostRequest} {game : Option GameId}
    {rest : List (Entry × Option GameId)}
    (hc : (report history).calls = (.request r, game) :: rest) {res : Resident}
    (he : res.exports = .all true) (g : Game) :
    report (res.announced r g ++ history) =
      if r.isSpawn then
        { report history with
          ints := (report history).ints.set .numEdicts g.numEdicts, teller := game }
      else report history := by
  have hs (current : Option GameId) : (report history).subject current = game := by
    rw [Report.subject, hc]
  unfold Resident.announced
  rw [he]
  split
  · change Report.mk _ _ ((report history).subject _) _ = _
    rw [hs]
    rfl
  · rfl

theorem calls_announced (res : Resident) (r : HostRequest) (g : Game) (history : List Event) :
    (report (res.announced r g ++ history)).calls = (report history).calls := by
  unfold Resident.announced Exports.stored
  split
  · split <;> rfl
  · rfl

/-! ## The integers are as reported -/

/-- The host passes all four integers to every opening, and leaves them alone. -/
def Move.isTidy : Move → Bool
  | .enter (.start exports) => exports = .all true
  | .writeInts _ => false
  | _ => true

/-- Neither an entry nor a write to an integer. -/
def Event.IsInner : Event → Prop
  | .entered _ | .stored .. => False
  | _ => True

/-- Every opening that was begun got all four integers. -/
def Full (history : List Event) : Prop :=
  ∀ exports, .entered (.start exports) ∈ history → exports = .all true

structure Machine.Tallied (m : Machine) : Prop where
  ints : m.ints = (report m.history).ints
  full : Full m.history

namespace Machine.Tallied

variable {m m' : Machine}

theorem emit (h : m.Tallied) (e : Event) (he : e.IsInner) : (m.emit e).Tallied := by
  constructor
  · cases e with
    | entered => exact he.elim
    | stored => exact he.elim
    | _ => exact h.ints
  · intro exports hm
    rcases List.mem_cons.mp hm with rfl | hm
    · exact he.elim
    · exact h.full exports hm

theorem note (h : m.Tallied) (n : Notice) : (m.note n).Tallied := h.emit (.noted n) trivial

theorem leave (h : m.Tallied) (result : EntryResult) : (m.leave result).Tallied :=
  h.emit (.returned result) trivial

theorem store (h : m.Tallied) (exports : Exports Bool) (field : ExportField) (value : Int) :
    (m.store exports field value).Tallied := by
  unfold Machine.store
  split
  · constructor
    · have hi := congrArg (Exports.set · field value) h.ints
      cases field <;> exact hi
    · intro exports hm
      exact h.full exports ((List.mem_cons.mp hm).resolve_left nofun)
  · exact h

theorem setGame (h : m.Tallied) (id : GameId) (g : Game) : (m.setGame id g).Tallied :=
  ⟨h.ints, h.full⟩

theorem push (h : m.Tallied) (f : Frame) : (m.push f).Tallied := ⟨h.ints, h.full⟩

theorem pop (h : m.Tallied) (stack : List Frame) : { m with stack }.Tallied := ⟨h.ints, h.full⟩

theorem locked (h : m.Tallied) {α : Type} {f : Cell → α × Cell} {a : α}
    (hl : m.locked f = some (a, m')) : m'.Tallied := by
  obtain ⟨c, rfl⟩ := locked_eq hl
  exact ⟨h.ints, h.full⟩

theorem announce (h : m.Tallied) (r : HostRequest) (id : GameId) : (m.announce r id).Tallied := by
  unfold Machine.announce
  split
  · exact h.store ..
  · exact h

theorem made (h : m.Tallied) (exports : Exports Bool) (config : Config) :
    (m.made exports config).Tallied := by
  have hopen := h.emit (.opened m.games.length) trivial
  have hmade : ({ m with games := m.games ++ [Resident.mk (Game.create config .standard) exports]
      }.emit (.opened m.games.length)).Tallied := ⟨hopen.ints, hopen.full⟩
  exact (((hmade.store ..).store ..).store ..).store ..

theorem continueClosing (h : m.Tallied) (id : GameId) (result : EntryResult)
    (o : Outcome Game Unit) : (m.continueClosing id result o).Tallied := by
  induction o generalizing m with
  | done g _ => exact ((h.setGame id g).emit (.closed id) trivial).leave result
  | note n rest ih => exact ih (h.note n)
  | call g c resume _ => exact ((h.setGame id g).emit (.called _ _) trivial).push _

theorem close (h : m.Tallied) (id : GameId) (result : EntryResult) :
    (m.close id result).Tallied := by
  unfold Machine.close
  split
  · exact h.continueClosing ..
  · exact h.leave result

theorem finishRunning (h : m.Tallied) {r : HostRequest} {id : GameId} {generation : UInt64}
    {accepted : Bool} (hm : m.finishRunning r id generation accepted = some m') : m'.Tallied := by
  change ((m.announce r id).locked (·.putBack id generation)).bind _ = some m' at hm
  obtain ⟨⟨kept, m₁⟩, hl, hm⟩ := Option.bind_eq_some_iff.mp hm
  have h₁ := (h.announce r id).locked hl
  obtain rfl := Option.some.inj hm
  cases kept with
  | true => exact h₁.leave _
  | false => exact h₁.close ..

theorem continueRunning (h : m.Tallied) {r : HostRequest} {id : GameId} {generation : UInt64}
    {o : Outcome Game Bool} (hm : m.continueRunning r id generation o = some m') : m'.Tallied := by
  induction o generalizing m with
  | done g accepted => exact (h.setGame id g).finishRunning hm
  | note n rest ih => exact ih (h.note n) hm
  | call g c resume _ =>
    obtain rfl := Option.some.inj hm
    exact ((h.setGame id g).emit (.called _ _) trivial).push _

theorem finishOpening (h : m.Tallied) {exports : Exports Bool} {config : Config}
    (hm : m.finishOpening exports config = some m') : m'.Tallied := by
  change ((m.made exports config).locked (·.park m.games.length)).bind _ = some m' at hm
  obtain ⟨⟨previous, m₁⟩, hl, hm⟩ := Option.bind_eq_some_iff.mp hm
  have h₁ := (h.made exports config).locked hl
  obtain rfl := Option.some.inj hm
  cases previous with
  | none => exact h₁.leave _
  | some old => exact (h₁.note .replacing).close ..

theorem continueOpening (h : m.Tallied) {exports : Exports Bool} {o : Outcome Unit Config}
    (hm : m.continueOpening exports o = some m') : m'.Tallied := by
  induction o generalizing m with
  | done u config => exact h.finishOpening hm
  | note n rest ih => exact ih (h.note n) hm
  | call u c resume _ =>
    obtain rfl := Option.some.inj hm
    exact (h.emit (.called _ _) trivial).push _

theorem start (h : m.Tallied) {exports : Exports Bool} (hm : m.start exports = some m') :
    m'.Tallied := by
  unfold Machine.start at hm
  split at hm
  · obtain rfl := Option.some.inj hm
    exact (h.note _).leave _
  · exact (h.note _).continueOpening hm

theorem stop (h : m.Tallied) (hm : m.stop = some m') : m'.Tallied := by
  obtain ⟨⟨parked, m₁⟩, hl, hm⟩ := Option.bind_eq_some_iff.mp hm
  have h₁ := h.locked hl
  obtain rfl := Option.some.inj hm
  cases parked with
  | some id => exact h₁.close ..
  | none =>
    simp only
    split
    · exact (h₁.note _).leave _
    · exact (h₁.note _).leave _

theorem request (h : m.Tallied) {r : HostRequest} (hm : m.request r = some m') : m'.Tallied := by
  have h₀ : (if r.lacksInput then m.note .missingInput else m).Tallied := by
    split
    · exact h.note _
    · exact h
  obtain ⟨⟨out, m₁⟩, hl, hm⟩ := Option.bind_eq_some_iff.mp hm
  have h₁ := h₀.locked hl
  cases out with
  | some id =>
    simp only at hm
    split at hm
    · exact h₁.continueRunning hm
    · obtain rfl := Option.some.inj hm
      exact h₁.leave _
  | none =>
    obtain rfl := Option.some.inj hm
    refine leave ?_ _
    split
    · exact h₁.note _
    · exact h₁.note _

theorem enter (h : m.Tallied) {e : Entry} (ht : (Move.enter e).isTidy = true)
    (hm : m.enter e = some m') : m'.Tallied := by
  have h₁ : (m.emit (.entered e)).Tallied := by
    refine ⟨h.ints, fun exports he => ?_⟩
    rcases List.mem_cons.mp he with he | he
    · obtain rfl := Event.entered.inj he
      exact of_decide_eq_true ht
    · exact h.full exports he
  cases e with
  | start exports => exact h₁.start hm
  | stop => exact h₁.stop hm
  | request r => exact h₁.request hm

theorem answer (h : m.Tallied) {reply : (c : HostCall Text.Bytes) → c.Reply}
    (hm : m.answer reply = some m') : m'.Tallied := by
  unfold Machine.answer at hm
  split at hm
  · cases hm
  · next frame stack _ =>
    have h₁ := h.pop stack
    cases frame with
    | opening exports c resume => exact h₁.continueOpening hm
    | running r id generation c resume =>
      simp only at hm
      split at hm
      · exact h₁.continueRunning hm
      · cases hm
    | closing id result c resume =>
      simp only at hm
      split at hm
      · obtain rfl := Option.some.inj hm
        exact h₁.continueClosing ..
      · cases hm

theorem step (h : m.Tallied) {move : Move} (ht : move.isTidy = true)
    (hm : m.step move = some m') : m'.Tallied := by
  cases move with
  | enter e => exact h.enter ht hm
  | answer reply => exact h.answer hm
  | writeInts ints => cases ht
  | write id w =>
    obtain rfl := Option.some.inj hm
    exact ⟨h.ints, h.full⟩
  | reveal symbols =>
    obtain rfl := Option.some.inj hm
    exact ⟨h.ints, h.full⟩

theorem run (h : m.Tallied) {moves : List Move} (ht : ∀ move ∈ moves, move.isTidy = true)
    (hm : m.run moves = some m') : m'.Tallied := by
  induction moves generalizing m with
  | nil =>
    obtain rfl := Option.some.inj hm
    exact h
  | cons move moves ih =>
    obtain ⟨mid, hstep, hrest⟩ := Option.bind_eq_some_iff.mp hm
    have hmid := h.step (ht move List.mem_cons_self) hstep
    exact ih hmid (fun move' hmem => ht move' (List.mem_cons_of_mem _ hmem)) hrest

end Machine.Tallied

theorem run_tallied {exported : List String} {moves : List Move} {m : Machine}
    (h : (Machine.initial exported).run moves = some m)
    (ht : ∀ move ∈ moves, move.isTidy = true) : m.Tallied := by
  have h₀ : (Machine.initial exported).Tallied := ⟨rfl, nofun⟩
  exact h₀.run ht h

end GameModule
