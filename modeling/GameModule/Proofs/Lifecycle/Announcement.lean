import GameModule.Proofs.Game.Tracing
import GameModule.Proofs.Lifecycle.Echo
import GameModule.Proofs.Lifecycle.ExportBlock

/-!
# What the host is told about the lives of games

A game that echoes what it is asked to do says one line when it is opened and one when it is shut
down. An opening says its line before it looks into the cell, so a game that replaces another one
is announced while the other is still live, and the other is shut down after that. Take the calls
of entry points one after the other, none from inside another: the lines are those of `linesAfter`,
which alternate exactly if no game is replaced.

The history says which lines the host received and which entry points it called (`account`).
`Task.Stage` says how the lines received and the lines still to come stand to the calls at each
stage of an entry point, and `announced_tick` that a tick leads from stage to stage.
-/
namespace GameModule

open Text (Bytes NulFree ascii)

/-! ## The lines -/

/-- A line about the life of a game. -/
inductive Lifeline where
  | birth | death
deriving DecidableEq

namespace Lifeline

def text : Lifeline → String
  | .birth => "GameMain::Initialize( );\n"
  | .death => "GameMain::Shutdown( );\n"

def other : Lifeline → Lifeline
  | .birth => .death
  | .death => .birth

end Lifeline

/-- The lines come in turn, beginning with `next`. -/
def alternates : Lifeline → List Lifeline → Bool
  | _, [] => true
  | next, line :: lines => line = next && alternates next.other lines

/-- Which of the two lines the host receives, if it is one of them. -/
def HostCall.lifeline? : HostCall Bytes → Option Lifeline
  | .debugPrint line =>
    if line = ascii Lifeline.birth.text then some .birth
    else if line = ascii Lifeline.death.text then some .death
    else none
  | _ => none

/-- A line that begins otherwise is none of the two, whatever follows. -/
theorem lifeline?_eq_none {start : String} (hz : NulFree (ascii start))
    (hi : ¬ ascii start <+: ascii Lifeline.birth.text)
    (hs : ¬ ascii start <+: ascii Lifeline.death.text) (rest : String) :
    (HostCall.debugPrint (Text.toNarrow (start ++ rest))).lifeline? = none := by
  have hp : ascii start <+: Text.toNarrow (start ++ rest) := by
    rw [toNarrow_append hz]
    exact List.prefix_append ..
  have hi' : Text.toNarrow (start ++ rest) ≠ ascii Lifeline.birth.text := by
    intro he
    exact hi (he ▸ hp)
  have hs' : Text.toNarrow (start ++ rest) ≠ ascii Lifeline.death.text := by
    intro he
    exact hs (he ▸ hp)
  rw [HostCall.lifeline?, if_neg hi', if_neg hs']

/-- The echo of a request is none of the two, whatever its arguments. -/
theorem lifeline?_request {ε τ κ : Type} (r : Request ε τ κ) (arguments : String) :
    (HostCall.debugPrint (Text.toNarrow (Game.traceLine r.name arguments))).lifeline? = none := by
  have hn : NulFree (ascii ("GameMain::" ++ r.name)) ∧
      ¬ ascii ("GameMain::" ++ r.name) <+: ascii Lifeline.birth.text ∧
      ¬ ascii ("GameMain::" ++ r.name) <+: ascii Lifeline.death.text := by
    rcases r with _ | ⟨_ | _⟩ | ⟨_, _ | _⟩ | _ | _ <;>
      dsimp only [Request.name, FileCall.name, ClientCall.name] <;> decide
  have hl : Game.traceLine r.name arguments =
      "GameMain::" ++ r.name ++ ("( " ++ (arguments ++ ");\n")) := by
    simp only [Game.traceLine, String.append_assoc]
  rw [hl]
  exact lifeline?_eq_none hn.1 hn.2.1 hn.2.2 _

theorem lifeline?_report (cause : SessionError) : cause.line.lifeline? = none := by
  rw [SessionError.line, String.append_assoc]
  exact lifeline?_eq_none (by decide) (by decide) (by decide) _

/-! ## What work has still to say -/

/-- The lines that are still to come, if the result is as `P` says. -/
def Outcome.Says {σ α : Type} (P : α → Prop) : Outcome σ α → List Lifeline → Prop
  | .done _ a, lines => P a → lines = []
  | .note _ rest, lines => rest.Says P lines
  | .call _ c resume, lines => ∃ later, lines = c.send.lifeline?.toList ++ later ∧
      ∀ a s, (resume a s).Says P later

namespace Game

open Activity

variable {σ α : Type} {P : α → Prop} {lines : List Lifeline}

theorem says_trace {line : String} {f : Unit → Activity σ α} (config : Config)
    (hl : (HostCall.debugPrint (Text.toNarrow line)).lifeline? = none)
    (hf : ∀ s, (f () s).Says P lines) (s : σ) : ((trace config line >>= f) s).Says P lines := by
  rw [trace_bind]
  split
  · refine ⟨lines, ?_, fun _ => hf⟩
    change _ = (HostCall.debugPrint (Text.toNarrow line)).lifeline?.toList ++ lines
    rw [hl]
    rfl
  · exact hf s

theorem says_done (s : σ) (a : α) : (Outcome.done s a).Says P [] := fun _ => rfl

/-- A request says nothing about the life of its game. -/
theorem perform_says (r : GameRequest) (g : Game) :
    (perform r g).Says (fun _ => True) [] := by
  have he := lifeline?_request r
  cases r with
  | spawnEntities map entities spawnPoint =>
    rw [perform, get_bind]
    exact says_trace _ (he _) (fun g => says_done _ true) g
  | file call name =>
    rw [perform, get_bind]
    exact says_trace _ (he _) (fun g => says_done _ true) g
  | client ent call =>
    rw [perform, get_bind]
    refine says_trace _ (he _) (fun g => ?_) g
    rw [get_bind]
    cases g.applyClient ent call with
    | ok g' => exact fun _ => rfl
    | error cause =>
      refine ⟨[], ?_, fun _ _ _ => rfl⟩
      change [] = cause.line.lifeline?.toList ++ []
      rw [lifeline?_report]
      rfl
  | runFrame =>
    rw [perform, get_bind]
    exact says_trace _ (he _) (fun g => says_done _ true) g
  | serverCommand =>
    rw [perform, argv_bind]
    refine ⟨[], rfl, fun command g => ?_⟩
    change ((get >>= fun g => _) g).Says _ _
    rw [get_bind]
    exact says_trace _ (he _) (fun g => says_done _ true) g

/-- An opening ends with the announcement of the new game. -/
theorem opening_says : (opening ()).Says (·.traceCalls = true) [.birth] := by
  -- the three variables are asked for, each by a call that is no line
  refine ⟨_, rfl, fun _ _ => ⟨_, rfl, fun _ _ => ⟨_, rfl, fun _ _ => ?_⟩⟩⟩
  change ((trace _ (traceLine "Initialize" "") >>= fun _ => pure _) ()).Says _ _
  rw [trace_bind]
  split
  · exact ⟨[], by decide, fun _ _ _ => rfl⟩
  · rename_i ht
    exact fun h => absurd h ht

theorem closing_says {g : Game} (ht : g.config.traceCalls = true) :
    (closing g).Says (fun _ => True) [.death] := by
  rw [closing_eq, if_pos ht]
  exact ⟨[], by decide, fun _ _ _ => rfl⟩

end Game

/-! ## What a sequence of calls is to say -/

/-- Whether a game is live after these calls, the latest first, if none is made inside another. -/
def liveAfter : List Entry → Bool
  | [] => false
  | .start _ :: _ => true
  | .stop :: _ => false
  | .request _ :: earlier => liveAfter earlier

/-- The line of a game that is taken out of the cell, if there is one. -/
def farewell (live : Bool) : List Lifeline := if live then [.death] else []

/-- The lines of these calls, the earliest first. A new game is announced before the game it
replaces is shut down. -/
def linesAfter : List Entry → List Lifeline
  | [] => []
  | .start _ :: earlier => linesAfter earlier ++ .birth :: farewell (liveAfter earlier)
  | .stop :: earlier => linesAfter earlier ++ farewell (liveAfter earlier)
  | .request _ :: earlier => linesAfter earlier

/-- No game is opened while another one is live. -/
def neverReplaces : List Entry → Bool
  | [] => true
  | .start _ :: earlier => !liveAfter earlier && neverReplaces earlier
  | .stop :: earlier | .request _ :: earlier => neverReplaces earlier

/-- The line that is due next. -/
def nextAfter (calls : List Entry) : Lifeline := if liveAfter calls then .death else .birth

/-- The lines alternate for as long as no game is replaced. What may follow them is kept open for
the induction. -/
theorem alternates_linesAfter (calls : List Entry) (lines : List Lifeline) :
    alternates .birth (linesAfter calls ++ lines) =
      (neverReplaces calls && alternates (nextAfter calls) lines) := by
  induction calls generalizing lines with
  | nil => rfl
  | cons e earlier ih =>
    cases e with
    | start exports =>
      rw [linesAfter, List.append_assoc, ih, neverReplaces, nextAfter]
      cases liveAfter earlier <;> simp [alternates, nextAfter, liveAfter, farewell, Lifeline.other]
    | stop =>
      rw [linesAfter, List.append_assoc, ih, neverReplaces, nextAfter]
      cases liveAfter earlier <;> simp [alternates, nextAfter, liveAfter, farewell, Lifeline.other]
    | request r => exact ih lines

/-- Whatever is replaced, the games announced are those shut down and the one that is live. -/
theorem count_linesAfter (calls : List Entry) :
    (linesAfter calls).count .birth =
      (linesAfter calls).count .death + if liveAfter calls then 1 else 0 := by
  induction calls with
  | nil => rfl
  | cons e earlier ih =>
    cases e with
    | start exports =>
      rw [linesAfter, List.count_append, List.count_append, ih]
      cases liveAfter earlier <;> simp [liveAfter, farewell]
    | stop =>
      rw [linesAfter, List.count_append, List.count_append, ih]
      cases liveAfter earlier <;> simp [liveAfter, farewell]
    | request r => exact ih

/-! ## What the history tells -/

structure Account where
  /-- The lines received about the lives of games, the earliest first. -/
  lines : List Lifeline
  /-- The entry points called, the latest first. -/
  calls : List Entry

def Account.after (acc : Account) : Event → Account
  | .called _ c => { acc with lines := acc.lines ++ c.lifeline?.toList }
  | .entered e => { acc with calls := e :: acc.calls }
  | .noted _ | .stored .. | .opened _ | .closed _ | .returned _ => acc

def account : List Event → Account
  | [] => ⟨[], []⟩
  | e :: history => (account history).after e

theorem account_stored {new history : List Event} (hn : ∀ e ∈ new, ∃ f v, e = .stored f v) :
    account (new ++ history) = account history := by
  induction new with
  | nil => rfl
  | cons e new ih =>
    obtain ⟨f, v, rfl⟩ := hn e List.mem_cons_self
    exact ih fun e he => hn e (List.mem_cons_of_mem _ he)

/-- No entry point is called while another one is under way. -/
def unnested : List Event → Bool
  | [] => true
  | .entered _ :: earlier => (report earlier).calls.isEmpty && unnested earlier
  | _ :: earlier => unnested earlier

/-- Every opening found the functions of the host. -/
def alwaysBound (history : List Event) : Bool :=
  history.all fun
    | .noted (.unbound _) => false
    | _ => true

theorem alwaysBound_suffix {history earlier : List Event} (hs : earlier <:+ history)
    (h : alwaysBound history = true) : alwaysBound earlier = true := by
  rw [alwaysBound, List.all_eq_true] at h ⊢
  exact fun e he => h e (hs.subset he)

theorem unnested_suffix {history earlier : List Event} (hs : earlier <:+ history)
    (h : unnested history = true) : unnested earlier = true := by
  obtain ⟨later, rfl⟩ := hs
  induction later with
  | nil => exact h
  | cons e later ih =>
    refine ih ?_
    cases e with
    | entered e => exact (Bool.and_eq_true_iff.mp h).2
    | _ => exact h

theorem idle_of_unnested {later earlier : List Event} {e : Entry}
    (h : unnested (later ++ .entered e :: earlier) = true) : (report earlier).calls = [] := by
  have hs := unnested_suffix (List.suffix_append later _) h
  exact List.isEmpty_iff.mp (Bool.and_eq_true_iff.mp hs).1

theorem calls_stored (exports : Exports Bool) (field : ExportField) (value : Int)
    (history : List Event) :
    (report (exports.stored field value ++ history)).calls = (report history).calls := by
  unfold Exports.stored
  split
  · cases field <;> rfl
  · rfl

theorem calls_told (exports : Exports Bool) (info : ExportInfo) (history : List Event) :
    (report (exports.told info ++ history)).calls = (report history).calls := by
  simp only [Exports.told, List.append_assoc, calls_stored]

/-- There is work for every call under way, and no other. -/
def Busy (s : Machine × Control) : Prop :=
  (report s.1.history).calls.length = (tasks s).length

theorem busy_turn {s t : Machine × Control} (h : Turn s t) (hb : Busy s) : Busy t := by
  unfold Busy at hb ⊢
  cases h with
  | idle new hn hh hcur hc hg hk => rw [hh, report_idle hn, hk, hb]
  | wrote id w hh hcur hc hg hk => rw [hh, hk, hb]
  | turnedAway e result new hr hn hh hcur hc hg hk =>
    rw [hh, hk, ← hb, report, report_idle hn]
    rfl
  | stoppedEmpty new hn hs hh hcur hc hg hk =>
    rw [hh, hk, ← hb, report, report_idle hn]
    rfl
  | stopped id hs hh hcur hc hg hk =>
    rw [hh, hk, List.length_cons, ← hb]
    rfl
  | started exports new hn hh hcur hc hg hk =>
    rw [hh, report_idle hn, hk, List.length_cons, ← hb]
    rfl
  | taken r id new hn hs hh hcur hc hg hk =>
    rw [hh, report_idle hn, hk, List.length_cons, ← hb]
    rfl
  | parked exports config rest hs hk hh hcur hc hg hk' =>
    rw [hk, List.length_cons] at hb
    rw [hh, hk', report]
    change (report _).calls.tail.length = _
    rw [calls_told, List.length_tail]
    exact Nat.sub_eq_of_eq_add hb
  | replaced exports config old rest hs hk hh hcur hc hg hk' =>
    rw [hk] at hb
    rw [hh, hk', report]
    change (report _).calls.length = _
    rw [calls_told]
    exact hb
  | kept r id g accepted res rest hs hk hi he hh hcur hc hg hk' =>
    rw [hk, List.length_cons] at hb
    rw [hh, hk', report]
    change (report _).calls.tail.length = _
    rw [calls_announced, List.length_tail]
    exact Nat.sub_eq_of_eq_add hb
  | retired r id generation g accepted res rest hs hk hi he hh hcur hc hg hk' =>
    rw [hk] at hb
    rw [hh, hk', calls_announced]
    exact hb
  | closed id result rest hk hh hcur hc hg hk' =>
    rw [hk, List.length_cons] at hb
    rw [hh, hk', report]
    change (report _).calls.tail.length = _
    rw [List.length_tail]
    exact Nat.sub_eq_of_eq_add hb

theorem calls_of_unnested {history : List Event} (h : unnested history = true) :
    (report history).calls.length ≤ 1 := by
  induction history with
  | nil => exact Nat.zero_le 1
  | cons e history ih =>
    cases e with
    | entered e =>
      obtain ⟨hc, -⟩ := Bool.and_eq_true_iff.mp h
      change ((report history).calls.length + 1) ≤ 1
      rw [List.isEmpty_iff.mp hc]
      exact Nat.le_refl 1
    | returned result =>
      change (report history).calls.tail.length ≤ 1
      rw [List.length_tail]
      exact (Nat.sub_le ..).trans (ih h)
    | stored field value => cases field <;> exact ih h
    | _ => exact ih h

/-! ## Settings -/

namespace Machine

def configs (m : Machine) : List Config := m.games.map (·.game.config)

/-- Every game echoes what it is asked to do. -/
def Traced (m : Machine) : Prop := ∀ config ∈ m.configs, config.traceCalls = true

theorem traced_made {m : Machine} {exports : Exports Bool} {config : Config}
    (h : (m.made exports config).Traced) : config.traceCalls = true := by
  refine h config (List.mem_map.mpr ⟨⟨Game.create config .standard, exports⟩, ?_, rfl⟩)
  rw [made_games]
  exact List.mem_append_right _ List.mem_cons_self

end Machine

/-- The settings of a game are for good. -/
theorem configs_turn {s t : Machine × Control} (h : Turn s t) : s.1.configs <+: t.1.configs := by
  have hset : ∀ {id : GameId} {res : Resident} {g : Game}, s.1.games[id]? = some res →
      g.config = res.game.config → t.1.games = s.1.games.set id { res with game := g } →
      s.1.configs <+: t.1.configs := by
    intro id res g hi hc hg
    have hm : t.1.configs = s.1.configs := by
      rw [Machine.configs, hg]
      exact map_set_same _ hi hc
    exact hm ▸ List.prefix_rfl
  have hsame (hg : t.1.games = s.1.games) : s.1.configs <+: t.1.configs := by
    have hm : t.1.configs = s.1.configs := congrArg (List.map _) hg
    exact hm ▸ List.prefix_rfl
  have hmade {res : Resident} (hg : t.1.games = s.1.games ++ [res]) :
      s.1.configs <+: t.1.configs := by
    rw [Machine.configs, Machine.configs, hg, List.map_append]
    exact List.prefix_append ..
  cases h with
  | idle new hn hh hcur hc hg => exact hsame hg
  | wrote id w hh hcur hc hg =>
    rw [List.modify_eq_set_getElem?] at hg
    cases hi : s.1.games[id]? with
    | none =>
      rw [hi] at hg
      exact hsame hg
    | some res =>
      rw [hi] at hg
      exact hset hi (by cases w <;> rfl) hg
  | turnedAway e result new hr hn hh hcur hc hg => exact hsame hg
  | stoppedEmpty new hn hs hh hcur hc hg => exact hsame hg
  | stopped id hs hh hcur hc hg => exact hsame hg
  | started exports new hn hh hcur hc hg => exact hsame hg
  | taken r id new hn hs hh hcur hc hg => exact hsame hg
  | parked exports config rest hs hk hh hcur hc hg => exact hmade hg
  | replaced exports config old rest hs hk hh hcur hc hg => exact hmade hg
  | kept r id g accepted res rest hs hk hi he hh hcur hc hg => exact hset hi he.config hg
  | retired r id generation g accepted res rest hs hk hi he hh hcur hc hg =>
    exact hset hi he.config hg
  | closed id result rest hk hh hcur hc hg => exact hsame hg

/-! ## From one stage to the next -/

/-- Nothing is under way: the lines are those of the calls, and the cell holds the live game. -/
structure Rested (cell : Cell) (acc : Account) : Prop where
  lines : acc.lines = linesAfter acc.calls
  slot : cell.slot.isSome = liveAfter acc.calls

/-- A task is under way that has still to say `own`. An opening that finds a game in the cell shuts
it down after that, and a request has the live game out. -/
def Task.Stage (cell : Cell) (acc : Account) (own : List Lifeline) : Task → Prop
  | .opening _ => acc.lines ++ (own ++ farewell cell.slot.isSome) = linesAfter acc.calls ∧
      liveAfter acc.calls = true
  | .running _ _ generation => acc.lines ++ own = linesAfter acc.calls ∧
      liveAfter acc.calls = true ∧ cell.slot = none ∧ cell.generation = generation
  | .closing .. => acc.lines ++ own = linesAfter acc.calls ∧
      cell.slot.isSome = liveAfter acc.calls

section Stage

variable {cell : Cell} {acc : Account} {exports : Exports Bool} {r : HostRequest} {id old : GameId}
  {generation : UInt64} {result : EntryResult}

theorem Rested.started (h : Rested cell acc) (exports : Exports Bool) :
    (Task.opening exports).Stage cell (acc.after (.entered (.start exports))) [.birth] := by
  refine ⟨?_, rfl⟩
  change acc.lines ++ .birth :: farewell cell.slot.isSome =
    linesAfter acc.calls ++ .birth :: farewell (liveAfter acc.calls)
  rw [h.lines, h.slot]

theorem Rested.stopped (h : Rested cell acc) (hs : cell.slot = some id) (result : EntryResult) :
    (Task.closing id result).Stage cell.clear.2 (acc.after (.entered .stop)) [.death] := by
  refine ⟨?_, rfl⟩
  change acc.lines ++ [.death] = linesAfter acc.calls ++ farewell (liveAfter acc.calls)
  rw [h.lines, ← h.slot, hs]
  rfl

theorem Rested.stoppedEmpty (h : Rested cell acc) (hs : cell.slot = none) :
    Rested cell.clear.2 (acc.after (.entered .stop)) := by
  refine ⟨?_, rfl⟩
  change acc.lines = linesAfter acc.calls ++ farewell (liveAfter acc.calls)
  rw [h.lines, ← h.slot, hs]
  exact (List.append_nil _).symm

theorem Rested.taken (h : Rested cell acc) (hs : cell.slot = some id) (r : HostRequest) :
    (Task.running r id cell.generation).Stage cell.checkOut.2
      (acc.after (.entered (.request r))) [] := by
  have hc : cell.checkOut.2 = { cell with slot := none, running := cell.running + 1 } := by
    rw [Cell.checkOut, hs]
  have hlive : liveAfter acc.calls = true := by
    rw [← h.slot, hs]
    rfl
  rw [hc]
  exact ⟨(List.append_nil _).trans h.lines, hlive, rfl, rfl⟩

theorem Rested.skipped (h : Rested cell acc) (r : HostRequest) :
    Rested cell (acc.after (.entered (.request r))) := ⟨h.lines, h.slot⟩

theorem Task.Stage.called {own later : List Lifeline} {task : Task}
    (h : task.Stage cell acc own) {c : HostCall Bytes} (hc : own = c.lifeline?.toList ++ later)
    (game : Option GameId) : task.Stage cell (acc.after (.called game c)) later := by
  subst hc
  cases task with
  | opening exports => simpa [Stage, Account.after] using h
  | running r id generation => simpa [Stage, Account.after] using h
  | closing id result => simpa [Stage, Account.after] using h

theorem Task.Stage.parked (h : (Task.opening exports).Stage cell acc [])
    (hs : cell.slot = none) (id : GameId) : Rested (cell.park id).2 acc := by
  obtain ⟨hl, hlive⟩ := h
  rw [hs] at hl
  exact ⟨(List.append_nil _).symm.trans hl, hlive.symm⟩

/-- The new game has been announced, and the one it replaces is still to be shut down. -/
theorem Task.Stage.replaced (h : (Task.opening exports).Stage cell acc [])
    (hs : cell.slot = some old) (id : GameId) (result : EntryResult) :
    (Task.closing old result).Stage (cell.park id).2 acc [.death] := by
  obtain ⟨hl, hlive⟩ := h
  rw [hs] at hl
  exact ⟨hl, hlive.symm⟩

theorem Task.Stage.kept (h : (Task.running r id generation).Stage cell acc []) :
    Rested (cell.putBack id generation).2 acc := by
  obtain ⟨hl, hlive, hs, hg⟩ := h
  have hp : (cell.putBack id generation).2.slot = some id := by
    rw [Cell.putBack, if_pos ⟨hg, hs⟩]
  refine ⟨(List.append_nil _).symm.trans hl, ?_⟩
  rw [hp, hlive]
  rfl

theorem Task.Stage.closed (h : (Task.closing id result).Stage cell acc []) : Rested cell acc :=
  ⟨(List.append_nil _).symm.trans h.1, h.2⟩

end Stage

/-! ## The lines along a run -/

/-- Suspended work goes on to say what is due. -/
def Frame.Announces (cell : Cell) (acc : Account) : Frame → Prop
  | .opening exports _ resume => ∃ own, (∀ a u, (resume a u).Says (·.traceCalls = true) own) ∧
      (Task.opening exports).Stage cell acc own
  | .running r id generation _ resume => ∃ own, (∀ a g, (resume a g).Says (fun _ => True) own) ∧
      (Task.running r id generation).Stage cell acc own
  | .closing id result _ resume => ∃ own, (∀ a g, (resume a g).Says (fun _ => True) own) ∧
      (Task.closing id result).Stage cell acc own

/-- The same of the work in hand. -/
def Control.Announces (cell : Cell) (acc : Account) : Control → Prop
  | .host => True
  | .opening exports o => ∃ own, o.Says (·.traceCalls = true) own ∧
      (Task.opening exports).Stage cell acc own
  | .running r id generation o => ∃ own, o.Says (fun _ => True) own ∧
      (Task.running r id generation).Stage cell acc own
  | .retiring id result => (Task.closing id result).Stage cell acc [.death]
  | .closing id result o => ∃ own, o.Says (fun _ => True) own ∧
      (Task.closing id result).Stage cell acc own

theorem Frame.Announces.resumed {cell : Cell} {acc : Account} {f : Frame}
    (h : f.Announces cell acc) {games : List Resident} {reply : (c : HostCall Bytes) → c.Reply}
    {c : Control} (hc : f.resumed games reply = some c) : c.Announces cell acc := by
  cases f with
  | opening exports call resume =>
    obtain rfl := Option.some.inj hc
    obtain ⟨own, hs, hst⟩ := h
    exact ⟨own, hs _ _, hst⟩
  | running r id generation call resume =>
    obtain ⟨res, -, rfl⟩ := Option.map_eq_some_iff.mp hc
    obtain ⟨own, hs, hst⟩ := h
    exact ⟨own, hs _ _, hst⟩
  | closing id result call resume =>
    obtain ⟨res, -, rfl⟩ := Option.map_eq_some_iff.mp hc
    obtain ⟨own, hs, hst⟩ := h
    exact ⟨own, hs _ _, hst⟩

/-- With at most one entry point under way, the host has heard what it should. -/
structure Announced (s : Machine × Control) : Prop where
  hand : s.2.Announces s.1.cell (account s.1.history)
  suspended : ∀ f ∈ s.1.stack, f.Announces s.1.cell (account s.1.history)
  rested : tasks s = [] → Rested s.1.cell (account s.1.history)

theorem announced_initial (exported : List String) :
    Announced (Machine.initial exported, .host) where
  hand := trivial
  suspended _ h := absurd h List.not_mem_nil
  rested _ := ⟨rfl, rfl⟩

section Tick

variable {m : Machine} {s t : Machine × Control}

/-- The host has control again with nothing under way. -/
theorem Announced.rest (hs : m.stack = []) (h : Rested m.cell (account m.history)) :
    Announced (m, .host) where
  hand := trivial
  suspended f hf := by
    rw [hs] at hf
    cases hf
  rested _ := h

/-- There is work in hand, and none suspended. -/
theorem Announced.work {c : Control} (hs : m.stack = [])
    (h : c.Announces m.cell (account m.history)) (hk : tasks (m, c) ≠ []) : Announced (m, c) where
  hand := h
  suspended f hf := by
    rw [hs] at hf
    cases hf
  rested hk' := absurd hk' hk

/-- A call is made. -/
theorem Announced.call {f : Frame} (hs : m.stack = [f])
    (h : f.Announces m.cell (account m.history)) : Announced (m, .host) where
  hand := trivial
  suspended f' hf := by
    rw [hs] at hf
    rwa [List.mem_singleton.mp hf]
  rested hk := by
    rw [tasks, hs] at hk
    cases hk

theorem account_arrive (m : Machine) (r : HostRequest) :
    account (m.arrive r).history = (account m.history).after (.entered (.request r)) := by
  unfold Machine.arrive
  split <;> rfl

theorem account_made (m : Machine) (exports : Exports Bool) (config : Config) :
    account (m.made exports config).history = account m.history := by
  obtain ⟨new, hh, hn⟩ := m.made_history exports config
  rw [hh, account_stored hn]
  rfl

theorem account_announce (m : Machine) (r : HostRequest) (id : GameId) :
    account (m.announce r id).history = account m.history := by
  obtain ⟨new, hh, hn⟩ := m.announce_history r id
  rw [hh, account_stored hn]

theorem announced_tick (h : Tick s t) (hs : Sound s) (hb : Busy s)
    (hu : unnested t.1.history = true) (hbound : alwaysBound t.1.history = true)
    (ht : t.1.Traced) (ha : Announced s) : Announced t := by
  have hsuf := turn_history (tick_turn h hs.balanced hs.deferred)
  have hle : (tasks s).length ≤ 1 := hb ▸ calls_of_unnested (unnested_suffix hsuf hu)
  -- an entry point is called only when nothing is under way
  have hidle : ∀ (later : List Event) {e : Entry},
      t.1.history = later ++ .entered e :: s.1.history → tasks s = [] := by
    intro later e hh
    rw [hh] at hu
    refine List.eq_nil_of_length_eq_zero ?_
    rw [← hb, idle_of_unnested hu]
    rfl
  -- work in hand is the only work
  have hstack : ∀ {task : Task}, s.2.tasks = [task] → s.1.stack = [] := by
    intro task hk
    rw [tasks, hk, List.length_append, List.length_map, List.length_singleton] at hle
    exact List.eq_nil_of_length_eq_zero (by omega)
  cases h with
  | write m id w => exact ⟨trivial, ha.suspended, ha.rested⟩
  | writeInts m ints => exact ⟨trivial, ha.suspended, ha.rested⟩
  | reveal m symbols => exact ⟨trivial, ha.suspended, ha.rested⟩
  | unbound m exports _ => cases hbound
  | bound m exports _ =>
    have hk := hidle [_] rfl
    exact .work (List.map_eq_nil_iff.mp hk)
      ⟨_, Game.opening_says, (ha.rested hk).started exports⟩ (List.cons_ne_nil _ _)
  | stopped m hf hs' =>
    have hk := hidle [] rfl
    exact .work (List.map_eq_nil_iff.mp hk) ((ha.rested hk).stopped hs' .nothing)
      (List.cons_ne_nil _ _)
  | stoppedEmpty m hf hs' =>
    have hk := hidle [_, _] rfl
    exact .rest (List.map_eq_nil_iff.mp hk) ((ha.rested hk).stoppedEmpty hs')
  | checkedOut m r hf hs' hg =>
    obtain ⟨new, hh, -⟩ := arrive_idle m r
    have hk := hidle new hh
    have hst := (ha.rested hk).taken hs' r
    rw [← account_arrive] at hst
    exact .work ((m.arrive_stack r).trans (List.map_eq_nil_iff.mp hk))
      ⟨[], Game.perform_says _ _, hst⟩ (List.cons_ne_nil _ _)
  | lost m r hf hs' hg => exact absurd hg (hs.balanced.parked_ne_none hs')
  | skipped m r hf hs' =>
    obtain ⟨new, hh, -⟩ := arrive_idle m r
    have hk := hidle (_ :: _ :: new) (congrArg (fun h => _ :: _ :: h) hh)
    have hr := (ha.rested hk).skipped r
    rw [← account_arrive, ← m.arrive_cell r] at hr
    exact .rest ((m.arrive_stack r).trans (List.map_eq_nil_iff.mp hk)) hr
  | @answered m reply f rest c hs' hc =>
    have hr : rest = [] := by
      rw [tasks, hs'] at hle
      exact List.eq_nil_of_length_eq_zero (by simpa [Control.tasks] using hle)
    refine .work hr ((ha.suspended f (hs' ▸ List.mem_cons_self)).resumed hc) ?_
    rw [tasks_answered hs' hc, tasks, hs']
    exact List.cons_ne_nil _ _
  | openingNote m exports n o => exact .work (hstack rfl) ha.hand (List.cons_ne_nil _ _)
  | openingCall m exports u c resume =>
    obtain ⟨own, ⟨later, hown, hres⟩, hst⟩ := ha.hand
    exact .call (congrArg (List.cons _) (hstack rfl)) ⟨later, hres, hst.called hown none⟩
  | parked m exports u config hf hs' =>
    obtain ⟨own, hsay, hst⟩ := ha.hand
    obtain rfl := hsay (Machine.traced_made ht)
    have hr := hst.parked hs' m.games.length
    rw [← account_made m exports config] at hr
    exact .rest ((m.made_stack exports config).trans (hstack rfl)) hr
  | @replaced m exports u config old hf hs' =>
    obtain ⟨own, hsay, hst⟩ := ha.hand
    obtain rfl := hsay (Machine.traced_made ht)
    have hr := hst.replaced hs' m.games.length (.table (some m.games.length))
    rw [← account_made m exports config] at hr
    exact .work ((m.made_stack exports config).trans (hstack rfl)) hr (List.cons_ne_nil _ _)
  | runningNote m r id generation n o => exact .work (hstack rfl) ha.hand (List.cons_ne_nil _ _)
  | runningCall m r id generation g c resume =>
    obtain ⟨own, ⟨later, hown, hres⟩, hst⟩ := ha.hand
    exact .call (congrArg (List.cons _) (hstack rfl)) ⟨later, hres, hst.called hown (some id)⟩
  | kept m r id generation g accepted hf hk =>
    obtain ⟨own, hsay, hst⟩ := ha.hand
    obtain rfl := hsay trivial
    have hacc : account ((m.setGame id g).announce r id).history = account m.history :=
      account_announce ..
    have hr := hst.kept
    rw [← hacc] at hr
    exact .rest (((m.setGame id g).announce_stack r id).trans (hstack rfl)) hr
  | retired m r id generation g accepted hf hk =>
    obtain ⟨own, -, -, -, hslot, hgen⟩ := ha.hand
    exact absurd ⟨hgen, hslot⟩ hk
  | @shutdown m id result res hg =>
    have htr : res.game.config.traceCalls = true :=
      ht _ (List.mem_map_of_mem (List.mem_of_getElem? hg))
    exact .work (hstack rfl) ⟨_, Game.closing_says htr, ha.hand⟩ (List.cons_ne_nil _ _)
  | shutdownLost m id result hg => exact absurd hg hs.balanced.retiring_ne_none
  | closingNote m id result n o => exact .work (hstack rfl) ha.hand (List.cons_ne_nil _ _)
  | closingCall m id result g c resume =>
    obtain ⟨own, ⟨later, hown, hres⟩, hst⟩ := ha.hand
    exact .call (congrArg (List.cons _) (hstack rfl)) ⟨later, hres, hst.called hown (some id)⟩
  | closed m id result g =>
    obtain ⟨own, hsay, hst⟩ := ha.hand
    obtain rfl := hsay trivial
    exact .rest (hstack rfl) hst.closed

/-- What is known of a run in which no entry point is called from inside another, every opening
binds and every game echoes. -/
def Heard (s : Machine × Control) : Prop :=
  unnested s.1.history = true → alwaysBound s.1.history = true → s.1.Traced → Announced s

theorem heard_tick (h : Tick s t) (hs : Sound s) (hb : Busy s) (hh : Heard s) : Heard t := by
  intro hu hbound ht
  have hturn := tick_turn h hs.balanced hs.deferred
  have hsuf := turn_history hturn
  have htr : s.1.Traced := fun config hc => ht config ((configs_turn hturn).subset hc)
  exact announced_tick h hs hb hu hbound ht
    (hh (unnested_suffix hsuf hu) (alwaysBound_suffix hsuf hbound) htr)

end Tick

theorem heard_run {exported : List String} {moves : List Move} {m : Machine}
    (h : (Machine.initial exported).run moves = some m) : Heard (m, .host) := by
  have hrun := Machine.run_keeps (P := fun s => Sound s ∧ Busy s ∧ Heard s)
    (fun ht hp => ⟨sound_tick ht hp.1,
      busy_turn (tick_turn ht hp.1.balanced hp.1.deferred) hp.2.1,
      heard_tick ht hp.1 hp.2.1 hp.2.2⟩)
    h ⟨sound_initial exported, rfl, fun _ _ _ => announced_initial exported⟩
  exact hrun.2.2

/-- The lines follow the calls. Let the host call entry points one after the other, any of them
in any order and none from inside another, with answers and writes as it likes; let every opening
bind and every game echo. When it is done, the lines it received about the lives of games are those
of the calls it made, and the cell holds a game if and only if the calls leave one live. The lines
alternate, beginning with an initialization, if and only if no game was opened while another one
was live: where one was, its initialization stands before the shutdown of the other. In any case
the games that were initialized are those that were shut down and the one in the cell. -/
theorem lifelines_follow_calls (exported : List String) (moves : List Move) (m : Machine)
    (h : (Machine.initial exported).run moves = some m) (hu : unnested m.history = true)
    (hbound : alwaysBound m.history = true)
    (ht : ∀ res ∈ m.games, res.game.config.traceCalls = true) (hs : m.stack = []) :
    (account m.history).lines = linesAfter (account m.history).calls ∧
    m.cell.slot.isSome = liveAfter (account m.history).calls ∧
    alternates .birth (account m.history).lines =
      neverReplaces (account m.history).calls ∧
    (account m.history).lines.count .birth =
      (account m.history).lines.count .death + if m.cell.slot.isSome then 1 else 0 := by
  have hr := (heard_run h hu hbound (List.forall_mem_map.mpr ht)).rested (by rw [tasks, hs]; rfl)
  have ha := alternates_linesAfter (account m.history).calls []
  rw [List.append_nil, alternates, Bool.and_true] at ha
  refine ⟨hr.lines, hr.slot, ?_, ?_⟩
  · rw [hr.lines, ha]
  · rw [hr.lines, hr.slot]
    exact count_linesAfter _

/-- A game is opened, runs a frame and is stopped twice, and another one is opened. -/
def onceMore : List Move :=
  let reply : Move := .answer obligingHost
  [.enter (.start (.all true)), reply, reply, reply, reply, .enter (.request .runFrame), reply,
    .enter .stop, reply, .enter .stop, .enter (.start (.all true)), reply, reply, reply, reply]

theorem lifelines_follow_calls_onceMore :
    ∃ m, (Machine.initial symbols).run onceMore = some m ∧ unnested m.history = true ∧
      (account m.history).lines = [.birth, .death, .birth] ∧
      neverReplaces (account m.history).calls = true ∧
      alternates .birth (account m.history).lines = true := by
  have hr : ((Machine.initial symbols).run onceMore).any fun m =>
      unnested m.history ∧ alwaysBound m.history ∧
        m.games.all (·.game.config.traceCalls) ∧ m.stack.length = 0 ∧
        neverReplaces (account m.history).calls ∧
        linesAfter (account m.history).calls = [.birth, .death, .birth] := by
    decide +kernel
  obtain ⟨m, hm, hd⟩ := (Option.any_eq_true _ _).mp hr
  obtain ⟨hu, hb, ht, hs, hn, hl⟩ := of_decide_eq_true hd
  obtain ⟨hlines, -, halt, -⟩ := lifelines_follow_calls symbols onceMore m hm hu hb
    (List.all_eq_true.mp ht) (List.eq_nil_of_length_eq_zero hs)
  exact ⟨m, hm, hu, hlines.trans hl, hn, halt.trans hn⟩

/-- A second game is opened while the first one is live. -/
def openedTwice : List Move :=
  let reply : Move := .answer obligingHost
  let opening : List Move := [.enter (.start (.all true)), reply, reply, reply, reply]
  opening ++ opening ++ [reply]

/-- The second game is announced before the first one is shut down. -/
theorem lifelines_of_replaced_game :
    ∃ m, (Machine.initial symbols).run openedTwice = some m ∧ unnested m.history = true ∧
      alwaysBound m.history = true ∧ (∀ res ∈ m.games, res.game.config.traceCalls = true) ∧
      m.stack = [] ∧
      (account m.history).lines = [.birth, .birth, .death] ∧
      alternates .birth (account m.history).lines = false := by
  have hr : ((Machine.initial symbols).run openedTwice).any fun m =>
      unnested m.history ∧ alwaysBound m.history ∧
        m.games.all (·.game.config.traceCalls) ∧ m.stack.length = 0 ∧
        (account m.history).lines = [.birth, .birth, .death] := by
    decide +kernel
  obtain ⟨m, hm, hd⟩ := (Option.any_eq_true _ _).mp hr
  obtain ⟨hu, hb, ht, hs, hl⟩ := of_decide_eq_true hd
  refine ⟨m, hm, hu, hb, List.all_eq_true.mp ht, List.eq_nil_of_length_eq_zero hs, hl, ?_⟩
  rw [hl]
  rfl

end GameModule
