import GameModule.Proofs.Game.ClientCall
import GameModule.Proofs.Text.Narrow
import Mathlib.Data.List.Forall2

/-!
# Tracing adds echoes and nothing else

Whether a game echoes its requests is one of its settings, and nothing but the echo looks at it.
So a game that is made and asked the same things with and without tracing goes through the same
tables and sessions and gives the same verdicts, and what the host receives without tracing is what
it receives with tracing, the echoes left out. Reports of refusals are not echoes.
-/
namespace GameModule

open Text (Bytes NulFree ascii)

/-- A host's answers for the time of one operation, in which no call is made twice. -/
abbrev Replies := (c : HostCall Bytes) → c.Reply

/-! ## Lines that are echoes -/

/-- A line on the console that begins so. -/
def HostCall.printsWith (start : String) : HostCall Bytes → Bool
  | .debugPrint line => (ascii start).isPrefixOf line
  | _ => false

/-- The echo of a request. -/
def HostCall.isEcho (c : HostCall Bytes) : Bool := c.printsWith "GameMain::"

/-- The report of a refusal. -/
def HostCall.isReport (c : HostCall Bytes) : Bool := c.printsWith "ServerGame: rejected, "

theorem toNarrow_append {s : String} (h : NulFree (ascii s)) (t : String) :
    Text.toNarrow (s ++ t) = ascii s ++ Text.toNarrow t := by
  rw [Text.toNarrow_eq, Text.toNarrow_eq]
  change Text.untilZero (ascii (s ++ t)) = _
  rw [Text.ascii_append, Text.untilZero_append h]
  rfl

theorem isEcho_traceLine (call arguments : String) :
    (HostCall.debugPrint (Text.toNarrow (Game.traceLine call arguments))).isEcho = true := by
  have hl : Game.traceLine call arguments =
      "GameMain::" ++ (call ++ ("( " ++ (arguments ++ ");\n"))) := by
    simp only [Game.traceLine, String.append_assoc]
  rw [hl, toNarrow_append (by decide)]
  exact List.isPrefixOf_iff_prefix.mpr (List.prefix_append ..)

theorem isEcho_line (cause : SessionError) : cause.line.isEcho = false := by
  rw [SessionError.line, String.append_assoc, toNarrow_append (by decide)]
  rfl

theorem isReport_line (cause : SessionError) : cause.line.isReport = true := by
  rw [SessionError.line, String.append_assoc, toNarrow_append (by decide)]
  exact List.isPrefixOf_iff_prefix.mpr (List.prefix_append ..)

/-- Asks whether requests are to be echoed. -/
def HostCall.asksTracing : HostCall Bytes → Bool
  | .cvar name _ _ => name = ascii "g_tracecalls"
  | _ => false

/-- The hosts give the same answers, but for the variable that switches tracing on. -/
def AgreeBut (quiet loud : Replies) : Prop := ∀ c, c.asksTracing = false → quiet c = loud c

/-! ## One operation -/

/-- The same settings without tracing. -/
def Config.muted (config : Config) : Config := { config with traceCalls := false }

/-- The same game without tracing. -/
def Game.muted (g : Game) : Game := { g with config := g.config.muted }

/-- Without tracing the work comes to the same, and the host receives the same without the echoes;
there are `echoes` of them. -/
structure Outcome.Mutes {α : Type} (quiet loud : Replies) (echoes : Nat) (o' o : Outcome Game α) :
    Prop where
  game : o'.final quiet = (o.final loud).muted
  result : (o'.converse quiet).2 = (o.converse loud).2
  calls : (o'.converse quiet).1 = (o.converse loud).1.filter (!·.isEcho)
  echoed : (o.converse loud).1.countP HostCall.isEcho = echoes

namespace Outcome.Mutes

variable {α : Type} {quiet loud : Replies} {echoes : Nat}

theorem done (g : Game) (a : α) : Mutes quiet loud 0 (.done g.muted a) (.done g a) :=
  ⟨rfl, rfl, rfl, rfl⟩

theorem note {o' o : Outcome Game α} (h : o'.Mutes quiet loud echoes o) (n : Notice) :
    Mutes quiet loud echoes (.note n o') (.note n o) :=
  ⟨h.game, h.result, h.calls, h.echoed⟩

/-- A call that is no echo is made in both games, and answered alike. -/
theorem call {c : HostCall String} {g' g : Game} {resume' resume : c.Answer → Game → Outcome Game α}
    (he : c.send.isEcho = false) (ha : quiet c.send = loud c.send)
    (h : Mutes quiet loud echoes (resume' (c.receive (loud c.send)) g')
      (resume (c.receive (loud c.send)) g)) :
    Mutes quiet loud echoes (.call g' c resume') (.call g c resume) := by
  have hq : c.receive (quiet c.send) = c.receive (loud c.send) := by rw [ha]
  obtain ⟨hgame, hresult, hcalls, hechoed⟩ := h
  constructor
  · rw [Outcome.final, Outcome.final, hq, hgame]
  · rw [Outcome.converse, Outcome.converse, hq]
    exact hresult
  · rw [Outcome.converse, Outcome.converse, hq]
    change _ :: _ = (_ :: _).filter _
    rw [List.filter_cons_of_pos (by rw [he]; rfl), hcalls]
  · rw [Outcome.converse]
    change (_ :: _).countP _ = _
    rw [List.countP_cons_of_neg (by rw [he]; exact Bool.false_ne_true), hechoed]

/-- An echo is made in one game only. -/
theorem trace {line line' : String} {config : Config} (ht : config.traceCalls = true)
    {f' f : Unit → Activity Game α} {g' g : Game}
    (he : (HostCall.debugPrint (Text.toNarrow line)).isEcho = true)
    (h : Mutes quiet loud echoes (f' () g') (f () g)) :
    Mutes quiet loud (echoes + 1) ((Game.trace config.muted line' >>= f') g')
      ((Game.trace config line >>= f) g) := by
  -- the game that is muted goes on at once, with a line that may be another one
  have hq : (Game.trace config.muted line' >>= f') g' = f' () g' := rfl
  rw [hq, Game.trace_bind, if_pos ht]
  obtain ⟨hgame, hresult, hcalls, hechoed⟩ := h
  refine ⟨hgame, hresult, ?_, ?_⟩
  · rw [Outcome.converse]
    change _ = (HostCall.debugPrint (Text.toNarrow line) :: _).filter _
    rw [List.filter_cons_of_neg (by rw [he]; exact Bool.false_ne_true), hcalls]
  · rw [Outcome.converse]
    change (HostCall.debugPrint (Text.toNarrow line) :: _).countP _ = _
    rw [List.countP_cons_of_pos he, ← hechoed]

end Outcome.Mutes

namespace Game

open Activity

variable {quiet loud : Replies} {g : Game}

theorem applyClient_muted (g : Game) (ent : Address) (call : ClientCall String UserCommand) :
    g.muted.applyClient ent call = (g.applyClient ent call).map muted := by
  have hs : g.muted.clientSlot ent = g.clientSlot ent := rfl
  cases hc : g.clientSlot ent with
  | error cause =>
    rw [applyClient_unknown call (hs.trans hc), applyClient_unknown call hc]
    rfl
  | ok slot =>
    obtain ⟨s, hg⟩ := exists_session hc
    rw [applyClient_eq call (hs.trans hc) hg, applyClient_eq call hc hg]
    cases s.apply slot call with
    | error cause => rfl
    | ok s' => cases call <;> rfl

/-- A refusal is reported with and without tracing. -/
theorem reject_muted (hA : AgreeBut quiet loud) (cause : SessionError) (g : Game) :
    ((reject cause >>= fun _ => pure false) g.muted).Mutes quiet loud 0
      ((reject cause >>= fun _ => pure false) g) := by
  rw [reject_bind, reject_bind]
  exact .call (isEcho_line cause) (hA _ rfl) (.note (.done g false) _)

theorem perform_muted (hA : AgreeBut quiet loud) (r : GameRequest)
    (ht : g.config.traceCalls = true) :
    (perform r g.muted).Mutes quiet loud 1 (perform r g) := by
  cases r with
  | spawnEntities map entities spawnPoint =>
    rw [perform, get_bind, get_bind]
    exact .trace ht (isEcho_traceLine ..) (.done { g.resetTables with numEdicts := _ } true)
  | file call name =>
    rw [perform, get_bind, get_bind]
    exact .trace ht (isEcho_traceLine ..) (.done g true)
  | client ent call =>
    rw [perform, get_bind, get_bind]
    refine .trace ht (isEcho_traceLine ..) ?_
    rw [get_bind, get_bind, applyClient_muted]
    cases g.applyClient ent call with
    | ok g' => exact .done g' true
    | error cause => exact reject_muted hA cause g
  | runFrame =>
    rw [perform, get_bind, get_bind]
    exact .trace ht (isEcho_traceLine ..) (.done { g with frame := g.frame + 1 } true)
  | serverCommand =>
    rw [perform, argv_bind, argv_bind]
    refine .call rfl (hA _ rfl) ?_
    rw [get_bind, get_bind]
    exact .trace ht (isEcho_traceLine ..) (.done g true)

theorem closing_muted (quiet loud : Replies) (ht : g.config.traceCalls = true) :
    (closing g.muted).Mutes quiet loud 1 (closing g) := by
  rw [closing, get_bind, get_bind]
  exact .trace ht (isEcho_traceLine ..) (.note (.done g ()) (.shutDown g.frame))

end Game

/-! ## A whole life -/

/-- One thing a host does with a game: it writes to the tables and then makes a request. -/
structure Operation where
  writes : List Game.HostWrite
  request : GameRequest

namespace Game

/-- What the opening of a game comes to. -/
def opened (reply : Replies) (place : Placement) : Served :=
  ⟨((opening ()).converse reply).1, create (Config.answered reply) place, true⟩

/-- What the shutdown of a game comes to. -/
def closed (g : Game) (reply : Replies) : Served :=
  ⟨((closing g).converse reply).1, (closing g).final reply, true⟩

/-- What one operation after another comes to, and the shutdown behind the last; for operation
number `n` the host answers as `host n` says. -/
def serveFrom (host : Nat → Replies) : Nat → Game → List Operation → List Served
  | n, g, [] => [g.closed (host n)]
  | n, g, op :: ops =>
    let served := (op.writes.foldl write g).serve (host n) op.request
    served :: serveFrom host (n + 1) served.game ops

/-- What the life of a game comes to, from its opening to its shutdown. -/
def life (host : Nat → Replies) (place : Placement) (ops : List Operation) : List Served :=
  opened (host 0) place :: serveFrom host 1 (opened (host 0) place).game ops

end Game

/-- All calls the host received. -/
def received (steps : List Served) : List (HostCall Bytes) := steps.flatMap (·.calls)

/-- The same step without and with tracing: the same verdict and the same tables, and of the calls
all but the one that is an echo. -/
structure Served.Untraced (quiet loud : Served) : Prop where
  accepted : quiet.accepted = loud.accepted
  edicts : quiet.game.edicts = loud.game.edicts
  clients : quiet.game.clients = loud.game.clients
  sessions : quiet.game.sessions = loud.game.sessions
  numEdicts : quiet.game.numEdicts = loud.game.numEdicts
  frame : quiet.game.frame = loud.game.frame
  calls : quiet.calls = loud.calls.filter (!·.isEcho)
  echoed : loud.calls.countP HostCall.isEcho = 1

theorem Served.Untraced.of_muted {quiet loud : Served} (ha : quiet.accepted = loud.accepted)
    (hg : quiet.game = loud.game.muted) (hc : quiet.calls = loud.calls.filter (!·.isEcho))
    (he : loud.calls.countP HostCall.isEcho = 1) : quiet.Untraced loud where
  accepted := ha
  edicts := by rw [hg]; rfl
  clients := by rw [hg]; rfl
  sessions := by rw [hg]; rfl
  numEdicts := by rw [hg]; rfl
  frame := by rw [hg]; rfl
  calls := hc
  echoed := he

/-- What deferred work comes to with a host that only answers. -/
theorem Outcome.Defers.final {α : Type} {E : Game → Game → α → Prop} {o : Outcome Game α} {g : Game}
    (h : o.Defers E g) (reply : Replies) : E g (o.final reply) (o.converse reply).2 := by
  induction o generalizing g with
  | done g' a => exact h
  | note n rest ih => exact ih h
  | call g' c resume ih =>
    obtain ⟨rfl, hres⟩ := h
    exact ih _ _ (hres _ _)

namespace Game

variable {quiet loud : Replies}

theorem foldl_write_muted (writes : List HostWrite) (g : Game) :
    writes.foldl write g.muted = (writes.foldl write g).muted := by
  induction writes generalizing g with
  | nil => rfl
  | cons w ws ih =>
    have hw : g.muted.write w = (g.write w).muted := by cases w <;> rfl
    rw [List.foldl_cons, List.foldl_cons, hw, ih]

theorem foldl_write_config (writes : List HostWrite) (g : Game) :
    (writes.foldl write g).config = g.config := by
  induction writes generalizing g with
  | nil => rfl
  | cons w ws ih =>
    have hw : (g.write w).config = g.config := by cases w <;> rfl
    rw [List.foldl_cons, ih, hw]

/-- The three variables are asked for, and then the opening is echoed. -/
theorem received_opening (reply : Replies) :
    ((opening ()).converse reply).1 =
      [HostCall.send (.cvar "maxclients" "4" (Cvar.serverInfo ||| Cvar.latched)),
        HostCall.send (.cvar "maxentities" "1024" Cvar.latched),
        HostCall.send (.cvar "g_tracecalls" "1" 0)] ++
      if (Config.answered reply).traceCalls then
        [.debugPrint (Text.toNarrow (traceLine "Initialize" ""))]
      else [] := by
  have ht : ∀ config : Config,
      (((trace config (traceLine "Initialize" "") >>= fun _ => pure config) ()).converse reply).1 =
        if config.traceCalls then [.debugPrint (Text.toNarrow (traceLine "Initialize" ""))]
        else [] := by
    intro config
    rw [trace_bind]
    split <;> rfl
  rw [Config.answered_eq, ← ht]
  rfl

/-- The hosts answer alike when they are asked for a variable, the one for tracing apart. -/
theorem setting_eq (hA : AgreeBut quiet loud) {name default : String} {flags : Int32}
    (hn : (HostCall.send (.cvar name default flags)).asksTracing = false) :
    Config.setting quiet name default flags = Config.setting loud name default flags := by
  rw [Config.setting, Config.setting, hA _ hn]

theorem answered_muted (hA : AgreeBut quiet loud)
    (hq : (Config.setting quiet "g_tracecalls" "1" 0 != 0) = false) :
    Config.answered quiet = (Config.answered loud).muted := by
  rw [Config.answered_eq, Config.answered_eq, hq, setting_eq hA (by decide),
    setting_eq hA (by decide)]
  rfl

theorem opened_untraced (hA : AgreeBut quiet loud) (place : Placement)
    (hq : (Config.setting quiet "g_tracecalls" "1" 0 != 0) = false)
    (hl : (Config.answered loud).traceCalls = true) :
    (opened quiet place).Untraced (opened loud place) := by
  have hm := answered_muted hA hq
  have he := isEcho_traceLine "Initialize" ""
  refine .of_muted rfl ?_ ?_ ?_
  · exact congrArg (create · place) hm
  · rw [opened, opened, received_opening, received_opening, hm, if_pos hl, List.filter_append]
    simp only [List.filter_cons, he]
    rfl
  · rw [opened, received_opening, if_pos hl, List.countP_append, List.countP_singleton, he]
    rfl

theorem serve_config (g : Game) (reply : Replies) (r : GameRequest) :
    (g.serve reply r).game.config = g.config := by
  rcases (perform_defers r g).final reply with ⟨-, he⟩ | ⟨-, hs⟩
  · exact effect_config he
  · exact congrArg config hs

/-- The step of a life: a request does the same to a game that is muted. -/
theorem serve_untraced (hA : AgreeBut quiet loud) {g : Game} (ht : g.config.traceCalls = true)
    (r : GameRequest) :
    (g.muted.serve quiet r).game = (g.serve loud r).game.muted ∧
      (g.muted.serve quiet r).Untraced (g.serve loud r) := by
  obtain ⟨hgame, hresult, hcalls, hechoed⟩ := perform_muted hA r ht
  exact ⟨hgame, .of_muted hresult hgame hcalls hechoed⟩

theorem serveFrom_untraced {quiet loud : Nat → Replies} (hA : ∀ n, AgreeBut (quiet n) (loud n))
    (ops : List Operation) (n : Nat) {g : Game} (ht : g.config.traceCalls = true) :
    List.Forall₂ Served.Untraced (serveFrom quiet n g.muted ops) (serveFrom loud n g ops) := by
  induction ops generalizing n g with
  | nil =>
    obtain ⟨hgame, -, hcalls, hechoed⟩ := closing_muted (quiet n) (loud n) ht
    exact .cons (.of_muted rfl hgame hcalls hechoed) .nil
  | cons op ops ih =>
    -- tracing is on for the game the request finds, and for the one it leaves
    rw [← foldl_write_config op.writes g] at ht
    obtain ⟨hgame, hstep⟩ := serve_untraced (hA n) ht op.request
    rw [serveFrom, serveFrom, foldl_write_muted]
    refine .cons hstep ?_
    rw [hgame]
    rw [← serve_config _ (loud n) op.request] at ht
    exact ih (n + 1) ht

end Game

theorem received_untraced {quiet loud : List Served} (h : List.Forall₂ Served.Untraced quiet loud) :
    received quiet = (received loud).filter (!·.isEcho) := by
  induction h with
  | nil => rfl
  | @cons a b l₁ l₂ hab _ ih =>
    change a.calls ++ received l₁ = (b.calls ++ received l₂).filter _
    rw [List.filter_append, hab.calls, ih]

/-- A line is not both: echoes and reports begin with different letters. -/
theorem isEcho_of_isReport {c : HostCall Bytes} (h : c.isReport = true) : c.isEcho = false := by
  cases c with
  | debugPrint line =>
    rw [HostCall.isReport, HostCall.printsWith, List.isPrefixOf_iff_prefix] at h
    rw [Bool.eq_false_iff]
    intro he
    rw [HostCall.isEcho, HostCall.printsWith, List.isPrefixOf_iff_prefix] at he
    rcases List.prefix_or_prefix_of_prefix h he with hp | hp
    · exact absurd hp (by decide)
    · exact absurd hp (by decide)
  | _ => cases h

theorem reports_filter (calls : List (HostCall Bytes)) :
    (calls.filter (!·.isEcho)).filter HostCall.isReport = calls.filter HostCall.isReport := by
  rw [List.filter_filter]
  refine List.filter_congr fun c _ => ?_
  cases h : c.isReport with
  | false => rfl
  | true => rw [isEcho_of_isReport h]; rfl

/-- Switching tracing off takes away the echoes and nothing else. Take two hosts that answer alike
and do nothing else, but for the variable that switches tracing on: it is zero with one of them and
not with the other. A game is opened, is asked any things in any order, the host writing to its
tables in between, and is shut down. At every step the verdict, the edicts, the clients, the
sessions, the number of edicts and the frame are the same with both hosts. What the host without
tracing receives is what the other one receives less the lines that begin with `GameMain::`, one at
each step. So it receives every report of a refusal, in the same order. -/
theorem tracing_adds_echoes (quiet loud : Nat → Replies) (place : Placement)
    (ops : List Operation) (hA : ∀ n, AgreeBut (quiet n) (loud n))
    (hq : (Config.setting (quiet 0) "g_tracecalls" "1" 0 != 0) = false)
    (hl : (Config.setting (loud 0) "g_tracecalls" "1" 0 != 0) = true) :
    let untraced := Game.life quiet place ops
    let traced := Game.life loud place ops
    List.Forall₂ Served.Untraced untraced traced ∧
    received untraced = (received traced).filter (!·.isEcho) ∧
    (∀ cause : SessionError, cause.line.isReport = true) ∧
    (received untraced).filter HostCall.isReport = (received traced).filter HostCall.isReport := by
  have ht : (Config.answered (loud 0)).traceCalls = true := by
    rw [Config.answered_eq, hl]
    rfl
  have hm := Game.answered_muted (hA 0) hq
  have hs : List.Forall₂ Served.Untraced (Game.life quiet place ops) (Game.life loud place ops) := by
    refine .cons (Game.opened_untraced (hA 0) place hq ht) ?_
    have hg : (Game.opened (quiet 0) place).game = (Game.opened (loud 0) place).game.muted :=
      congrArg (Game.create · place) hm
    rw [hg]
    exact Game.serveFrom_untraced hA ops 1 ht
  have hr := received_untraced hs
  exact ⟨hs, hr, isReport_line, by rw [hr, reports_filter]⟩

/-- A host whose variables are all one, but for the one that switches tracing on. -/
def tracingHost (tracing : Single) : Replies
  | .cvar name _ _ =>
    some ⟨none, none, 0, 0, if name = ascii "g_tracecalls" then tracing else ⟨0x3f800000⟩⟩
  | c => CannedHost.reply ⟨0, 0, 0, .miss, [], 0, 0, [], 0, none, []⟩ c

theorem agreeBut_tracingHost (x y : Single) : AgreeBut (tracingHost x) (tracingHost y) := by
  intro c hc
  cases c with
  | cvar name default flags =>
    have hn : name ≠ ascii "g_tracecalls" := of_decide_eq_false hc
    change some (Cvar.mk _ _ _ _ (if _ then _ else _)) = some (Cvar.mk _ _ _ _ (if _ then _ else _))
    rw [if_neg hn, if_neg hn]
  | _ => rfl

/-- A client begins too early, which the host hears of with and without tracing. -/
theorem tracing_adds_echoes_early :
    let quiet : Nat → Replies := fun _ => tracingHost ⟨0x80000000⟩
    let loud : Nat → Replies := fun _ => tracingHost ⟨0x3f800000⟩
    let ent := (Game.create ⟨1, 2, true⟩ .standard).handle 1
    let ops : List Operation :=
      [⟨[], .client ent .begin⟩, ⟨[], .client ent (.connect "")⟩, ⟨[], .serverCommand⟩]
    (∀ n, AgreeBut (quiet n) (loud n)) ∧
    (received (Game.life loud .standard ops)).countP HostCall.isEcho = 5 ∧
    received (Game.life quiet .standard ops) =
      (received (Game.life loud .standard ops)).filter (!·.isEcho) ∧
    ((received (Game.life quiet .standard ops)).filter HostCall.isReport).length = 1 := by
  intro quiet loud ent ops
  have hA : ∀ n, AgreeBut (quiet n) (loud n) := fun _ => agreeBut_tracingHost _ _
  obtain ⟨-, hcalls, -, hreports⟩ :=
    tracing_adds_echoes quiet loud .standard ops hA (by decide +kernel) (by decide +kernel)
  refine ⟨hA, by decide +kernel, hcalls, ?_⟩
  rw [hreports]
  decide +kernel

end GameModule
