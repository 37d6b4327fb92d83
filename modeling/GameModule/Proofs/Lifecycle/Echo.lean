import GameModule.Proofs.Game.Handle
import GameModule.Proofs.Lifecycle.Journal
import GameModule.Proofs.Lifecycle.Reentry
import GameModule.Proofs.Lifecycle.Turn
import GameModule.Proofs.Text.Narrow

/-!
# The host's texts come back in the echoes

A text of the host is read into characters when a request comes in, set into a line, and sent as
bytes again. Every byte but zero stands for a character of its own, and the line around the text
has no character that would end it early, so the host receives the frame of the line with its own
bytes in place, whatever they are.
-/
namespace GameModule

open Text (Bytes NulFree ascii)

/-! ## The lines -/

/-- The bytes behind a string pointer; none behind a null pointer. -/
def given (text : Option Bytes) : Bytes := text.getD []

/-- The number a line shows for an address: `n` for the edict that begins `280 * n` bytes into the
table at `base`, minus one if none of the `count` edicts begins there. -/
def edictNumber (base : Address) (count : Nat) (ent : Address) : Int :=
  match (List.range count).find? fun n => ent.bits.toNat = base.bits.toNat + 280 * n with
  | some n => n
  | none => -1

namespace HostRequest

/-- The texts the host passes with a request. -/
def texts : HostRequest → List (Option Bytes)
  | .spawnEntities map entities spawnPoint => [map, entities, spawnPoint]
  | .file _ name => [name]
  | .client _ (.connect info) | .client _ (.userinfo info) => [info]
  | .client .. | .runFrame | .serverCommand => []

/-- The line that echoes a request with texts, with the bytes of the host in place and the edict of
a client shown by its number. -/
def line? (number : HostHandle → Int) : HostRequest → Option Bytes
  | .spawnEntities map entities spawnPoint =>
    some (ascii "GameMain::SpawnEntities( \"" ++ given map ++ ascii "\", \"" ++ given spawnPoint ++
      ascii "\", \"" ++ given entities ++ ascii "\" );\n")
  | .file .writeGame name =>
    some (ascii "GameMain::WriteGame( \"" ++ given name ++ ascii "\" );\n")
  | .file .readGame name =>
    some (ascii "GameMain::ReadGame( \"" ++ given name ++ ascii "\" );\n")
  | .file .writeLevel name =>
    some (ascii "GameMain::WriteLevel( \"" ++ given name ++ ascii "\" );\n")
  | .file .readLevel name =>
    some (ascii "GameMain::ReadLevel( \"" ++ given name ++ ascii "\" );\n")
  | .client ent (.connect info) =>
    some (ascii "GameMain::ClientConnect( " ++ ascii (toString (number ent)) ++ ascii ", \"" ++
      given info ++ ascii "\" );\n")
  | .client ent (.userinfo info) =>
    some (ascii "GameMain::ClientUserinfoChanged( " ++ ascii (toString (number ent)) ++
      ascii ", \"" ++ given info ++ ascii "\" );\n")
  | .client .. | .runFrame | .serverCommand => none

end HostRequest

/-! ## What is sent for a line -/

/-- A text without zero bytes is read without loss. -/
theorem ascii_ofNarrow? {text : Option Bytes} (h : NulFree (given text)) :
    ascii (Text.ofNarrow? text) = given text := by
  rw [← Text.toNarrow_eq_ascii (Text.nulFree_ofNarrow? text)]
  cases text with
  | none => rfl
  | some bs => exact (Text.toNarrow_ofNarrow bs).trans (Text.untilZero_eq_self h)

theorem nulFree_digits (n : Nat) : NulFree (ascii n.repr) := by
  intro b hb
  obtain ⟨c, hc, rfl⟩ := List.mem_map.mp hb
  rw [Nat.toList_repr] at hc
  have hd := Nat.isDigit_of_mem_toDigits (by decide) (by decide) hc
  intro hz
  have hm := congrArg UInt8.toNat hz
  rw [Text.toNat_lowByte] at hm
  simp only [Char.isDigit, Bool.and_eq_true, decide_eq_true_eq, UInt32.le_iff_toNat_le] at hd
  change 48 ≤ c.toNat ∧ c.toNat ≤ 57 at hd
  change c.toNat % 256 = 0 at hm
  omega

theorem nulFree_toString (n : Int) : NulFree (ascii (toString n)) := by
  rw [Int.toString_eq_repr]
  cases n with
  | ofNat n => exact nulFree_digits n
  | negSucc n =>
    change NulFree (ascii ("-" ++ (n + 1).repr))
    rw [Text.ascii_append, Text.nulFree_append]
    exact ⟨by decide, nulFree_digits (n + 1)⟩

/-- The frame of a line and its arguments are sent one after the other. -/
theorem toNarrow_traceLine {call arguments : String} (hc : NulFree (ascii call))
    (ha : NulFree (ascii arguments)) :
    Text.toNarrow (Game.traceLine call arguments) =
      ascii "GameMain::" ++ ascii call ++ ascii "( " ++ ascii arguments ++ ascii ");\n" := by
  have hl : NulFree (ascii (Game.traceLine call arguments)) := by
    simp only [Game.traceLine, Text.ascii_append, Text.nulFree_append]
    exact ⟨⟨⟨⟨by decide, hc⟩, by decide⟩, ha⟩, by decide⟩
  rw [Text.toNarrow_eq_ascii hl]
  simp only [Game.traceLine, Text.ascii_append]

theorem nulFree_quoted (text : Option Bytes) :
    NulFree (ascii (Game.quoted (Text.ofNarrow? text))) := by
  simp only [Game.quoted, Text.ascii_append, Text.nulFree_append]
  exact ⟨⟨by decide, Text.nulFree_ofNarrow? text⟩, by decide⟩

theorem ascii_quoted {text : Option Bytes} (h : NulFree (given text)) :
    ascii (Game.quoted (Text.ofNarrow? text)) = ascii "\"" ++ given text ++ ascii "\"" := by
  simp only [Game.quoted, Text.ascii_append, ascii_ofNarrow? h]

-- An echo is put together from smaller literals than those of `line?`.

/-- The end of every line with a quoted text. -/
theorem ascii_close : ascii "\" );\n" = ascii "\"" ++ (ascii " " ++ ascii ");\n") := by decide

theorem ascii_between : ascii "\", \"" = ascii "\"" ++ (ascii ", " ++ ascii "\"") := by decide

theorem toNarrow_spawnEntities {map entities spawnPoint : Option Bytes} (hm : NulFree (given map))
    (he : NulFree (given entities)) (hs : NulFree (given spawnPoint)) :
    Text.toNarrow (Game.traceLine "SpawnEntities"
        (Game.quoted (Text.ofNarrow? map) ++ ", " ++ Game.quoted (Text.ofNarrow? spawnPoint) ++
          ", " ++ Game.quoted (Text.ofNarrow? entities) ++ " ")) =
      ascii "GameMain::SpawnEntities( \"" ++ given map ++ ascii "\", \"" ++ given spawnPoint ++
        ascii "\", \"" ++ given entities ++ ascii "\" );\n" := by
  have ho : ascii "GameMain::SpawnEntities( \"" =
      ascii "GameMain::" ++ (ascii "SpawnEntities" ++ (ascii "( " ++ ascii "\"")) := by decide
  rw [toNarrow_traceLine (by decide), ho, ascii_between, ascii_close]
  · simp only [Text.ascii_append, ascii_quoted hm, ascii_quoted he, ascii_quoted hs,
      List.append_assoc]
  · simp only [Text.ascii_append, Text.nulFree_append, nulFree_quoted, true_and, and_true]
    decide

theorem toNarrow_file {call opening : String} (hc : NulFree (ascii call))
    (ho : ascii opening = ascii "GameMain::" ++ (ascii call ++ (ascii "( " ++ ascii "\"")))
    {name : Option Bytes} (hn : NulFree (given name)) :
    Text.toNarrow (Game.traceLine call (Game.quoted (Text.ofNarrow? name) ++ " ")) =
      ascii opening ++ given name ++ ascii "\" );\n" := by
  rw [toNarrow_traceLine hc, ho, ascii_close]
  · simp only [Text.ascii_append, ascii_quoted hn, List.append_assoc]
  · simp only [Text.ascii_append, Text.nulFree_append, nulFree_quoted, true_and]
    decide

theorem toNarrow_client (call opening : String) (hc : NulFree (ascii call))
    (ho : ascii opening = ascii "GameMain::" ++ (ascii call ++ ascii "( ")) (number : Int)
    {info : Option Bytes} (hn : NulFree (given info)) :
    Text.toNarrow (Game.traceLine call
        (toString number ++ (", \"" ++ Text.ofNarrow? info ++ "\"") ++ " ")) =
      ascii opening ++ ascii (toString number) ++ ascii ", \"" ++ given info ++
        ascii "\" );\n" := by
  rw [toNarrow_traceLine hc, ho, ascii_close]
  · simp only [Text.ascii_append, ascii_ofNarrow? hn, List.append_assoc]
  · simp only [Text.ascii_append, Text.nulFree_append, nulFree_toString, Text.nulFree_ofNarrow?,
      true_and]
    decide

theorem toNarrow_serverCommand {command : Option Bytes} (hc : NulFree (given command)) :
    Text.toNarrow (Game.traceLine "ServerCommand" (Text.ofNarrow? command ++ " ")) =
      ascii "GameMain::ServerCommand( " ++ given command ++ ascii " );\n" := by
  have ho : ascii "GameMain::ServerCommand( " =
      ascii "GameMain::" ++ (ascii "ServerCommand" ++ ascii "( ") := by decide
  have he : ascii " );\n" = ascii " " ++ ascii ");\n" := by decide
  rw [toNarrow_traceLine (by decide), ho, he]
  · simp only [Text.ascii_append, ascii_ofNarrow? hc, List.append_assoc]
  · simp only [Text.ascii_append, Text.nulFree_append, Text.nulFree_ofNarrow?, true_and]
    decide

/-! ## The number of an edict -/

/-- The table of a game that is not placed at null resolves an address to the edict that begins
there. -/
theorem Game.index?_eq_find? {g : Game} (hb : g.place.edicts ≠ .null) (ent : Address) :
    g.index? ent = (List.range g.edicts.length).find? fun n =>
      ent.bits.toNat = g.place.edicts.bits.toNat + 280 * n := by
  refine Option.ext fun n => ?_
  rw [Game.index?_eq_some_iff hb, Game.stride_eq, List.find?_range_eq_some, List.mem_range,
    decide_eq_true_iff]
  constructor
  · rintro ⟨hn, ha⟩
    refine ⟨ha, hn, fun j hj => ?_⟩
    -- two edicts do not begin at one address
    rw [Bool.not_eq_true', decide_eq_false_iff_not]
    omega
  · rintro ⟨ha, hn, -⟩
    exact ⟨hn, ha⟩

theorem Game.entityNumber_eq {g : Game} (hb : g.place.edicts ≠ .null) (ent : Address) :
    g.entityNumber ent = edictNumber g.place.edicts g.edicts.length ent := by
  rw [Game.entityNumber, Game.index?_eq_find? hb, edictNumber]
  split
  · rename_i n hf
    rw [hf]
    rfl
  · rename_i hf
    rw [hf]
    rfl

/-! ## The first call of a request -/

theorem Game.trace_called {σ α : Type} {config : Config} (ht : config.traceCalls = true)
    (line : String) (f : Unit → Activity σ α) (s : σ) :
    (Game.trace config line >>= f) s = .call s (.debugPrint line) fun _ s => f () s := by
  rw [Game.trace_bind, if_pos ht]

/-- A game that echoes its requests begins a request with texts with its line. -/
theorem perform_echoes {g : Game} (ht : g.config.traceCalls = true)
    (hb : g.place.edicts ≠ .null) (id : GameId) {r : HostRequest} {line : Bytes}
    (hn : ∀ text ∈ r.texts, NulFree (given text))
    (hl : r.line? (fun ent =>
      edictNumber g.place.edicts g.edicts.length (ent.address id g.place)) = some line) :
    ∃ text resume, Game.perform (r.decode id g.place) g = .call g (.debugPrint text) resume ∧
      Text.toNarrow text = line := by
  cases r with
  | spawnEntities map entities spawnPoint =>
    obtain rfl := Option.some.inj hl
    simp only [HostRequest.texts, List.forall_mem_cons] at hn
    obtain ⟨hm, he, hs, -⟩ := hn
    exact ⟨_, _, Game.trace_called ht _ _ g, toNarrow_spawnEntities hm he hs⟩
  | file call name =>
    simp only [HostRequest.texts, List.forall_mem_cons] at hn
    refine ⟨_, _, Game.trace_called ht _ _ g, ?_⟩
    cases call <;> obtain rfl := Option.some.inj hl
    all_goals exact toNarrow_file (by decide) (by decide) hn.1
  | client ent call =>
    refine ⟨_, _, Game.trace_called ht _ _ g, ?_⟩
    rw [Game.entityNumber_eq hb]
    cases call with
    | connect info =>
      obtain rfl := Option.some.inj hl
      exact toNarrow_client "ClientConnect" "GameMain::ClientConnect( " (by decide) (by decide) _
        (hn info (List.mem_singleton_self _))
    | userinfo info =>
      obtain rfl := Option.some.inj hl
      exact toNarrow_client "ClientUserinfoChanged" "GameMain::ClientUserinfoChanged( "
        (by decide) (by decide) _ (hn info (List.mem_singleton_self _))
    | _ => cases hl
  | runFrame => cases hl
  | serverCommand => cases hl

theorem lacksInput_of_line {r : HostRequest} {number : HostHandle → Int} {line : Bytes}
    (hl : r.line? number = some line) : r.lacksInput = false := by
  unfold HostRequest.lacksInput
  split
  · cases hl
  · rfl

section Machine

variable {m : Machine} {id : GameId} {res : Resident}

/-- A request that begins with a call hands it to the host at once. -/
theorem Machine.enter_called {r : HostRequest} {c : HostCall String}
    {resume : c.Answer → Game → Outcome Game Bool} (hf : m.cell.held = false)
    (hp : m.cell.slot = some id) (hg : m.games[id]? = some res) (hl : r.lacksInput = false)
    (hc : Game.perform (r.decode id res.game.place) res.game = .call res.game c resume) :
    ∃ m', m.enter (.request r) = some m' ∧
      m'.history = .called (some id) c.send :: .entered (.request r) :: m.history ∧
      m'.stack = .running r id m.cell.generation c resume :: m.stack := by
  rw [Machine.enter_request_parked r hf hp hg, hc]
  have ha : m.arrive r = m.emit (.entered (.request r)) := by
    rw [Machine.arrive, hl]
    rfl
  rw [ha]
  exact ⟨_, rfl, rfl, rfl⟩

theorem Machine.answer_called {r : HostRequest} {generation : UInt64} {c c' : HostCall String}
    {resume : c.Answer → Game → Outcome Game Bool} {rest : List Frame} {g : Game}
    {resume' : c'.Answer → Game → Outcome Game Bool} (reply : (c : HostCall Bytes) → c.Reply)
    (hs : m.stack = .running r id generation c resume :: rest) (hg : m.games[id]? = some res)
    (hc : resume (c.receive (reply c.send)) res.game = .call g c' resume') :
    ∃ m', m.answer reply = some m' ∧ m'.history = .called (some id) c'.send :: m.history := by
  rw [answer_running reply hs hg, hc]
  exact ⟨_, rfl, rfl⟩

end Machine

/-! ## Games that echo keep doing so -/

theorem HostRequest.Carries.config {r : HostRequest} {id : GameId} {g g' : Game} {ok : Bool}
    (h : r.Carries id g g' ok) : g'.config = g.config := by
  obtain ⟨_, ⟨-, he⟩ | ⟨-, rfl⟩⟩ := h
  · exact Game.effect_config he
  · rfl

/-- Game `id` is there and echoes its requests. -/
def Echoes (id : GameId) (s : Machine × Control) : Prop :=
  ∃ res, s.1.games[id]? = some res ∧ res.game.config.traceCalls = true

section Echoes

variable {id : GameId} {s t : Machine × Control}

theorem Echoes.same (h : Echoes id s) (hg : t.1.games = s.1.games) : Echoes id t := by
  rwa [Echoes, hg]

theorem Echoes.made (h : Echoes id s) {new : Resident} (hg : t.1.games = s.1.games ++ [new]) :
    Echoes id t := by
  obtain ⟨res, hi, hc⟩ := h
  refine ⟨res, ?_, hc⟩
  rw [hg, List.getElem?_append_left (List.getElem?_eq_some_iff.mp hi).1]
  exact hi

theorem Echoes.ended (h : Echoes id s) {r : HostRequest} {id' : GameId} {res' : Resident} {g : Game}
    {ok : Bool} (hi' : s.1.games[id']? = some res') (he : r.Carries id' res'.game g ok)
    (hg : t.1.games = s.1.games.set id' { res' with game := g }) : Echoes id t := by
  obtain ⟨res, hi, hc⟩ := h
  rw [Echoes, hg]
  by_cases hid : id' = id
  · subst hid
    obtain rfl := Option.some.inj (hi'.symm.trans hi)
    refine ⟨_, List.getElem?_set_self (List.getElem?_eq_some_iff.mp hi).1, ?_⟩
    rw [← he.config] at hc
    exact hc
  · exact ⟨res, by rwa [List.getElem?_set_ne hid], hc⟩

theorem Echoes.wrote (h : Echoes id s) {id' : GameId} {w : Game.HostWrite}
    (hg : t.1.games = s.1.games.modify id' fun r => { r with game := r.game.write w }) :
    Echoes id t := by
  obtain ⟨res, hi, hc⟩ := h
  rw [Echoes, hg]
  by_cases hid : id' = id
  · subst hid
    refine ⟨{ res with game := res.game.write w }, ?_, ?_⟩
    · rw [List.getElem?_modify_eq, hi]
      rfl
    · cases w <;> exact hc
  · exact ⟨res, by rwa [List.getElem?_modify_ne _ _ hid], hc⟩

theorem echoes_turn (h : Turn s t) (he : Echoes id s) : Echoes id t := by
  cases h with
  | idle new hn hh hcur hc hg => exact he.same hg
  | wrote id' w hh hcur hc hg => exact he.wrote hg
  | turnedAway e result new hr hn hh hcur hc hg => exact he.same hg
  | stoppedEmpty new hn hs hh hcur hc hg => exact he.same hg
  | stopped id' hs hh hcur hc hg => exact he.same hg
  | started exports new hn hh hcur hc hg => exact he.same hg
  | taken r id' new hn hs hh hcur hc hg => exact he.same hg
  | parked exports config rest hs hk hh hcur hc hg => exact he.made hg
  | replaced exports config old rest hs hk hh hcur hc hg => exact he.made hg
  | kept r id' g accepted res rest hs hk hi hcar hh hcur hc hg => exact he.ended hi hcar hg
  | retired r id' generation g accepted res rest hs hk hi hcar hh hcur hc hg =>
    exact he.ended hi hcar hg
  | closed id' result rest hk hh hcur hc hg => exact he.same hg

theorem echoes_run {m m' : Machine} {moves : List Move} (hs : Sound (m, .host))
    (he : Echoes id (m, .host)) (h : m.run moves = some m') : Echoes id (m', .host) := by
  have hrun := Machine.run_keeps (P := fun s => Sound s ∧ Echoes id s)
    (fun ht hp => ⟨sound_tick ht hp.1, echoes_turn (tick_turn ht hp.1.balanced hp.1.deferred) hp.2⟩)
    h ⟨hs, he⟩
  exact hrun.2

end Echoes

/-- The texts of the host come back byte for byte. A game is parked that echoes its requests. Every
request with texts makes the game print its line with the bytes of the host in place, whatever
bytes other than zero they are and however many, before anything else happens. A client is shown by
the place of its edict in the table of the game. A command asks for its first argument, and whatever
the host does before it answers, the line printed next has the bytes of the answer in place. -/
theorem host_texts_echoed (exported : List String) (moves : List Move) (m : Machine) (id : GameId)
    (res : Resident) (h : (Machine.initial exported).run moves = some m)
    (hp : m.cell.slot = some id) (hg : m.games[id]? = some res)
    (ht : res.game.config.traceCalls = true) :
    (∀ (r : HostRequest) (line : Bytes), (∀ text ∈ r.texts, NulFree (given text)) →
      r.line? (fun ent => edictNumber res.game.place.edicts res.game.edicts.length
        (ent.address id res.game.place)) = some line →
      ∃ m', m.step (.enter (.request r)) = some m' ∧
        m'.history =
          .called (some id) (.debugPrint line) :: .entered (.request r) :: m.history) ∧
    ∃ m₁, m.step (.enter (.request .serverCommand)) = some m₁ ∧
      m₁.history =
        .called (some id) (.argv 1) :: .entered (.request .serverCommand) :: m.history ∧
      ∀ (inside : List Move) (m₂ : Machine) (reply : (c : HostCall Bytes) → c.Reply),
        m₁.run inside = some m₂ → m₂.stack = m₁.stack → NulFree (given (reply (.argv 1))) →
        ∃ m₃, m₂.step (.answer reply) = some m₃ ∧
          m₃.history = .called (some id) (.debugPrint (ascii "GameMain::ServerCommand( " ++
            given (reply (.argv 1)) ++ ascii " );\n")) :: m₂.history := by
  have hs : Sound (m, .host) := Machine.run_keeps sound_tick h (sound_initial exported)
  have hf : m.cell.held = false :=
    Machine.run_keeps (P := fun s => s.1.cell.held = false) free_tick h rfl
  have hb : res.game.place.edicts ≠ .null := by
    obtain ⟨_, hl⟩ := run_logged h hg
    rw [hl.shaped.place_eq]
    decide
  constructor
  · intro r line hn hl
    obtain ⟨text, resume, hc, rfl⟩ := perform_echoes ht hb id hn hl
    obtain ⟨m', he, hh, -⟩ := Machine.enter_called hf hp hg (lacksInput_of_line hl) hc
    exact ⟨m', he, hh⟩
  · have hc : Game.perform .serverCommand res.game = _ := Activity.argv_bind 1 _ res.game
    obtain ⟨m₁, he, hh, hst⟩ := Machine.enter_called (r := .serverCommand) hf hp hg rfl hc
    refine ⟨m₁, he, hh, ?_⟩
    intro inside m₂ reply hr hst₂ hn
    have hrun : m.run (.enter (.request .serverCommand) :: inside) = some m₂ := by
      change (m.enter (.request .serverCommand)).bind _ = _
      rw [he]
      exact hr
    obtain ⟨res₂, hg₂, ht₂⟩ := echoes_run hs ⟨res, hg, ht⟩ hrun
    -- the outstanding call is again the one of the command, so the answer goes to it
    have hc₂ := Game.trace_called ht₂
      (Game.traceLine "ServerCommand" (Text.ofNarrow? (reply (.argv 1)) ++ " "))
      (fun _ => pure true) res₂.game
    obtain ⟨m₃, ha, hh₃⟩ := Machine.answer_called reply (hst₂.trans hst) hg₂ hc₂
    rw [← toNarrow_serverCommand hn]
    exact ⟨m₃, ha, hh₃⟩

/-- A host whose arguments are all the same two bytes, which are not valid UTF-8. -/
def accentedHost : (c : HostCall Bytes) → c.Reply
  | .argv _ => some [0xff, 0x80]
  | c => obligingHost c

/-- Requests with texts that are not valid UTF-8, each with its line. Of two edicts, the second
begins at byte 280 of the table, and none at byte 560. -/
def accentedEchoes : List (HostRequest × Bytes) := [
  (.spawnEntities (some [0xe9, 0x22]) none (some [0x01]),
    ascii "GameMain::SpawnEntities( \"" ++ [0xe9, 0x22] ++ ascii "\", \"" ++ [0x01] ++
      ascii "\", \"\" );\n"),
  (.file .readLevel (some [0xff]), ascii "GameMain::ReadLevel( \"" ++ [0xff] ++ ascii "\" );\n"),
  (.client (.fromTable 0 280) (.connect (some [0xe9])),
    ascii "GameMain::ClientConnect( 1, \"" ++ [0xe9] ++ ascii "\" );\n"),
  (.client (.fromTable 0 560) (.userinfo none),
    ascii "GameMain::ClientUserinfoChanged( -1, \"\" );\n")]

theorem host_texts_echoed_accented :
    ∃ m m₁ m₃, (Machine.initial symbols).run (nestedRetirement.take 5) = some m ∧
      (∀ echo ∈ accentedEchoes, ∃ m', m.step (.enter (.request echo.1)) = some m' ∧
        m'.history.head? = some (.called (some 0) (.debugPrint echo.2))) ∧
      m.step (.enter (.request .serverCommand)) = some m₁ ∧
      m₁.step (.answer accentedHost) = some m₃ ∧
      m₃.history.head? = some (.called (some 0) (.debugPrint
        (ascii "GameMain::ServerCommand( " ++ [0xff, 0x80] ++ ascii " );\n"))) := by
  have hr : ((Machine.initial symbols).run (nestedRetirement.take 5)).any fun m =>
      m.cell.slot = some 0 ∧ (m.games[0]?.any fun res => res.game.config.traceCalls ∧
        res.game.place = .standard ∧ res.game.edicts.length = 2) = true := by
    decide +kernel
  obtain ⟨m, hm, hd⟩ := (Option.any_eq_true _ _).mp hr
  obtain ⟨hp, hc⟩ := of_decide_eq_true hd
  obtain ⟨res, hg, hd⟩ := (Option.any_eq_true _ _).mp hc
  obtain ⟨ht, hb, hk⟩ := of_decide_eq_true hd
  have hn : ∀ echo ∈ accentedEchoes, ∀ text ∈ echo.1.texts, NulFree (given text) := by decide
  have hl : ∀ echo ∈ accentedEchoes, echo.1.line? (fun ent =>
      edictNumber Placement.standard.edicts 2 (ent.address 0 .standard)) = some echo.2 := by
    decide +kernel
  obtain ⟨hlines, m₁, h₁, -, hcommand⟩ := host_texts_echoed _ _ m 0 res hm hp hg ht
  obtain ⟨m₃, h₃, hh₃⟩ := hcommand [] m₁ accentedHost rfl rfl (by decide)
  refine ⟨m, m₁, m₃, hm, ?_, h₁, h₃, ?_⟩
  · intro echo he
    obtain ⟨m', h', hh'⟩ := hlines echo.1 echo.2 (hn echo he) (by rw [hb, hk, hl echo he])
    exact ⟨m', h', by rw [hh', List.head?_cons]⟩
  · rw [hh₃]
    rfl

end GameModule
