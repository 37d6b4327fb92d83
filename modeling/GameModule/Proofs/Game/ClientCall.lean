import GameModule.Proofs.Game.Shape

/-!
# A client call stays in its slot

One client call, with a host that answers and does nothing else. A call is refused for its handle,
for the state of the session or for its userinfo, looked at in this order, and a refused call
leaves the game as it was and one line on the console. An accepted call changes the session of its
slot, and of the edicts at most whether the one of the slot is in use. Nothing is assumed of the
game.
-/
namespace GameModule

open Text (Bytes)

/-! ## A host that only answers -/

/-- The state in which work ends if the host leaves it alone. -/
def Outcome.final {σ α : Type} (reply : (c : HostCall Bytes) → c.Reply) : Outcome σ α → σ
  | .done s _ => s
  | .note _ rest => rest.final reply
  | .call s c resume => (resume (c.receive (reply c.send)) s).final reply

/-- What a request comes to: the calls the host received, the game it left, and its verdict. -/
structure Served where
  calls : List (HostCall Bytes)
  game : Game
  accepted : Bool

namespace Game

def serve (g : Game) (reply : (c : HostCall Bytes) → c.Reply) (r : GameRequest) : Served :=
  let o := perform r g
  ⟨(o.converse reply).1, o.final reply, (o.converse reply).2⟩

/-- The line that echoes a client call, if calls are echoed. -/
def echo (g : Game) (ent : Address) (call : ClientCall String UserCommand) :
    List (HostCall Bytes) :=
  if g.config.traceCalls then
    [.debugPrint (Text.toNarrow (traceLine call.name
      (toString (g.entityNumber ent) ++ call.arguments ++ " ")))]
  else []

end Game

/-- The line that reports a refused call. -/
def SessionError.line (cause : SessionError) : HostCall Bytes :=
  .debugPrint (Text.toNarrow ("ServerGame: rejected, " ++ cause.message ++ "\n"))

namespace Game

/-! ## What is done about a call -/

/-- What follows the echo of a client call. -/
def verdict (g : Game) (ent : Address) (call : ClientCall String UserCommand) : Outcome Game Bool :=
  match g.applyClient ent call with
  | .ok g' => .done g' true
  | .error cause =>
    .call g (.debugPrint ("ServerGame: rejected, " ++ cause.message ++ "\n")) fun _ g =>
      .note (.rejected cause) (.done g false)

theorem perform_client (g : Game) (ent : Address) (call : ClientCall String UserCommand) :
    perform (.client ent call) g =
      if g.config.traceCalls then
        .call g (.debugPrint (traceLine call.name
          (toString (g.entityNumber ent) ++ call.arguments ++ " "))) fun _ g => g.verdict ent call
      else g.verdict ent call := by
  have hd : ∀ g : Game, (match g.applyClient ent call with
      | .ok g => (do
        Activity.modify fun _ => g
        return true : Activity Game Bool)
      | .error cause => (do
        reject cause
        return false : Activity Game Bool)) g = g.verdict ent call := by
    intro g
    rw [verdict]
    cases g.applyClient ent call <;> rfl
  rw [perform, Activity.get_bind, trace_bind]
  split
  · congr 1
    funext _ g
    exact hd g
  · exact hd g

section Serve

variable {g : Game} {ent : Address} {call : ClientCall String UserCommand}
  (reply : (c : HostCall Bytes) → c.Reply)

theorem serve_client :
    g.serve reply (.client ent call) =
      ⟨g.echo ent call ++ ((g.verdict ent call).converse reply).1,
        (g.verdict ent call).final reply, ((g.verdict ent call).converse reply).2⟩ := by
  rw [serve, perform_client, echo]
  split <;> rfl

theorem serve_accepted {g' : Game} (h : g.applyClient ent call = .ok g') :
    g.serve reply (.client ent call) = ⟨g.echo ent call, g', true⟩ := by
  have hv : g.verdict ent call = .done g' true := by rw [verdict, h]
  rw [serve_client, hv]
  exact congrArg (Served.mk · g' true) (List.append_nil _)

theorem serve_refused {cause : SessionError} (h : g.applyClient ent call = .error cause) :
    g.serve reply (.client ent call) = ⟨g.echo ent call ++ [cause.line], g, false⟩ := by
  have hv : g.verdict ent call =
      .call g (.debugPrint ("ServerGame: rejected, " ++ cause.message ++ "\n")) fun _ g =>
        .note (.rejected cause) (.done g false) := by rw [verdict, h]
  rw [serve_client, hv]
  rfl

end Serve

end Game

/-! ## Lines on the console -/

theorem toNarrow_eq_cons {s : String} {c : Char} {cs : List Char} (h : s.toList = c :: cs)
    (hc : Text.lowByte c ≠ 0) : ∃ bs, Text.toNarrow s = Text.lowByte c :: bs := by
  refine ⟨Text.untilZero (cs.map Text.lowByte), ?_⟩
  rw [Text.toNarrow_eq, h, List.map_cons, Text.untilZero,
    List.takeWhile_cons_of_pos (by simpa using hc)]
  rfl

/-- An echo is not the report of a refusal: they begin with different letters. -/
theorem line_not_mem_echo (g : Game) (ent : Address) (call : ClientCall String UserCommand)
    (cause : SessionError) : cause.line ∉ g.echo ent call := by
  intro hm
  rw [Game.echo] at hm
  split at hm
  · have he := List.mem_singleton.mp hm
    rw [SessionError.line, HostCall.debugPrint.injEq] at he
    have hr : ("ServerGame: rejected, " ++ cause.message ++ "\n").toList =
        'S' :: ("erverGame: rejected, ".toList ++ (cause.message.toList ++ ['\n'])) := by
      simp [String.toList_append]
    have ht : ∀ name arguments, (Game.traceLine name arguments).toList =
        'G' :: ("ameMain::".toList ++ (name.toList ++ ("( ".toList ++ (arguments.toList ++
          ");\n".toList)))) := by
      intro name arguments
      simp [Game.traceLine, String.toList_append]
    obtain ⟨bs, hb⟩ := toNarrow_eq_cons hr (by decide)
    obtain ⟨bs', hb'⟩ := toNarrow_eq_cons (ht call.name
      (toString (g.entityNumber ent) ++ call.arguments ++ " ")) (by decide)
    rw [hb, hb', List.cons.injEq] at he
    exact absurd he.1 (by decide)
  · cases hm

/-! ## Refusals -/

namespace ClientCall

variable {τ κ : Type}

/-- The states of a session in which the call makes sense. -/
def fits : ClientCall τ κ → ClientState → Bool
  | .connect _, _ => true
  | .begin, state | .userinfo _, state | .disconnect, state =>
    state = .connected || state = .active
  | .command, state | .think _, state => state = .active

/-- The userinfo a call carries. -/
def info? : ClientCall τ κ → Option τ
  | .connect info | .userinfo info => some info
  | .begin | .disconnect | .command | .think _ => none

theorem info?_map {τ' κ' : Type} (f : τ → τ') (g : κ → κ') (call : ClientCall τ κ) :
    (call.map f g).info? = call.info?.map f := by
  cases call <;> rfl

/-- The word for a call in the report of a refusal. -/
def word : ClientCall τ κ → String
  | .connect _ => "connect"
  | .begin => "begin"
  | .userinfo _ => "userinfo"
  | .disconnect => "disconnect"
  | .command => "command"
  | .think _ => "think"

/-- An edict after a call to its client was accepted. -/
def marked (call : ClientCall τ κ) (e : Edict) : Edict :=
  match call with
  | .begin => { e with inUse := 1 }
  | .disconnect => { e with inUse := 0 }
  | .connect _ | .userinfo _ | .command | .think _ => e

end ClientCall

/-- The session after an accepted call. -/
def Session.after (s : Session) : ClientCall String UserCommand → Session
  | .connect info => { blank with state := .connected }.withUserinfo info
  | .begin => { s with state := .active, commands := 0 }
  | .userinfo info => s.withUserinfo info
  | .disconnect => { s with state := .disconnected }
  | .command => { s with commands := min (s.commands + 1) maxCommands }
  | .think input => { s with lastInput := input }

/-- Every call goes the same way: the state is looked at, then the userinfo. -/
theorem Session.apply_eq (slot : Nat) (s : Session) (call : ClientCall String UserCommand) :
    s.apply slot call =
      if call.fits s.state then
        if call.info?.all Text.Info.isValid then .ok (s.after call)
        else .error (.invalidUserinfo slot)
      else .error (.wrongState slot call.word s.state) := by
  cases call with
  | userinfo info =>
    change (if !s.isLive then _ else _) = if s.isLive then _ else _
    cases s.isLive <;> rfl
  | command | think =>
    simp only [apply, ClientCall.fits, decide_eq_true_eq]
    rfl
  | connect | begin | disconnect => rfl

/-- Why a session refuses a call. -/
inductive Session.Refuses (slot : Nat) (s : Session) (call : ClientCall String UserCommand) :
    SessionError → Prop
  | state (h : call.fits s.state = false) : Refuses slot s call (.wrongState slot call.word s.state)
  | info {info : String} (h : call.fits s.state = true) (hi : call.info? = some info)
      (hv : Text.Info.isValid info = false) : Refuses slot s call (.invalidUserinfo slot)

/-- Why a game refuses a call: the handle is looked at before the session. -/
inductive Game.Refuses (g : Game) (ent : Address) (call : ClientCall String UserCommand) :
    SessionError → Prop
  | handle (h : ∀ slot, g.clientSlot ent ≠ .ok slot) : Refuses g ent call .unknownClient
  | session {slot : Nat} {s : Session} {cause : SessionError} (hc : g.clientSlot ent = .ok slot)
      (hs : g.sessions[slot]? = some s) (hr : s.Refuses slot call cause) : Refuses g ent call cause

theorem Session.refuses_iff (slot : Nat) (s : Session) (call : ClientCall String UserCommand)
    (cause : SessionError) : s.Refuses slot call cause ↔ s.apply slot call = .error cause := by
  rw [Session.apply_eq]
  constructor
  · rintro (h | ⟨h, hi, hv⟩)
    · rw [h]
      rfl
    · rw [h, hi, Option.all_some, hv]
      rfl
  · intro h
    split at h
    · rename_i hf
      split at h
      · cases h
      · rename_i hv
        cases h
        cases hi : call.info? with
        | none =>
          rw [hi] at hv
          exact absurd rfl hv
        | some info =>
          rw [hi, Option.all_some, Bool.not_eq_true] at hv
          exact .info hf hi hv
    · rename_i hf
      cases h
      exact .state (Bool.not_eq_true _ ▸ hf)

theorem Game.refuses_iff (g : Game) (ent : Address) (call : ClientCall String UserCommand)
    (cause : SessionError) : g.Refuses ent call cause ↔ g.applyClient ent call = .error cause := by
  cases hc : g.clientSlot ent with
  | error cause' =>
    have hu : cause' = .unknownClient := by
      unfold Game.clientSlot at hc
      split at hc
      · cases hc
      · cases hc
        rfl
    rw [Game.applyClient_unknown call hc, hu]
    constructor
    · rintro (- | ⟨hc', -, -⟩)
      · rfl
      · rw [hc] at hc'
        cases hc'
    · intro h
      cases h
      exact .handle fun slot hs => by rw [hc] at hs; cases hs
  | ok slot =>
    obtain ⟨s, hs⟩ := Game.exists_session hc
    have ha : g.applyClient ent call = .error cause ↔ s.apply slot call = .error cause := by
      rw [Game.applyClient_eq call hc hs]
      cases s.apply slot call <;> simp [Except.map]
    rw [ha, ← Session.refuses_iff]
    constructor
    · rintro (h | ⟨hc', hs', hr⟩)
      · exact absurd hc (h slot)
      · rw [hc] at hc'
        cases hc'
        rw [hs] at hs'
        cases hs'
        exact hr
    · exact .session hc hs

/-! ## What an accepted call leaves alone -/

/-- Slot `k` apart, `g'` is `g`; of the edict of the slot, only whether it is in use may differ, as
`call` says. -/
structure Game.Confined (k : Nat) (call : ClientCall String UserCommand) (g g' : Game) : Prop where
  config : g'.config = g.config
  place : g'.place = g.place
  clients : g'.clients = g.clients
  numEdicts : g'.numEdicts = g.numEdicts
  frame : g'.frame = g.frame
  slots : g'.sessions.length = g.sessions.length
  sessions : ∀ j, j ≠ k → g'.sessions[j]? = g.sessions[j]?
  table : g'.edicts.length = g.edicts.length
  edicts : ∀ n, n ≠ k + 1 → g'.edicts[n]? = g.edicts[n]?
  edict : ∃ e, g.edicts[k + 1]? = some e ∧ g'.edicts[k + 1]? = some (call.marked e)

theorem Game.markUse_edict {g : Game} {slot : Nat} {e : Edict}
    (call : ClientCall String UserCommand) (he : g.edicts[slot + 1]? = some e) :
    (g.markUse slot call.inUse?).edicts[slot + 1]? = some (call.marked e) := by
  have hm : ∀ value, (g.markUse slot (some value)).edicts[slot + 1]? =
      some { e with inUse := value } := by
    intro value
    change (g.edicts.modify (slot + 1) _)[slot + 1]? = _
    rw [List.getElem?_modify_eq, he]
    rfl
  cases call with
  | begin => exact hm 1
  | disconnect => exact hm 0
  | _ => exact he

theorem Game.markUse_edict_ne {g : Game} {slot n : Nat} (value : Option Int32) (hn : n ≠ slot + 1) :
    (g.markUse slot value).edicts[n]? = g.edicts[n]? := by
  cases value with
  | none => rfl
  | some value =>
    change (g.edicts.modify (slot + 1) _)[n]? = _
    exact List.getElem?_modify_ne _ _ (Ne.symm hn)

theorem Game.confined_of_accepted {g g' : Game} {ent : Address}
    {call : ClientCall String UserCommand} (h : g.applyClient ent call = .ok g') :
    ∃ k, g.clientSlot ent = .ok k ∧ Confined k call g g' := by
  obtain ⟨k, s, s', hc, hs, ha, rfl⟩ := applyClient_ok h
  have hk := (index?_of_clientSlot hc).2
  refine ⟨k, hc, ?_⟩
  constructor
  · rw [markUse_config]
  · rw [markUse_place]
  · rw [markUse_clients]
  · rw [markUse_numEdicts]
  · rw [markUse_frame]
  · rw [markUse_sessions, List.length_set]
  · intro j hj
    rw [markUse_sessions, List.getElem?_set_ne (Ne.symm hj)]
  · rw [markUse_edicts_length]
  · intro n hn
    rw [markUse_edict_ne _ hn]
  · have he := List.getElem?_eq_getElem hk
    exact ⟨_, he, markUse_edict call he⟩

/-- A refused client call changes nothing, and an accepted one changes only its own slot. For any
game, handle and call, with a host that only answers: the call is refused for its handle, for the
state of the session or for its userinfo. If it is, the game is as before and the verdict is false,
and the host receives one line that says so, after the echo and whether or not there is one. If it
is accepted, the host receives the echo at most, only the session of the slot may differ, and of
the edicts only whether the one of the slot is in use: begin says that it is, disconnect that it is
not, and the other calls leave it. -/
theorem client_call_confined (g : Game) (reply : (c : HostCall Bytes) → c.Reply) (ent : Address)
    (call : ClientCall String UserCommand) :
    ∃ calls g' accepted, g.serve reply (.client ent call) = ⟨calls, g', accepted⟩ ∧
      (∀ cause : SessionError, cause.line ∉ g.echo ent call) ∧
      (accepted = false ↔ ∃ cause, g.Refuses ent call cause) ∧
      (∀ cause, g.Refuses ent call cause →
        g' = g ∧ calls = g.echo ent call ++ [cause.line]) ∧
      (accepted = true →
        calls = g.echo ent call ∧ ∃ k, g.clientSlot ent = .ok k ∧ g.Confined k call g') := by
  cases h : g.applyClient ent call with
  | ok g' =>
    refine ⟨_, _, _, Game.serve_accepted reply h, line_not_mem_echo g ent call, ?_, ?_, ?_⟩
    · constructor
      · intro hf
        cases hf
      · rintro ⟨cause, hr⟩
        rw [Game.refuses_iff, h] at hr
        cases hr
    · intro cause hr
      rw [Game.refuses_iff, h] at hr
      cases hr
    · intro _
      exact ⟨rfl, Game.confined_of_accepted h⟩
  | error cause =>
    refine ⟨_, _, _, Game.serve_refused reply h, line_not_mem_echo g ent call, ?_, ?_, ?_⟩
    · exact ⟨fun _ => ⟨cause, (g.refuses_iff ent call cause).mpr h⟩, fun _ => rfl⟩
    · intro cause' hr
      rw [Game.refuses_iff, h] at hr
      cases hr
      exact ⟨rfl, rfl⟩
    · intro hf
      cases hf

end GameModule
