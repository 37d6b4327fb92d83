import GameModule.Record.Movement
import GameModule.Text.Buffer
import GameModule.Text.InfoString

/-!
# Client sessions

One session per client slot. The host drives every transition; a session only checks that each
call arrives in a state in which it makes sense. A refused call changes nothing.
-/
namespace GameModule

/-- What the host may do to a client, over the types of the texts and of the input frames it
passes. -/
inductive ClientCall (τ κ : Type) where
  | connect (userinfo : τ)
  | begin
  | userinfo (userinfo : τ)
  | disconnect
  | command
  | think (input : κ)
deriving DecidableEq

inductive ClientState where
  | unconnected
  /-- Accepted, and expected to begin. -/
  | connected
  /-- In the game. -/
  | active
  | disconnected
deriving DecidableEq

def ClientState.text : ClientState → String
  | .unconnected => "unconnected"
  | .connected => "connected"
  | .active => "active"
  | .disconnected => "disconnected"

inductive SessionError where
  | unknownClient
  | invalidUserinfo (slot : Nat)
  | wrongState (slot : Nat) (call : String) (state : ClientState)
deriving DecidableEq

def SessionError.message : SessionError → String
  | .unknownClient => "edict is not a client slot"
  | .invalidUserinfo slot => "client " ++ toString slot ++ ": userinfo rejected"
  | .wrongState slot call state =>
    "client " ++ toString slot ++ ": " ++ call ++ " while " ++ state.text

structure Session where
  state : ClientState
  userinfo : Text.Buffer Limits.infoString
  netname : Text.Buffer Limits.netName
  lastInput : UserCommand
  /-- Commands since the client began, up to the largest 32-bit number. -/
  commands : Nat
deriving DecidableEq

namespace Session

def blank : Session :=
  { state := .unconnected, userinfo := .empty, netname := .empty, lastInput := .blank,
    commands := 0 }

instance : Inhabited Session := ⟨blank⟩

/-- Stores the settings and the name among them. -/
def withUserinfo (s : Session) (info : String) : Session :=
  { s with
    userinfo := s.userinfo.store info
    netname := s.netname.store (Text.Info.lookup info "name") }

def maxCommands : Nat := 0xffffffff

def isLive (s : Session) : Bool := s.state = .connected || s.state = .active

/-- The session after a call, or why the call is refused. The state is looked at before the
settings are. -/
def apply (slot : Nat) (s : Session) : ClientCall String UserCommand → Except SessionError Session
  | .connect info =>
    if Text.Info.isValid info then
      .ok ({ blank with state := .connected }.withUserinfo info)
    else .error (.invalidUserinfo slot)
  | .begin =>
    if s.isLive then .ok { s with state := .active, commands := 0 }
    else .error (.wrongState slot "begin" s.state)
  | .userinfo info =>
    if !s.isLive then .error (.wrongState slot "userinfo" s.state)
    else if Text.Info.isValid info then .ok (s.withUserinfo info)
    else .error (.invalidUserinfo slot)
  | .disconnect =>
    if s.isLive then .ok { s with state := .disconnected }
    else .error (.wrongState slot "disconnect" s.state)
  | .command =>
    if s.state = .active then .ok { s with commands := min (s.commands + 1) maxCommands }
    else .error (.wrongState slot "command" s.state)
  | .think input =>
    if s.state = .active then .ok { s with lastInput := input }
    else .error (.wrongState slot "think" s.state)

end Session

/-- One session per client slot. -/
abbrev Sessions := List Session

namespace Sessions

def ofSlots (n : Nat) : Sessions := List.replicate n .blank

def apply (ss : Sessions) (slot : Nat) (call : ClientCall String UserCommand) :
    Except SessionError Sessions :=
  match ss[slot]? with
  | none => .error .unknownClient
  | some s => (s.apply slot call).map fun s => ss.set slot s

/-- Client slot `n` is edict `n + 1`; the world and the other edicts have no slot. -/
def slotOfEdict? (ss : Sessions) : Nat → Option Nat
  | 0 => none
  | n + 1 => if n < ss.length then some n else none

def activeCount (ss : Sessions) : Nat := ss.countP (·.state = .active)

end Sessions

end GameModule
