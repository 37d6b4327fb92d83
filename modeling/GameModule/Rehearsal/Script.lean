import GameModule.Host.Canned
import GameModule.Lifecycle.Machine

/-!
# Scripts

What a rehearsed host does, in order: entering the module, changing its own answers, and looking
at or writing to the tables it was given. A hook is a piece of script that runs while a call is
outstanding, so that the module is entered again from inside a call.
-/
namespace GameModule

open Text (Bytes)

/-- An entity as a script names it, by its place in the table the host knows. -/
inductive EntityRef where
  | null
  | index (n : Nat)
  /-- Any distance from the start of the table, in bytes. -/
  | offset (k : Int)

/-- A request that names entities by their place. -/
abbrev ScriptRequest := Request EntityRef (Option Bytes) (Option UserCommand)

inductive ScriptStep where
  | start (exports : Exports Bool)
  | stop
  | request (r : ScriptRequest)
  /-- Reads the version in the export table. -/
  | apiVersion
  | setInts (ints : Exports Int)
  | setArgs (args : List (Option Bytes))
  | setCvar (c : CannedCvar)
  | reveal (symbols : List String)
  /-- Looks at the known table. -/
  | edicts
  | poke (n : Nat) (field : Game.HostField) (value : Int32)

/-- Steps to run once, when the call `on` has been made `skip` times before. -/
structure Hook where
  on : String
  skip : Nat
  steps : List ScriptStep

/-- What a step gives back. -/
inductive StepResult where
  | nothing
  | opened (b : Bool)
  | verdict (accepted : Bool)
  | version (n : Nat)
  | table (length : Nat) (rows : List Game.EdictRow)

namespace FileCall

def stepName : FileCall → String
  | .writeGame => "write_game"
  | .readGame => "read_game"
  | .writeLevel => "write_level"
  | .readLevel => "read_level"

/-- The call a step of that name makes. -/
def ofStepName? (name : String) : Option FileCall :=
  [.writeGame, .readGame, .writeLevel, .readLevel].find? (·.stepName = name)

end FileCall

def ClientCall.stepName {τ κ : Type} : ClientCall τ κ → String
  | .connect _ => "client_connect"
  | .begin => "client_begin"
  | .userinfo _ => "client_userinfo_changed"
  | .disconnect => "client_disconnect"
  | .command => "client_command"
  | .think _ => "client_think"

def Request.stepName {ε τ κ : Type} : Request ε τ κ → String
  | .spawnEntities .. => "spawn_entities"
  | .file call _ => call.stepName
  | .client _ call => call.stepName
  | .runFrame => "run_frame"
  | .serverCommand => "server_command"

namespace ScriptStep

/-- The name a journal shows. -/
def name : ScriptStep → String
  | .start _ => "initialize"
  | .stop => "shutdown"
  | .request r => r.stepName
  | .apiVersion => "api_version"
  | .setInts _ => "set_ints"
  | .setArgs _ => "set_args"
  | .setCvar _ => "set_cvar"
  | .reveal _ => "export"
  | .edicts => "edicts"
  | .poke .. => "poke"

/-- Whether a step may change which table is the live one, or what the host knows of its size. -/
def disturbs : ScriptStep → Bool
  | .start _ | .stop | .setInts _ => true
  | _ => false

end ScriptStep

namespace Hook

/-- What the first hook on a call does when the call is made: it is counted down, or it is spent
and its steps are due. -/
def fire (name : String) : List Hook → List ScriptStep × List Hook
  | [] => ([], [])
  | h :: hs =>
    if h.on = name then
      match h.skip with
      | 0 => (h.steps, hs)
      | skip + 1 => ([], { h with skip } :: hs)
    else
      let (steps, hs) := fire name hs
      (steps, h :: hs)

end Hook

end GameModule
