import GameModule.Game.State

/-!
# Requests

What a host may ask of a live game, over the types of handles, texts and input frames, and what
the game does about it. Each request is echoed on the host's console before anything else happens,
if the settings say so. A refused client call changes nothing and is reported, echo or not.
-/
namespace GameModule

/-- The calls that save and load. -/
inductive FileCall where
  | writeGame | readGame | writeLevel | readLevel
deriving DecidableEq

def FileCall.name : FileCall → String
  | .writeGame => "WriteGame"
  | .readGame => "ReadGame"
  | .writeLevel => "WriteLevel"
  | .readLevel => "ReadLevel"

namespace ClientCall

variable {τ κ τ' κ' : Type}

def name : ClientCall τ κ → String
  | .connect _ => "ClientConnect"
  | .begin => "ClientBegin"
  | .userinfo _ => "ClientUserinfoChanged"
  | .disconnect => "ClientDisconnect"
  | .command => "ClientCommand"
  | .think _ => "ClientThink"

def map (f : τ → τ') (g : κ → κ') : ClientCall τ κ → ClientCall τ' κ'
  | .connect s => .connect (f s)
  | .begin => .begin
  | .userinfo s => .userinfo (f s)
  | .disconnect => .disconnect
  | .command => .command
  | .think c => .think (g c)

/-- What a trace line shows after the edict number. -/
def arguments : ClientCall String κ → String
  | .connect s | .userinfo s => ", \"" ++ s ++ "\""
  | .think _ => ", UserCommand*"
  | .begin | .disconnect | .command => ""

/-- What an accepted call stores into the edict's use field. -/
def inUse? : ClientCall τ κ → Option Int32
  | .begin => some 1
  | .disconnect => some 0
  | .connect _ | .userinfo _ | .command | .think _ => none

end ClientCall

inductive Request (ε τ κ : Type) where
  | spawnEntities (map entities spawnPoint : τ)
  | file (call : FileCall) (name : τ)
  | client (ent : ε) (call : ClientCall τ κ)
  | runFrame
  | serverCommand
deriving DecidableEq

namespace Request

variable {ε τ κ ε' τ' κ' : Type}

def name : Request ε τ κ → String
  | .spawnEntities .. => "SpawnEntities"
  | .file call _ => call.name
  | .client _ call => call.name
  | .runFrame => "RunFrame"
  | .serverCommand => "ServerCommand"

def map (f : ε → ε') (g : τ → τ') (h : κ → κ') : Request ε τ κ → Request ε' τ' κ'
  | .spawnEntities m e s => .spawnEntities (g m) (g e) (g s)
  | .file call n => .file call (g n)
  | .client e call => .client (f e) (call.map g h)
  | .runFrame => .runFrame
  | .serverCommand => .serverCommand

end Request

/-- A request as the game takes it. -/
abbrev GameRequest := Request Address String UserCommand

namespace Game

/-- A line on the host's console about something the game was asked to do. -/
def traceLine (call arguments : String) : String :=
  "GameMain::" ++ call ++ "( " ++ arguments ++ ");\n"

/-- Echoes a line if the settings say so. -/
def trace {σ : Type} (config : Config) (line : String) : Activity σ Unit :=
  if config.traceCalls then Activity.print line else return ()

/-- Reads the settings and announces the new game. The game itself is then made by `create`. -/
def opening {σ : Type} : Activity σ Config := do
  let config ← Config.read
  Activity.note (.allocating config.maxClients config.maxEntities)
  trace config (traceLine "Initialize" "")
  return config

/-- Announces the end of the game. -/
def closing : Activity Game Unit := do
  let g ← Activity.get
  trace g.config (traceLine "Shutdown" "")
  let g ← Activity.get
  Activity.note (.shutDown g.frame)

/-- The game after a client call. -/
def applyClient (g : Game) (ent : Address) (call : ClientCall String UserCommand) :
    Except SessionError Game := do
  let slot ← g.clientSlot ent
  let sessions ← g.sessions.apply slot call
  let g := { g with sessions }
  return match call.inUse? with
    | some value => g.modifyEdict (slot + 1) ({ · with inUse := value })
    | none => g

/-- Reports a refused call on the console and in the log. -/
def reject (cause : SessionError) : Activity Game Unit := do
  Activity.print ("ServerGame: rejected, " ++ cause.message ++ "\n")
  Activity.note (.rejected cause)

def quoted (s : String) : String := "\"" ++ s ++ "\""

/-- Carries out a request. The result says whether a client call was accepted, and is true for
the others. -/
def perform : GameRequest → Activity Game Bool
  | .spawnEntities map entities spawnPoint => do
    let g ← Activity.get
    trace g.config (traceLine "SpawnEntities"
      (quoted map ++ ", " ++ quoted spawnPoint ++ ", " ++ quoted entities ++ " "))
    Activity.modify fun g => { g.resetTables with numEdicts := g.config.maxClients + 1 }
    return true
  | .file call name => do
    let g ← Activity.get
    trace g.config (traceLine call.name (quoted name ++ " "))
    return true
  | .client ent call => do
    let g ← Activity.get
    trace g.config (traceLine call.name (toString (g.entityNumber ent) ++ call.arguments ++ " "))
    let g ← Activity.get
    match g.applyClient ent call with
    | .ok g =>
      Activity.modify fun _ => g
      return true
    | .error cause =>
      reject cause
      return false
  | .runFrame => do
    let g ← Activity.get
    trace g.config (traceLine "RunFrame" (toString g.frame ++ " "))
    Activity.modify fun g => { g with frame := g.frame + 1 }
    return true
  | .serverCommand => do
    let command ← Activity.argv 1
    let g ← Activity.get
    trace g.config (traceLine "ServerCommand" (command ++ " "))
    return true

end Game

end GameModule
