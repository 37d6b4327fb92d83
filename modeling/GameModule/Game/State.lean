import GameModule.Config

/-!
# The state of a game

A game owns the edict table and the client table that the host reads. Both are placed once, when
the game is made, and never move.
-/
namespace GameModule

/-- Where a game's tables are. -/
structure Placement where
  edicts : Address
  clients : Address
deriving DecidableEq

/-- Addresses count within the memory of one game; the clients lie well behind the edicts. -/
def Placement.standard : Placement := ⟨⟨0x10000000000⟩, ⟨0x11000000000⟩⟩

structure Game where
  config : Config
  place : Placement
  edicts : List Edict
  clients : List Client
  /-- Edicts in use from the front of the table. -/
  numEdicts : Nat
  sessions : Sessions
  /-- Frames run. The count is one of 64 bits, which no game runs long enough to fill, so it is kept
  without a bound. -/
  frame : Nat
deriving DecidableEq

/-- What a host is told about a game. -/
structure ExportInfo where
  apiVersion : Nat
  edictSize : Nat
  maxEdicts : Nat
  numEdicts : Nat
deriving DecidableEq

namespace Game

/-- Bytes from one client record to the next. -/
def clientStride : Nat := Record.clientLayout.size

def clientAddress (place : Placement) (slot : Nat) : Address :=
  place.clients.entry clientStride slot

/-- Edict `n` beside a table of so many clients, with nothing of its past: numbered, and a client
edict linked to its client. -/
def resetEdict (clients : Nat) (place : Placement) (n : Nat) : Edict :=
  { Edict.blank with
    state := { EntityState.blank with number := Int32.ofNat n }
    client := if 1 ≤ n ∧ n ≤ clients then clientAddress place (n - 1) else .null }

def freshClient (n : Nat) : Client := { Client.blank with number := Int32.ofNat n }

/-- Every record is overwritten where it stands, and the world is in use. How many records there are
is read off the tables. -/
def resetTables (g : Game) : Game :=
  let edicts := g.edicts.mapIdx fun n _ => resetEdict g.clients.length g.place n
  { g with
    edicts := edicts.modify 0 ({ · with inUse := 1 })
    clients := g.clients.mapIdx fun n _ => freshClient n }

/-- The tables are laid out blank and then reset. -/
def create (config : Config) (place : Placement) : Game :=
  resetTables
    { config, place
      edicts := List.replicate config.maxEntities .blank
      clients := List.replicate config.maxClients .blank
      numEdicts := 1
      sessions := .ofSlots config.maxClients
      frame := 0 }

def exportInfo (g : Game) : ExportInfo :=
  ⟨Limits.apiVersion, Edict.stride, g.edicts.length, g.numEdicts⟩

/-- The handle of edict `n`, null past the end of the table. -/
def handle (g : Game) (n : Nat) : Address :=
  if n < g.edicts.length then g.place.edicts.entry Edict.stride n else .null

/-- The edict a handle stands for. -/
def index? (g : Game) (ent : Address) : Option Nat :=
  (g.place.edicts.index? Edict.stride ent).filter (· < g.edicts.length)

/-- The edict number a trace line shows; minus one for a handle that stands for none. -/
def entityNumber (g : Game) (ent : Address) : Int := ((g.index? ent).map Int.ofNat).getD (-1)

def clientSlot (g : Game) (ent : Address) : Except SessionError Nat :=
  match (g.index? ent).bind g.sessions.slotOfEdict? with
  | some slot => .ok slot
  | none => .error .unknownClient

/-- The client an edict is linked to. -/
def clientOf? (g : Game) (e : Edict) : Option Client :=
  (g.place.clients.index? clientStride e.client).bind (g.clients[·]?)

/-- A line for a reader: the settings and the two counters. -/
def text (g : Game) : String :=
  "ServerGame \x7b config: GameConfig \x7b max_clients: " ++ toString g.config.maxClients ++
  ", max_entities: " ++ toString g.config.maxEntities ++
  ", trace_calls: " ++ toString g.config.traceCalls ++ " \x7d, num_edicts: " ++
  toString g.numEdicts ++ ", frame: " ++ toString g.frame ++ ", .. \x7d"

/-! ## The host's view of the tables -/

/-- A field of an edict, or of its client, that a host may write. -/
inductive HostField where
  | inUse | number | solid | serverFlags | numClusters | ping
deriving DecidableEq

def modifyEdict (g : Game) (n : Nat) (f : Edict → Edict) : Game :=
  { g with edicts := g.edicts.modify n f }

/-- A record the host puts in place of one of the game's. -/
inductive HostWrite where
  | edict (n : Nat) (e : Edict)
  | client (n : Nat) (c : Client)

/-- The tables after the host wrote to them; past the end of a table nothing happens. -/
def write (g : Game) : HostWrite → Game
  | .edict n e => { g with edicts := g.edicts.set n e }
  | .client n c => { g with clients := g.clients.set n c }

/-- What the host writes to set a field of edict `n`: a whole record, with one field changed. -/
def poke? (g : Game) (n : Nat) (field : HostField) (value : Int32) : Option HostWrite := do
  let e ← g.edicts[n]?
  match field with
  | .inUse => return .edict n { e with inUse := value }
  | .number => return .edict n { e with state := { e.state with number := value } }
  | .solid => return .edict n { e with solid := value }
  | .serverFlags => return .edict n { e with serverFlags := value }
  | .numClusters => return .edict n { e with numClusters := value }
  | .ping =>
    let slot ← g.place.clients.index? clientStride e.client
    let c ← g.clients[slot]?
    return .client slot { c with ping := value }

/-- The host sets a field of edict `n`, if it is there. -/
def poke (g : Game) (n : Nat) (field : HostField) (value : Int32) : Game :=
  match g.poke? n field value with
  | some w => g.write w
  | none => g

/-- What a host finds in the row of an edict. -/
structure EdictRow where
  index : Nat
  number : Int32
  inUse : Int32
  client : Option Int32

/-- The rows of the edicts that are in use, linked to a client, or numbered out of place. -/
def rows (g : Game) : List EdictRow :=
  g.edicts.zipIdx.filterMap fun (e, n) =>
    let client := (g.clientOf? e).map (·.number)
    if e.isInUse ∨ client.isSome ∨ e.state.number.toInt ≠ n then
      some ⟨n, e.state.number, e.inUse, client⟩
    else none

end Game

end GameModule
