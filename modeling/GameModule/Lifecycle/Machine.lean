import GameModule.Game.Request
import GameModule.Host.Wire
import GameModule.Lifecycle.Cell

/-!
# The module as a machine

The module has control only between a move of the host and the next call it makes to the host. A
run is therefore a list of host moves: entering the module, answering the call that is
outstanding, and writing to memory the host may write to. While a call is outstanding the host may
enter again, so suspended work is a stack, innermost first.

A move is impossible if there is no call to answer, or if the module would wait for a lock it
holds itself.
-/
namespace GameModule

open Text (Bytes)

/-- A value for each of the four integers a host lets the module write. A host has one block with
these fields, and the four pointers it passes are the addresses of the fields, or null, whichever
game it opens. So of a pointer only whether it is null is kept (`Exports Bool`), and what all of
them lead to is the one block (`Exports Int`). -/
structure Exports (α : Type) where
  apiVersion : α
  edictSize : α
  maxEdicts : α
  numEdicts : α
deriving DecidableEq

/-- One of the four integers. -/
inductive ExportField where
  | apiVersion | edictSize | maxEdicts | numEdicts
deriving DecidableEq

namespace Exports

variable {α : Type}

def get (e : Exports α) : ExportField → α
  | .apiVersion => e.apiVersion
  | .edictSize => e.edictSize
  | .maxEdicts => e.maxEdicts
  | .numEdicts => e.numEdicts

def set (e : Exports α) (field : ExportField) (a : α) : Exports α :=
  match field with
  | .apiVersion => { e with apiVersion := a }
  | .edictSize => { e with edictSize := a }
  | .maxEdicts => { e with maxEdicts := a }
  | .numEdicts => { e with numEdicts := a }

/-- The same for all four. -/
def all (a : α) : Exports α := ⟨a, a, a, a⟩

end Exports

/-- An entity handle as the host holds it. The tables of two games may be any distance apart, so a
handle is counted from the table it came from, and never reaches another one. -/
inductive HostHandle where
  | null
  /-- Some bytes from the start of the edict table of `owner`, inside it or not. -/
  | fromTable (owner : GameId) (offset : Int)
deriving DecidableEq

/-- The address a handle is to game `id`, null if the handle came from another game's table. -/
def HostHandle.address (id : GameId) (place : Placement) : HostHandle → Address
  | .null => .null
  | .fromTable owner offset => if owner = id then place.edicts.plus offset else .null

/-- A request as the host makes it: texts and input frames may be null. -/
abbrev HostRequest := Request HostHandle (Option Bytes) (Option UserCommand)

/-- The entry points. -/
inductive Entry where
  /-- Opens a game; says which of the four integers may be written. -/
  | start (exports : Exports Bool)
  /-- Shuts the live game down. -/
  | stop
  | request (r : HostRequest)

/-- What an entry point gives back. -/
inductive EntryResult where
  | nothing
  | verdict (accepted : Bool)
  /-- The table of a new game, or null. -/
  | table (id : Option GameId)
deriving DecidableEq

namespace HostRequest

/-- The request as game `id` takes it: a null text counts as empty and a null input frame as
blank. -/
def decode (r : HostRequest) (id : GameId) (place : Placement) : GameRequest :=
  r.map (·.address id place) Text.ofNarrow? (·.getD .blank)

def lacksInput : HostRequest → Bool
  | .client _ (.think none) => true
  | _ => false

/-- Only a connecting client gets a verdict. -/
def result : HostRequest → Bool → EntryResult
  | .client _ (.connect _), accepted => .verdict accepted
  | _, _ => .nothing

end HostRequest

/-- What a run leaves behind, for the host and for those who watch. -/
inductive Event where
  | entered (e : Entry)
  /-- A call, made for a game or while a new one is being made. -/
  | called (game : Option GameId) (c : HostCall Bytes)
  | noted (n : Notice)
  | stored (field : ExportField) (value : Int)
  | opened (id : GameId)
  | closed (id : GameId)
  | returned (r : EntryResult)

/-- Suspended work: a call is outstanding. -/
inductive Frame where
  /-- A game is being made. -/
  | opening (exports : Exports Bool) (c : HostCall String)
      (resume : c.Answer → Unit → Outcome Unit Config)
  /-- A request has a game out since `generation`. -/
  | running (r : HostRequest) (id : GameId) (generation : UInt64) (c : HostCall String)
      (resume : c.Answer → Game → Outcome Game Bool)
  /-- A game is being shut down, after which the entry point returns `result`. -/
  | closing (id : GameId) (result : EntryResult) (c : HostCall String)
      (resume : c.Answer → Game → Outcome Game Unit)

def Frame.call : Frame → HostCall String
  | .opening _ c _ | .running _ _ _ c _ | .closing _ _ c _ => c

/-- A game that was made, with the pointers it was given: those not null lead to their fields of the
host's one block. -/
structure Resident where
  game : Game
  exports : Exports Bool

structure Machine where
  /-- The symbols the host exports. -/
  exported : List String
  cell : Cell
  /-- Every game made so far, at its number. -/
  games : List Resident
  /-- The host's integers. -/
  ints : Exports Int
  /-- Suspended work, innermost first. -/
  stack : List Frame
  /-- What happened, the latest first. -/
  history : List Event

/-- What a host may do when it has control. -/
inductive Move where
  | enter (e : Entry)
  /-- Returns from the outstanding call. -/
  | answer (reply : (c : HostCall Bytes) → c.Reply)
  /-- Writes to the tables of a game. -/
  | write (id : GameId) (w : Game.HostWrite)
  | writeInts (ints : Exports Int)
  /-- More symbols become visible. -/
  | reveal (symbols : List String)

namespace Machine

def initial (exported : List String) : Machine :=
  { exported, cell := .empty, games := [], ints := .all (-1), stack := [], history := [] }

def emit (m : Machine) (e : Event) : Machine := { m with history := e :: m.history }

def note (m : Machine) (n : Notice) : Machine := m.emit (.noted n)

def push (m : Machine) (f : Frame) : Machine := { m with stack := f :: m.stack }

def setGame (m : Machine) (id : GameId) (g : Game) : Machine :=
  { m with games := m.games.modify id ({ · with game := g }) }

/-- Writes one of the host's integers, if the host passed it. -/
def store (m : Machine) (exports : Exports Bool) (field : ExportField) (value : Int) : Machine :=
  if exports.get field then
    { m with ints := m.ints.set field value }.emit (.stored field value)
  else m

/-- Runs a step on the cell with the lock held. -/
def locked {α : Type} (m : Machine) (f : Cell → α × Cell) : Option (α × Machine) :=
  m.cell.acquire.map fun c =>
    let (a, c) := f c
    (a, { m with cell := c.release })

def leave (m : Machine) (r : EntryResult) : Machine := m.emit (.returned r)

/-- Goes on shutting a game down until the next call or the end. -/
def continueClosing (m : Machine) (id : GameId) (result : EntryResult) :
    Outcome Game Unit → Machine
  | .done g () => ((m.setGame id g).emit (.closed id)).leave result
  | .note n rest => (m.note n).continueClosing id result rest
  | .call g c resume =>
    ((m.setGame id g).emit (.called (some id) c.send)).push (.closing id result c resume)

/-- Shuts a game down, then returns `result`. -/
def close (m : Machine) (id : GameId) (result : EntryResult) : Machine :=
  match m.games[id]? with
  | some r => m.continueClosing id result (Game.closing r.game)
  | none => m.leave result

/-- The end of a request: the game goes back, or is shut down if it was retired. After spawning,
the host is told how many edicts there are now. -/
def finishRunning (m : Machine) (r : HostRequest) (id : GameId) (generation : UInt64)
    (accepted : Bool) : Option Machine := do
  let m := match r, m.games[id]? with
    | .spawnEntities .., some res => m.store res.exports .numEdicts res.game.numEdicts
    | _, _ => m
  let (kept, m) ← m.locked (·.putBack id generation)
  return if kept then m.leave (r.result accepted) else m.close id (r.result accepted)

/-- Goes on with a request until the next call or the end. -/
def continueRunning (m : Machine) (r : HostRequest) (id : GameId) (generation : UInt64) :
    Outcome Game Bool → Option Machine
  | .done g accepted => (m.setGame id g).finishRunning r id generation accepted
  | .note n rest => (m.note n).continueRunning r id generation rest
  | .call g c resume =>
    some (((m.setGame id g).emit (.called (some id) c.send)).push
      (.running r id generation c resume))

/-- The end of an opening: the game is made, the host is told about it, and it is parked. A game
that was parked before is shut down. -/
def finishOpening (m : Machine) (exports : Exports Bool) (config : Config) : Option Machine := do
  let id := m.games.length
  let game := Game.create config .standard
  let info := game.exportInfo
  let m := { m with games := m.games ++ [Resident.mk game exports] }.emit (.opened id)
  let m := m.store exports .apiVersion info.apiVersion
  let m := m.store exports .edictSize info.edictSize
  let m := m.store exports .maxEdicts info.maxEdicts
  let m := m.store exports .numEdicts info.numEdicts
  let (previous, m) ← m.locked (·.park id)
  return match previous with
    | some old => (m.note .replacing).close old (.table (some id))
    | none => m.leave (.table (some id))

/-- Goes on making a game until the next call or the end. -/
def continueOpening (m : Machine) (exports : Exports Bool) : Outcome Unit Config → Option Machine
  | .done _ config => m.finishOpening exports config
  | .note n rest => (m.note n).continueOpening exports rest
  | .call _ c resume =>
    some ((m.emit (.called none c.send)).push (.opening exports c resume))

def start (m : Machine) (exports : Exports Bool) : Option Machine :=
  match bind m.exported with
  | .error cause => some ((m.note (.unbound cause)).leave (.table none))
  | .ok count => (m.note (.bound count)).continueOpening exports (Game.opening ())

def stop (m : Machine) : Option Machine := do
  let (parked, m) ← m.locked Cell.clear
  return match parked with
    | some id => m.close id .nothing
    | none =>
      if m.cell.running > 0 then (m.note .shutdownDeferred).leave .nothing
      else (m.note .shutdownWithoutGame).leave .nothing

/-- A request runs on the parked game; without one it is skipped. -/
def request (m : Machine) (r : HostRequest) : Option Machine := do
  let m := if r.lacksInput then m.note .missingInput else m
  let (out, m) ← m.locked Cell.checkOut
  match out with
  | some id =>
    match m.games[id]? with
    | some res =>
      m.continueRunning r id m.cell.generation
        (Game.perform (r.decode id res.game.place) res.game)
    | none => some (m.leave (r.result false))
  | none =>
    let m := if m.cell.running > 0 then m.note (.reentered r.name) else m.note (.withoutGame r.name)
    return m.leave (r.result false)

def enter (m : Machine) (e : Entry) : Option Machine :=
  let m := m.emit (.entered e)
  match e with
  | .start exports => m.start exports
  | .stop => m.stop
  | .request r => m.request r

/-- Gives the innermost suspended work its answer. -/
def answer (m : Machine) (reply : (c : HostCall Bytes) → c.Reply) : Option Machine :=
  match m.stack with
  | [] => none
  | frame :: stack =>
    let m := { m with stack }
    match frame with
    | .opening exports c resume =>
      m.continueOpening exports (resume (c.receive (reply c.send)) ())
    | .running r id generation c resume =>
      match m.games[id]? with
      | some res =>
        m.continueRunning r id generation (resume (c.receive (reply c.send)) res.game)
      | none => none
    | .closing id result c resume =>
      match m.games[id]? with
      | some res => some (m.continueClosing id result (resume (c.receive (reply c.send)) res.game))
      | none => none

def modifyGame (m : Machine) (id : GameId) (f : Game → Game) : Machine :=
  { m with games := m.games.modify id fun r => { r with game := f r.game } }

def step (m : Machine) : Move → Option Machine
  | .enter e => m.enter e
  | .answer reply => m.answer reply
  | .write id w => some (m.modifyGame id (·.write w))
  | .writeInts ints => some { m with ints }
  | .reveal symbols => some { m with exported := m.exported ++ symbols }

/-- A run: a list of host moves. -/
def run (m : Machine) : List Move → Option Machine
  | [] => some m
  | move :: moves => (m.step move).bind (·.run moves)

end Machine

end GameModule
