/-!
# The game cell

One cell holds the live game between requests. A request takes the game out, runs it with the
lock released, and puts it back, unless the game was retired in the meantime: the generation
counts the events that retire whatever game is out.
-/
namespace GameModule

/-- Games are numbered in the order in which they are made. -/
abbrev GameId := Nat

structure Cell where
  slot : Option GameId
  /-- Counts openings and shutdowns, and starts over after 64 bits. -/
  generation : UInt64
  /-- Requests that have a game out. -/
  running : Nat
  /-- Whether the lock is held. It cannot be taken twice. -/
  held : Bool
deriving DecidableEq

namespace Cell

def empty : Cell := ⟨none, 0, 0, false⟩

/-- Takes the lock; nothing if it is held, because the holder is the caller itself. -/
def acquire (c : Cell) : Option Cell := if c.held then none else some { c with held := true }

def release (c : Cell) : Cell := { c with held := false }

/-- Takes the game out for a request. -/
def checkOut (c : Cell) : Option GameId × Cell :=
  match c.slot with
  | some id => (some id, { c with slot := none, running := c.running + 1 })
  | none => (none, c)

/-- Puts a game back after a request that began at `generation`; false if the game was
retired. -/
def putBack (c : Cell) (id : GameId) (generation : UInt64) : Bool × Cell :=
  let c := { c with running := c.running - 1 }
  if c.generation = generation ∧ c.slot = none then (true, { c with slot := some id })
  else (false, c)

/-- Parks a new game; the game that was parked before comes out. -/
def park (c : Cell) (id : GameId) : Option GameId × Cell :=
  (c.slot, { c with slot := some id, generation := c.generation + 1 })

/-- Takes the parked game out for good. -/
def clear (c : Cell) : Option GameId × Cell :=
  (c.slot, { c with slot := none, generation := c.generation + 1 })

end Cell

end GameModule
