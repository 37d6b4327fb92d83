import GameModule.Record.Collision
import GameModule.Record.Entity
import GameModule.Record.Layout
import GameModule.Record.Player

/-!
# Edicts

The part of a server entity that the host reads, and the block through which a player is moved.
-/
namespace GameModule

structure Edict where
  state : EntityState
  /-- Null unless the entity is a player. -/
  client : Address
  inUse : Int32
  linkCount : Int32
  areaPrev : Address
  areaNext : Address
  numClusters : Int32
  clusterNumbers : Vector Int32 Limits.clusters
  headNode : Int32
  areaNumber : Int32
  areaNumber2 : Int32
  serverFlags : Int32
  mins : Vec3
  maxs : Vec3
  absMin : Vec3
  absMax : Vec3
  size : Vec3
  solid : Int32
  clipMask : Int32
  owner : Address
deriving DecidableEq

/-- How many of `room` entries a count reported by the host stands for: none if it is negative, and
never more than there are. -/
def within (room : Nat) (count : Int32) : Nat := min (max count.toInt 0).toNat room

theorem within_le (room : Nat) (count : Int32) : within room count ≤ room := Nat.min_le_right _ _

/-- The entries of a row that a count reported by the host stands for. -/
def counted {α : Type} {n : Nat} (row : Vector α n) (count : Int32) : List α :=
  List.ofFn fun i : Fin (within n count) => row.get (i.castLE (within_le n count))

namespace Edict

/-- Bytes from one edict to the next. -/
def stride : Nat := Record.edictLayout.size

def blank : Edict :=
  { state := .blank, client := .null, inUse := 0, linkCount := 0, areaPrev := .null,
    areaNext := .null, numClusters := 0, clusterNumbers := Vector.replicate Limits.clusters 0,
    headNode := 0, areaNumber := 0, areaNumber2 := 0, serverFlags := 0, mins := .zero,
    maxs := .zero, absMin := .zero, absMax := .zero, size := .zero, solid := 0, clipMask := 0,
    owner := .null }

instance : Inhabited Edict := ⟨blank⟩

def isInUse (e : Edict) : Bool := e.inUse ≠ 0

def solidity? (e : Edict) : Option Solidity := Coded.ofCode? e.solid.toInt

def setSolidity (e : Edict) (s : Solidity) : Edict :=
  { e with solid := Int32.ofInt (Coded.code s) }

def setServerFlags (e : Edict) (flags : Int32) : Edict := { e with serverFlags := flags }

/-- The clusters the edict is in; none if the host fell back to a tree node. -/
def clusters (e : Edict) : List Int32 := counted e.clusterNumbers e.numClusters

/-- Overwrites the first cluster numbers; extra ones are ignored. -/
def setClusters (e : Edict) (ns : List Int32) : Edict :=
  { e with clusterNumbers := e.clusterNumbers.mapIdx fun i old => ns[i]?.getD old }

end Edict

/-- The block a player move reads and writes. -/
structure MoveBlock where
  state : MoveState
  command : UserCommand
  /-- The state was changed by something other than a move. -/
  snapInitial : Int32
  numTouch : Int32
  touch : Vector Address Limits.touches
  viewAngles : Vec3
  viewHeight : Single
  mins : Vec3
  maxs : Vec3
  groundEntity : Address
  waterType : Int32
  waterLevel : Int32
deriving DecidableEq

namespace MoveBlock

def blank : MoveBlock :=
  { state := .blank, command := .blank, snapInitial := 0, numTouch := 0,
    touch := Vector.replicate Limits.touches .null, viewAngles := .zero, viewHeight := 0,
    mins := .zero, maxs := .zero, groundEntity := .null, waterType := 0, waterLevel := 0 }

instance : Inhabited MoveBlock := ⟨blank⟩

/-- The entities touched. -/
def touched (m : MoveBlock) : List Address := counted m.touch m.numTouch

/-- Overwrites the first touched entities; extra ones are ignored. -/
def setTouch (m : MoveBlock) (as : List Address) : MoveBlock :=
  { m with touch := m.touch.mapIdx fun i old => as[i]?.getD old }

end MoveBlock

end GameModule
