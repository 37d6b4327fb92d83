import GameModule.Code
import GameModule.Record.Codec

/-!
# Movement records

What a client needs to predict its own movement, and one frame of its input. Positions and
velocities are in eighths of a unit.
-/
namespace GameModule

open Record (Codec)

structure MoveState where
  moveType : Int32
  origin : Short3
  velocity : Short3
  flags : UInt8
  /-- Each unit is eight milliseconds. -/
  time : UInt8
  gravity : Int16
  /-- Added to the angles of a command to get the view direction. -/
  deltaAngles : Short3
  /-- The two bytes that fill the record up. -/
  padding : UInt8 × UInt8
deriving DecidableEq, BEq

namespace MoveState

def blank : MoveState :=
  { moveType := 0, origin := ⟨0, 0, 0⟩, velocity := ⟨0, 0, 0⟩, flags := 0, time := 0,
    gravity := 0, deltaAngles := ⟨0, 0, 0⟩, padding := (0, 0) }

instance : Inhabited MoveState := ⟨blank⟩

open Record.Codec in
def codec : Codec MoveState :=
  (int32.pair <| short3.pair <| short3.pair <| byte.pair <| byte.pair <| int16.pair <|
    short3.pair <| byte.pair byte).map
  (fun (moveType, origin, velocity, flags, time, gravity, deltaAngles, padding) =>
    { moveType, origin, velocity, flags, time, gravity, deltaAngles, padding })
  (fun s => (s.moveType, s.origin, s.velocity, s.flags, s.time, s.gravity, s.deltaAngles,
    s.padding))

def moveType? (s : MoveState) : Option MoveType := Coded.ofCode? s.moveType.toInt

def setMoveType (s : MoveState) (t : MoveType) : MoveState :=
  { s with moveType := Int32.ofInt (Coded.code t) }

def setFlags (s : MoveState) (flags : UInt8) : MoveState := { s with flags := flags }

def originCoords (s : MoveState) : Vec3 := .ofShort s.origin

def setOrigin (s : MoveState) (v : Vec3) : MoveState := { s with origin := v.toShort }

def velocityCoords (s : MoveState) : Vec3 := .ofShort s.velocity

def setVelocity (s : MoveState) (v : Vec3) : MoveState := { s with velocity := v.toShort }

end MoveState

/-- One frame of input from a client. -/
structure UserCommand where
  msec : UInt8
  buttons : UInt8
  angles : Short3
  forwardMove : Int16
  sideMove : Int16
  upMove : Int16
  impulse : UInt8
  /-- Light level at the player's place. -/
  lightLevel : UInt8
deriving DecidableEq, BEq

namespace UserCommand

def blank : UserCommand :=
  { msec := 0, buttons := 0, angles := ⟨0, 0, 0⟩, forwardMove := 0, sideMove := 0, upMove := 0,
    impulse := 0, lightLevel := 0 }

instance : Inhabited UserCommand := ⟨blank⟩

open Record.Codec in
def codec : Codec UserCommand :=
  (byte.pair <| byte.pair <| short3.pair <| int16.pair <| int16.pair <| int16.pair <|
    byte.pair byte).map
  (fun (msec, buttons, angles, forwardMove, sideMove, upMove, impulse, lightLevel) =>
    { msec, buttons, angles, forwardMove, sideMove, upMove, impulse, lightLevel })
  (fun c => (c.msec, c.buttons, c.angles, c.forwardMove, c.sideMove, c.upMove, c.impulse,
    c.lightLevel))

end UserCommand

end GameModule
