import GameModule.Limits
import GameModule.Record.Movement

/-!
# Player state and client

What is sent to the client that owns a player, and the head of the per-client record, which the
host reads through the edict of the client.
-/
namespace GameModule

open Record (Codec)

structure PlayerState where
  move : MoveState
  viewAngles : Vec3
  viewOffset : Vec3
  kickAngles : Vec3
  gunAngles : Vec3
  gunOffset : Vec3
  gunIndex : Int32
  gunFrame : Int32
  /-- Full screen colour. -/
  blend : Vec4
  fieldOfView : Single
  viewFlags : Int32
  stats : Vector Int16 Limits.stats
deriving DecidableEq, BEq

namespace PlayerState

def blank : PlayerState :=
  { move := .blank, viewAngles := .zero, viewOffset := .zero, kickAngles := .zero,
    gunAngles := .zero, gunOffset := .zero, gunIndex := 0, gunFrame := 0, blend := .zero,
    fieldOfView := 0, viewFlags := 0, stats := Vector.replicate Limits.stats 0 }

instance : Inhabited PlayerState := ⟨blank⟩

open Record.Codec in
def codec : Codec PlayerState :=
  (MoveState.codec.pair <| vec3.pair <| vec3.pair <| vec3.pair <| vec3.pair <| vec3.pair <|
    int32.pair <| int32.pair <| vec4.pair <| single.pair <| int32.pair <|
    int16.row Limits.stats).map
  (fun (move, viewAngles, viewOffset, kickAngles, gunAngles, gunOffset, gunIndex, gunFrame, blend,
      fieldOfView, viewFlags, stats) =>
    { move, viewAngles, viewOffset, kickAngles, gunAngles, gunOffset, gunIndex, gunFrame, blend,
      fieldOfView, viewFlags, stats })
  (fun s => (s.move, s.viewAngles, s.viewOffset, s.kickAngles, s.gunAngles, s.gunOffset,
    s.gunIndex, s.gunFrame, s.blend, s.fieldOfView, s.viewFlags, s.stats))

/-- The value of a statistic; a slot that does not exist reads as zero. -/
def stat (s : PlayerState) (index : Nat) : Int16 := s.stats[index]?.getD 0

/-- Stores a statistic; nothing if the slot does not exist. -/
def setStat? (s : PlayerState) (index : Nat) (value : Int16) : Option PlayerState :=
  if h : index < Limits.stats then some { s with stats := s.stats.set index value h } else none

end PlayerState

structure Client where
  player : PlayerState
  ping : Int32
  /-- Index in the host's table of clients. -/
  number : Int32
deriving DecidableEq, BEq

namespace Client

def blank : Client := ⟨.blank, 0, 0⟩

instance : Inhabited Client := ⟨blank⟩

open Record.Codec in
def codec : Codec Client :=
  (PlayerState.codec.pair <| int32.pair int32).map
  (fun (player, ping, number) => { player, ping, number })
  (fun c => (c.player, c.ping, c.number))

end Client

end GameModule
