import GameModule.Code
import GameModule.Record.Codec

/-!
# Entity state

The part of an entity that is sent to clients.
-/
namespace GameModule

open Record (Codec)

structure EntityState where
  /-- Index in the edict table. -/
  number : Int32
  origin : Vec3
  angles : Vec3
  oldOrigin : Vec3
  modelIndex : Int32
  modelIndex2 : Int32
  modelIndex3 : Int32
  modelIndex4 : Int32
  frame : Int32
  skinNumber : Int32
  effects : UInt32
  renderFx : Int32
  /-- Packed bounding box. -/
  solid : Int32
  sound : Int32
  event : Int32
deriving DecidableEq, BEq

namespace EntityState

def blank : EntityState :=
  { number := 0, origin := .zero, angles := .zero, oldOrigin := .zero, modelIndex := 0,
    modelIndex2 := 0, modelIndex3 := 0, modelIndex4 := 0, frame := 0, skinNumber := 0,
    effects := 0, renderFx := 0, solid := 0, sound := 0, event := 0 }

instance : Inhabited EntityState := ⟨blank⟩

open Record.Codec in
def codec : Codec EntityState :=
  (int32.pair <| vec3.pair <| vec3.pair <| vec3.pair <| int32.pair <| int32.pair <| int32.pair <|
    int32.pair <| int32.pair <| int32.pair <| word32.pair <| int32.pair <| int32.pair <|
    int32.pair int32).map
  (fun (number, origin, angles, oldOrigin, modelIndex, modelIndex2, modelIndex3, modelIndex4,
      frame, skinNumber, effects, renderFx, solid, sound, event) =>
    { number, origin, angles, oldOrigin, modelIndex, modelIndex2, modelIndex3, modelIndex4, frame,
      skinNumber, effects, renderFx, solid, sound, event })
  (fun s => (s.number, s.origin, s.angles, s.oldOrigin, s.modelIndex, s.modelIndex2,
    s.modelIndex3, s.modelIndex4, s.frame, s.skinNumber, s.effects, s.renderFx, s.solid, s.sound,
    s.event))

def event? (s : EntityState) : Option EntityEvent := Coded.ofCode? s.event.toInt

def setEvent (s : EntityState) (e : EntityEvent) : EntityState :=
  { s with event := Int32.ofInt (Coded.code e) }

end EntityState

end GameModule
