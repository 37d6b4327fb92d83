import GameModule.Address
import GameModule.Record.Codec
import GameModule.Text.Buffer

/-!
# Collision records

Planes, surfaces, and the outcome of sweeping a box through the world.
-/
namespace GameModule

open Record (Codec)

structure Plane where
  normal : Vec3
  dist : Single
  planeType : UInt8
  signBits : UInt8
  padding : UInt8 × UInt8
deriving DecidableEq, BEq

namespace Plane

def blank : Plane := ⟨.zero, 0, 0, 0, (0, 0)⟩

instance : Inhabited Plane := ⟨blank⟩

open Record.Codec in
def codec : Codec Plane :=
  (vec3.pair <| single.pair <| byte.pair <| byte.pair <| byte.pair byte).map
  (fun (normal, dist, planeType, signBits, padding) =>
    { normal, dist, planeType, signBits, padding })
  (fun p => (p.normal, p.dist, p.planeType, p.signBits, p.padding))

end Plane

structure Surface where
  name : Vector UInt8 16
  flags : Int32
  value : Int32
deriving DecidableEq, BEq

namespace Surface

def blank : Surface := ⟨Vector.replicate 16 0, 0, 0⟩

instance : Inhabited Surface := ⟨blank⟩

open Record.Codec in
def codec : Codec Surface :=
  ((byte.row 16).pair <| int32.pair int32).map
  (fun (name, flags, value) => { name, flags, value })
  (fun s => (s.name, s.flags, s.value))

def nameText (s : Surface) : String := Text.ofNarrow s.name.toList

/-- Stores a name over the old one, cut to sixteen characters and followed by zeros. -/
def setName (s : Surface) (name : String) : Surface :=
  let b : Text.Buffer 16 := ⟨s.name.toList, Vector.length_toList⟩
  { s with name := ⟨(b.store name).bytes.toArray, (b.store name).length_eq⟩ }

end Surface

/-- The outcome of sweeping a box through the world. -/
structure TraceResult where
  /-- The plane means nothing if this is set. -/
  allSolid : Int32
  /-- The sweep started in something solid. -/
  startSolid : Int32
  /-- How far the sweep went; one if nothing was hit. -/
  fraction : Single
  endPos : Vec3
  plane : Plane
  surface : Address
  /-- What is on the other side of the surface. -/
  contents : Int32
  entity : Address
deriving DecidableEq, BEq

namespace TraceResult

def miss : TraceResult :=
  { allSolid := 0, startSolid := 0, fraction := 1, endPos := .zero, plane := .blank,
    surface := .null, contents := 0, entity := .null }

instance : Inhabited TraceResult := ⟨miss⟩

/-- Everything but a sweep that went all the way and was never in anything solid. -/
def isImpact (t : TraceResult) : Bool :=
  !(t.fraction == 1 && t.allSolid == 0 && t.startSolid == 0)

end TraceResult

end GameModule
