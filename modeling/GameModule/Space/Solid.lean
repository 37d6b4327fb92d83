import GameModule.Space.Vector

/-!
# Packed bounding boxes

A box that is square seen from above is sent in 16 bits: half its width, its depth below the
origin and its height above `-32`, each in units of eight and at least one.
-/
namespace GameModule.Space

/-- Units of eight in `f`, cut to `1 .. top`. -/
def inEights (top : Int) (f : Single) : Int := max 1 (min top (f / 8).toInt32.toInt)

def packSolid (mins maxs : Vec3) : Int32 :=
  let width := Int32.ofInt (inEights 31 maxs.x)
  let down := Int32.ofInt (inEights 31 (-mins.z))
  let up := Int32.ofInt (inEights 63 (maxs.z + 32))
  (up <<< 10) ||| (down <<< 5) ||| width

/-- The smallest and the largest corner of the box in the low 16 bits. -/
def unpackSolid (solid : Int32) : Vec3 × Vec3 :=
  let field (n : Int32) : Single := 8 * Single.ofInt n.toInt
  let width := field (solid &&& 31)
  let down := field ((solid >>> 5) &&& 31)
  let up := field ((solid >>> 10) &&& 63) - 32
  (⟨-width, -width, -down⟩, ⟨width, width, up⟩)

end GameModule.Space
