import GameModule.Number.Single

/-!
# Coordinates and angles in 16 bits

A coordinate travels as a signed count of eighths, an angle as a fraction of a full turn in
65536 parts. Both encoders cut towards zero; values beyond 16 bits wrap.
-/
namespace GameModule.Space

/-- Eighths of a unit, cut towards zero and reduced to 16 bits. -/
def coordToShort (f : Single) : Int16 := (f * 8).toInt32.toInt16

def shortToCoord (s : Int16) : Single := Single.ofInt s.toInt * (1 / 8)

/-- Degrees as parts of a turn, reduced to `0 .. 65535`. -/
def angleToShort (a : Single) : Int32 := (a * 65536 / 360).toInt32 &&& 65535

def shortToAngle (s : Int32) : Single := Single.ofInt s.toInt * (360 / 65536)

end GameModule.Space
