import GameModule.Number.Numeral
import GameModule.Number.Trigonometry
import GameModule.Space.Coordinate

/-!
# Vectors

Vectors of three and four single precision components. Every component operation is rounded on
its own, in the order written.
-/
namespace GameModule

structure Vec3 where
  x : Single
  y : Single
  z : Single
deriving DecidableEq, BEq, Inhabited

/-- Three 16-bit components: a position or velocity in eighths, or angles in parts of a turn. -/
structure Short3 where
  x : Int16
  y : Int16
  z : Int16
deriving DecidableEq, Inhabited

structure Vec4 where
  x : Single
  y : Single
  z : Single
  w : Single
deriving DecidableEq, BEq, Inhabited

/-- A component number past the last component. -/
structure IndexError where
  index : Nat
deriving DecidableEq

def IndexError.message (e : IndexError) : String :=
  "Vector3 index out of range: " ++ toString e.index

namespace Vec3

def zero : Vec3 := ⟨0, 0, 0⟩

def map (f : Single → Single) (a : Vec3) : Vec3 := ⟨f a.x, f a.y, f a.z⟩

def zip (f : Single → Single → Single) (a b : Vec3) : Vec3 := ⟨f a.x b.x, f a.y b.y, f a.z b.z⟩

instance : Add Vec3 := ⟨zip (· + ·)⟩

instance : Sub Vec3 := ⟨zip (· - ·)⟩

/-- Component by component. -/
instance : Mul Vec3 := ⟨zip (· * ·)⟩

/-- Component by component. -/
instance : Div Vec3 := ⟨zip (· / ·)⟩

instance : Neg Vec3 := ⟨map (- ·)⟩

def scale (a : Vec3) (s : Single) : Vec3 := a.map (· * s)

def divBy (a : Vec3) (s : Single) : Vec3 := a.map (· / s)

/-- The point `s` times along `direction` from `a`. -/
def along (a : Vec3) (s : Single) (direction : Vec3) : Vec3 := a + direction.scale s

def dot (a b : Vec3) : Single := a.x * b.x + a.y * b.y + a.z * b.z

def cross (a b : Vec3) : Vec3 :=
  ⟨a.y * b.z - a.z * b.y, a.z * b.x - a.x * b.z, a.x * b.y - a.y * b.x⟩

def length (a : Vec3) : Single := (a.dot a).sqrt

/-- The vector over its length; a vector of length zero is left alone. -/
def normalize (a : Vec3) : Vec3 :=
  if a.length == 0 then a else a.scale (1 / a.length)

def get (a : Vec3) : Nat → Except IndexError Single
  | 0 => .ok a.x
  | 1 => .ok a.y
  | 2 => .ok a.z
  | i => .error ⟨i⟩

def set (a : Vec3) (i : Nat) (s : Single) : Except IndexError Vec3 :=
  match i with
  | 0 => .ok { a with x := s }
  | 1 => .ok { a with y := s }
  | 2 => .ok { a with z := s }
  | i => .error ⟨i⟩

/-- Read as angles, the components are pitch, yaw and roll. -/
def pitch (a : Vec3) : Single := a.x

def yaw (a : Vec3) : Single := a.y

def roll (a : Vec3) : Single := a.z

def toShort (a : Vec3) : Short3 :=
  ⟨Space.coordToShort a.x, Space.coordToShort a.y, Space.coordToShort a.z⟩

def ofShort (s : Short3) : Vec3 :=
  ⟨Space.shortToCoord s.x, Space.shortToCoord s.y, Space.shortToCoord s.z⟩

/-- An orthogonal set of directions. -/
structure Axes where
  forward : Vec3
  right : Vec3
  up : Vec3

/-- The directions a viewer with these angles, in degrees, looks, has to its right, and has
above. -/
def axes (a : Vec3) : Axes :=
  let radians (degrees : Single) := degrees * (Single.pi * 2 / 360)
  let (sy, cy) := ((radians a.yaw).sin, (radians a.yaw).cos)
  let (sp, cp) := ((radians a.pitch).sin, (radians a.pitch).cos)
  let (sr, cr) := ((radians a.roll).sin, (radians a.roll).cos)
  { forward := ⟨cp * cy, cp * sy, -sp⟩
    right := ⟨-sr * sp * cy + cr * sy, -sr * sp * sy - cr * cy, -sr * cp⟩
    up := ⟨cr * sp * cy + sr * sy, cr * sp * sy - sr * cy, cr * cp⟩ }

def text (a : Vec3) : String :=
  "(.x:" ++ a.x.text ++ ", .y:" ++ a.y.text ++ ", .z:" ++ a.z.text ++ ")"

end Vec3

namespace Vec4

def zero : Vec4 := ⟨0, 0, 0, 0⟩

def zip (f : Single → Single → Single) (a b : Vec4) : Vec4 :=
  ⟨f a.x b.x, f a.y b.y, f a.z b.z, f a.w b.w⟩

instance : Add Vec4 := ⟨zip (· + ·)⟩

instance : Sub Vec4 := ⟨zip (· - ·)⟩

instance : Mul Vec4 := ⟨zip (· * ·)⟩

instance : Div Vec4 := ⟨zip (· / ·)⟩

def xyz (a : Vec4) : Vec3 := ⟨a.x, a.y, a.z⟩

def text (a : Vec4) : String :=
  "(.x:" ++ a.x.text ++ ", .y:" ++ a.y.text ++ ", .z:" ++ a.z.text ++ ", .w:" ++ a.w.text ++ ")"

end Vec4

end GameModule
