import GameModule.Number.Format

/-!
# Single precision

A `Single` is its 32 bits, so that records keep the bits of a number that is not one. Arithmetic
goes through `Value`: each operation is exact and then rounded once.
-/
namespace GameModule

open Number (Value Format)

structure Single where
  bits : UInt32
deriving DecidableEq, Inhabited

namespace Single

def value (x : Single) : Value := Format.single.ofWord x.bits.toNat

def ofValue (v : Value) : Single := ⟨UInt32.ofNat (Format.single.toWord v)⟩

def ofInt (n : Int) : Single := ofValue (Format.single.ofInt n)

instance (n : Nat) : OfNat Single n := ⟨ofInt n⟩

/-- The sign bit is flipped, also of a value that is not a number. -/
instance : Neg Single := ⟨fun x => ⟨x.bits ^^^ 0x80000000⟩⟩

instance : Add Single := ⟨fun x y => ofValue (Format.single.add x.value y.value)⟩

instance : Sub Single := ⟨fun x y => ofValue (Format.single.add x.value y.value.neg)⟩

instance : Mul Single := ⟨fun x y => ofValue (Format.single.mul x.value y.value)⟩

instance : Div Single := ⟨fun x y => ofValue (Format.single.div x.value y.value)⟩

/-- Numeric comparison, not comparison of bits. -/
instance : BEq Single := ⟨fun x y => x.value.same y.value⟩

def sqrt (x : Single) : Single := ofValue (Format.single.sqrt x.value)

def isNaN (x : Single) : Bool := x.value = .nan

/-- The integer part as a 32-bit integer; what does not fit goes to the nearer end. -/
def toInt32 (x : Single) : Int32 :=
  Int32.ofInt (Format.single.truncate (-0x80000000) 0x7fffffff x.value)

/-- The integer part, cut to the range of a 64-bit integer. -/
def toInt64 (x : Single) : Int := 
  Format.single.truncate (-0x8000000000000000) 0x7fffffffffffffff x.value

/-- The ratio of a circle's circumference to its diameter. -/
def pi : Single := ⟨0x40490fdb⟩

end Single

end GameModule
