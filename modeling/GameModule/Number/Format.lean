import GameModule.Number.Power

/-!
# Binary floating point on natural numbers

A finite value is a sign and a count of *units*, the unit being the smallest positive value of
its format. Each operation states its exact result as a quotient of naturals and rounds it once,
to nearest with ties to even. Rounding, overflow and packing into a word are defined for every
format; nothing here is tied to a width.
-/
namespace GameModule.Number

/-- A binary interchange format: one sign bit, then the exponent field, then the fraction. -/
structure Format where
  fractionBits : Nat
  exponentBits : Nat
deriving DecidableEq

inductive Value where
  | nan
  | infinite (negative : Bool)
  | finite (negative : Bool) (units : Nat)
deriving DecidableEq

/-- The integer `±n`. -/
def signed (negative : Bool) (n : Nat) : Int := if negative then -(n : Int) else n

/-- The integer nearest `a / d`; a half goes to the even neighbour. -/
def roundDiv (a d : Nat) : Nat :=
  let q := a / d
  let r := a % d
  if 2 * r < d then q else if d < 2 * r then q + 1 else q + q % 2

/-- Binary digits of the square root of `n`, from bit `bits - 1` down, on top of `root`. -/
def squareRootFrom (n : Nat) : (bits : Nat) → (root : Nat) → Nat
  | 0, root => root
  | b + 1, root =>
    let next := root + pow2 b
    if next * next ≤ n then squareRootFrom n b next else squareRootFrom n b root

/-- The integer part of the square root. -/
def squareRoot (n : Nat) : Nat := squareRootFrom n (n.log2 / 2 + 1) 0

namespace Format

def single : Format := ⟨23, 8⟩

def double : Format := ⟨52, 11⟩

variable (F : Format)

/-- One is `2 ^ unitBits` units. -/
def unitBits : Nat := pow2 (F.exponentBits - 1) - 2 + F.fractionBits

def one : Nat := pow2 F.unitBits

/-- The magnitude, in units, from which a rounded result is infinite. -/
def limit : Nat := pow2 (pow2 F.exponentBits - 2 + F.fractionBits)

/-- The exponent of the spacing of the format around the magnitude `a / d`. -/
def spacing (a d : Nat) : Nat :=
  let p := a.log2 - (d.log2 + F.fractionBits)
  if 0 < p ∧ a < d * pow2 (p + F.fractionBits) then p - 1 else p

/-- The magnitude nearest `a / d` units, as if the exponent had no upper end. -/
def nearest (a d : Nat) : Nat :=
  let p := F.spacing a d
  roundDiv a (d * pow2 p) * pow2 p

/-- The value nearest `±a / d` units. -/
def round (negative : Bool) (a d : Nat) : Value :=
  let m := F.nearest a d
  if m < F.limit then .finite negative m else .infinite negative

/-- The value nearest `a / d` units for an integer `a`; an exact zero takes the sign given. -/
def roundInt (zeroNegative : Bool) (a : Int) (d : Nat) : Value :=
  if a = 0 then .finite zeroNegative 0 else F.round (a < 0) a.natAbs d

def ofInt (n : Int) : Value := F.roundInt false (n * F.one) 1

def add : Value → Value → Value
  | .finite m a, .finite n b => F.roundInt (m && n) (signed m a + signed n b) 1
  | .infinite m, .infinite n => if m = n then .infinite m else .nan
  | .infinite m, .finite _ _ => .infinite m
  | .finite _ _, .infinite n => .infinite n
  | .nan, _ => .nan
  | _, .nan => .nan

def mul : Value → Value → Value
  | .finite m a, .finite n b => F.round (m != n) (a * b) F.one
  | .infinite m, .infinite n => .infinite (m != n)
  | .infinite m, .finite n b => if b = 0 then .nan else .infinite (m != n)
  | .finite m a, .infinite n => if a = 0 then .nan else .infinite (m != n)
  | .nan, _ => .nan
  | _, .nan => .nan

def div : Value → Value → Value
  | .finite m a, .finite n b =>
    if b = 0 then if a = 0 then .nan else .infinite (m != n)
    else F.round (m != n) (a * F.one) b
  | .infinite _, .infinite _ => .nan
  | .infinite m, .finite n _ => .infinite (m != n)
  | .finite m _, .infinite n => .finite (m != n) 0
  | .nan, _ => .nan
  | _, .nan => .nan

/-- The sum `x * y + z` with one rounding. -/
def mulAdd : Value → Value → Value → Value
  | .finite m a, .finite n b, .finite k c =>
    F.roundInt ((m != n) && k) (signed (m != n) (a * b) + signed k c * F.one) F.one
  | x, y, z => F.add (F.mul x y) z

/-- The root is taken with enough bits below the rounding place, and a last bit that says
whether anything was cut off. -/
def sqrt : Value → Value
  | .finite n a =>
    if a = 0 then .finite n 0
    else if n then .nan
    else
      let extra := F.fractionBits + 3
      let square := a * F.one * pow2 (2 * extra)
      let root := squareRoot square
      F.round false (2 * root + if root * root = square then 0 else 1) (pow2 (extra + 1))
  | .infinite n => if n then .nan else .infinite false
  | .nan => .nan

/-- The nearest value of `F` to a value of `G`. -/
def convert (G : Format) : Value → Value
  | .finite n a => F.round n (a * F.one) G.one
  | v => v

/-- The integer part, cut to `lo .. hi`; not a number gives zero. -/
def truncate (lo hi : Int) : Value → Int
  | .nan => 0
  | .infinite n => if n then lo else hi
  | .finite n a => max lo (min hi (signed n (a / F.one)))

def signWord (negative : Bool) : Nat :=
  if negative then pow2 (F.fractionBits + F.exponentBits) else 0

/-- The bits of a value as a natural number, the sign on top. -/
def toWord : Value → Nat
  | .nan => (pow2 F.exponentBits - 1) * pow2 F.fractionBits + pow2 (F.fractionBits - 1)
  | .infinite n => F.signWord n + (pow2 F.exponentBits - 1) * pow2 F.fractionBits
  | .finite n a =>
    let p := a.log2 - F.fractionBits
    F.signWord n + p * pow2 F.fractionBits + a / pow2 p

def ofWord (w : Nat) : Value :=
  let negative := w / pow2 (F.fractionBits + F.exponentBits) % 2 = 1
  let exponent := w / pow2 F.fractionBits % pow2 F.exponentBits
  let fraction := w % pow2 F.fractionBits
  if exponent = pow2 F.exponentBits - 1 then
    if fraction = 0 then .infinite negative else .nan
  else if exponent = 0 then .finite negative fraction
  else .finite negative ((fraction + pow2 F.fractionBits) * pow2 (exponent - 1))

end Format

namespace Value

def neg : Value → Value
  | .nan => .nan
  | .infinite n => .infinite (!n)
  | .finite n a => .finite (!n) a

/-- Numeric equality: not a number differs from everything, and the two zeros are equal. -/
def same : Value → Value → Bool
  | .finite m a, .finite n b => signed m a = signed n b
  | .infinite m, .infinite n => m = n
  | _, _ => false

end Value

end GameModule.Number
