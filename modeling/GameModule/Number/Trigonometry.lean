import GameModule.Number.Single

/-!
# Sine and cosine in single precision

The argument is reduced to a quarter turn and the remainder is put through a polynomial, both in
double precision with fused multiply-adds; the result is rounded to single precision at the end.
The results are close to, and not always equal to, the correctly rounded ones: the polynomials
below fix them bit by bit.
-/
namespace GameModule.Number.Trigonometry

open Format

/-- A double from its bits. -/
private def constant (bits : Nat) : Value := double.ofWord bits

/-- Sine series from the third to the seventh power. -/
private def sine3 : Value := constant 0xbfc555545995a603
private def sine5 : Value := constant 0x3f81107605230bc4
private def sine7 : Value := constant 0xbf2994eb3774cf24

/-- Cosine series from the second to the eighth power. -/
private def cosine2 : Value := constant 0xbfdffffffd0c621c
private def cosine4 : Value := constant 0x3fa55553e1068f19
private def cosine6 : Value := constant 0xbf56c087e89a359d
private def cosine8 : Value := constant 0x3ef99343027bf8c3

/-- Two over pi, times `2 ^ 24`. -/
private def quarterTurns : Value := constant 0x41645f306dc9c883

/-- A quarter turn. -/
private def quarter : Value := constant 0x3ff921fb54442d18

/-- A quarter turn over `2 ^ 62`. -/
private def quarterUnit : Value := constant 0x3c1921fb54442d18

/-- The binary digits of four over pi in overlapping 32-bit windows, eight bits apart. -/
private def window : List Nat :=
  [0xa2, 0xa2f9, 0xa2f983, 0xa2f9836e, 0xf9836e4e, 0x836e4e44, 0x6e4e4415, 0x4e441529,
   0x441529fc, 0x1529fc27, 0x29fc2757, 0xfc2757d1, 0x2757d1f5, 0x57d1f534, 0xd1f534dd, 0xf534ddc0,
   0x34ddc0db, 0xddc0db62, 0xc0db6295, 0xdb629599, 0x6295993c, 0x95993c43, 0x993c4390, 0x3c439041]

/-- The sine of `x`, where `square` is `x * x`. -/
private def sineSeries (x square : Value) : Value :=
  let cube := double.mul x square
  let tail := double.mulAdd square sine7 sine5
  let seventh := double.mul cube square
  double.mulAdd seventh tail (double.mulAdd cube sine3 x)

/-- The cosine of a number with the given square, negated on request. -/
private def cosineSeries (negative : Bool) (square : Value) : Value :=
  let sign (v : Value) := if negative then v.neg else v
  let fourth := double.mul square square
  let tail := double.mulAdd square (sign cosine8) (sign cosine6)
  let head := double.mulAdd square (sign cosine2) (sign (double.ofInt 1))
  let sixth := double.mul fourth square
  double.mulAdd sixth tail (double.mulAdd fourth (sign cosine4) head)

/-- A number of quarter turns, and what is left of the angle after them. -/
private structure Reduced where
  turns : Int
  rest : Value

/-- Reduction of an angle below 120: the rest is computed from the angle itself. -/
private def reduceSmall (x : Value) : Reduced :=
  let scaled := double.truncate (-0x80000000) 0x7fffffff (double.mul x quarterTurns)
  let n := (scaled + 0x800000) / 0x1000000
  ⟨n, double.mulAdd (double.ofInt n).neg quarter x⟩

/-- Reduction of the absolute value of any larger angle, from its bits: the product with the
digits of four over pi that matter, modulo a full turn. -/
private def reduceLarge (bits : Nat) : Reduced :=
  let digits := window.drop (bits / pow2 26 % 16)
  let digit (i : Nat) := (digits[i]?).getD 0
  let m := (bits % pow2 23 + pow2 23) * pow2 (bits / pow2 23 % 8)
  let high := m * digit 0 % pow2 32
  let product := (m * digit 8 / pow2 32 + high * pow2 32 + m * digit 4) % pow2 64
  let n : Nat := (product + pow2 61) % pow2 64 / pow2 62
  let rest : Nat := (product + pow2 64 - n * pow2 62) % pow2 64
  let rest : Int := if rest < pow2 63 then rest else (rest : Int) - pow2 64
  ⟨n, double.mul (double.ofInt rest) quarterUnit⟩

/-- The series for an angle that is `side` quarter turns and a rest; `odd` picks the cosine. -/
private def seriesAt (side : Int) (odd : Bool) (rest : Value) : Value :=
  let square := double.mul rest rest
  let flipped := side % 4 = 1 ∨ side % 4 = 2
  if odd then cosineSeries (side % 4 = 2 ∨ side % 4 = 3) square
  else sineSeries (if flipped then rest.neg else rest) square

private def isOdd (n : Int) : Bool := n % 2 = 1

/-- Sine, or cosine if `ahead` is true: a cosine is a sine a quarter turn ahead. -/
private def wave (ahead : Bool) (x : Single) : Single :=
  let bits := x.bits.toNat % pow2 31
  let top := bits / pow2 20
  let wide := double.convert single x.value
  let result (v : Value) := Single.ofValue (single.convert double v)
  if 0x7f8 ≤ top then Single.ofValue .nan
  else if top < 0x398 then if ahead then 1 else x
  else if top < 0x3f4 then result (seriesAt 0 ahead wide)
  else if top < 0x42f then
    let r := reduceSmall wide
    result (seriesAt r.turns (isOdd r.turns != ahead) r.rest)
  else
    let r := reduceLarge bits
    let negative := x.bits.toNat ≥ pow2 31
    result (seriesAt (r.turns + if negative then 1 else 0) (isOdd r.turns != ahead) r.rest)

end GameModule.Number.Trigonometry

namespace GameModule.Single

def sin (x : Single) : Single := Number.Trigonometry.wave false x

def cos (x : Single) : Single := Number.Trigonometry.wave true x

end GameModule.Single
