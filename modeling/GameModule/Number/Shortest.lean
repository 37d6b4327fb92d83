import GameModule.Number.Format

/-!
# The fewest decimal digits that read back

A magnitude is written on the coarsest decimal grid that has a point within its rounding
interval: the points that round back to it. Of two such points on that grid the nearer one is
taken, and the upper one if both are equally near.
-/
namespace GameModule.Number

/-- The decimal `digits * 10 ^ exponent`. -/
structure Decimal where
  digits : Nat
  exponent : Int
deriving DecidableEq

/-- The points that round to one magnitude, in quarter units; the ends count if `closed`. -/
structure Interval where
  low : Nat
  high : Nat
  closed : Bool

namespace Interval

/-- Whether `n / d` quarter units lie in the interval. -/
def holds (i : Interval) (n d : Nat) : Bool :=
  if i.closed then i.low * d ≤ n && n ≤ i.high * d else i.low * d < n && n < i.high * d

end Interval

namespace Format

variable (F : Format)

/-- Half a spacing on each side, a quarter below a power of two that starts a new spacing. -/
def interval (units : Nat) : Interval :=
  let p := units.log2 - F.fractionBits
  let below := if 0 < p ∧ units = pow2 (p + F.fractionBits) then pow2 p else 2 * pow2 p
  ⟨4 * units - below, 4 * units + 2 * pow2 p, units / pow2 p % 2 = 0⟩

/-- The point of the grid `10 ^ k` that stands for the magnitude, if the grid has one. -/
def onGrid (units : Nat) (k : Int) : Option Nat :=
  let i := F.interval units
  let up := pow10 (-k).toNat
  let step := 4 * F.one * pow10 k.toNat
  let exact := 4 * units * up
  let d := exact / step
  let hits (d : Nat) := i.holds (d * step) up
  match hits d, hits (d + 1) with
  | true, true => some (if 2 * (exact % step) < step then d else d + 1)
  | true, false => some d
  | false, true => some (d + 1)
  | false, false => none

/-- Tries the grids `10 ^ k`, `10 ^ (k - 1)`, and so on. -/
def shortestFrom (units : Nat) : (grids : Nat) → (k : Int) → Decimal
  | 0, k => ⟨0, k⟩
  | n + 1, k =>
    match F.onGrid units k with
    | some d => ⟨d, k⟩
    | none => shortestFrom units n (k - 1)

/-- No value of the format reaches the first grid tried, and the last one is finer than a unit. -/
def shortest (units : Nat) : Decimal :=
  let top := pow2 (F.exponentBits - 1) / 3 + 1
  F.shortestFrom units (top + F.unitBits + 1) top

end Format

end GameModule.Number
