import GameModule.Proofs.Number.Exact
import Mathlib.Data.Rat.Floor
import Mathlib.Tactic.Linarith
import Mathlib.Tactic.Positivity

/-!
# Numbers as rationals

A finite number stands for a rational. Its integer part, which the program takes as a quotient of
naturals with a sign, is that rational cut towards zero.
-/
namespace GameModule

open Number

namespace Number

/-! ## The integer part of a rational -/

/-- The integer part: cut towards zero. -/
def towardZero (q : ℚ) : ℤ := if q < 0 then ⌈q⌉ else ⌊q⌋

theorem towardZero_of_neg {q : ℚ} (h : q < 0) : towardZero q = ⌈q⌉ := if_pos h

theorem towardZero_of_nonneg {q : ℚ} (h : 0 ≤ q) : towardZero q = ⌊q⌋ := if_neg (not_lt.mpr h)

@[simp] theorem towardZero_intCast (n : ℤ) : towardZero n = n := by
  simp [towardZero]

/-- The integer part is on the same side of zero, no further out, and less than one away. -/
theorem towardZero_bounds (q : ℚ) :
    (q ≤ towardZero q ∧ (towardZero q : ℚ) < q + 1 ∧ (towardZero q : ℚ) ≤ 0 ∧ q < 0) ∨
      ((towardZero q : ℚ) ≤ q ∧ q < towardZero q + 1 ∧ 0 ≤ (towardZero q : ℚ) ∧ 0 ≤ q) := by
  by_cases h : q < 0
  · rw [towardZero_of_neg h]
    have hz : ⌈q⌉ ≤ 0 := Int.ceil_le.mpr (by exact_mod_cast h.le)
    exact .inl ⟨Int.le_ceil q, Int.ceil_lt_add_one q, by exact_mod_cast hz, h⟩
  · have hq : 0 ≤ q := not_lt.mp h
    rw [towardZero_of_nonneg hq]
    have hz : 0 ≤ ⌊q⌋ := Int.floor_nonneg.mpr hq
    exact .inr ⟨Int.floor_le q, Int.lt_floor_add_one q, by exact_mod_cast hz, hq⟩

theorem le_towardZero_iff {q : ℚ} {n : ℤ} (hn : 0 < n) : n ≤ towardZero q ↔ (n : ℚ) ≤ q := by
  by_cases h : q < 0
  · have hz : ⌈q⌉ ≤ 0 := Int.ceil_le.mpr (by exact_mod_cast h.le)
    have hq : (q : ℚ) < n := lt_trans h (by exact_mod_cast hn)
    rw [towardZero_of_neg h]
    exact ⟨fun hc => absurd hc (by omega), fun hc => absurd hc (not_le.mpr hq)⟩
  · rw [towardZero_of_nonneg (not_lt.mp h), Int.le_floor]

theorem towardZero_le_iff {q : ℚ} {n : ℤ} (hn : n < 0) : towardZero q ≤ n ↔ q ≤ n := by
  by_cases h : q < 0
  · rw [towardZero_of_neg h, Int.ceil_le]
  · have hq : 0 ≤ q := not_lt.mp h
    have hz : 0 ≤ ⌊q⌋ := Int.floor_nonneg.mpr hq
    have hn' : (n : ℚ) < q := lt_of_lt_of_le (by exact_mod_cast hn) hq
    rw [towardZero_of_nonneg hq]
    exact ⟨fun hc => absurd hc (by omega), fun hc => absurd hc (not_le.mpr hn')⟩

theorem towardZero_between {q : ℚ} {lo hi : ℤ} (hlo : lo < 0) (hhi : 0 < hi) (h : (lo : ℚ) < q)
    (h' : q < hi) : lo < towardZero q ∧ towardZero q < hi := by
  constructor
  · rwa [← not_le, towardZero_le_iff hlo, not_le]
  · rwa [← not_le, le_towardZero_iff hhi, not_le]

theorem signed_mul (n : Bool) (m k : Nat) : signed n (m * k) = signed n m * k := by
  cases n <;> simp [signed]

theorem abs_signed (n : Bool) (m : Nat) : |(signed n m : ℚ)| = m := by
  cases n <;> simp [signed]

theorem signed_natAbs (i : ℤ) : signed (i < 0) i.natAbs = i := by
  unfold signed
  split
  · next h => rw [Int.ofNat_natAbs_of_nonpos (le_of_lt (of_decide_eq_true h)), neg_neg]
  · next h => exact Int.natAbs_of_nonneg (not_lt.mp fun hn => h (decide_eq_true hn))

/-- The integer part of a signed quotient is the signed quotient of naturals. -/
theorem towardZero_signed (n : Bool) (m d : Nat) :
    towardZero ((signed n m : ℚ) / d) = signed n (m / d) := by
  have hq : (0 : ℚ) ≤ (m : ℚ) / d := by positivity
  have hf : ⌊(m : ℚ) / d⌋ = ((m / d : Nat) : ℤ) := Rat.floor_natCast_div_natCast m d
  cases n with
  | false =>
    show towardZero (((m : ℤ) : ℚ) / d) = _
    rw [Int.cast_natCast, towardZero_of_nonneg hq, hf]
    rfl
  | true =>
    have hs : ((signed true m : ℤ) : ℚ) / d = -((m : ℚ) / d) := by
      simp [signed, neg_div]
    rw [hs]
    rcases hq.eq_or_lt with hz | hp
    · have hz' : ((m / d : Nat) : ℤ) = 0 := by rw [← hf, ← hz, Int.floor_zero]
      rw [← hz, neg_zero]
      show towardZero ((0 : ℤ) : ℚ) = -((m / d : Nat) : ℤ)
      rw [towardZero_intCast, hz', neg_zero]
    · rw [towardZero_of_neg (neg_neg_of_pos hp), Int.ceil_neg, hf]
      rfl

/-! ## What a value stands for -/

/-- The rational that a value of the format stands for. -/
def Format.rational? (F : Format) : Value → Option ℚ
  | .finite n m => some ((signed n m : ℚ) / F.one)
  | _ => none

/-- The integer part of a magnitude on the grid, cut to `lo .. hi`. A magnitude that is too large
for the format is past both ends already. -/
theorem Format.truncate_settle {F : Format} {lo hi : ℤ} (n : Bool) (m : Nat) (hlo : lo ≤ hi)
    (hhi : hi * F.one ≤ F.limit) (hl : -lo * F.one ≤ F.limit) :
    F.truncate lo hi (F.settle n m) = max lo (min hi (signed n (m / F.one))) := by
  unfold settle
  split
  · rfl
  · next h =>
    have hone : (0 : ℤ) < F.one := Int.natCast_pos.mpr F.one_pos
    have hm : (F.limit : ℤ) ≤ m := Int.ofNat_le.mpr (Nat.le_of_not_lt h)
    have hq : hi ≤ (m : ℤ) / F.one := (Int.le_ediv_iff_mul_le hone).mpr (le_trans hhi hm)
    have hq' : -lo ≤ (m : ℤ) / F.one := (Int.le_ediv_iff_mul_le hone).mpr (le_trans hl hm)
    cases n with
    | false =>
      show hi = max lo (min hi ((m / F.one : Nat) : ℤ))
      omega
    | true =>
      show lo = max lo (min hi (-((m / F.one : Nat) : ℤ)))
      omega

end Number

namespace Single

/-- The rational that a number stands for, if it is finite. -/
def rational? (x : Single) : Option ℚ := Format.single.rational? x.value

variable {x : Single} {q : ℚ}

theorem value_of_rational? (h : x.rational? = some q) :
    ∃ n m, x.value = .finite n m ∧ q = (signed n m : ℚ) / Format.single.one := by
  unfold rational? at h
  generalize x.value = v at h
  cases v with
  | nan => simp [Format.rational?] at h
  | infinite n => simp [Format.rational?] at h
  | finite n m => exact ⟨n, m, rfl, (Option.some.inj h).symm⟩

theorem rational?_of_value {n : Bool} {c d p : Nat} (h : x.value = .finite n (c * pow2 p))
    (hd : Format.single.one = d * pow2 p) : x.rational? = some ((signed n c : ℚ) / d) := by
  have hp : ((pow2 p : Nat) : ℚ) ≠ 0 := Nat.cast_ne_zero.mpr (pow2_pos p).ne'
  rw [rational?, h, Format.rational?, hd, signed_mul]
  push_cast
  rw [mul_div_mul_right _ _ hp]

end Single

end GameModule
