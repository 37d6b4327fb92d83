import GameModule.Proofs.Number.Rational
import GameModule.Record.Movement
import Mathlib.Tactic.NormNum
import Mathlib.Tactic.Ring

/-!
# Coordinates lose less than an eighth

A finite number is read as the rational it stands for. Encoding takes the integer part of its
eighths; what is decoded again lies between zero and the number, less than an eighth away, and is
the number itself if that is a multiple of an eighth. The number may have any bits: what is too
small for a leading bit, either zero, an infinite value and what is not a number are included.
-/
namespace GameModule

open Number

theorem Number.eight_mul_signed (n : Bool) (m d : Nat) :
    8 * ((signed n m : ℚ) / d) = (signed n (m * 8) : ℚ) / d := by
  rw [signed_mul]
  push_cast
  ring

namespace Single

variable {x : Single} {q : ℚ}

theorem value_eight : (8 : Single).value = .finite false (8 * Format.single.one) :=
  value_ofInt (i := 8) (by decide)

theorem value_eighth : (1 / 8 : Single).value = .finite false (pow2 146) := by decide +kernel

/-- Eight times a finite number is exact but for overflow. -/
theorem value_mul_eight {n : Bool} {m : Nat} (h : x.value = .finite n m) :
    (x * 8).value = Format.single.settle n (m * 8) := by
  have hg : Format.single.OnGrid (m * 8) := (onGrid_of_value h).mul_pow2 3
  have hm : m * (8 * Format.single.one) = Format.single.one * (m * 8) := by
    rw [← Nat.mul_assoc, Nat.mul_comm]
  have hv := value_mul h value_eight hm hg
  rwa [Bool.bne_false] at hv

/-- An eighth of an integer of at most 24 bits is exact. -/
theorem value_ofInt_mul_eighth {i : ℤ} (h : i.natAbs < pow2 24) :
    (ofInt i * (1 / 8)).value = .finite (i < 0) (i.natAbs * pow2 146) := by
  have hg : Format.single.OnGrid (i.natAbs * pow2 146) := ⟨i.natAbs, _, h, rfl⟩
  have hm : i.natAbs * Format.single.one * pow2 146 =
      Format.single.one * (i.natAbs * pow2 146) := by
    rw [Nat.mul_comm i.natAbs, Nat.mul_assoc]
  have hl : i.natAbs * pow2 146 < Format.single.limit :=
    calc i.natAbs * pow2 146
        < pow2 24 * pow2 146 := Nat.mul_lt_mul_of_pos_right h (pow2_pos _)
      _ ≤ Format.single.limit := by decide +kernel
  have hv := value_mul (value_ofInt h) value_eighth hm hg
  rw [Bool.bne_false] at hv
  exact hv.trans (if_pos hl)

theorem rational?_ofInt_mul_eighth {i : ℤ} (h : i.natAbs < pow2 24) :
    (ofInt i * (1 / 8)).rational? = some ((i : ℚ) / 8) := by
  have hd : Format.single.one = 8 * pow2 146 := by decide +kernel
  rw [rational?_of_value (value_ofInt_mul_eighth h) hd, signed_natAbs]
  rfl

theorem limit_eq : Format.single.limit = pow2 128 * Format.single.one := by decide +kernel

/-- Eight times a finite number is exact below the largest power of two. -/
theorem rational?_mul_eight (h : x.rational? = some q) (hq : |8 * q| < 2 ^ 128) :
    (x * 8).rational? = some (8 * q) := by
  obtain ⟨n, m, hv, rfl⟩ := value_of_rational? h
  have hone : (0 : ℚ) < Format.single.one := Nat.cast_pos.mpr (Format.one_pos _)
  rw [eight_mul_signed] at hq ⊢
  rw [abs_div, abs_signed, abs_of_pos hone, div_lt_iff₀ hone] at hq
  have hl : m * 8 < Format.single.limit := by
    rw [limit_eq]
    exact_mod_cast hq
  rw [rational?, value_mul_eight hv, Format.settle, if_pos hl]
  rfl

end Single

namespace Space

variable {f : Single} {q : ℚ}

/-- A finite number is encoded as the integer part of its eighths, which is first cut to 32 bits
and then reduced to 16. -/
theorem coordToShort_eq (h : f.rational? = some q) :
    coordToShort f =
      Int16.ofInt (max (-0x80000000) (min 0x7fffffff (towardZero (8 * q)))) := by
  obtain ⟨n, m, hv, rfl⟩ := Single.value_of_rational? h
  rw [eight_mul_signed, towardZero_signed, coordToShort, Single.toInt32, Single.value_mul_eight hv,
    Int32.toInt16_ofInt,
    Format.truncate_settle n (m * 8) (by decide) (by decide +kernel) (by decide +kernel)]

theorem coordToShort_wraps (h : f.rational? = some q) (hq : |8 * q| < 2 ^ 31) :
    (coordToShort f).toInt = (towardZero (8 * q)).bmod (2 ^ 16) := by
  obtain ⟨hlo, hhi⟩ := abs_lt.mp hq
  have ht : -0x80000000 < towardZero (8 * q) ∧ towardZero (8 * q) < 0x80000000 :=
    towardZero_between (by decide) (by decide) (by exact_mod_cast hlo) (by exact_mod_cast hhi)
  have hc : max (-0x80000000) (min 0x7fffffff (towardZero (8 * q))) = towardZero (8 * q) := by
    omega
  rw [coordToShort_eq h, hc, Int16.toInt_ofInt]
  rfl

theorem coordToShort_past_top (h : f.rational? = some q) (hq : 2 ^ 31 ≤ 8 * q) :
    coordToShort f = -1 := by
  have ht : 0x80000000 ≤ towardZero (8 * q) := by
    rw [le_towardZero_iff (by decide)]
    exact_mod_cast hq
  have hc : max (-0x80000000) (min 0x7fffffff (towardZero (8 * q))) = 0x7fffffff := by omega
  rw [coordToShort_eq h, hc]
  rfl

theorem coordToShort_past_bottom (h : f.rational? = some q) (hq : 8 * q ≤ -2 ^ 31) :
    coordToShort f = 0 := by
  have ht : towardZero (8 * q) ≤ -0x80000000 := by
    rw [towardZero_le_iff (by decide)]
    exact_mod_cast hq
  have hc : max (-0x80000000) (min 0x7fffffff (towardZero (8 * q))) = -0x80000000 := by omega
  rw [coordToShort_eq h, hc]
  rfl

theorem coordToShort_nan (h : f.isNaN) : coordToShort f = 0 := by
  have hv : f.value = .nan := of_decide_eq_true h
  have h8 : (f * 8).value = .nan := by
    show (Single.ofValue (Format.single.mul f.value _)).value = .nan
    rw [hv]
    exact Single.value_ofValue .nan
  rw [coordToShort, Single.toInt32, h8]
  rfl

theorem coordToShort_infinite {n : Bool} (h : f.value = .infinite n) :
    coordToShort f = if n then 0 else -1 := by
  have h8 : (f * 8).value = .infinite n := by
    show (Single.ofValue (Format.single.mul f.value (8 : Single).value)).value = .infinite n
    rw [h, Single.value_eight, Format.mul, if_neg (by decide +kernel), Bool.bne_false]
    exact Single.value_ofValue (.infinite n)
  rw [coordToShort, Single.toInt32, h8]
  cases n <;> rfl

theorem rational?_shortToCoord (s : Int16) :
    (shortToCoord s).rational? = some (s.toInt / 8 : ℚ) := by
  have hlo := s.le_toInt
  have hhi := s.toInt_lt
  exact Single.rational?_ofInt_mul_eighth (show s.toInt.natAbs < 2 ^ 24 by omega)

theorem coordToShort_shortToCoord (s : Int16) : coordToShort (shortToCoord s) = s := by
  have hlo := s.le_toInt
  have hhi := s.toInt_lt
  have hq : 8 * ((s.toInt : ℚ) / 8) = (s.toInt : ℤ) := by ring
  have hc : max (-0x80000000) (min 0x7fffffff s.toInt) = s.toInt := by omega
  rw [coordToShort_eq (rational?_shortToCoord s), hq, towardZero_intCast, hc, Int16.ofInt_toInt]

/-- How `e`, which is `q` cut towards zero to eighths, lies to `q`. -/
structure CutToEighths (q e : ℚ) : Prop where
  abs_le : |e| ≤ |q|
  abs_sub_lt : |q - e| < 1 / 8
  same_side : 0 ≤ e * q
  eq_iff : e = q ↔ ∃ n : ℤ, q = n / 8

theorem cutToEighths_towardZero (q : ℚ) : CutToEighths q (towardZero (8 * q) / 8) := by
  have heq : (towardZero (8 * q) : ℚ) / 8 = q ↔ ∃ n : ℤ, q = n / 8 := by
    refine ⟨fun h => ⟨_, h.symm⟩, ?_⟩
    rintro ⟨n, rfl⟩
    rw [mul_div_cancel₀ (n : ℚ) (by norm_num), towardZero_intCast]
  rcases towardZero_bounds (8 * q) with ⟨hin, hnear, ht, hq⟩ | ⟨hin, hnear, ht, hq⟩
  · refine ⟨?_, ?_, mul_nonneg_iff.mpr (.inr ⟨by linarith, by linarith⟩), heq⟩
    · rw [abs_of_nonpos (by linarith), abs_of_nonpos (by linarith)]
      linarith
    · rw [abs_of_nonpos (by linarith)]
      linarith
  · refine ⟨?_, ?_, mul_nonneg (by linarith) (by linarith), heq⟩
    · rw [abs_of_nonneg (by linarith), abs_of_nonneg (by linarith)]
      linarith
    · rw [abs_of_nonneg (by linarith)]
      linarith

/-- Within 16 bits of eighths, `f` comes back as `r`: cut to eighths, and with the same code. -/
def ComesBack (f r : Single) : Prop :=
  ∀ q, f.rational? = some q → -32769 < 8 * q → 8 * q < 32768 →
    (∃ e, r.rational? = some e ∧ CutToEighths q e) ∧ coordToShort r = coordToShort f

theorem comesBack_shortToCoord (f : Single) : ComesBack f (shortToCoord (coordToShort f)) := by
  intro q hq hlo hhi
  have hb : -32769 < towardZero (8 * q) ∧ towardZero (8 * q) < 32768 :=
    towardZero_between (by decide) (by decide) (by exact_mod_cast hlo) (by exact_mod_cast hhi)
  have ht : (coordToShort f).toInt = towardZero (8 * q) := by
    rw [coordToShort_eq hq, Int16.toInt_ofInt_of_le] <;> omega
  refine ⟨⟨_, rational?_shortToCoord _, ?_⟩, coordToShort_shortToCoord _⟩
  rw [ht]
  exact cutToEighths_towardZero q

/-- Encoding a number takes the integer part of its eighths, and decoding loses less than an eighth
of a number within 16 bits; so it is for each component of a position and of a velocity. -/
theorem coordinates_cut_to_eighths :
    (∀ f q, Single.rational? f = some q →
      (|8 * q| < 2 ^ 128 → (f * 8).rational? = some (8 * q)) ∧
      (|8 * q| < 2 ^ 31 → (coordToShort f).toInt = (towardZero (8 * q)).bmod (2 ^ 16)) ∧
      (2 ^ 31 ≤ 8 * q → coordToShort f = -1) ∧
      (8 * q ≤ -2 ^ 31 → coordToShort f = 0)) ∧
    (∀ f : Single, f.isNaN → coordToShort f = 0) ∧
    (∀ f : Single, f.value = .infinite false → coordToShort f = -1) ∧
    (∀ f : Single, f.value = .infinite true → coordToShort f = 0) ∧
    (∀ s, (shortToCoord s).rational? = some (s.toInt / 8 : ℚ)) ∧
    (∀ f, ComesBack f (shortToCoord (coordToShort f))) ∧
    ∀ (s : MoveState) (v : Vec3), ∀ component ∈ [Vec3.x, Vec3.y, Vec3.z],
      ComesBack (component v) (component (s.setOrigin v).originCoords) ∧
      ComesBack (component v) (component (s.setVelocity v).velocityCoords) := by
  refine ⟨fun f q h => ⟨Single.rational?_mul_eight h, coordToShort_wraps h,
    coordToShort_past_top h, coordToShort_past_bottom h⟩, fun _ => coordToShort_nan,
    fun _ h => coordToShort_infinite h, fun _ h => coordToShort_infinite h,
    rational?_shortToCoord, comesBack_shortToCoord, fun s v component hc => ?_⟩
  simp only [List.mem_cons, List.not_mem_nil, or_false] at hc
  rcases hc with rfl | rfl | rfl <;>
    exact ⟨comesBack_shortToCoord _, comesBack_shortToCoord _⟩

/-- A number below minus one, which comes back from the eighths, the first powers of two that no
longer fit 32 bits, and what has no integer part. -/
theorem coordinates_cut_to_eighths_at_ends :
    (coordToShort ⟨0xbff33333⟩).toInt = (towardZero (8 * (-15938355 / 8388608))).bmod (2 ^ 16) ∧
    (∃ e, (shortToCoord (coordToShort ⟨0xbff33333⟩)).rational? = some e ∧
      CutToEighths (-15938355 / 8388608) e) ∧
    coordToShort ⟨0x4d800000⟩ = -1 ∧ coordToShort ⟨0xcd800000⟩ = 0 ∧
    coordToShort ⟨0x7fc00000⟩ = 0 ∧ coordToShort ⟨0x7f800000⟩ = -1 ∧
    coordToShort ⟨0xff800000⟩ = 0 := by
  obtain ⟨finite, nan, top, bottom, -, back, -⟩ := coordinates_cut_to_eighths
  have hq : Single.rational? ⟨0xbff33333⟩ = some (-15938355 / 8388608) := by
    rw [Single.rational?_of_value (n := true) (c := 15938355) (d := 8388608) (p := 126)
      (by decide +kernel) (by decide +kernel)]
    norm_num [signed]
  have ht : Single.rational? ⟨0x4d800000⟩ = some (2 ^ 28) := by
    rw [Single.rational?_of_value (n := false) (c := 2 ^ 28) (d := 1) (p := 149)
      (by decide +kernel) (by decide +kernel)]
    norm_num [signed]
  have hb : Single.rational? ⟨0xcd800000⟩ = some (-2 ^ 28) := by
    rw [Single.rational?_of_value (n := true) (c := 2 ^ 28) (d := 1) (p := 149)
      (by decide +kernel) (by decide +kernel)]
    norm_num [signed]
  exact ⟨(finite _ _ hq).2.1 (by norm_num [abs_lt]), (back _ _ hq (by norm_num) (by norm_num)).1,
    (finite _ _ ht).2.2.1 (by norm_num), (finite _ _ hb).2.2.2 (by norm_num),
    nan _ (by decide +kernel), top _ (by decide +kernel), bottom _ (by decide +kernel)⟩

end Space

end GameModule
