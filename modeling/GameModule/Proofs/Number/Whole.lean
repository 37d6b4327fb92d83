import GameModule.Proofs.Number.Rational

/-!
# Whole numbers

A number may stand for an integer. Of integers below `2 ^ 24` in magnitude the sums, differences,
products and exact quotients stand for the integers that arithmetic gives, since none of them needs
rounding. Only zero has two numbers that stand for it, so for every other integer the bits are
settled too.
-/
namespace GameModule

open Number

namespace Number

theorem signed_mul_signed (m n : Bool) (a b : Nat) :
    signed m a * signed n b = signed (m != n) (a * b) := by
  cases m <;> cases n <;> simp [signed]

theorem natAbs_signed (n : Bool) (a : Nat) : (signed n a).natAbs = a := by
  cases n <;> simp [signed]

theorem signed_not (n : Bool) (a : Nat) : signed (!n) a = -signed n a := by
  cases n <;> simp [signed]

namespace Format

variable {F : Format}

/-! ## The fields of a word -/

theorem log2_normal {f : Nat} (hf : f < pow2 F.fractionBits) (p : Nat) :
    ((f + pow2 F.fractionBits) * pow2 p).log2 = F.fractionBits + p := by
  have hA := pow2_pos F.fractionBits
  rw [Nat.log2_eq_iff (Nat.ne_of_gt (Nat.mul_pos (by omega) (pow2_pos p)))]
  constructor
  · calc 2 ^ (F.fractionBits + p) = pow2 F.fractionBits * pow2 p := pow2_add _ _
      _ ≤ (f + pow2 F.fractionBits) * pow2 p := Nat.mul_le_mul_right _ (by omega)
  · calc (f + pow2 F.fractionBits) * pow2 p
        < pow2 F.fractionBits * 2 * pow2 p := Nat.mul_lt_mul_of_pos_right (by omega) (pow2_pos p)
      _ = pow2 (F.fractionBits + p + 1) := by rw [pow2_add, pow2_add]; ac_rfl

/-- A value other than not-a-number is packed into the fields it was unpacked from. -/
theorem toWord_unpack {negative : Bool} {e f : Nat} (hf : f < pow2 F.fractionBits)
    (h : F.unpack negative e f ≠ .nan) :
    F.toWord (F.unpack negative e f) = F.pack negative e f := by
  unfold unpack at h ⊢
  split at h
  · next hx =>
    split at h
    · next hz =>
      rw [if_pos hx, if_pos hz, hx, hz]
      rfl
    · exact absurd rfl h
  · next hx =>
    rw [if_neg hx]
    split
    · next hz =>
      have hp : f.log2 - F.fractionBits = 0 := by
        rcases Nat.eq_zero_or_pos f with rfl | hpos
        · simp
        · have hl := (Nat.log2_lt (Nat.ne_of_gt hpos)).mpr hf
          omega
      simp [toWord, hp, pack, hz, pow2_zero]
    · next hz =>
      have hp : ((f + pow2 F.fractionBits) * pow2 (e - 1)).log2 - F.fractionBits = e - 1 := by
        rw [log2_normal hf]
        omega
      have he : e * pow2 F.fractionBits =
          (e - 1) * pow2 F.fractionBits + pow2 F.fractionBits := by
        rw [← Nat.succ_mul]
        congr 1
        omega
      simp only [toWord, hp, Nat.mul_div_cancel _ (pow2_pos _), pack, he]
      omega

theorem unpack_not (negative : Bool) (e f : Nat) :
    F.unpack (!negative) e f = (F.unpack negative e f).neg := by
  unfold unpack
  split
  · split <;> rfl
  · split <;> rfl

end Format

end Number

namespace Single

variable {x y : Single} {i j k : ℤ}

/-- The magnitude bits of a word, and its sign bit. -/
theorem bits_eq_pack (x : Single) :
    x.bits.toNat = Format.single.pack (x.bits.toNat / pow2 31 % 2 = 1)
      (x.bits.toNat / pow2 23 % pow2 8) (x.bits.toNat % pow2 23) := by
  have hw : x.bits.toNat < 2 ^ 32 := x.bits.toNat_lt
  generalize x.bits.toNat = w at hw
  show w = (if decide (w / 2 ^ 31 % 2 = 1) then 2 ^ 31 else 0) + w / 2 ^ 23 % 2 ^ 8 * 2 ^ 23 +
    w % 2 ^ 23
  by_cases hs : w / 2 ^ 31 % 2 = 1
  · rw [if_pos (decide_eq_true hs)]
    omega
  · rw [if_neg (by simpa using hs)]
    omega

/-- Apart from not-a-number, a value settles the bits. -/
theorem ofValue_value (h : x.value ≠ .nan) : ofValue x.value = x := by
  have hf : x.bits.toNat % pow2 23 < pow2 23 := Nat.mod_lt _ (pow2_pos _)
  have hw : Format.single.toWord x.value = x.bits.toNat :=
    (Format.toWord_unpack hf h).trans (bits_eq_pack x).symm
  rw [ofValue, hw, UInt32.ofNat_toNat]

theorem eq_of_value (h : x.value = y.value) (hx : x.value ≠ .nan) : x = y := by
  rw [← ofValue_value hx, h, ofValue_value (h ▸ hx)]

/-- Flipping the sign bit changes the sign and nothing else. -/
theorem value_neg (x : Single) : (-x).value = x.value.neg := by
  have hlt : x.bits.toNat < 2 ^ 32 := x.bits.toNat_lt
  have hb : (-x).bits.toNat = x.bits.toNat ^^^ 2 ^ 31 := UInt32.toNat_xor _ _
  have hmod : (x.bits.toNat ^^^ 2 ^ 31) % 2 ^ 31 = x.bits.toNat % 2 ^ 31 := by
    rw [Nat.xor_mod_two_pow, Nat.mod_self, Nat.xor_zero]
  have hdiv : (x.bits.toNat ^^^ 2 ^ 31) / 2 ^ 31 = x.bits.toNat / 2 ^ 31 ^^^ 1 := by
    rw [Nat.xor_div_two_pow, Nat.div_self (Nat.two_pow_pos 31)]
  change Format.single.ofWord (-x).bits.toNat = (Format.single.ofWord x.bits.toNat).neg
  rw [hb]
  generalize x.bits.toNat ^^^ 2 ^ 31 = v at hmod hdiv
  generalize x.bits.toNat = w at hlt hmod hdiv
  have he : v / 2 ^ 23 % 2 ^ 8 = w / 2 ^ 23 % 2 ^ 8 := by omega
  have hf : v % 2 ^ 23 = w % 2 ^ 23 := by omega
  have hs : decide (v / 2 ^ 31 % 2 = 1) = !decide (w / 2 ^ 31 % 2 = 1) := by
    rcases (by omega : w / 2 ^ 31 = 0 ∨ w / 2 ^ 31 = 1) with hw | hw <;> rw [hdiv, hw] <;> rfl
  change Format.single.unpack (v / 2 ^ 31 % 2 = 1) (v / 2 ^ 23 % 2 ^ 8) (v % 2 ^ 23) = _
  rw [he, hf, hs]
  exact Format.unpack_not _ _ _

/-! ## Standing for an integer -/

/-- The number stands for the integer; zero is stood for with either sign. -/
def Stands (x : Single) (i : ℤ) : Prop := x.rational? = some (i : ℚ)

theorem stands_iff :
    x.Stands i ↔ ∃ n, x.value = .finite n (i.natAbs * Format.single.one) ∧
      signed n i.natAbs = i := by
  have hone : (Format.single.one : ℚ) ≠ 0 := Nat.cast_ne_zero.mpr (Format.one_pos _).ne'
  constructor
  · intro h
    obtain ⟨n, m, hv, hq⟩ := value_of_rational? h
    have hm : signed n m = i * Format.single.one := by
      rw [eq_div_iff hone] at hq
      exact_mod_cast hq.symm
    have ha : m = i.natAbs * Format.single.one := by
      rw [← natAbs_signed n m, hm, Int.natAbs_mul, Int.natAbs_natCast]
    refine ⟨n, ha ▸ hv, ?_⟩
    rw [ha, signed_mul] at hm
    exact mul_right_cancel₀ (Int.natCast_ne_zero.mpr (Format.one_pos _).ne') hm
  · rintro ⟨n, hv, hs⟩
    rw [Stands, rational?, hv, Format.rational?, signed_mul, hs]
    push_cast
    rw [mul_div_cancel_right₀ _ hone]

theorem onGrid_whole {a : Nat} (h : a < pow2 24) :
    Format.single.OnGrid (a * Format.single.one) := ⟨a, _, h, rfl⟩

theorem settle_whole {a : Nat} (h : a < pow2 24) (n : Bool) :
    Format.single.settle n (a * Format.single.one) = .finite n (a * Format.single.one) := by
  refine if_pos ?_
  calc a * Format.single.one
      < pow2 24 * Format.single.one := Nat.mul_lt_mul_of_pos_right h (Format.one_pos _)
    _ ≤ Format.single.limit := by decide +kernel

theorem stands_ofInt (h : i.natAbs < pow2 24) : (ofInt i).Stands i :=
  stands_iff.mpr ⟨_, value_ofInt h, signed_natAbs i⟩

namespace Stands

/-- Only zero is stood for by more than one number. -/
theorem eq_ofInt (h : x.Stands i) (hi : i ≠ 0) (hlt : i.natAbs < pow2 24) : x = ofInt i := by
  obtain ⟨n, hv, hs⟩ := stands_iff.mp h
  have hn : n = decide (i < 0) := by
    cases n with
    | false =>
      have hp : (i.natAbs : ℤ) = i := hs
      exact (decide_eq_false (by omega)).symm
    | true =>
      have hm : -(i.natAbs : ℤ) = i := hs
      exact (decide_eq_true (by omega)).symm
  exact eq_of_value (by rw [hv, value_ofInt hlt, hn]) (by rw [hv]; nofun)

theorem neg (h : x.Stands i) : (-x).Stands (-i) := by
  obtain ⟨n, hv, hs⟩ := stands_iff.mp h
  refine stands_iff.mpr ⟨!n, ?_, ?_⟩
  · rw [value_neg, hv, Int.natAbs_neg]
    rfl
  · rw [signed_not, Int.natAbs_neg, hs]

theorem mul (hx : x.Stands i) (hy : y.Stands j) (h : (i * j).natAbs < pow2 24) :
    (x * y).Stands (i * j) := by
  obtain ⟨m, hxv, hxs⟩ := stands_iff.mp hx
  obtain ⟨n, hyv, hys⟩ := stands_iff.mp hy
  have hc : i.natAbs * Format.single.one * (j.natAbs * Format.single.one) =
      Format.single.one * ((i * j).natAbs * Format.single.one) := by
    rw [Int.natAbs_mul]
    ac_rfl
  refine stands_iff.mpr ⟨m != n, ?_, ?_⟩
  · rw [value_mul hxv hyv hc (onGrid_whole h), settle_whole h]
  · rw [Int.natAbs_mul, ← signed_mul_signed, hxs, hys]

/-- A quotient that leaves no rest. -/
theorem div (hx : x.Stands (j * k)) (hy : y.Stands j) (hj : j ≠ 0) (h : k.natAbs < pow2 24) :
    (x / y).Stands k := by
  obtain ⟨m, hxv, hxs⟩ := stands_iff.mp hx
  obtain ⟨n, hyv, hys⟩ := stands_iff.mp hy
  have hb : 0 < j.natAbs * Format.single.one :=
    Nat.mul_pos (Int.natAbs_pos.mpr hj) (Format.one_pos _)
  have hc : (j * k).natAbs * Format.single.one * Format.single.one =
      j.natAbs * Format.single.one * (k.natAbs * Format.single.one) := by
    rw [Int.natAbs_mul]
    ac_rfl
  have hd : Format.single.div x.value y.value =
      .finite (m != n) (k.natAbs * Format.single.one) := by
    rw [hxv, hyv, Format.div, if_neg (Nat.ne_of_gt hb), hc, Format.round_mul hb (onGrid_whole h),
      settle_whole h]
  refine stands_iff.mpr ⟨m != n, ?_, ?_⟩
  · show (ofValue (Format.single.div x.value y.value)).value = _
    rw [hd, ← settle_whole h, value_settle (onGrid_whole h)]
  · -- The sign of the quotient is the one that gives back the sign of the dividend.
    have hs : j * signed (m != n) k.natAbs = j * k := by
      have hsign : (n != (m != n)) = m := by cases m <;> cases n <;> rfl
      calc j * signed (m != n) k.natAbs
          = signed n j.natAbs * signed (m != n) k.natAbs := by rw [hys]
        _ = signed m (j * k).natAbs := by rw [signed_mul_signed, hsign, Int.natAbs_mul]
        _ = j * k := hxs
    exact mul_left_cancel₀ hj hs

theorem add (hx : x.Stands i) (hy : y.Stands j) (h : (i + j).natAbs < pow2 24) :
    (x + y).Stands (i + j) := by
  obtain ⟨m, hxv, hxs⟩ := stands_iff.mp hx
  obtain ⟨n, hyv, hys⟩ := stands_iff.mp hy
  have hsum : signed m (i.natAbs * Format.single.one) + signed n (j.natAbs * Format.single.one) =
      (i + j) * Format.single.one := by
    rw [signed_mul, signed_mul, hxs, hys, ← add_mul]
  have hv : (x + y).value =
      (ofValue (Format.single.roundInt (m && n) ((i + j) * Format.single.one) 1)).value := by
    show (ofValue (Format.single.add x.value y.value)).value = _
    rw [hxv, hyv, Format.add, hsum]
  by_cases hz : i + j = 0
  · -- Zero takes the sign that both have, and stands for zero with either.
    have hg : Format.single.OnGrid 0 := ⟨0, 0, pow2_pos _, rfl⟩
    rw [hz, zero_mul, Format.roundInt, if_pos rfl, ← Format.settle_zero, value_settle hg,
      Format.settle_zero] at hv
    rw [hz]
    refine stands_iff.mpr ⟨m && n, by rw [hv, Int.natAbs_zero, Nat.zero_mul], ?_⟩
    cases m && n <;> rfl
  · have hne : (i + j) * (Format.single.one : ℤ) ≠ 0 :=
      mul_ne_zero hz (Int.natCast_ne_zero.mpr (Format.one_pos _).ne')
    have hr : Format.single.roundInt (m && n) ((i + j) * Format.single.one) 1 =
        Format.single.ofInt (i + j) := by
      rw [Format.ofInt, Format.roundInt, Format.roundInt, if_neg hne, if_neg hne]
    rw [hr] at hv
    exact stands_iff.mpr ⟨_, hv.trans (value_ofInt h), signed_natAbs _⟩

theorem sub (hx : x.Stands i) (hy : y.Stands j) (h : (i - j).natAbs < pow2 24) :
    (x - y).Stands (i - j) := by
  have hs : x - y = x + -y := by
    show ofValue (Format.single.add x.value y.value.neg) =
      ofValue (Format.single.add x.value (-y).value)
    rw [value_neg]
  rw [hs, sub_eq_add_neg i j]
  exact hx.add hy.neg (by rwa [← sub_eq_add_neg])

/-- The integer part of a whole number is the number. -/
theorem toInt32 (h : x.Stands i) (hlo : -0x80000000 ≤ i) (hhi : i ≤ 0x7fffffff) :
    x.toInt32 = Int32.ofInt i := by
  obtain ⟨n, hv, hs⟩ := stands_iff.mp h
  rw [Single.toInt32, hv, Format.truncate, Nat.mul_div_cancel _ (Format.one_pos _), hs,
    min_eq_right hhi, max_eq_right hlo]

end Stands

end Single

end GameModule
