import GameModule.Number.Single

/-!
# Results that need no rounding

A magnitude is on the grid of a format if it has no more significant bits than the format keeps.
Rounding leaves such a magnitude alone, so that an operation whose exact result is on the grid
gives that result, or an infinite one if it is too large. Packing a value of the format into a word
and unpacking it gives it back.
-/
namespace GameModule.Number

theorem pow2_zero : pow2 0 = 1 := rfl

theorem pow2_pos (k : Nat) : 0 < pow2 k := Nat.two_pow_pos k

theorem pow2_add (j k : Nat) : pow2 (j + k) = pow2 j * pow2 k := Nat.pow_add 2 j k

theorem pow2_le {j k : Nat} (h : j ≤ k) : pow2 j ≤ pow2 k := Nat.pow_le_pow_right Nat.two_pos h

theorem roundDiv_mul {d : Nat} (hd : 0 < d) (q : Nat) : roundDiv (q * d) d = q := by
  have hm : q * d % d = 0 := Nat.mul_mod_left q d
  simp only [roundDiv, hm, Nat.mul_zero, hd, if_true, Nat.mul_div_left q hd]

namespace Format

variable {F : Format}

/-! ## Rounding -/

/-- No more significant bits than the format keeps. -/
def OnGrid (F : Format) (m : Nat) : Prop :=
  ∃ c p, c < pow2 (F.fractionBits + 1) ∧ m = c * pow2 p

theorem OnGrid.mul_pow2 {m : Nat} (h : F.OnGrid m) (k : Nat) : F.OnGrid (m * pow2 k) := by
  obtain ⟨c, p, hc, rfl⟩ := h
  exact ⟨c, p + k, hc, by rw [pow2_add, Nat.mul_assoc]⟩

/-- The spacing around `m` is the place of the last bit that the format keeps of it. -/
theorem spacing_mul {d m : Nat} (hd : 0 < d) (hm : 0 < m) :
    F.spacing (d * m) d = m.log2 - F.fractionBits := by
  have hd' : d ≠ 0 := Nat.ne_of_gt hd
  have hm' : m ≠ 0 := Nat.ne_of_gt hm
  have ha' : d * m ≠ 0 := Nat.mul_ne_zero hd' hm'
  have hlo : d.log2 + m.log2 ≤ (d * m).log2 := by
    rw [Nat.le_log2 ha', Nat.pow_add]
    exact Nat.mul_le_mul (Nat.log2_self_le hd') (Nat.log2_self_le hm')
  have hhi : (d * m).log2 < (d.log2 + 1) + (m.log2 + 1) := by
    rw [Nat.log2_lt ha', Nat.pow_add]
    exact Nat.mul_lt_mul'' Nat.lt_log2_self Nat.lt_log2_self
  -- The logarithm of the product may be one too large; the comparison finds that out.
  have hlt : ∀ p, d * m < d * pow2 (p + F.fractionBits) ↔ m.log2 < p + F.fractionBits := by
    intro p
    rw [Nat.mul_lt_mul_left hd, Nat.log2_lt hm']
    rfl
  unfold spacing
  simp only [hlt]
  split <;> omega

theorem OnGrid.pow2_dvd {m : Nat} (h : F.OnGrid m) : pow2 (m.log2 - F.fractionBits) ∣ m := by
  obtain ⟨c, p, hc, rfl⟩ := h
  by_cases hz : c * pow2 p = 0
  · rw [hz]
    exact Nat.dvd_zero _
  have hl : (c * pow2 p).log2 < F.fractionBits + 1 + p := by
    rw [Nat.log2_lt hz, Nat.pow_add]
    exact Nat.mul_lt_mul_of_pos_right hc (pow2_pos p)
  exact Nat.dvd_mul_left_of_dvd (Nat.pow_dvd_pow 2 (by omega)) c

theorem nearest_mul {d m : Nat} (hd : 0 < d) (h : F.OnGrid m) : F.nearest (d * m) d = m := by
  have hg : pow2 (F.spacing (d * m) d) ∣ m := by
    rcases Nat.eq_zero_or_pos m with rfl | hm
    · exact Nat.dvd_zero _
    · rw [spacing_mul hd hm]
      exact h.pow2_dvd
  simp only [nearest]
  generalize F.spacing (d * m) d = p at hg
  obtain ⟨c, rfl⟩ := hg
  have hq : d * (pow2 p * c) = c * (d * pow2 p) := by rw [← Nat.mul_assoc, Nat.mul_comm]
  rw [hq, roundDiv_mul (Nat.mul_pos hd (pow2_pos p)), Nat.mul_comm]

/-- The value of a magnitude on the grid. -/
def settle (F : Format) (negative : Bool) (m : Nat) : Value :=
  if m < F.limit then .finite negative m else .infinite negative

/-- A quotient on the grid is not changed; it may only be too large. -/
theorem round_mul {d m : Nat} (hd : 0 < d) (h : F.OnGrid m) (negative : Bool) :
    F.round negative (d * m) d = F.settle negative m := by
  rw [round, nearest_mul hd h]
  rfl

theorem one_pos (F : Format) : 0 < F.one := pow2_pos _

theorem settle_zero (negative : Bool) : F.settle negative 0 = .finite negative 0 :=
  if_pos (pow2_pos _)

/-- An integer on the grid is exact. -/
theorem ofInt_eq {i : Int} (h : F.OnGrid (i.natAbs * F.one)) :
    F.ofInt i = F.settle (i < 0) (i.natAbs * F.one) := by
  have hone : (0 : Int) < F.one := Int.natCast_pos.mpr F.one_pos
  unfold ofInt roundInt
  by_cases hz : i = 0
  · rw [hz, Int.zero_mul, if_pos rfl, Int.natAbs_zero, Nat.zero_mul, settle_zero]
    rfl
  · have hn : i * (F.one : Int) < 0 ↔ i < 0 := by
      refine ⟨fun hi => Int.not_le.mp fun hge => ?_, fun hi => Int.mul_neg_of_neg_of_pos hi hone⟩
      exact absurd (Int.mul_nonneg hge (Int.le_of_lt hone)) (Int.not_le.mpr hi)
    have ha : (i * (F.one : Int)).natAbs = 1 * (i.natAbs * F.one) := by
      rw [Int.natAbs_mul, Int.natAbs_natCast, Nat.one_mul]
    rw [if_neg (Int.mul_ne_zero hz (Int.ne_of_gt hone)), ha, round_mul Nat.one_pos h]
    simp only [hn]

/-! ## Words -/

/-- A word with these fields. -/
def pack (F : Format) (negative : Bool) (e f : Nat) : Nat :=
  F.signWord negative + e * pow2 F.fractionBits + f

/-- The value that the fields of a word stand for. -/
def unpack (F : Format) (negative : Bool) (e f : Nat) : Value :=
  if e = pow2 F.exponentBits - 1 then if f = 0 then .infinite negative else .nan
  else if e = 0 then .finite negative f
  else .finite negative ((f + pow2 F.fractionBits) * pow2 (e - 1))

section Fields

variable {negative : Bool} {e f : Nat} (he : e < pow2 F.exponentBits)
  (hf : f < pow2 F.fractionBits)

include he hf

theorem pack_lt : F.pack negative e f < pow2 (F.fractionBits + F.exponentBits + 1) := by
  have h : e * pow2 F.fractionBits + pow2 F.fractionBits ≤
      pow2 (F.fractionBits + F.exponentBits) := by
    rw [pow2_add, Nat.mul_comm, ← Nat.mul_succ]
    exact Nat.mul_le_mul_left _ he
  have hs : F.signWord negative ≤ pow2 (F.fractionBits + F.exponentBits) := by
    unfold signWord
    split <;> omega
  rw [pow2_add _ 1, pack]
  show _ < _ * 2
  omega

theorem ofWord_pack : F.ofWord (F.pack negative e f) = F.unpack negative e f := by
  have hA := pow2_pos F.fractionBits
  have hB := pow2_pos F.exponentBits
  have hs : F.signWord negative =
      pow2 F.fractionBits * (pow2 F.exponentBits * negative.toNat) := by
    rw [← Nat.mul_assoc, ← pow2_add]
    cases negative <;> simp [signWord]
  have hw : F.pack negative e f =
      pow2 F.fractionBits * (pow2 F.exponentBits * negative.toNat + e) + f := by
    rw [pack, hs, Nat.mul_add, Nat.mul_comm e]
  have hq : F.pack negative e f / pow2 F.fractionBits =
      pow2 F.exponentBits * negative.toNat + e := by
    rw [hw, Nat.mul_add_div hA, Nat.div_eq_of_lt hf, Nat.add_zero]
  have hn : F.pack negative e f / pow2 (F.fractionBits + F.exponentBits) % 2 = negative.toNat := by
    rw [pow2_add, ← Nat.div_div_eq_div_mul, hq, Nat.mul_add_div hB, Nat.div_eq_of_lt he]
    cases negative <;> rfl
  have hx : F.pack negative e f / pow2 F.fractionBits % pow2 F.exponentBits = e := by
    rw [hq, Nat.mul_add_mod, Nat.mod_eq_of_lt he]
  have hr : F.pack negative e f % pow2 F.fractionBits = f := by
    rw [hw, Nat.mul_add_mod, Nat.mod_eq_of_lt hf]
  have hb : decide (negative.toNat = 1) = negative := by cases negative <;> rfl
  simp only [ofWord, hn, hx, hr, hb, unpack]

end Fields

/-- The values of a format. -/
inductive Has (F : Format) : Value → Prop where
  | nan : F.Has .nan
  | infinite (negative : Bool) : F.Has (.infinite negative)
  | finite (negative : Bool) {m : Nat} (grid : F.OnGrid m) (lt : m < F.limit) :
    F.Has (.finite negative m)

/-- A magnitude that is not below the first with a leading bit has a significand and an exponent. -/
theorem OnGrid.exists_normal {m : Nat} (h : F.OnGrid m) (hm : pow2 F.fractionBits ≤ m) :
    ∃ c p, m.log2 = p + F.fractionBits ∧ m = pow2 p * c ∧ pow2 F.fractionBits ≤ c ∧
      c < pow2 F.fractionBits * 2 := by
  have hz : m ≠ 0 := Nat.ne_of_gt (Nat.lt_of_lt_of_le (pow2_pos _) hm)
  have hl : F.fractionBits ≤ m.log2 := (Nat.le_log2 hz).mpr hm
  have hlog : m.log2 = m.log2 - F.fractionBits + F.fractionBits := by omega
  obtain ⟨c, hc⟩ := h.pow2_dvd
  refine ⟨c, _, hlog, hc, ?_, ?_⟩
  · have hlo : pow2 m.log2 ≤ m := Nat.log2_self_le hz
    rw [hlog, pow2_add] at hlo
    exact Nat.le_of_mul_le_mul_left (Nat.le_trans hlo (Nat.le_of_eq hc)) (pow2_pos _)
  · have hhi : m < pow2 (m.log2 + 1) := Nat.lt_log2_self
    rw [hlog, Nat.add_assoc, pow2_add, pow2_add _ 1] at hhi
    exact Nat.lt_of_mul_lt_mul_left (Nat.lt_of_le_of_lt (Nat.le_of_eq hc.symm) hhi)

theorem has_settle {m : Nat} (h : F.OnGrid m) (negative : Bool) : F.Has (F.settle negative m) := by
  unfold settle
  split
  · next hl => exact .finite negative h hl
  · exact .infinite negative

theorem exists_pack (hx : 0 < F.exponentBits) (hy : 0 < F.fractionBits) {v : Value}
    (h : F.Has v) : ∃ n e f, e < pow2 F.exponentBits ∧ f < pow2 F.fractionBits ∧
      F.toWord v = F.pack n e f ∧ F.unpack n e f = v := by
  have hB : 2 ≤ pow2 F.exponentBits := pow2_le hx
  cases h with
  | nan =>
    have hf : pow2 (F.fractionBits - 1) ≠ 0 := Nat.ne_of_gt (pow2_pos _)
    refine ⟨false, pow2 F.exponentBits - 1, pow2 (F.fractionBits - 1), by omega, ?_, ?_, ?_⟩
    · exact Nat.pow_lt_pow_right (by decide) (by omega)
    · simp [toWord, pack, signWord]
    · simp [unpack, hf]
  | infinite n =>
    exact ⟨n, pow2 F.exponentBits - 1, 0, by omega, pow2_pos _, rfl, by simp [unpack]⟩
  | @finite n m hg hlim =>
    by_cases hm : m < pow2 F.fractionBits
    · -- a value below the first with a leading bit has exponent field zero
      have hp : m.log2 - F.fractionBits = 0 := by
        rcases Nat.eq_zero_or_pos m with rfl | hz
        · simp
        · have hl := (Nat.log2_lt (Nat.ne_of_gt hz)).mpr hm
          omega
      refine ⟨n, 0, m, by omega, hm, ?_, ?_⟩
      · simp [toWord, hp, pack, pow2_zero]
      · rw [unpack, if_neg (by omega), if_pos rfl]
    · obtain ⟨c, p, hlog, hc, hlo, hhi⟩ := hg.exists_normal (Nat.le_of_not_lt hm)
      have hA := pow2_pos F.fractionBits
      have hl := (Nat.log2_lt (by omega)).mpr hlim
      have hp : m.log2 - F.fractionBits = p := by omega
      have hq : m / pow2 p = c := by rw [hc, Nat.mul_div_cancel_left c (pow2_pos p)]
      refine ⟨n, p + 1, c - pow2 F.fractionBits, by omega, by omega, ?_, ?_⟩
      · simp only [toWord, pack, hp, hq, Nat.add_mul, Nat.one_mul]
        omega
      · rw [unpack, if_neg (by omega), if_neg (Nat.succ_ne_zero p), Nat.sub_add_cancel hlo, hc,
          Nat.mul_comm, Nat.add_sub_cancel]

theorem ofWord_toWord (hx : 0 < F.exponentBits) (hy : 0 < F.fractionBits) {v : Value}
    (h : F.Has v) : F.ofWord (F.toWord v) = v := by
  obtain ⟨n, e, f, he, hf, hw, hv⟩ := exists_pack hx hy h
  rw [hw, ofWord_pack he hf, hv]

theorem toWord_lt (hx : 0 < F.exponentBits) (hy : 0 < F.fractionBits) {v : Value}
    (h : F.Has v) : F.toWord v < pow2 (F.fractionBits + F.exponentBits + 1) := by
  obtain ⟨n, e, f, he, hf, hw, -⟩ := exists_pack hx hy h
  rw [hw]
  exact pack_lt he hf

/-- Every word holds a value of the format. -/
theorem has_ofWord (w : Nat) : F.Has (F.ofWord w) := by
  have he : w / pow2 F.fractionBits % pow2 F.exponentBits < pow2 F.exponentBits :=
    Nat.mod_lt _ (pow2_pos _)
  have hf : w % pow2 F.fractionBits < pow2 F.fractionBits := Nat.mod_lt _ (pow2_pos _)
  simp only [ofWord]
  generalize w / pow2 F.fractionBits % pow2 F.exponentBits = e at he
  generalize w % pow2 F.fractionBits = f at hf
  split
  · split
    · exact .infinite _
    · exact .nan
  · split
    · refine .finite _ ⟨f, 0, ?_, (Nat.mul_one f).symm⟩ ?_
      · exact Nat.lt_of_lt_of_le hf (pow2_le (by omega))
      · exact Nat.lt_of_lt_of_le hf (pow2_le (by omega))
    · have hc : f + pow2 F.fractionBits < pow2 (F.fractionBits + 1) := by
        rw [pow2_add]
        show _ < _ * 2
        omega
      refine .finite _ ⟨_, _, hc, rfl⟩ ?_
      calc (f + pow2 F.fractionBits) * pow2 (e - 1)
          < pow2 (F.fractionBits + 1) * pow2 (e - 1) := Nat.mul_lt_mul_of_pos_right hc (pow2_pos _)
        _ = pow2 (F.fractionBits + 1 + (e - 1)) := (pow2_add _ _).symm
        _ ≤ F.limit := pow2_le (by omega)

end Format

end GameModule.Number

namespace GameModule.Single

open Number

variable {x y : Single} {m n : Bool} {a b c : Nat}

theorem has_value (x : Single) : Format.single.Has x.value := Format.has_ofWord _

theorem value_ofValue {v : Value} (h : Format.single.Has v) : (ofValue v).value = v := by
  have hlt := Format.toWord_lt (F := .single) (by decide) (by decide) h
  rw [value, ofValue, UInt32.toNat_ofNat_of_lt' hlt]
  exact Format.ofWord_toWord (by decide) (by decide) h

theorem onGrid_of_value (h : x.value = .finite n a) : Format.single.OnGrid a := by
  have hv := has_value x
  rw [h] at hv
  cases hv with
  | finite _ hg _ => exact hg

theorem value_settle (h : Format.single.OnGrid a) (n : Bool) :
    (ofValue (Format.single.settle n a)).value = Format.single.settle n a :=
  value_ofValue (Format.has_settle h n)

/-- A product on the grid is exact. -/
theorem value_mul (hx : x.value = .finite m a) (hy : y.value = .finite n b)
    (hc : a * b = Format.single.one * c) (hg : Format.single.OnGrid c) :
    (x * y).value = Format.single.settle (m != n) c := by
  have hm : Format.single.mul x.value y.value = Format.single.settle (m != n) c := by
    rw [hx, hy, Format.mul, hc, Format.round_mul (Format.one_pos _) hg]
  show (ofValue (Format.single.mul x.value y.value)).value = _
  rw [hm, value_settle hg]

/-- Integers of at most 24 bits are exact. -/
theorem value_ofInt {i : Int} (h : i.natAbs < pow2 24) :
    (ofInt i).value = .finite (i < 0) (i.natAbs * Format.single.one) := by
  have hg : Format.single.OnGrid (i.natAbs * Format.single.one) := ⟨i.natAbs, _, h, rfl⟩
  have hl : i.natAbs * Format.single.one < Format.single.limit :=
    calc i.natAbs * Format.single.one
        < pow2 24 * Format.single.one := Nat.mul_lt_mul_of_pos_right h (Format.one_pos _)
      _ ≤ Format.single.limit := by decide +kernel
  rw [ofInt, Format.ofInt_eq hg]
  exact (value_settle hg _).trans (if_pos hl)

end GameModule.Single
