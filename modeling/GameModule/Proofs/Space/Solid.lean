import GameModule.Proofs.Number.Whole
import GameModule.Space.Solid

/-!
# Packed boxes

Sixteen bits hold three fields: half the width of a box, its depth and its height, in units of
eight. Packing writes fields that are never zero, whatever numbers the corners have. Unpacking gives
a box whose corners are whole numbers, and packing that box writes the same fields, those that were
zero raised to one. So packing is a projection, and the boxes it leaves alone are those with three
fields of their own.
-/
namespace GameModule

/-- The components stand for these integers. -/
structure Vec3.Stands (v : Vec3) (x y z : ℤ) : Prop where
  x : v.x.Stands x
  y : v.y.Stands y
  z : v.z.Stands z

namespace Space

/-! ## Numbers in a corner -/

/-- The numbers in a corner are far below what rounding would change. -/
theorem natAbs_lt {i : ℤ} (hlo : -1000 < i) (hhi : i < 1000) : i.natAbs < Number.pow2 24 :=
  show i.natAbs < 2 ^ 24 by omega

theorem stands_eight : (8 : Single).Stands 8 := Single.stands_ofInt (i := 8) (by decide)

theorem stands_thirtyTwo : (32 : Single).Stands 32 := Single.stands_ofInt (i := 32) (by decide)

/-! ## Fields of a word -/

/-- A divisor of the size of a word leaves the same rest with and without sign. -/
theorem toInt_emod (n : Int32) {w : Nat} (hw : w ≤ 32) :
    n.toInt % (2 ^ w : Nat) = (n.toBitVec.toNat % 2 ^ w : Nat) := by
  have hd : ((2 ^ w : Nat) : ℤ) ∣ (2 ^ 32 : Nat) :=
    Int.natCast_dvd_natCast.mpr (Nat.pow_dvd_pow 2 hw)
  rw [← Int32.toInt_toBitVec, BitVec.toInt_eq_toNat_bmod, ← Int.emod_emod_of_dvd _ hd,
    Int.bmod_emod, Int.emod_emod_of_dvd _ hd, Int.natCast_emod]

/-- Masking keeps the rest of a division. -/
theorem toInt_and_mask (n : Int32) {w : Nat} (hw : w < 31) :
    (n &&& Int32.ofNat (2 ^ w - 1)).toInt = n.toInt % (2 ^ w : Nat) := by
  have hp : 2 ^ w ≤ 2 ^ 30 := Nat.pow_le_pow_right Nat.two_pos (by omega)
  have hr : n.toBitVec.toNat % 2 ^ w < 2 ^ w := Nat.mod_lt _ (Nat.two_pow_pos w)
  have hm : (n &&& Int32.ofNat (2 ^ w - 1)).toBitVec.toNat = n.toBitVec.toNat % 2 ^ w := by
    rw [Int32.toBitVec_and, BitVec.toNat_and, Int32.toBitVec_ofNat', BitVec.toNat_ofNat,
      Nat.mod_eq_of_lt (by omega), Nat.and_two_pow_sub_one_eq_mod]
  rw [toInt_emod n (by omega), ← Int32.toInt_toBitVec, BitVec.toInt_eq_toNat_of_lt (by omega), hm]

theorem toInt_shiftRight_five (n : Int32) : (n >>> 5).toInt = n.toInt / 32 :=
  BitVec.toInt_sshiftRight.trans (Int.shiftRight_eq_div_pow _ _)

theorem toInt_shiftRight_ten (n : Int32) : (n >>> 10).toInt = n.toInt / 1024 :=
  BitVec.toInt_sshiftRight.trans (Int.shiftRight_eq_div_pow _ _)

/-- The fields of a packed box, in units of eight. -/
structure Solid where
  width : ℤ
  down : ℤ
  up : ℤ

namespace Solid

/-- The fields in the low sixteen bits. -/
def ofBits (n : ℤ) : Solid := ⟨n % 32, n / 32 % 32, n / 1024 % 64⟩

def bits (s : Solid) : ℤ := s.width + 32 * s.down + 1024 * s.up

/-- Every field is one that its bits can hold. -/
structure Fits (s : Solid) : Prop where
  width : 0 ≤ s.width ∧ s.width ≤ 31
  down : 0 ≤ s.down ∧ s.down ≤ 31
  up : 0 ≤ s.up ∧ s.up ≤ 63

/-- No field is empty. -/
structure Proper (s : Solid) : Prop where
  width : 1 ≤ s.width ∧ s.width ≤ 31
  down : 1 ≤ s.down ∧ s.down ≤ 31
  up : 1 ≤ s.up ∧ s.up ≤ 63

/-- Empty fields raised to one. -/
def raised (s : Solid) : Solid := ⟨max 1 s.width, max 1 s.down, max 1 s.up⟩

/-- The corners stand for those of the box with these fields. -/
structure Bounds (s : Solid) (mins maxs : Vec3) : Prop where
  mins : mins.Stands (-(8 * s.width)) (-(8 * s.width)) (-(8 * s.down))
  maxs : maxs.Stands (8 * s.width) (8 * s.width) (8 * s.up - 32)

/-- The smallest and the largest corner of the box with these fields. -/
def box (s : Solid) : Vec3 × Vec3 :=
  (⟨.ofInt (-(8 * s.width)), .ofInt (-(8 * s.width)), .ofInt (-(8 * s.down))⟩,
    ⟨.ofInt (8 * s.width), .ofInt (8 * s.width), .ofInt (8 * s.up - 32)⟩)

theorem bits_ofBits (n : ℤ) : (ofBits n).bits = n % 65536 := by
  show n % 32 + 32 * (n / 32 % 32) + 1024 * (n / 1024 % 64) = n % 65536
  omega

theorem ofBits_eq {m n : ℤ} (h : m % 65536 = n % 65536) : ofBits m = ofBits n := by
  simp only [ofBits, mk.injEq]
  omega

theorem ofBits_bits {s : Solid} (h : s.Proper) : ofBits s.bits = s := by
  obtain ⟨⟨hw, hw'⟩, ⟨hd, hd'⟩, hu, hu'⟩ := h
  obtain ⟨w, d, u⟩ := s
  simp only [ofBits, bits, mk.injEq] at *
  omega

theorem fits_ofBits (n : ℤ) : (ofBits n).Fits := by
  constructor <;> simp only [ofBits] <;> omega

theorem Proper.fits {s : Solid} (h : s.Proper) : s.Fits := by
  obtain ⟨⟨hw, hw'⟩, ⟨hd, hd'⟩, hu, hu'⟩ := h
  constructor <;> omega

theorem raised_eq {s : Solid} (h : s.Proper) : s.raised = s := by
  obtain ⟨⟨hw, -⟩, ⟨hd, -⟩, hu, -⟩ := h
  rw [raised, max_eq_right hw, max_eq_right hd, max_eq_right hu]

end Solid

/-! ## Packing -/

/-- Fields that do not overlap are merged to a sum. -/
theorem merge_eq {w d : Nat} (hw : w < 32) (hd : d < 32) (u : Nat) :
    u <<< 10 ||| d <<< 5 ||| w = w + 32 * d + 1024 * u := by
  have hd' : d <<< 5 < 2 ^ 10 := by
    rw [Nat.shiftLeft_eq]
    omega
  have hs : u <<< 10 + d <<< 5 = (32 * u + d) <<< 5 := by
    simp only [Nat.shiftLeft_eq]
    omega
  rw [← Nat.shiftLeft_add_eq_or_of_lt hd', hs, ← Nat.shiftLeft_add_eq_or_of_lt (i := 5) hw,
    Nat.shiftLeft_eq]
  omega

theorem toNat_ofInt {i : ℤ} (h0 : 0 ≤ i) (h : i < 64) :
    (Int32.ofInt i).toBitVec.toNat = i.toNat := by
  rw [Int32.toBitVec_ofInt, BitVec.toNat_ofInt]
  omega

theorem inEights_mem {top : ℤ} (h : 1 ≤ top) (f : Single) :
    1 ≤ inEights top f ∧ inEights top f ≤ top := by
  unfold inEights
  omega

/-- The fields that packing writes. -/
def packed (mins maxs : Vec3) : Solid :=
  ⟨inEights 31 maxs.x, inEights 31 (-mins.z), inEights 63 (maxs.z + 32)⟩

theorem proper_packed (mins maxs : Vec3) : (packed mins maxs).Proper :=
  ⟨inEights_mem (by decide) _, inEights_mem (by decide) _, inEights_mem (by decide) _⟩

theorem toInt_packSolid (mins maxs : Vec3) :
    (packSolid mins maxs).toInt = (packed mins maxs).bits := by
  obtain ⟨⟨hw, hw'⟩, ⟨hd, hd'⟩, hu, hu'⟩ := proper_packed mins maxs
  change (Int32.ofInt (packed mins maxs).up <<< 10 ||| Int32.ofInt (packed mins maxs).down <<< 5 |||
    Int32.ofInt (packed mins maxs).width).toInt = _
  generalize packed mins maxs = s at *
  have hn : (Int32.ofInt s.up <<< 10 ||| Int32.ofInt s.down <<< 5 |||
      Int32.ofInt s.width).toBitVec.toNat =
        s.width.toNat + 32 * s.down.toNat + 1024 * s.up.toNat := by
    change (Int32.ofInt s.up).toBitVec.toNat <<< 10 % 2 ^ 32 |||
      (Int32.ofInt s.down).toBitVec.toNat <<< 5 % 2 ^ 32 |||
      (Int32.ofInt s.width).toBitVec.toNat = _
    rw [toNat_ofInt (by omega) (by omega), toNat_ofInt (by omega) (by omega),
      toNat_ofInt (by omega) (by omega), Nat.mod_eq_of_lt (by rw [Nat.shiftLeft_eq]; omega),
      Nat.mod_eq_of_lt (by rw [Nat.shiftLeft_eq]; omega), merge_eq (by omega) (by omega)]
  rw [← Int32.toInt_toBitVec, BitVec.toInt_eq_toNat_of_lt (by omega), hn, Solid.bits]
  omega

/-- A whole number of eights is packed as that number. -/
theorem inEights_of_stands {f : Single} {k top : ℤ} (h : f.Stands (8 * k))
    (hk : 0 ≤ k ∧ k ≤ top) (ht : top < 64) : inEights top f = max 1 k := by
  have hq : (f / 8).Stands k :=
    h.div stands_eight (by decide) (natAbs_lt (by omega) (by omega))
  rw [inEights, hq.toInt32 (by omega) (by omega), Int32.toInt_ofInt_of_le (by omega) (by omega),
    min_eq_right hk.2]

variable {mins maxs : Vec3} {s : Solid}

theorem packed_of_bounds (h : s.Bounds mins maxs) (hs : s.Fits) :
    packed mins maxs = s.raised := by
  obtain ⟨hw, hd, hu⟩ := hs
  have hdown : (-mins.z).Stands (8 * s.down) := by
    have hn := h.mins.z.neg
    rwa [neg_neg] at hn
  have hup : (maxs.z + 32).Stands (8 * s.up) := by
    have ha := h.maxs.z.add stands_thirtyTwo (natAbs_lt (by omega) (by omega))
    rwa [sub_add_cancel] at ha
  rw [packed, inEights_of_stands h.maxs.x hw (by decide),
    inEights_of_stands hdown hd (by decide), inEights_of_stands hup hu (by decide), Solid.raised]

/-! ## Unpacking -/

/-- The corners that unpacking computes from the fields. -/
def corners (s : Solid) : Vec3 × Vec3 :=
  let width : Single := 8 * .ofInt s.width
  let down : Single := 8 * .ofInt s.down
  let up : Single := 8 * .ofInt s.up - 32
  (⟨-width, -width, -down⟩, ⟨width, width, up⟩)

theorem unpackSolid_eq (n : Int32) : unpackSolid n = corners (.ofBits n.toInt) := by
  have hw : (n &&& 31).toInt = n.toInt % 32 := toInt_and_mask n (w := 5) (by decide)
  have hd : (n >>> 5 &&& 31).toInt = n.toInt / 32 % 32 := by
    rw [← toInt_shiftRight_five]
    exact toInt_and_mask (n >>> 5) (w := 5) (by decide)
  have hu : (n >>> 10 &&& 63).toInt = n.toInt / 1024 % 64 := by
    rw [← toInt_shiftRight_ten]
    exact toInt_and_mask (n >>> 10) (w := 6) (by decide)
  simp only [unpackSolid, corners, Solid.ofBits, hw, hd, hu]

theorem stands_eights {k : ℤ} (hk : 0 ≤ k ∧ k < 64) : (8 * Single.ofInt k).Stands (8 * k) := by
  have hi : (Single.ofInt k).Stands k := Single.stands_ofInt (natAbs_lt (by omega) (by omega))
  exact stands_eight.mul hi (natAbs_lt (by omega) (by omega))

theorem bounds_corners (hs : s.Fits) : s.Bounds (corners s).1 (corners s).2 := by
  obtain ⟨⟨hw, hw'⟩, ⟨hd, hd'⟩, hu, hu'⟩ := hs
  have width := stands_eights (k := s.width) (by omega)
  have down := stands_eights (k := s.down) (by omega)
  have up := stands_eights (k := s.up) (by omega)
  exact ⟨⟨width.neg, width.neg, down.neg⟩,
    ⟨width, width, up.sub stands_thirtyTwo (natAbs_lt (by omega) (by omega))⟩⟩

theorem bounds_box (hs : s.Fits) : s.Bounds s.box.1 s.box.2 := by
  obtain ⟨⟨hw, hw'⟩, ⟨hd, hd'⟩, hu, hu'⟩ := hs
  refine ⟨⟨?_, ?_, ?_⟩, ?_, ?_, ?_⟩ <;>
    exact Single.stands_ofInt (natAbs_lt (by omega) (by omega))

/-- The top of a box may be at zero, which is then computed without a sign; every other number in
a corner settles its bits. -/
theorem corners_eq (hs : s.Proper) : corners s = s.box := by
  obtain ⟨⟨hx, -, hz⟩, hx', -, hz'⟩ := bounds_corners hs.fits
  obtain ⟨⟨hw, hw'⟩, ⟨hd, hd'⟩, hu, hu'⟩ := hs
  have top : (corners s).2.z = .ofInt (8 * s.up - 32) := by
    by_cases h0 : s.up = 4
    · show 8 * Single.ofInt s.up - 32 = .ofInt (8 * s.up - 32)
      rw [h0]
      decide +kernel
    · exact hz'.eq_ofInt (by omega) (natAbs_lt (by omega) (by omega))
  have left := hx.eq_ofInt (by omega) (natAbs_lt (by omega) (by omega))
  have bottom := hz.eq_ofInt (by omega) (natAbs_lt (by omega) (by omega))
  have right := hx'.eq_ofInt (by omega) (natAbs_lt (by omega) (by omega))
  change (Vec3.mk (corners s).1.x (corners s).1.x (corners s).1.z,
    Vec3.mk (corners s).2.x (corners s).2.x (corners s).2.z) = s.box
  rw [left, bottom, right, top]
  rfl

/-- The number of a box unpacked and packed again. -/
def repack (n : Int32) : Int32 := packSolid (unpackSolid n).1 (unpackSolid n).2

theorem toInt_repack (n : Int32) : (repack n).toInt = (Solid.ofBits n.toInt).raised.bits := by
  have hs := Solid.fits_ofBits n.toInt
  rw [repack, toInt_packSolid, unpackSolid_eq, packed_of_bounds (bounds_corners hs) hs]

theorem ofBits_packSolid (mins maxs : Vec3) :
    Solid.ofBits (packSolid mins maxs).toInt = packed mins maxs := by
  rw [toInt_packSolid, Solid.ofBits_bits (proper_packed mins maxs)]

theorem repack_packSolid (mins maxs : Vec3) :
    repack (packSolid mins maxs) = packSolid mins maxs := by
  rw [← Int32.toInt_inj, toInt_repack, ofBits_packSolid, Solid.raised_eq (proper_packed mins maxs),
    toInt_packSolid]

theorem unpackSolid_packSolid (hs : s.Proper) (h : s.Bounds mins maxs) :
    unpackSolid (packSolid mins maxs) = s.box := by
  rw [unpackSolid_eq, ofBits_packSolid, packed_of_bounds h hs.fits, Solid.raised_eq hs,
    corners_eq hs]

/-- Packing writes three fields, none of them empty, and unpacking reads nothing else. To unpack and
to pack again raises the empty fields to one, so it leaves alone what was packed; to pack and to
unpack leaves alone the boxes with three proper fields. -/
theorem box_packing_projects :
    (∀ mins maxs, 0 ≤ (packSolid mins maxs).toInt ∧ (packSolid mins maxs).toInt ≤ 65535 ∧
      (Solid.ofBits (packSolid mins maxs).toInt).Proper ∧
      repack (packSolid mins maxs) = packSolid mins maxs) ∧
    (∀ m n : Int32, m.toInt % 65536 = n.toInt % 65536 → unpackSolid m = unpackSolid n) ∧
    (∀ n : Int32, (Solid.ofBits n.toInt).bits = n.toInt % 65536 ∧
      (repack n).toInt = (Solid.ofBits n.toInt).raised.bits) ∧
    ∀ s : Solid, s.Proper → s.Bounds s.box.1 s.box.2 ∧
      ∀ mins maxs, s.Bounds mins maxs → unpackSolid (packSolid mins maxs) = s.box := by
  refine ⟨fun mins maxs => ?_, fun m n h => ?_,
    fun n => ⟨Solid.bits_ofBits n.toInt, toInt_repack n⟩,
    fun s hs => ⟨bounds_box hs.fits, fun _ _ => unpackSolid_packSolid hs⟩⟩
  · obtain ⟨⟨hw, hw'⟩, ⟨hd, hd'⟩, hu, hu'⟩ := proper_packed mins maxs
    have hb := toInt_packSolid mins maxs
    rw [Solid.bits] at hb
    refine ⟨by omega, by omega, ?_, repack_packSolid mins maxs⟩
    rw [ofBits_packSolid]
    exact proper_packed mins maxs
  · rw [unpackSolid_eq, unpackSolid_eq, Solid.ofBits_eq h]

/-- A player's box, two words that differ in their high bits, and the box of a word with all three
fields empty. -/
theorem box_packing_projects_player :
    unpackSolid (packSolid ⟨.ofInt (-16), .ofInt (-16), .ofInt (-24)⟩
      ⟨.ofInt 16, .ofInt 16, .ofInt 32⟩) =
        (⟨.ofInt (-16), .ofInt (-16), .ofInt (-24)⟩, ⟨.ofInt 16, .ofInt 16, .ofInt 32⟩) ∧
    unpackSolid (-1) = unpackSolid 65535 ∧ (repack 0x7fff0000).toInt = 1057 := by
  obtain ⟨-, low, repacked, kept⟩ := box_packing_projects
  have hs : (Solid.mk 2 3 8).Proper := ⟨by decide, by decide, by decide⟩
  exact ⟨(kept _ hs).2 _ _ (kept _ hs).1, low _ _ (by decide), (repacked _).2⟩

end Space

end GameModule
