import GameModule.Record.Codec

/-!
# Codecs lose nothing

A codec is lawful if its encodings have its size, every byte string of at least that size begins
with exactly one of them, and decoding finds it. Lawfulness is kept by every way of building a
codec from others, so it is proved of bytes and inherited by records. From it follow the two round
trips, and that a record written into a buffer is read back and touches nothing else.
-/
namespace GameModule.Record

open Text (Bytes)

/-! ## Replacing a stretch of bytes -/

/-- The bytes with the stretch from `offset` on replaced by others of the same number. -/
def splice (bs : Bytes) (offset : Nat) (new : Bytes) : Bytes :=
  bs.take offset ++ new ++ bs.drop (offset + new.length)

section Splice

variable {bs new : Bytes} {offset : Nat}

theorem getElem?_splice (h : offset + new.length ≤ bs.length) (i : Nat) :
    (splice bs offset new)[i]? =
      if offset ≤ i ∧ i < offset + new.length then new[i - offset]? else bs[i]? := by
  have hl : (bs.take offset).length = offset := List.length_take_of_le (by omega)
  rw [splice, List.append_assoc]
  by_cases h₁ : i < offset
  · rw [List.getElem?_append_left (by omega), List.getElem?_take_of_lt h₁, if_neg (by omega)]
  rw [List.getElem?_append_right (by omega), hl]
  by_cases h₂ : i < offset + new.length
  · rw [List.getElem?_append_left (by omega), if_pos (by omega)]
  · rw [List.getElem?_append_right (by omega), List.getElem?_drop, if_neg (by omega)]
    congr 1
    omega

theorem length_splice (h : offset + new.length ≤ bs.length) :
    (splice bs offset new).length = bs.length := by
  rw [splice, List.length_append, List.length_append, List.length_take, List.length_drop]
  omega

theorem splice_append_left (h : offset + new.length ≤ bs.length) (back : Bytes) :
    splice (bs ++ back) offset new = splice bs offset new ++ back := by
  rw [splice, List.take_append_of_le_length (by omega), List.drop_append_of_le_length h,
    ← List.append_assoc, splice]

theorem splice_append_right (front bs new : Bytes) (offset : Nat) :
    splice (front ++ bs) (front.length + offset) new = front ++ splice bs offset new := by
  rw [splice, List.take_length_add_append, Nat.add_assoc, List.drop_length_add_append, splice,
    List.append_assoc, List.append_assoc, List.append_assoc]

theorem splice_whole (h : new.length = bs.length) : splice bs 0 new = new := by
  rw [splice, List.take_zero, List.nil_append, Nat.zero_add, h, List.drop_length, List.append_nil]

/-- Stretches that do not overlap can be replaced in either order. -/
theorem splice_comm {bs new new' : Bytes} {offset offset' : Nat}
    (h : offset + new.length ≤ bs.length) (h' : offset' + new'.length ≤ bs.length)
    (hd : offset + new.length ≤ offset' ∨ offset' + new'.length ≤ offset) :
    splice (splice bs offset new) offset' new' = splice (splice bs offset' new') offset new := by
  refine List.ext_getElem? fun i => ?_
  rw [getElem?_splice (by rwa [length_splice h]), getElem?_splice h,
    getElem?_splice (by rwa [length_splice h']), getElem?_splice h']
  by_cases hi : offset ≤ i ∧ i < offset + new.length
  · rw [if_pos hi, if_pos hi, if_neg (by omega)]
  · rw [if_neg hi, if_neg hi]

end Splice

namespace Codec

variable {α β : Type} {c : Codec α} {d : Codec β}

structure Lawful (c : Codec α) : Prop where
  length_encode : ∀ a, (c.encode a).length = c.size
  decode_append : ∀ a rest, c.decode (c.encode a ++ rest) = some (a, rest)
  exists_encode : ∀ bs : Bytes, c.size ≤ bs.length → ∃ a rest, bs = c.encode a ++ rest
  decode_short : ∀ bs : Bytes, bs.length < c.size → c.decode bs = none

/-! ## Building codecs -/

theorem lawful_byte : byte.Lawful where
  length_encode _ := rfl
  decode_append _ _ := rfl
  exists_encode bs h := by
    cases bs with
    | nil => exact absurd h (by decide)
    | cons b bs => exact ⟨b, bs, rfl⟩
  decode_short bs h := by
    cases bs with
    | nil => rfl
    | cons b bs => exact absurd h (by simp [byte])

theorem Lawful.pair (hc : c.Lawful) (hd : d.Lawful) : (c.pair d).Lawful where
  length_encode p := by
    change (c.encode p.1 ++ d.encode p.2).length = c.size + d.size
    rw [List.length_append, hc.length_encode, hd.length_encode]
  decode_append p rest := by
    change (c.pair d).decode (c.encode p.1 ++ d.encode p.2 ++ rest) = _
    simp only [Codec.pair, List.append_assoc, hc.decode_append, hd.decode_append]
  exists_encode bs h := by
    change c.size + d.size ≤ bs.length at h
    obtain ⟨a, mid, rfl⟩ := hc.exists_encode bs (by omega)
    rw [List.length_append, hc.length_encode] at h
    obtain ⟨b, rest, rfl⟩ := hd.exists_encode mid (by omega)
    exact ⟨(a, b), rest, (List.append_assoc ..).symm⟩
  decode_short bs h := by
    change bs.length < c.size + d.size at h
    by_cases hs : bs.length < c.size
    · simp only [Codec.pair, hc.decode_short bs hs]
    · obtain ⟨a, rest, rfl⟩ := hc.exists_encode bs (by omega)
      rw [List.length_append, hc.length_encode] at h
      simp only [Codec.pair, hc.decode_append, hd.decode_short rest (by omega)]

/-- The same bytes read as another type, if each value of either type stands for one of the other. -/
theorem Lawful.map (hc : c.Lawful) {forth : α → β} {back : β → α}
    (hf : ∀ b, forth (back b) = b) (hb : ∀ a, back (forth a) = a) :
    (c.map forth back).Lawful where
  length_encode b := hc.length_encode (back b)
  decode_append b rest := by
    have hd := congrArg (Option.map fun p : α × Bytes => (forth p.1, p.2))
      (hc.decode_append (back b) rest)
    rwa [Option.map_some, hf] at hd
  exists_encode bs h := by
    obtain ⟨a, rest, rfl⟩ := hc.exists_encode bs h
    refine ⟨forth a, rest, ?_⟩
    change _ = c.encode (back (forth a)) ++ rest
    rw [hb]
  decode_short bs h := by
    change (c.decode bs).map _ = none
    rw [hc.decode_short bs h, Option.map_none]

section Row

variable {n : Nat} (a : α) (as : Vector α n) (v : Vector α (n + 1))

theorem head_cons (h : (#[a] ++ as.toArray).size = n + 1) :
    (⟨#[a] ++ as.toArray, h⟩ : Vector α (n + 1)).head = a := by
  simp [Vector.head]

theorem tail_cons (h : (#[a] ++ as.toArray).size = n + 1) :
    (⟨#[a] ++ as.toArray, h⟩ : Vector α (n + 1)).tail = as := by
  refine Vector.ext fun i hi => ?_
  simp [Vector.tail]

theorem cons_head_tail (h : (#[v.head] ++ v.tail.toArray).size = n + 1) :
    (⟨#[v.head] ++ v.tail.toArray, h⟩ : Vector α (n + 1)) = v := by
  refine Vector.ext fun i hi => ?_
  cases i with
  | zero => simp [Vector.head]
  | succ i => simp [Vector.tail, Nat.add_comm]

theorem Lawful.row (hc : c.Lawful) : (c.row n).Lawful := by
  induction n with
  | zero =>
    constructor
    · exact fun _ => rfl
    · intro v rest
      obtain rfl : v = #v[] := Vector.eq_empty
      rfl
    · exact fun bs _ => ⟨#v[], bs, rfl⟩
    · exact fun bs h => absurd h (Nat.not_lt_zero _)
  | succ n ih =>
    refine (hc.pair ih).map (fun v => cons_head_tail v _) fun p => ?_
    exact Prod.ext (head_cons p.1 p.2 _) (tail_cons p.1 p.2 _)

end Row

/-! ## Numbers -/

theorem or_shiftLeft {k lo : Nat} (h : lo < 1 <<< k) (hi : Nat) :
    lo ||| hi <<< k = lo + hi <<< k := by
  rw [Nat.one_shiftLeft] at h
  rw [Nat.or_comm, ← Nat.shiftLeft_add_eq_or_of_lt h, Nat.add_comm]

theorem toNat_join16 (lo hi : UInt8) :
    (lo.toUInt16 ||| (hi.toUInt16 <<< 8)).toNat = lo.toNat + 256 * hi.toNat := by
  have hl := lo.toNat_lt
  have hh := hi.toNat_lt
  have ho := or_shiftLeft (k := 8) hl hi.toNat
  rw [UInt16.toNat_or, UInt16.toNat_shiftLeft, UInt8.toNat_toUInt16, UInt8.toNat_toUInt16]
  change lo.toNat ||| hi.toNat <<< 8 % 65536 = _
  have hs : hi.toNat <<< 8 = 256 * hi.toNat := by rw [Nat.shiftLeft_eq, Nat.mul_comm]
  rw [Nat.mod_eq_of_lt (by omega), ho, hs]

theorem toNat_join32 (lo hi : UInt16) :
    (lo.toUInt32 ||| (hi.toUInt32 <<< 16)).toNat = lo.toNat + 65536 * hi.toNat := by
  have hl := lo.toNat_lt
  have hh := hi.toNat_lt
  have ho := or_shiftLeft (k := 16) hl hi.toNat
  rw [UInt32.toNat_or, UInt32.toNat_shiftLeft, UInt16.toNat_toUInt32, UInt16.toNat_toUInt32]
  change lo.toNat ||| hi.toNat <<< 16 % 4294967296 = _
  have hs : hi.toNat <<< 16 = 65536 * hi.toNat := by rw [Nat.shiftLeft_eq, Nat.mul_comm]
  rw [Nat.mod_eq_of_lt (by omega), ho, hs]

theorem toNat_low16 (w : UInt16) : w.toUInt8.toNat = w.toNat % 256 := UInt16.toNat_toUInt8 w

theorem toNat_high16 (w : UInt16) : (w >>> 8).toUInt8.toNat = w.toNat / 256 := by
  have hw := w.toNat_lt
  rw [UInt16.toNat_toUInt8, UInt16.toNat_shiftRight]
  change w.toNat >>> 8 % 256 = _
  rw [Nat.shiftRight_eq_div_pow]
  omega

theorem toNat_low32 (w : UInt32) : w.toUInt16.toNat = w.toNat % 65536 := UInt32.toNat_toUInt16 w

theorem toNat_high32 (w : UInt32) : (w >>> 16).toUInt16.toNat = w.toNat / 65536 := by
  have hw := w.toNat_lt
  rw [UInt32.toNat_toUInt16, UInt32.toNat_shiftRight]
  change w.toNat >>> 16 % 65536 = _
  rw [Nat.shiftRight_eq_div_pow]
  omega

theorem lawful_word16 : word16.Lawful := by
  refine (lawful_byte.pair lawful_byte).map (fun w => ?_) fun p => ?_
  · apply UInt16.toNat_inj.mp
    have hj := toNat_join16 w.toUInt8 (w >>> 8).toUInt8
    rw [toNat_low16, toNat_high16] at hj
    exact hj.trans (by omega)
  · obtain ⟨lo, hi⟩ := p
    have hj := toNat_join16 lo hi
    have hl := lo.toNat_lt
    have h₁ : (lo.toUInt16 ||| (hi.toUInt16 <<< 8)).toUInt8.toNat = lo.toNat := by
      rw [toNat_low16, hj]
      omega
    have h₂ : ((lo.toUInt16 ||| (hi.toUInt16 <<< 8)) >>> 8).toUInt8.toNat = hi.toNat := by
      rw [toNat_high16, hj]
      omega
    exact Prod.ext (UInt8.toNat_inj.mp h₁) (UInt8.toNat_inj.mp h₂)

theorem lawful_word32 : word32.Lawful := by
  refine (lawful_word16.pair lawful_word16).map (fun w => ?_) fun p => ?_
  · apply UInt32.toNat_inj.mp
    have hj := toNat_join32 w.toUInt16 (w >>> 16).toUInt16
    rw [toNat_low32, toNat_high32] at hj
    exact hj.trans (by omega)
  · obtain ⟨lo, hi⟩ := p
    have hj := toNat_join32 lo hi
    have hl := lo.toNat_lt
    have h₁ : (lo.toUInt32 ||| (hi.toUInt32 <<< 16)).toUInt16.toNat = lo.toNat := by
      rw [toNat_low32, hj]
      omega
    have h₂ : ((lo.toUInt32 ||| (hi.toUInt32 <<< 16)) >>> 16).toUInt16.toNat = hi.toNat := by
      rw [toNat_high32, hj]
      omega
    exact Prod.ext (UInt16.toNat_inj.mp h₁) (UInt16.toNat_inj.mp h₂)

/-! ## Reading and writing -/

namespace Lawful

variable (hc : c.Lawful)

include hc

theorem read?_encode (a : α) (rest : Bytes) : c.read? (c.encode a ++ rest) = some a := by
  rw [read?, hc.decode_append, Option.map_some]

theorem encode_inj {a b : α} (h : c.encode a = c.encode b) : a = b := by
  have ha := hc.read?_encode a []
  rw [h, hc.read?_encode] at ha
  exact (Option.some.inj ha).symm

theorem writeAt_eq (bs : Bytes) (offset : Nat) (a : α) :
    c.writeAt bs offset a = splice bs offset (c.encode a) := by
  rw [writeAt, splice, hc.length_encode]

theorem read?_eq_none_iff (bs : Bytes) : c.read? bs = none ↔ bs.length < c.size := by
  constructor
  · intro h
    refine Nat.lt_of_not_le fun hle => ?_
    obtain ⟨a, rest, rfl⟩ := hc.exists_encode bs hle
    rw [hc.read?_encode] at h
    cases h
  · intro h
    rw [read?, hc.decode_short bs h, Option.map_none]

/-- What is read is what stands at the front, and what follows does not matter. -/
theorem exists_read? {bs : Bytes} (h : c.size ≤ bs.length) :
    ∃ a, c.read? bs = some a ∧ c.encode a = bs.take c.size ∧
      ∀ rest, c.read? (bs.take c.size ++ rest) = some a := by
  obtain ⟨a, rest, rfl⟩ := hc.exists_encode bs h
  have ht : (c.encode a ++ rest).take c.size = c.encode a := List.take_left' (hc.length_encode a)
  refine ⟨a, hc.read?_encode a rest, ht.symm, fun rest' => ?_⟩
  rw [ht]
  exact hc.read?_encode a rest'

theorem encode_of_read? {bs : Bytes} {a : α} (h : c.read? bs = some a) :
    c.encode a = bs.take c.size := by
  have hs : c.size ≤ bs.length := by
    refine Nat.le_of_not_lt fun hs => ?_
    rw [(hc.read?_eq_none_iff bs).mpr hs] at h
    cases h
  obtain ⟨b, hb, henc, -⟩ := hc.exists_read? hs
  obtain rfl := Option.some.inj (hb.symm.trans h)
  exact henc

section Write

variable {bs : Bytes} {offset : Nat} (h : offset + c.size ≤ bs.length) (a : α)

include h

theorem length_writeAt : (c.writeAt bs offset a).length = bs.length := by
  rw [hc.writeAt_eq]
  exact length_splice (by rwa [hc.length_encode])

theorem readAt?_writeAt : c.readAt? (c.writeAt bs offset a) offset = some a := by
  have hl : (bs.take offset).length = offset := List.length_take_of_le (by omega)
  rw [readAt?, writeAt, List.append_assoc, List.drop_left' hl]
  exact hc.read?_encode a _

/-- Nothing is written in front of the record or behind it. -/
theorem getElem?_writeAt {i : Nat} (hi : i < offset ∨ offset + c.size ≤ i) :
    (c.writeAt bs offset a)[i]? = bs[i]? := by
  rw [hc.writeAt_eq, getElem?_splice (by rwa [hc.length_encode]), hc.length_encode,
    if_neg (by omega)]

end Write

end Lawful

end Codec

end GameModule.Record
