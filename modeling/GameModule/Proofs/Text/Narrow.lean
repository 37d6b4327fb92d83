import GameModule.Text.Buffer
import Mathlib.Data.List.TakeWhile

/-!
# Narrow text there and back

Bytes read as text and sent again are the bytes up to the first zero byte, and narrow text stored
and read again is the text itself. A text is sent as a whole if none of its characters has a zero
low byte.
-/
namespace GameModule.Text

/-! ## Bytes and characters -/

theorem toNat_ofByte (b : UInt8) : (ofByte b).toNat = b.toNat := by
  have hb : b.toNat < 256 := b.toNat_lt
  have hv : b.toNat.isValidChar := Or.inl (by omega)
  rw [ofByte, Char.ofNat, dif_pos hv]
  rfl

theorem toNat_lowByte (c : Char) : (lowByte c).toNat = c.toNat % 256 := UInt8.toNat_ofNat'

theorem lowByte_ofByte (b : UInt8) : lowByte (ofByte b) = b := by
  rw [lowByte, toNat_ofByte, UInt8.ofNat_toNat]

theorem ofByte_lowByte {c : Char} (h : c.toNat < 256) : ofByte (lowByte c) = c := by
  rw [ofByte, toNat_lowByte, Nat.mod_eq_of_lt h, Char.ofNat_toNat]

/-! ## Up to the first zero byte -/

/-- No byte is zero. -/
def NulFree (bs : Bytes) : Prop := ∀ b ∈ bs, b ≠ 0

instance (bs : Bytes) : Decidable (NulFree bs) :=
  decidable_of_iff (bs.all (· != 0) = true) (by simp [NulFree])

theorem nulFree_append {as bs : Bytes} : NulFree (as ++ bs) ↔ NulFree as ∧ NulFree bs :=
  List.forall_mem_append

theorem nulFree_untilZero (bs : Bytes) : NulFree (untilZero bs) := by
  intro b hb
  simpa using List.mem_takeWhile_imp hb

theorem untilZero_append {as : Bytes} (h : NulFree as) (bs : Bytes) :
    untilZero (as ++ bs) = as ++ untilZero bs := by
  refine List.takeWhile_append_of_pos fun b hb => ?_
  simpa using h b hb

theorem untilZero_eq_self {bs : Bytes} (h : NulFree bs) : untilZero bs = bs := by
  have ha := untilZero_append h []
  have hn : untilZero [] = [] := rfl
  rwa [hn, List.append_nil] at ha

theorem untilZero_replicate (n : Nat) : untilZero (List.replicate n 0) = [] := by
  cases n <;> rfl

/-- Filling up with zeros does not show. -/
theorem untilZero_append_zeros (bs : Bytes) (n : Nat) :
    untilZero (bs ++ List.replicate n 0) = untilZero bs := by
  induction bs with
  | nil => exact untilZero_replicate n
  | cons b bs ih =>
    simp only [untilZero, List.cons_append, List.takeWhile_cons] at ih ⊢
    rw [ih]

/-! ## Reading, then sending -/

theorem toNarrow_ofNarrow (bs : Bytes) : toNarrow (ofNarrow bs) = untilZero bs := by
  have hid : lowByte ∘ ofByte = id := funext lowByte_ofByte
  rw [toNarrow_eq, ofNarrow, String.toList_ofList, List.map_map, hid, List.map_id,
    untilZero_eq_self (nulFree_untilZero bs)]

theorem isNarrow_ofNarrow (bs : Bytes) : IsNarrow (ofNarrow bs) := by
  intro c hc
  rw [ofNarrow, String.toList_ofList] at hc
  obtain ⟨b, hb, rfl⟩ := List.mem_map.mp hc
  have hz := nulFree_untilZero bs b hb
  rw [toNat_ofByte]
  refine ⟨Nat.pos_of_ne_zero fun h => hz (UInt8.toNat_inj.mp h), b.toNat_lt⟩

theorem isNarrow_ofNarrow? (bs : Option Bytes) : IsNarrow (ofNarrow? bs) := by
  cases bs with
  | none => nofun
  | some bs => exact isNarrow_ofNarrow bs

/-! ## Sending -/

/-- The bytes of a text whose characters are all sent. -/
def ascii (s : String) : Bytes := s.toList.map lowByte

theorem ascii_append (s t : String) : ascii (s ++ t) = ascii s ++ ascii t := by
  rw [ascii, String.toList_append, List.map_append]
  rfl

theorem toNarrow_eq_ascii {s : String} (h : NulFree (ascii s)) : toNarrow s = ascii s :=
  (toNarrow_eq s).trans (untilZero_eq_self h)

theorem nulFree_of_isNarrow {s : String} (h : IsNarrow s) : NulFree (ascii s) := by
  intro b hb hz
  obtain ⟨c, hc, rfl⟩ := List.mem_map.mp hb
  have hn := h c hc
  have hm := congrArg UInt8.toNat hz
  rw [toNat_lowByte, Nat.mod_eq_of_lt hn.2] at hm
  exact absurd hm (Nat.ne_of_gt hn.1)

theorem nulFree_ofNarrow? (bs : Option Bytes) : NulFree (ascii (ofNarrow? bs)) :=
  nulFree_of_isNarrow (isNarrow_ofNarrow? bs)

/-! ## Storing, then reading -/

theorem text_empty (n : Nat) : (Buffer.empty : Buffer n).text = "" := by
  change String.ofList ((untilZero (List.replicate n 0)).map ofByte) = ""
  rw [untilZero_replicate]
  rfl

theorem length_take_ascii (n : Nat) (s : String) :
    ((ascii s).take n).length = fitting n s := by
  rw [ascii, List.length_take, List.length_map, String.length_toList, fitting]

/-- The bytes stored. -/
theorem take_overwrite (dst : Bytes) (s : String) :
    (overwrite dst s).take (fitting dst.length s) = (ascii s).take dst.length := by
  rw [overwrite, overwriteChars_eq]
  exact List.take_left' (length_take_ascii dst.length s)

theorem bytes_store {n : Nat} (b : Buffer n) (s : String) :
    (b.store s).bytes = (ascii s).take n ++ List.replicate (n - fitting n s) 0 := by
  change (overwrite b.bytes s).take (overwriteChars b.bytes s.toList).2 ++
    List.replicate (n - (overwriteChars b.bytes s.toList).2) 0 = _
  rw [count_overwriteChars, take_overwrite, b.length_eq]

theorem text_store {n : Nat} (b : Buffer n) (s : String) :
    (b.store s).text = ofNarrow ((ascii s).take n) := by
  rw [Buffer.text, ofNarrow, bytes_store, untilZero_append_zeros]
  rfl

/-- Narrow text reads back as far as it fits. -/
theorem text_store_narrow {n : Nat} (b : Buffer n) {s : String} (h : IsNarrow s) :
    (b.store s).text = String.ofList (s.toList.take n) := by
  have hz : NulFree ((ascii s).take n) := by
    intro b hb
    exact nulFree_of_isNarrow h b (List.mem_of_mem_take hb)
  rw [text_store, ofNarrow, untilZero_eq_self hz, ascii, ← List.map_take, List.map_map]
  congr 1
  refine (List.map_congr_left fun c hc => ?_).trans (List.map_id _)
  exact ofByte_lowByte (h c (List.mem_of_mem_take hc)).2

end GameModule.Text
