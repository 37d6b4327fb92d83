import GameModule.Proofs.Text.Narrow

/-!
# Texts to the host and back

A code point is sent as its low byte, so a character from `U+0100` on comes back as another one,
and one whose code point is a multiple of 256 ends the text. What comes back is therefore the
longest part without such a character, folded into one byte per character. Sending and reading
are inverse on exactly the narrow texts and the byte strings without a zero.

A fixed buffer is filled character by character and does not stop at a zero byte. Its reader does,
so a buffer and a string for the host that were given the same characters read the same.
-/
namespace GameModule.Text

/-! ## What is sent -/

/-- The character that the low byte of a code point stands for. -/
def fold (c : Char) : Char := Char.ofNat (c.toNat % 256)

/-- The longest initial part without a character that is sent as a zero byte. -/
structure LongestSent (cs part : List Char) : Prop where
  initial : part <+: cs
  unbroken : ∀ c ∈ part, ¬ 256 ∣ c.toNat
  longest : ∀ other, other <+: cs → (∀ c ∈ other, ¬ 256 ∣ c.toNat) → other <+: part

theorem lowByte_eq_zero_iff (c : Char) : lowByte c = 0 ↔ 256 ∣ c.toNat := by
  rw [← UInt8.toNat_inj, toNat_lowByte]
  exact Nat.dvd_iff_mod_eq_zero.symm

theorem ofByte_lowByte_eq_fold (c : Char) : ofByte (lowByte c) = fold c := by
  rw [ofByte, toNat_lowByte, fold]

/-- The characters before the first one that is sent as a zero byte. -/
def sent (cs : List Char) : List Char := cs.takeWhile (lowByte · ≠ 0)

theorem untilZero_map_lowByte (cs : List Char) :
    untilZero (cs.map lowByte) = (sent cs).map lowByte := by
  rw [untilZero, List.takeWhile_map]
  rfl

theorem longestSent_sent (cs : List Char) : LongestSent cs (sent cs) where
  initial := List.takeWhile_prefix _
  unbroken c hc := by
    have hz : lowByte c ≠ 0 := by simpa using List.mem_takeWhile_imp hc
    rwa [Ne, lowByte_eq_zero_iff] at hz
  longest other ho hu := by
    -- Taking goes on through all of `other`, whatever follows it.
    obtain ⟨rest, rfl⟩ := ho
    have hall : ∀ c ∈ other, decide (lowByte c ≠ 0) = true := by
      intro c hc
      rw [decide_eq_true_iff, Ne, lowByte_eq_zero_iff]
      exact hu c hc
    rw [sent, List.takeWhile_append_of_pos hall]
    exact List.prefix_append other _

/-! ## Sending, then reading -/

theorem ofNarrow_untilZero (bs : Bytes) : ofNarrow (untilZero bs) = ofNarrow bs := by
  rw [ofNarrow, untilZero_eq_self (nulFree_untilZero bs), ofNarrow]

/-- Reading stops at the terminator, whatever lies behind it. -/
theorem ofNarrow_terminated {bs : Bytes} (h : NulFree bs) (memory : Bytes) :
    ofNarrow (bs ++ 0 :: memory) = ofNarrow bs := by
  have hz : untilZero (0 :: memory) = [] := rfl
  rw [ofNarrow, untilZero_append h, hz, List.append_nil, ofNarrow, untilZero_eq_self h]

theorem nulFree_toNarrow (s : String) : NulFree (toNarrow s) := by
  rw [toNarrow_eq]
  exact nulFree_untilZero _

theorem ofNarrow_toNarrow (s : String) :
    ofNarrow (toNarrow s) = String.ofList ((sent s.toList).map fold) := by
  have hf : ofByte ∘ lowByte = fold := funext ofByte_lowByte_eq_fold
  rw [toNarrow_eq, ofNarrow_untilZero, ofNarrow, untilZero_map_lowByte, List.map_map, hf]

theorem ofNarrow_toNarrow_eq_iff (s : String) : ofNarrow (toNarrow s) = s ↔ IsNarrow s := by
  constructor
  · intro h
    rw [← h]
    exact isNarrow_ofNarrow _
  · intro h
    have hz := nulFree_of_isNarrow h
    have hid : (ascii s).map ofByte = s.toList := by
      rw [ascii, List.map_map]
      refine (List.map_congr_left fun c hc => ?_).trans (List.map_id _)
      exact ofByte_lowByte (h c hc).2
    rw [toNarrow_eq_ascii hz, ofNarrow, untilZero_eq_self hz, hid, String.ofList_toList]

theorem toNarrow_ofNarrow_eq_iff (bs : Bytes) : toNarrow (ofNarrow bs) = bs ↔ NulFree bs := by
  rw [toNarrow_ofNarrow]
  constructor
  · intro h
    rw [← h]
    exact nulFree_untilZero bs
  · exact untilZero_eq_self

/-! ## Filling a buffer -/

section Overwrite

variable (dst : Bytes) (s : String)

/-- The bytes left alone. -/
theorem drop_overwrite :
    (overwrite dst s).drop (fitting dst.length s) = dst.drop (fitting dst.length s) := by
  rw [overwrite, overwriteChars_eq, String.length_toList]
  change List.drop _ ((ascii s).take dst.length ++ _) = _
  rw [List.drop_left' (length_take_ascii dst.length s), fitting]
  rcases Nat.le_total dst.length s.length with h | h
  · rw [Nat.min_eq_left h, List.drop_eq_nil_of_le h, List.drop_length]
  · rw [Nat.min_eq_right h]

theorem stored_overwrite : (overwrite dst s).take (fitting dst.length s) =
    (s.toList.take (fitting dst.length s)).map lowByte := by
  rw [take_overwrite, ascii, List.map_take, fitting, ← String.length_toList,
    ← List.length_map (f := lowByte), ← List.take_eq_take_min]

/-- Filling a buffer and sending agree on the characters that fit. -/
theorem ofNarrow_stored : ofNarrow ((overwrite dst s).take (fitting dst.length s)) =
    ofNarrow (toNarrow (String.ofList (s.toList.take (fitting dst.length s)))) := by
  rw [stored_overwrite, toNarrow_eq, ofNarrow_untilZero, String.toList_ofList]

end Overwrite

/-- What comes back of a text that was sent, whatever lies behind it in memory; which texts and
which byte strings make the round trip unchanged; and what a buffer holds that was filled with
the same text. -/
theorem narrow_text_round_trip (s : String) (bs dst memory : Bytes) :
    (∃ part, LongestSent s.toList part ∧
      ofNarrow? (some (toNarrow s ++ 0 :: memory)) = String.ofList (part.map fold)) ∧
    cString? (untilZero (s.toList.map lowByte)) = some (toNarrow s) ∧
    (ofNarrow? (some (toNarrow s ++ 0 :: memory)) = s ↔ IsNarrow s) ∧
    (toNarrow (ofNarrow bs) = bs ↔ NulFree bs) ∧
    ∃ stored n, overwriteChars dst s.toList = (stored, n) ∧ n = min dst.length s.length ∧
      stored.take n = (s.toList.take n).map lowByte ∧ stored.drop n = dst.drop n ∧
      stored.length = dst.length ∧
      ofNarrow (stored.take n) =
        ofNarrow? (some (toNarrow (String.ofList (s.toList.take n)) ++ 0 :: memory)) := by
  have hread : ∀ t, ofNarrow? (some (toNarrow t ++ 0 :: memory)) = ofNarrow (toNarrow t) :=
    fun t => ofNarrow_terminated (nulFree_toNarrow t) memory
  refine ⟨⟨sent s.toList, longestSent_sent _, ?_⟩, ?_, ?_, toNarrow_ofNarrow_eq_iff bs,
    overwrite dst s, fitting dst.length s, Prod.ext rfl (count_overwriteChars dst s), rfl,
    stored_overwrite dst s, drop_overwrite dst s, length_overwrite dst s, ?_⟩
  · rw [hread, ofNarrow_toNarrow]
  · rw [toNarrow_eq, cString?_untilZero]
  · rw [hread, ofNarrow_toNarrow_eq_iff]
  · rw [hread, ofNarrow_stored]

-- The buffer keeps what stands behind `Ā`, whose low byte is zero, and its reader does not see it.
example : toNarrow "é€Ā!" = [0xE9, 0xAC] ∧
    overwriteChars [1, 2, 3, 4, 5] "é€Ā!".toList = ([0xE9, 0xAC, 0, 0x21, 5], 4) := by decide

end GameModule.Text
