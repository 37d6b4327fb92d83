/-!
# Narrow text

The host's strings are bytes, one per character, ended by a zero byte. A byte stands for the
character with the same code point; a character is sent as the low byte of its code point. There
is no multi-byte decoding in either direction, so only the characters `U+0001 .. U+00FF` survive
a round trip.
-/
namespace GameModule.Text

abbrev Bytes := List UInt8

/-- The low byte of a code point. -/
def lowByte (c : Char) : UInt8 := UInt8.ofNat c.toNat

def ofByte (b : UInt8) : Char := Char.ofNat b.toNat

/-- The bytes before the first zero byte. -/
def untilZero (bs : Bytes) : Bytes := bs.takeWhile (· ≠ 0)

/-- The text of a byte string, which ends at the first zero byte. -/
def ofNarrow (bs : Bytes) : String := String.ofList ((untilZero bs).map ofByte)

/-- A string for the host, its terminator left out; nothing if another zero byte would end it. -/
def cString? (bs : Bytes) : Option Bytes := if bs.contains 0 then none else some bs

/-- The bytes sent for a text, without the terminator. A character whose low byte is zero ends
it early. -/
def toNarrow (s : String) : Bytes := (cString? (untilZero (s.toList.map lowByte))).getD []

/-- The text behind a string pointer; a null pointer reads as the empty text. -/
def ofNarrow? (bs : Option Bytes) : String := (bs.map ofNarrow).getD ""

/-- Stores the low bytes of the characters over the front of a buffer, one after the other, until
one of the two runs out. Gives the buffer and the number of bytes stored. -/
def overwriteChars : Bytes → List Char → Bytes × Nat
  | _ :: dst, c :: cs =>
    let rest := overwriteChars dst cs
    (lowByte c :: rest.1, rest.2 + 1)
  | dst, _ => (dst, 0)

def overwrite (dst : Bytes) (s : String) : Bytes := (overwriteChars dst s.toList).1

/-- How many characters of `s` fit into `room` bytes. -/
def fitting (room : Nat) (s : String) : Nat := min room s.length

theorem overwriteChars_eq (dst : Bytes) (cs : List Char) : overwriteChars dst cs =
    ((cs.map lowByte).take dst.length ++ dst.drop cs.length, min dst.length cs.length) := by
  induction dst generalizing cs with
  | nil => simp [overwriteChars]
  | cons b dst ih =>
    cases cs with
    | nil => rfl
    | cons c cs =>
      rw [overwriteChars, ih cs, List.length_cons, List.length_cons, Nat.add_min_add_right]
      rfl

theorem length_overwrite (dst : Bytes) (s : String) : (overwrite dst s).length = dst.length := by
  rw [overwrite, overwriteChars_eq, List.length_append, List.length_take, List.length_map,
    List.length_drop]
  omega

theorem count_overwriteChars (dst : Bytes) (s : String) :
    (overwriteChars dst s.toList).2 = fitting dst.length s := by
  rw [overwriteChars_eq, String.length_toList, fitting]

theorem fitting_le (room : Nat) (s : String) : fitting room s ≤ room := Nat.min_le_left _ _

theorem cString?_untilZero (bs : Bytes) : cString? (untilZero bs) = some (untilZero bs) := by
  have ha : (untilZero bs).all (· ≠ 0) = true := List.all_takeWhile
  refine if_neg fun hc => ?_
  have hz := List.all_eq_true.mp ha 0 (List.contains_iff_mem.mp hc)
  exact absurd rfl (of_decide_eq_true hz)

theorem toNarrow_eq (s : String) : toNarrow s = untilZero (s.toList.map lowByte) := by
  rw [toNarrow, cString?_untilZero]
  rfl

/-- Every character is one that a byte can stand for. -/
def IsNarrow (s : String) : Prop := ∀ c ∈ s.toList, 0 < c.toNat ∧ c.toNat < 256

instance (s : String) : Decidable (IsNarrow s) :=
  List.decidableBAll (fun c : Char => 0 < c.toNat ∧ c.toNat < 256) s.toList

end GameModule.Text
