import GameModule.Text.Narrow

/-!
# Fixed buffers of narrow text

A buffer has a capacity for good. Storing a text cuts it to the capacity and fills the rest with
zeros, so nothing of an earlier, longer text remains. A text of exactly the capacity has no
terminator and reads back whole.
-/
namespace GameModule.Text

structure Buffer (capacity : Nat) where
  bytes : Bytes
  length_eq : bytes.length = capacity
deriving DecidableEq

namespace Buffer

variable {n : Nat}

def empty : Buffer n := ⟨List.replicate n 0, by simp⟩

instance : Inhabited (Buffer n) := ⟨empty⟩

/-- Stores `s` over the old bytes, then fills the rest with zeros. -/
def store (b : Buffer n) (s : String) : Buffer n :=
  let stored := overwriteChars b.bytes s.toList
  ⟨stored.1.take stored.2 ++ List.replicate (n - stored.2) 0, by
    have hl : stored.1.length = n := (length_overwrite b.bytes s).trans b.length_eq
    have hc : stored.2 = fitting n s := b.length_eq ▸ count_overwriteChars b.bytes s
    have hle := fitting_le n s
    rw [List.length_append, List.length_take, List.length_replicate, hl]
    omega⟩

/-- The buffer that holds as much of `s` as fits. -/
def ofText (s : String) : Buffer n := empty.store s

def text (b : Buffer n) : String := ofNarrow b.bytes

/-- Where the first zero byte is; the capacity if there is none. -/
def length (b : Buffer n) : Nat := (b.bytes.findIdx? (· = 0)).getD n

def isEmpty (b : Buffer n) : Bool := b.length = 0

/-- Fills the whole buffer with zeros. -/
def clear (b : Buffer n) : Buffer n :=
  ⟨b.bytes.map fun _ => 0, by rw [List.length_map, b.length_eq]⟩

end Buffer

end GameModule.Text
