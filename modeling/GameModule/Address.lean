/-!
# Addresses

A handle to something the host or the game owns is an address and nothing more: it can be
compared and resolved against a table, and zero stands for none.
-/
namespace GameModule

structure Address where
  bits : UInt64
deriving DecidableEq, Inhabited

namespace Address

def null : Address := ⟨0⟩

def isNull (a : Address) : Bool := a = null

/-- The address `k` bytes further on. -/
def plus (a : Address) (k : Int) : Address := ⟨a.bits + UInt64.ofInt k⟩

/-- The address of entry `n` of a table with entries of `size` bytes. -/
def entry (base : Address) (size n : Nat) : Address := ⟨base.bits + UInt64.ofNat (size * n)⟩

/-- The number of the entry that starts exactly at `a`; nothing for a null address, a null table
or entries without size. The end of the table is not known here. -/
def index? (base : Address) (size : Nat) (a : Address) : Option Nat :=
  if a.isNull || base.isNull || size = 0 then none
  else if a.bits < base.bits then none
  else
    let offset := a.bits.toNat - base.bits.toNat
    if offset % size = 0 then some (offset / size) else none

/-- The address as the log shows it. -/
def text (a : Address) : String :=
  "Handle(0x" ++ String.ofList (Nat.toDigits 16 a.bits.toNat) ++ ")"

end Address

end GameModule
