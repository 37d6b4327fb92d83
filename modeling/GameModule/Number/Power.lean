/-!
# Powers of two and of ten

The two powers of the number formats, as functions of the exponent.
-/
namespace GameModule.Number

def pow2 (k : Nat) : Nat := Nat.pow 2 k

def pow10 (k : Nat) : Nat := Nat.pow 10 k

end GameModule.Number
