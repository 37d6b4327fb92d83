import GameModule.Number.Shortest
import GameModule.Number.Single
import GameModule.Text.Blank

/-!
# Numerals

Writing a `Single` as a decimal without exponent, and reading one back. A numeral is an optional
sign followed by digits with an optional point and an optional exponent, or by one of the words
`inf`, `infinity`, `nan` in any case. Reading rounds the exact decimal once.
-/
namespace GameModule

namespace Number.Numeral

/-- Decimal digits, most significant first. -/
def digitText (n : Nat) : List Char := Nat.toDigits 10 n

def zeros (n : Nat) : List Char := List.replicate n '0'

/-- A decimal in positional notation. -/
def positional (d : Decimal) : List Char :=
  let digits := digitText d.digits
  let places := (-d.exponent).toNat
  if places = 0 then digits ++ zeros d.exponent.toNat
  else if digits.length ≤ places then
    ['0', '.'] ++ zeros (places - digits.length) ++ digits
  else
    digits.take (digits.length - places) ++ '.' :: digits.drop (digits.length - places)

/-- The text of a value of the format `F`. -/
def text (F : Format) : Value → List Char
  | .nan => ['N', 'a', 'N']
  | .infinite n => sign n ++ ['i', 'n', 'f']
  | .finite n a => sign n ++ if a = 0 then ['0'] else positional (F.shortest a)
where
  sign (negative : Bool) : List Char := if negative then ['-'] else []

/-- The number spelled by digits. -/
def digitsValue (cs : List Char) : Nat :=
  cs.foldl (fun n c => 10 * n + (c.toNat - '0'.toNat)) 0

/-- A leading sign and what follows it. -/
def splitSign : List Char → Bool × List Char
  | '+' :: cs => (false, cs)
  | '-' :: cs => (true, cs)
  | cs => (false, cs)

/-- The exponent part: nothing, or a mark and a signed number. -/
def readExponent : List Char → Option Int
  | [] => some 0
  | mark :: cs =>
    let (negative, digits) := splitSign cs
    if (mark = 'e' ∨ mark = 'E') ∧ digits ≠ [] ∧ digits.all Char.isDigit then
      some (signed negative (digitsValue digits))
    else none

/-- Digits, an optional point with more digits, and an exponent. -/
def readDecimal (cs : List Char) : Option Decimal :=
  let whole := cs.takeWhile Char.isDigit
  let rest := cs.dropWhile Char.isDigit
  let (part, rest) := match rest with
    | '.' :: more => (more.takeWhile Char.isDigit, more.dropWhile Char.isDigit)
    | _ => ([], rest)
  if whole ++ part = [] then none
  else (readExponent rest).map fun e => ⟨digitsValue (whole ++ part), e - part.length⟩

/-- The value of `F` nearest a decimal. Far above and far below the range of `F` the answer is
known without the power of ten. -/
def ofDecimal (F : Format) (negative : Bool) (d : Decimal) : Value :=
  let top : Int := (digitText d.digits).length + d.exponent
  if d.digits = 0 then .finite negative 0
  else if pow2 F.exponentBits < top then .infinite negative
  else if top < -(F.unitBits : Int) then .finite negative 0
  else F.round negative (d.digits * pow10 d.exponent.toNat * F.one) (pow10 (-d.exponent).toNat)

/-- The value a numeral spells. A value that is not a number has no sign, so `-nan` reads as `nan`
does. -/
def read (F : Format) (cs : List Char) : Option Value :=
  let (negative, body) := splitSign cs
  let word := body.map Char.toLower
  if word = ['n', 'a', 'n'] then some .nan
  else if word = ['i', 'n', 'f'] ∨ word = ['i', 'n', 'f', 'i', 'n', 'i', 't', 'y'] then
    some (.infinite negative)
  else (readDecimal body).map (ofDecimal F negative)

end Number.Numeral

namespace Single

/-- The fewest digits that read back, in positional notation. -/
def text (x : Single) : String := String.ofList (Number.Numeral.text .single x.value)

/-- The number a text spells, blanks around it ignored; zero if it spells none. -/
def ofText (s : String) : Single :=
  ((Number.Numeral.read .single (Text.trim s.toList)).map ofValue).getD 0

end Single

end GameModule
