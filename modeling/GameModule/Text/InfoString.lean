import GameModule.Limits

/-!
# Info strings

Client settings travel as `\key\value\key\value`. A lookup takes the fields two at a time from the
front, so a value is never taken for a key, and the first matching key wins. A last key without a
value has the empty value.
-/
namespace GameModule.Text

/-- The pieces of a text between separators: one more than there are separators. -/
def splitAt (separator : Char) : List Char → List (List Char)
  | [] => [[]]
  | c :: cs =>
    if c = separator then [] :: splitAt separator cs
    else match splitAt separator cs with
      | [] => [[c]]
      | piece :: pieces => (c :: piece) :: pieces

namespace Info

/-- One leading separator belongs to the notation and not to the first key. -/
def body : List Char → List Char
  | '\\' :: cs => cs
  | cs => cs

/-- Fields taken two at a time. -/
def pairs : List (List Char) → List (List Char × List Char)
  | key :: value :: rest => (key, value) :: pairs rest
  | [key] => [(key, [])]
  | [] => []

def fields (info : String) : List (List Char × List Char) :=
  pairs (splitAt '\\' (body info.toList))

/-- The value of the first field with this key; the empty text if there is none. -/
def lookup (info key : String) : String :=
  match (fields info).find? (·.1 = key.toList) with
  | some (_, value) => String.ofList value
  | none => ""

/-- No quotes, no command separators, and short enough for the host's buffer. -/
def isValid (info : String) : Bool :=
  !info.toList.contains '"' && !info.toList.contains ';' && info.length < Limits.infoString

end Info

end GameModule.Text
