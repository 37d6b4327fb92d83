import GameModule.Number.Numeral
import GameModule.Text.Narrow

/-!
# Console variables

A console variable belongs to the host, which may have none under a name. What the game sees of it
is this record, read at the moment of the call.
-/
namespace GameModule

structure Cvar where
  name : Option Text.Bytes
  /-- Null in a host that keeps no text. -/
  string : Option Text.Bytes
  flags : Int32
  modified : Int32
  value : Single
deriving DecidableEq

namespace Cvar

/-- Shown to clients as a server setting. -/
def serverInfo : Int32 := 4

/-- Held until the next map. -/
def latched : Int32 := 16

/-- The number of a variable, or a default for a variable that is not there. -/
def valueOr (c : Option Cvar) (default : Single) : Single := (c.map (·.value)).getD default

/-- The text of a variable, or a default if it or its text is not there. -/
def stringOr (c : Option Cvar) (default : String) : String :=
  match c.bind (·.string) with
  | some bytes => Text.ofNarrow bytes
  | none => default

end Cvar

end GameModule
