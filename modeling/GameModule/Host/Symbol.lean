/-!
# Binding

A game looks up each host function by the symbol the host exports it under, one after the other,
and gives up at the first one that is not there.
-/
namespace GameModule

/-- The symbol a host exports a function under. -/
def symbolOf (function : String) : String := "SV_Mono_Export_" ++ function

/-- The symbols of the host functions. -/
def symbols : List String :=
  ["ConfigString", "ModelIndex", "SoundIndex", "ImageIndex", "SetModel", "BPrintf", "DPrintf",
   "CPrintf", "CenterPrint", "Error", "StartSound", "StartPositionedSound", "MSG_Unicast",
   "MSG_Multicast", "MSG_WriteFloat", "MSG_WriteChar", "MSG_WriteByte", "MSG_WriteShort",
   "MSG_WriteLong", "MSG_WriteString", "MSG_WritePos", "MSG_WriteAngle", "LinkEntity",
   "UnlinkEntity", "inVIS", "inPVS", "inPHS", "SetAreaPortalState", "AreasConnected", "Trace",
   "PointContents", "AreaEdicts", "Pmove", "CVar", "CVar_Set", "CVar_ForceSet", "CmdArgc",
   "CmdArgv", "CmdArgs", "AddCommandString", "DebugGraph"].map symbolOf

inductive BindError where
  /-- There is no library at the path. -/
  | unopened (path : String)
  /-- The library does not export the symbol. -/
  | missing (symbol : String)
deriving DecidableEq

/-- The cause the system gives for a library that does not open is not part of the text. -/
def BindError.message : BindError → String
  | .unopened path => "failed to open host module '" ++ path ++ "': "
  | .missing symbol => "host does not export `" ++ symbol ++ "`"

def lookUp (exported : List String) (symbol : String) : Except BindError Unit :=
  if exported.contains symbol then .ok () else .error (.missing symbol)

/-- Binds the host functions; the answer is the number of symbols. -/
def bind (exported : List String) : Except BindError Nat := do
  let find (function : String) := lookUp exported (symbolOf function)
  -- what clients load in advance
  find "ConfigString"; find "ModelIndex"; find "SoundIndex"; find "ImageIndex"; find "SetModel"
  -- the console, and sounds
  find "BPrintf"; find "DPrintf"; find "CPrintf"; find "CenterPrint"; find "Error"
  find "StartSound"; find "StartPositionedSound"
  -- messages
  find "MSG_Unicast"; find "MSG_Multicast"; find "MSG_WriteFloat"; find "MSG_WriteChar"
  find "MSG_WriteByte"; find "MSG_WriteShort"; find "MSG_WriteLong"; find "MSG_WriteString"
  find "MSG_WritePos"; find "MSG_WriteAngle"
  -- the world
  find "LinkEntity"; find "UnlinkEntity"; find "inVIS"; find "inPVS"; find "inPHS"
  find "SetAreaPortalState"; find "AreasConnected"; find "Trace"; find "PointContents"
  find "AreaEdicts"; find "Pmove"
  -- variables and commands
  find "CVar"; find "CVar_Set"; find "CVar_ForceSet"; find "CmdArgc"; find "CmdArgv"
  find "CmdArgs"; find "AddCommandString"; find "DebugGraph"
  return symbols.length

/-- Binds every symbol of the library at a path, given what it exports, if it is there. -/
def bindLibrary (path : String) : Option (List String) → Except BindError Nat
  | none => .error (.unopened path)
  | some exported => bind exported

end GameModule
