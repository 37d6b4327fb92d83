/-!
# Limits agreed with the host

Sizes of the tables a level is made of, and of the strings that cross the boundary.
-/
namespace GameModule.Limits

/-- Client slots; a game may have fewer. -/
def clients : Nat := 256

/-- Length of the longest edict table, the world and the client slots included. -/
def edicts : Nat := 1024

def lightStyles : Nat := 256
def models : Nat := 256
def sounds : Nat := 256
def images : Nat := 256
def items : Nat := 256
def general : Nat := clients * 2
def clientName : Nat := 16

/-- The level limits under their published names. -/
def level : List (String × Nat) :=
  [("MAX_CLIENTS", clients), ("MAX_EDICTS", edicts), ("MAX_LIGHT_STYLES", lightStyles),
   ("MAX_MODELS", models), ("MAX_SOUNDS", sounds), ("MAX_IMAGES", images), ("MAX_ITEMS", items),
   ("MAX_GENERAL", general), ("MAX_CLIENT_NAME", clientName)]

/-- Width of one config string slot, and the longest path inside the game. -/
def path : Nat := 64

/-- Characters of an info string, the terminator included. -/
def infoString : Nat := 512

/-- Characters of a player's name. -/
def netName : Nat := 16

/-- The string limits under their published names. -/
def string : List (String × Nat) :=
  [("CHAR_BUFFER", 4096), ("TOKENS", 256), ("TOKEN_CHARACTERS", 1024), ("NET_STRING", 2048),
   ("NET_NAME", netName), ("QPATH", path), ("OS_PATH", 256), ("INFO_KEY", 64), ("INFO_VALUE", 64),
   ("INFO_STRING", infoString)]

/-- Entities that one player move can touch. -/
def touches : Nat := 32

/-- Clusters an edict is listed in before the host falls back to a tree node. -/
def clusters : Nat := 16

/-- Slots of a player's statistics. -/
def stats : Nat := 32

/-- The version of the interface, reported to the host. -/
def apiVersion : Nat := 1

end GameModule.Limits
