import GameModule.Limits

/-!
# Config strings

Config strings are sent to clients by index. The index space is a row of ranges, one per kind of
resource. Items and player skins start at the same index, and the status bar program may run on
through every slot up to the air acceleration.
-/
namespace GameModule.ConfigString

def name : Nat := 0
def cdTrack : Nat := 1
def sky : Nat := 2
def skyAxis : Nat := 3
def skyRotate : Nat := 4
def statusBar : Nat := 5
def airAcceleration : Nat := 29
def maxClients : Nat := 30
def mapChecksum : Nat := 31
def models : Nat := 32
def sounds : Nat := models + Limits.models
def images : Nat := sounds + Limits.sounds
def lights : Nat := images + Limits.images
def items : Nat := lights + Limits.lightStyles
def playerSkins : Nat := lights + Limits.items
def general : Nat := playerSkins + Limits.clients
def total : Nat := general + Limits.general

/-- The indexes under their published names. -/
def indexes : List (String × Nat) :=
  [("NAME", name), ("CD_TRACK", cdTrack), ("SKY", sky), ("SKY_AXIS", skyAxis),
   ("SKY_ROTATE", skyRotate), ("STATUS_BAR", statusBar), ("AIR_ACCELERATION", airAcceleration),
   ("MAX_CLIENTS", maxClients), ("MAP_CHECKSUM", mapChecksum), ("MODELS", models),
   ("SOUNDS", sounds), ("IMAGES", images), ("LIGHTS", lights), ("ITEMS", items),
   ("PLAYER_SKINS", playerSkins), ("GENERAL", general), ("TOTAL_CONFIG_STRINGS", total)]

/-- Bytes available at an index. -/
def room (index : Nat) : Nat :=
  if statusBar ≤ index ∧ index < airAcceleration then Limits.path * (airAcceleration - index)
  else Limits.path

/-- What an index stands for; a number counts from the start of its range. -/
inductive Kind where
  | name | cdTrack | sky | skyAxis | skyRotate | statusBar | airAcceleration | maxClients
  | mapChecksum
  | model (n : Nat) | sound (n : Nat) | image (n : Nat) | light (n : Nat)
  | itemOrPlayerSkin (n : Nat)
  | general (n : Nat)
deriving DecidableEq

def kind? (index : Nat) : Option Kind :=
  if index = ConfigString.name then some .name
  else if index = ConfigString.cdTrack then some .cdTrack
  else if index = ConfigString.sky then some .sky
  else if index = ConfigString.skyAxis then some .skyAxis
  else if index = ConfigString.skyRotate then some .skyRotate
  else if index < ConfigString.airAcceleration then some .statusBar
  else if index = ConfigString.airAcceleration then some .airAcceleration
  else if index = ConfigString.maxClients then some .maxClients
  else if index = ConfigString.mapChecksum then some .mapChecksum
  else if index < sounds then some (.model (index - models))
  else if index < images then some (.sound (index - sounds))
  else if index < lights then some (.image (index - images))
  else if index < items then some (.light (index - lights))
  else if index < ConfigString.general then some (.itemOrPlayerSkin (index - items))
  else if index < total then some (.general (index - ConfigString.general))
  else none

def Kind.text : Kind → String
  | .name => "Name"
  | .cdTrack => "CdTrack"
  | .sky => "Sky"
  | .skyAxis => "SkyAxis"
  | .skyRotate => "SkyRotate"
  | .statusBar => "StatusBar"
  | .airAcceleration => "AirAcceleration"
  | .maxClients => "MaxClients"
  | .mapChecksum => "MapChecksum"
  | .model n => counted "Model" n
  | .sound n => counted "Sound" n
  | .image n => counted "Image" n
  | .light n => counted "Light" n
  | .itemOrPlayerSkin n => counted "ItemOrPlayerSkin" n
  | .general n => counted "General" n
where
  counted (word : String) (n : Nat) : String := word ++ "(" ++ toString n ++ ")"

end GameModule.ConfigString
