/-!
# Coded enumerations

Values that records and calls carry as plain integers. Reading an integer back gives the member
with that code, or nothing if no member has it.
-/
namespace GameModule

/-- A finite enumeration whose members have integer codes and published names. -/
class Coded (α : Type) where
  members : List α
  code : α → Int
  name : α → String

namespace Coded

variable {α : Type} [Coded α]

def ofCode? (n : Int) : Option α := (members : List α).find? (code · = n)

end Coded

/-- How a player moves. -/
inductive MoveType where
  | normal | spectator | dead | gib | freeze
deriving DecidableEq

instance : Coded MoveType where
  members := [.normal, .spectator, .dead, .gib, .freeze]
  code
    | .normal => 0 | .spectator => 1 | .dead => 2 | .gib => 3 | .freeze => 4
  name
    | .normal => "Normal" | .spectator => "Spectator" | .dead => "Dead" | .gib => "Gib"
    | .freeze => "Freeze"

/-- What an edict does to things that touch it. -/
inductive Solidity where
  | none | trigger | boundingBox | bsp
deriving DecidableEq

instance : Coded Solidity where
  members := [.none, .trigger, .boundingBox, .bsp]
  code
    | .none => 0 | .trigger => 1 | .boundingBox => 2 | .bsp => 3
  name
    | .none => "None" | .trigger => "Trigger" | .boundingBox => "BoundingBox" | .bsp => "Bsp"

/-- Which edicts an area query collects. -/
inductive AreaType where
  | solid | triggers
deriving DecidableEq

instance : Coded AreaType where
  members := [.solid, .triggers]
  code
    | .solid => 1 | .triggers => 2
  name
    | .solid => "Solid" | .triggers => "Triggers"

/-- Something that happens to an entity for one frame. -/
inductive EntityEvent where
  | none | itemRespawn | footstep | fallShort | fall | fallFar | playerTeleport | otherTeleport
deriving DecidableEq

instance : Coded EntityEvent where
  members := [.none, .itemRespawn, .footstep, .fallShort, .fall, .fallFar, .playerTeleport,
    .otherTeleport]
  code
    | .none => 0 | .itemRespawn => 1 | .footstep => 2 | .fallShort => 3 | .fall => 4
    | .fallFar => 5 | .playerTeleport => 6 | .otherTeleport => 7
  name
    | .none => "None" | .itemRespawn => "ItemRespawn" | .footstep => "Footstep"
    | .fallShort => "FallShort" | .fall => "Fall" | .fallFar => "FallFar"
    | .playerTeleport => "PlayerTeleport" | .otherTeleport => "OtherTeleport"

/-- How important a printed message is. -/
inductive PrintLevel where
  | low | medium | high | chat
deriving DecidableEq

instance : Coded PrintLevel where
  members := [.low, .medium, .high, .chat]
  code
    | .low => 0 | .medium => 1 | .high => 2 | .chat => 3
  name
    | .low => "Low" | .medium => "Medium" | .high => "High" | .chat => "Chat"

/-- Who receives a message: all, those who hear, or those who see. -/
inductive Multicast where
  | all | phs | pvs | allReliable | phsReliable | pvsReliable
deriving DecidableEq

instance : Coded Multicast where
  members := [.all, .phs, .pvs, .allReliable, .phsReliable, .pvsReliable]
  code
    | .all => 0 | .phs => 1 | .pvs => 2 | .allReliable => 3 | .phsReliable => 4
    | .pvsReliable => 5
  name
    | .all => "All" | .phs => "Phs" | .pvs => "Pvs" | .allReliable => "AllReliable"
    | .phsReliable => "PhsReliable" | .pvsReliable => "PvsReliable"

/-- How fast a sound fades with distance. -/
inductive Attenuation where
  | none | normal | idle | static
deriving DecidableEq

instance : Coded Attenuation where
  members := [.none, .normal, .idle, .static]
  code
    | .none => 0 | .normal => 1 | .idle => 2 | .static => 3
  name
    | .none => "None" | .normal => "Normal" | .idle => "Idle" | .static => "Static"

/-- A channel of an entity on which one sound at a time is played. -/
inductive SoundChannel where
  | auto | weapon | voice | item | body
deriving DecidableEq

instance : Coded SoundChannel where
  members := [.auto, .weapon, .voice, .item, .body]
  code
    | .auto => 0 | .weapon => 1 | .voice => 2 | .item => 3 | .body => 4
  name
    | .auto => "Auto" | .weapon => "Weapon" | .voice => "Voice" | .item => "Item"
    | .body => "Body"

namespace SoundChannel

/-- Send to all clients, not only those within hearing. -/
def noPhsAdd : Int32 := 8

/-- Send by reliable message. -/
def reliable : Int32 := 16

/-- The channel number with the two modifier bits of `modifiers` set; its other bits do not
count. -/
def withModifiers (c : SoundChannel) (modifiers : Int32) : Int32 :=
  Int32.ofInt (Coded.code c) ||| (modifiers &&& (noPhsAdd ||| reliable))

end SoundChannel

/-- Operations of the server to client protocol. -/
inductive ServerCommand where
  | bad | muzzleFlash | muzzleFlash2 | tempEntity | layout | inventory | nop | disconnect
  | reconnect | sound | print | stuffText | serverData | configString | spawnBaseline
  | centerPrint | download | playerInfo | packetEntities | deltaPacketEntities | frame | zPacket
  | zDownload | gameState | setting
deriving DecidableEq

namespace ServerCommand

/-- Every operation with its published name, in the order of the codes from zero on. -/
def table : List (ServerCommand × String) :=
  [(.bad, "Bad"), (.muzzleFlash, "MuzzleFlash"), (.muzzleFlash2, "MuzzleFlash2"),
   (.tempEntity, "TempEntity"), (.layout, "Layout"), (.inventory, "Inventory"), (.nop, "Nop"),
   (.disconnect, "Disconnect"), (.reconnect, "Reconnect"), (.sound, "Sound"), (.print, "Print"),
   (.stuffText, "StuffText"), (.serverData, "ServerData"), (.configString, "ConfigString"),
   (.spawnBaseline, "SpawnBaseline"), (.centerPrint, "CenterPrint"), (.download, "Download"),
   (.playerInfo, "PlayerInfo"), (.packetEntities, "PacketEntities"),
   (.deltaPacketEntities, "DeltaPacketEntities"), (.frame, "Frame"), (.zPacket, "ZPacket"),
   (.zDownload, "ZDownload"), (.gameState, "GameState"), (.setting, "Setting")]

/-- Number of operations. -/
def count : Nat := table.length

end ServerCommand

instance : Coded ServerCommand where
  members := ServerCommand.table.map (·.1)
  code c := ServerCommand.table.findIdx (·.1 = c)
  name c := ((ServerCommand.table.find? (·.1 = c)).map (·.2)).getD ""

/-- The operations a game writes itself; the others are between client and server. -/
def ServerCommand.isGameOp (c : ServerCommand) : Bool :=
  Coded.code ServerCommand.muzzleFlash ≤ Coded.code c &&
    Coded.code c ≤ Coded.code ServerCommand.inventory

/-- Slots of a player's statistics under their published names. -/
def statSlots : List (String × Nat) :=
  [("HEALTH_ICON", 0), ("HEALTH", 1), ("AMMO_ICON", 2), ("AMMO", 3), ("ARMOR_ICON", 4),
   ("ARMOR", 5), ("SELECTED_ICON", 6), ("PICKUP_ICON", 7), ("PICKUP_STRING", 8),
   ("TIMER_ICON", 9), ("TIMER", 10), ("HELP_ICON", 11), ("SELECTED_ITEM", 12), ("LAYOUTS", 13),
   ("FRAGS", 14), ("FLASHES", 15), ("CHASE", 16), ("SPECTATOR", 17), ("MAXIMUM_STATS", 32)]

end GameModule
