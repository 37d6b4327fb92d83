import GameModule.Cvar
import GameModule.Edict

/-!
# Host calls

The functions a host provides to the game, as data: one constructor per function with its
arguments. A call is written over the type of its texts, so that the same call can be spoken of
as the game makes it, over `String`, and as the host receives it, over bytes.
-/
namespace GameModule

inductive HostCall (τ : Type) where
  | configString (index : Int32) (value : τ)
  | modelIndex (name : τ)
  | soundIndex (name : τ)
  | imageIndex (name : τ)
  | setModel (ent : Address) (name : τ)
  | broadcastPrint (level : PrintLevel) (message : τ)
  | debugPrint (message : τ)
  | clientPrint (ent : Address) (level : PrintLevel) (message : τ)
  | centerPrint (ent : Address) (message : τ)
  /-- Ends the level. -/
  | error (message : τ)
  | startSound (ent : Address) (channel index : Int32) (volume attenuation delay : Single)
  | startPositionedSound (origin : Vec3) (ent : Address) (channel index : Int32)
      (volume attenuation delay : Single)
  | unicast (ent : Address) (reliable : Bool)
  | multicast (origin : Vec3) (audience : Multicast)
  | writeFloat (f : Single)
  | writeChar (c : Int32)
  | writeByte (c : Int32)
  | writeShort (c : Int32)
  | writeLong (c : Int32)
  | writeString (s : τ)
  | writePosition (position : Vec3)
  | writeAngle (f : Single)
  | linkEntity (ent : Address)
  | unlinkEntity (ent : Address)
  | inVis (a b : Vec3) (vis : Int32)
  | inPvs (a b : Vec3)
  | inPhs (a b : Vec3)
  | setAreaPortalState (portal : Int32) (isOpen : Bool)
  | areasConnected (a b : Int32)
  /-- Sweeps a box, past one entity, until it meets something in the mask. -/
  | trace (start mins maxs stop : Vec3) (pass : Address) (mask : UInt32)
  | pointContents (point : Vec3)
  /-- The edicts that touch a box, at most `limit` of them. -/
  | areaEdicts (mins maxs : Vec3) (limit : Nat) (area : AreaType)
  | move (block : MoveBlock)
  /-- Registers a variable, or finds it. -/
  | cvar (name value : τ) (flags : Int32)
  | cvarSet (name value : τ)
  | cvarForceSet (name value : τ)
  | argc
  | argv (n : Int32)
  | args
  | addCommandString (command : τ)
  | debugGraph (value : Single) (color : Int32)

namespace HostCall

variable {τ υ : Type}

/-- What the game gets back. -/
def Answer : HostCall τ → Type
  | modelIndex _ | soundIndex _ | imageIndex _ | argc => Int32
  | inVis .. | inPvs .. | inPhs .. | areasConnected .. => Bool
  | trace .. => TraceResult
  | pointContents _ => UInt32
  | areaEdicts .. => List Address
  | move _ => MoveBlock
  | cvar .. | cvarSet .. | cvarForceSet .. => Option Cvar
  | argv _ | args => String
  | _ => Unit

def map (f : τ → υ) : HostCall τ → HostCall υ
  | configString i v => configString i (f v)
  | modelIndex n => modelIndex (f n)
  | soundIndex n => soundIndex (f n)
  | imageIndex n => imageIndex (f n)
  | setModel e n => setModel e (f n)
  | broadcastPrint l m => broadcastPrint l (f m)
  | debugPrint m => debugPrint (f m)
  | clientPrint e l m => clientPrint e l (f m)
  | centerPrint e m => centerPrint e (f m)
  | error m => error (f m)
  | startSound e c i v a d => startSound e c i v a d
  | startPositionedSound o e c i v a d => startPositionedSound o e c i v a d
  | unicast e r => unicast e r
  | multicast o t => multicast o t
  | writeFloat x => writeFloat x
  | writeChar c => writeChar c
  | writeByte c => writeByte c
  | writeShort c => writeShort c
  | writeLong c => writeLong c
  | writeString s => writeString (f s)
  | writePosition p => writePosition p
  | writeAngle x => writeAngle x
  | linkEntity e => linkEntity e
  | unlinkEntity e => unlinkEntity e
  | inVis a b v => inVis a b v
  | inPvs a b => inPvs a b
  | inPhs a b => inPhs a b
  | setAreaPortalState p o => setAreaPortalState p o
  | areasConnected a b => areasConnected a b
  | trace a b c d p m => trace a b c d p m
  | pointContents p => pointContents p
  | areaEdicts a b l t => areaEdicts a b l t
  | move b => move b
  | cvar n v fs => cvar (f n) (f v) fs
  | cvarSet n v => cvarSet (f n) (f v)
  | cvarForceSet n v => cvarForceSet (f n) (f v)
  | argc => argc
  | argv n => argv n
  | args => args
  | addCommandString c => addCommandString (f c)
  | debugGraph v c => debugGraph v c

/-- The name under which logs list the call. -/
def name : HostCall τ → String
  | configString .. => "config_string"
  | modelIndex _ => "model_index"
  | soundIndex _ => "sound_index"
  | imageIndex _ => "image_index"
  | setModel .. => "set_model"
  | broadcastPrint .. => "bprint"
  | debugPrint _ => "dprint"
  | clientPrint .. => "cprint"
  | centerPrint .. => "center_print"
  | error _ => "error"
  | startSound .. => "start_sound"
  | startPositionedSound .. => "start_positioned_sound"
  | unicast .. => "unicast"
  | multicast .. => "multicast"
  | writeFloat _ => "write_float"
  | writeChar _ => "write_char"
  | writeByte _ => "write_byte"
  | writeShort _ => "write_short"
  | writeLong _ => "write_long"
  | writeString _ => "write_string"
  | writePosition _ => "write_position"
  | writeAngle _ => "write_angle"
  | linkEntity _ => "link_entity"
  | unlinkEntity _ => "unlink_entity"
  | inVis .. => "in_vis"
  | inPvs .. => "in_pvs"
  | inPhs .. => "in_phs"
  | setAreaPortalState .. => "set_area_portal_state"
  | areasConnected .. => "areas_connected"
  | trace .. => "trace"
  | pointContents _ => "point_contents"
  | areaEdicts .. => "area_edicts"
  | move _ => "pmove"
  | cvar .. => "cvar"
  | cvarSet .. => "cvar_set"
  | cvarForceSet .. => "cvar_force_set"
  | argc => "argc"
  | argv _ => "argv"
  | args => "args"
  | addCommandString _ => "add_command_string"
  | debugGraph .. => "debug_graph"

end HostCall

end GameModule
