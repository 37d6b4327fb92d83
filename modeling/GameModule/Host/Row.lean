import GameModule.Host.Call

/-!
# Calls as rows

A call listed as its name and its arguments. There are two lists: what a host receives is every
argument; what a recorder keeps leaves out volumes, boxes and other details of a call.
-/
namespace GameModule

inductive Datum where
  | null
  | int (n : Int)
  | flag (b : Bool)
  | single (x : Single)
  | vector (v : Vec3)
  | address (a : Address)
  | text (s : String)
  | list (ds : List Datum)

namespace Datum

def int32 (n : Int32) : Datum := .int n.toInt

def code {α : Type} [Coded α] (a : α) : Datum := .int (Coded.code a)

/-- Bytes are shown as the characters they stand for. -/
def bytes (bs : Text.Bytes) : Datum := .text (String.ofList (bs.map Text.ofByte))

end Datum

namespace HostCall

open Datum

variable {τ : Type}

/-- The arguments of the calls that both lists show alike, given how texts and truth values
are shown. -/
def plainArguments (text : τ → Datum) (flag : Bool → Datum) : HostCall τ → List Datum
  | configString i v => [int32 i, text v]
  | modelIndex n | soundIndex n | imageIndex n => [text n]
  | setModel e n => [address e, text n]
  | broadcastPrint l m => [code l, text m]
  | debugPrint m | error m => [text m]
  | clientPrint e l m => [address e, code l, text m]
  | centerPrint e m => [address e, text m]
  | startSound e c i _ _ _ => [address e, int32 c, int32 i]
  | startPositionedSound o e c i _ _ _ => [vector o, address e, int32 c, int32 i]
  | unicast e r => [address e, flag r]
  | multicast o t => [vector o, code t]
  | writeFloat x | writeAngle x => [single x]
  | writeChar c | writeByte c | writeShort c | writeLong c => [int32 c]
  | writeString s | addCommandString s => [text s]
  | writePosition p | pointContents p => [vector p]
  | linkEntity e | unlinkEntity e => [address e]
  | inVis a b v => [vector a, vector b, int32 v]
  | inPvs a b | inPhs a b => [vector a, vector b]
  | setAreaPortalState p o => [int32 p, flag o]
  | areasConnected a b => [int32 a, int32 b]
  | trace s _ _ e p m => [vector s, vector e, address p, int m.toNat]
  | areaEdicts _ _ l t => [int l, code t]
  | move _ | argc | args => []
  | cvar n v fs => [text n, text v, int32 fs]
  | cvarSet n v | cvarForceSet n v => [text n, text v]
  | argv n => [int32 n]
  | debugGraph v c => [single v, int32 c]

/-- The arguments a recorder keeps. -/
def recorded (c : HostCall String) : List Datum := c.plainArguments .text .flag

/-- The arguments a host receives. -/
def received : HostCall Text.Bytes → List Datum
  | startSound e c i v a d => [address e, int32 c, int32 i, single v, single a, single d]
  | startPositionedSound o e c i v a d =>
    [vector o, address e, int32 c, int32 i, single v, single a, single d]
  | trace s mins maxs e p m =>
    [vector s, vector mins, vector maxs, vector e, address p, int32 m.toInt32]
  | areaEdicts mins maxs l t => [vector mins, vector maxs, null, int l, code t]
  | move b => [list [int32 b.numTouch, int32 b.snapInitial]]
  | c => c.plainArguments bytes fun b => int (if b then 1 else 0)

end HostCall

end GameModule
