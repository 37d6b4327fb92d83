import GameModule.Host.Call

/-!
# Calls on the wire

What crosses the boundary when the game calls the host: texts become bytes, truth values become
integers, and counts become 32-bit. What the host gives back is not trusted with lengths: a list
it reports as longer than the room it was given is cut.
-/
namespace GameModule

open Text (Bytes)

/-- What a host stores into the list of an area query, from the front, and the count it gives
back. -/
structure AreaReply where
  stored : List Address
  count : Int32

namespace HostCall

/-- What the host gives back, as it crosses the boundary. -/
def Reply {τ : Type} : HostCall τ → Type
  | modelIndex _ | soundIndex _ | imageIndex _ | argc => Int32
  | inVis .. | inPvs .. | inPhs .. | areasConnected .. => Int32
  | trace .. => TraceResult
  | pointContents _ => Int32
  | areaEdicts .. => AreaReply
  | move _ => MoveBlock
  | cvar .. | cvarSet .. | cvarForceSet .. => Option Cvar
  | argv _ | args => Option Bytes
  | _ => Unit

/-- The longest list an area query can ask for. -/
def areaRoom (limit : Nat) : Nat := min limit 0x7fffffff

/-- The call as the host receives it. -/
def send : HostCall String → HostCall Bytes
  | areaEdicts mins maxs limit area => areaEdicts mins maxs (areaRoom limit) area
  | c => c.map Text.toNarrow

/-- The slots of an area query that count: as many as the host reported, never a negative number
and never more than there is room for. A slot the host did not store into is null. -/
def areaResult (limit : Nat) (r : AreaReply) : List Address :=
  (List.range (within (areaRoom limit) r.count)).map fun i => r.stored[i]?.getD .null

/-- Any integer but zero is true. -/
def truth (n : Int32) : Bool := n ≠ 0

/-- What the game makes of a reply. -/
def receive : (c : HostCall String) → c.send.Reply → c.Answer
  | modelIndex _, n | soundIndex _, n | imageIndex _, n | argc, n => n
  | inVis .., n | inPvs .., n | inPhs .., n | areasConnected .., n => truth n
  | trace .., t => t
  | pointContents _, n => Int32.toUInt32 n
  | areaEdicts _ _ limit _, r => areaResult limit r
  | move _, b => b
  | cvar .., c | cvarSet .., c | cvarForceSet .., c => c
  | argv _, s | args, s => Text.ofNarrow? s
  | configString .., _ | setModel .., _ | broadcastPrint .., _ | debugPrint _, _
  | clientPrint .., _ | centerPrint .., _ | error _, _ | startSound .., _
  | startPositionedSound .., _ | unicast .., _ | multicast .., _ | writeFloat _, _
  | writeChar _, _ | writeByte _, _ | writeShort _, _ | writeLong _, _ | writeString _, _
  | writePosition _, _ | writeAngle _, _ | linkEntity _, _ | unlinkEntity _, _
  | setAreaPortalState .., _ | addCommandString _, _ | debugGraph .., _ => ()

end HostCall

end GameModule
