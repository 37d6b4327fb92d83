import GameModule.Activity
import GameModule.Host.Wire

/-!
# A host with canned answers

A host that gives the same answers whatever happens, on the wire: it sees bytes, keeps nothing
about the game, and knows its console variables by the bytes of their names.
-/
namespace GameModule

open Text (Bytes)

/-- A console variable of such a host. -/
structure CannedCvar where
  name : Bytes
  string : Option Bytes
  value : Single

structure CannedHost where
  /-- Index of every model, sound and image. -/
  index : Int32
  /-- The reply to the visibility and connectivity questions. -/
  verdict : Int32
  /-- Contents of every point, and what every player stands in. -/
  contents : Int32
  trace : TraceResult
  areaStored : List Address
  areaCount : Int32
  /-- Entities every move reports as touched. -/
  touches : Int32
  args : List (Option Bytes)
  argc : Int32
  argsLine : Option Bytes
  cvars : List CannedCvar

namespace CannedHost

def find? (h : CannedHost) (name : Bytes) : Option Cvar :=
  (h.cvars.find? (·.name = name)).map fun c =>
    { name := none, string := c.string, flags := 0, modified := 0, value := c.value }

/-- Sets a variable, which is added if it is new. -/
def setCvar (h : CannedHost) (c : CannedCvar) : CannedHost :=
  { h with
    cvars :=
      if h.cvars.any (·.name = c.name) then h.cvars.map fun d => if d.name = c.name then c else d
      else h.cvars ++ [c] }

def setArgs (h : CannedHost) (args : List (Option Bytes)) : CannedHost :=
  { h with args, argc := Int32.ofNat args.length }

/-- The entity reported as touched in each slot. -/
def touchedEntity (slot : Nat) : Address := ⟨UInt64.ofNat (4096 + 16 * slot)⟩

def reply (h : CannedHost) : (c : HostCall Bytes) → c.Reply
  | .modelIndex _ | .soundIndex _ | .imageIndex _ => h.index
  | .inVis .. | .inPvs .. | .inPhs .. | .areasConnected .. => h.verdict
  | .trace .. => h.trace
  | .pointContents _ => h.contents
  | .areaEdicts _ _ limit _ => ⟨h.areaStored.take limit, h.areaCount⟩
  | .move block =>
    { block with
      numTouch := h.touches
      touch := Vector.ofFn fun slot => touchedEntity slot
      waterType := h.contents }
  | .cvar name _ _ | .cvarSet name _ | .cvarForceSet name _ => h.find? name
  | .argc => h.argc
  | .argv n => if n < 0 then none else (h.args[n.toInt.toNat]?).join
  | .args => h.argsLine
  | .configString .. | .setModel .. | .broadcastPrint .. | .debugPrint _ | .clientPrint ..
  | .centerPrint .. | .error _ | .startSound .. | .startPositionedSound .. | .unicast ..
  | .multicast .. | .writeFloat _ | .writeChar _ | .writeByte _ | .writeShort _ | .writeLong _
  | .writeString _ | .writePosition _ | .writeAngle _ | .linkEntity _ | .unlinkEntity _
  | .setAreaPortalState .. | .addCommandString _ | .debugGraph .. => ()

end CannedHost

/-- Runs an activity against a host given by its replies, and lists what the host received. -/
def Outcome.converse {σ α : Type} (reply : (c : HostCall Bytes) → c.Reply) :
    Outcome σ α → List (HostCall Bytes) × α
  | .done _ a => ([], a)
  | .note _ rest => rest.converse reply
  | .call s c resume =>
    let (received, a) := (resume (c.receive (reply c.send)) s).converse reply
    (c.send :: received, a)

end GameModule
