import GameModule.Activity

/-!
# Game settings

Read from console variables when a game is opened, and fixed for its life. The counts are cut to
what the edict table allows: at least one client, and room for the world and every client.
-/
namespace GameModule

structure Config where
  /-- Client slots: edicts `1 .. maxClients`. -/
  maxClients : Nat
  /-- Length of the edict table. -/
  maxEntities : Nat
  /-- Whether each request is echoed on the host's console. -/
  traceCalls : Bool
deriving DecidableEq

namespace Config

def standard : Config := ⟨4, Limits.edicts, true⟩

/-- `n` cut to `lo .. hi`. -/
def clamp (lo hi n : Int) : Int := max lo (min hi n)

def clamped (maxClients maxEntities : Int) (traceCalls : Bool) : Config :=
  let clients := clamp 1 Limits.clients maxClients
  let entities := clamp (clients + 1) Limits.edicts maxEntities
  ⟨clients.toNat, entities.toNat, traceCalls⟩

/-- Registers and reads the three variables. -/
def read {σ : Type} : Activity σ Config := do
  let clients ← Activity.cvarValue "maxclients" "4" (Cvar.serverInfo ||| Cvar.latched)
  let entities ← Activity.cvarValue "maxentities" "1024" Cvar.latched
  let trace ← Activity.cvarValue "g_tracecalls" "1" 0
  return clamped clients.toInt64 entities.toInt64 (trace != 0)

end Config

end GameModule
