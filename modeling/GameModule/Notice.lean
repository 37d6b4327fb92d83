import GameModule.Host.Symbol
import GameModule.Session

/-!
# Notices

What the module writes to its own log. The host does not see these.
-/
namespace GameModule

inductive Notice where
  | bound (count : Nat)
  | unbound (cause : BindError)
  | allocating (maxClients maxEntities : Nat)
  | rejected (cause : SessionError)
  | shutDown (frames : Nat)
  /-- A request came in while the game was busy with another one. -/
  | reentered (entry : String)
  | withoutGame (entry : String)
  | replacing
  | shutdownDeferred
  | shutdownWithoutGame
  | missingInput
deriving DecidableEq

namespace Notice

inductive Level where
  | debug | warn | error
deriving DecidableEq

def Level.text : Level → String
  | .debug => "DEBUG"
  | .warn => "WARN"
  | .error => "ERROR"

def level : Notice → Level
  | .unbound _ => .error
  | .rejected _ | .reentered _ | .withoutGame _ | .replacing | .missingInput => .warn
  | .bound _ | .allocating .. | .shutDown _ | .shutdownDeferred | .shutdownWithoutGame => .debug

def message : Notice → String
  | .bound _ => "bound host imports"
  | .unbound _ => "unable to bind host imports"
  | .allocating .. => "allocating edict table"
  | .rejected _ => "client call rejected"
  | .shutDown _ => "server game shut down"
  | .reentered _ => "entry point re-entered from an import, skipped"
  | .withoutGame _ => "entry point called without a live game"
  | .replacing => "Initialize called twice, shutting down the previous game"
  | .shutdownDeferred => "Shutdown deferred until the running entry point returns"
  | .shutdownWithoutGame => "Shutdown without a live game"
  | .missingInput => "ClientThink with a null usercmd"

def fields : Notice → List (String × String)
  | .bound count => [("count", toString count)]
  | .unbound cause => [("error", cause.message)]
  | .allocating clients entities =>
    [("max_clients", toString clients), ("max_entities", toString entities)]
  | .rejected cause => [("error", cause.message)]
  | .shutDown frames => [("frames", toString frames)]
  | .reentered entry | .withoutGame entry => [("entry", entry)]
  | .replacing | .shutdownDeferred | .shutdownWithoutGame | .missingInput => []

end Notice

end GameModule
