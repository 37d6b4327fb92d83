import GameModule.Host.Call
import GameModule.Notice

/-!
# Activities

An activity is work that may stop to call the host. While the host has control the state is
outside the activity, because the host may write to it: every call hands the state over, and takes
it back with the answer.
-/
namespace GameModule

inductive Outcome (σ α : Type) where
  | done (state : σ) (result : α)
  | note (notice : Notice) (rest : Outcome σ α)
  | call (state : σ) (c : HostCall String) (resume : c.Answer → σ → Outcome σ α)

def Outcome.bind {σ α β : Type} : Outcome σ α → (α → σ → Outcome σ β) → Outcome σ β
  | .done s a, f => f a s
  | .note n rest, f => .note n (rest.bind f)
  | .call s c resume, f => .call s c fun a s => (resume a s).bind f

def Activity (σ α : Type) : Type := σ → Outcome σ α

namespace Activity

variable {σ α : Type}

instance : Monad (Activity σ) where
  pure a := fun s => .done s a
  bind x f := fun s => (x s).bind f

/-- Calls the host. -/
def ask (c : HostCall String) : Activity σ c.Answer := fun s => .call s c fun a s => .done s a

/-- Writes a line to the host's console. -/
def print (message : String) : Activity σ Unit := ask (.debugPrint message)

/-- One argument of the current command. -/
def argv (n : Int32) : Activity σ String := ask (.argv n)

/-- Registers a variable, or finds it. -/
def cvar (name value : String) (flags : Int32) : Activity σ (Option Cvar) :=
  ask (.cvar name value flags)

def note (n : Notice) : Activity σ Unit := fun s => .note n (.done s ())

def get : Activity σ σ := fun s => .done s s

def modify (f : σ → σ) : Activity σ Unit := fun s => .done (f s) ()

/-- Registers a variable and reads its number. A variable the host does not have counts as the
number its default spells. -/
def cvarValue (name default : String) (flags : Int32) : Activity σ Single := do
  let c ← cvar name default flags
  return Cvar.valueOr c (Single.ofText default)

/-- Registers a variable and reads its text. -/
def cvarString (name default : String) (flags : Int32) : Activity σ String := do
  let c ← cvar name default flags
  return Cvar.stringOr c default

/-- The arguments from number `n` on. -/
def argvFrom : (count n : Nat) → Activity σ (List String)
  | 0, _ => return []
  | count + 1, n => do
    let first ← argv (Int32.ofNat n)
    return first :: (← argvFrom count (n + 1))

/-- The number of arguments of the current command. -/
def argc : Activity σ Int32 := ask .argc

/-- Every argument of the current command, the command itself included. -/
def argvAll : Activity σ (List String) := do
  let count ← argc
  argvFrom count.toInt.toNat 0

end Activity

end GameModule
