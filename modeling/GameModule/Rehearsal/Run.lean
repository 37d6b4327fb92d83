import GameModule.Rehearsal.Script

/-!
# Rehearsals

A run of the machine against a host that follows a script. The host remembers one table: that of
the last game it opened, as long as nothing happened that leaves it in doubt whether the table is
still there.
-/
namespace GameModule

/-- What a journal shows: calls, notices, and the steps that hooks ran. -/
inductive JournalLine where
  | call (c : HostCall Text.Bytes)
  | notice (n : Notice)
  | enter (step : String)
  | leave (step : String) (r : StepResult)

/-- Of what happens in a machine, a journal shows the calls and the notices. -/
def Event.line? : Event → Option JournalLine
  | .called _ c => some (.call c)
  | .noted n => some (.notice n)
  | _ => none

structure Rehearsal where
  machine : Machine
  host : CannedHost
  hooks : List Hook
  /-- The game whose table the host knows. -/
  known : Option GameId
  /-- Disturbing steps begun so far. -/
  disturbances : Nat
  journal : List JournalLine

namespace Rehearsal

def initial (exported : List String) (host : CannedHost) (hooks : List Hook) : Rehearsal :=
  { machine := .initial exported, host, hooks, known := none, disturbances := 0, journal := [] }

def log (r : Rehearsal) (lines : List JournalLine) : Rehearsal :=
  { r with journal := r.journal ++ lines }

/-- Makes a move; an impossible one changes nothing. -/
def move (r : Rehearsal) (m : Move) : Rehearsal :=
  match r.machine.step m with
  | none => r
  | some machine =>
    let happened := machine.history.take (machine.history.length - r.machine.history.length)
    { r with machine }.log (happened.reverse.filterMap Event.line?)

/-- What the entry point that was left last gave back. -/
def lastResult (r : Rehearsal) : EntryResult :=
  match r.machine.history with
  | .returned result :: _ => result
  | _ => .nothing

def knownGame? (r : Rehearsal) : Option (GameId × Game) := do
  let id ← r.known
  let res ← r.machine.games[id]?
  return (id, res.game)

/-- The handle of an entity; null if no table is known. -/
def resolve (r : Rehearsal) (e : EntityRef) : HostHandle :=
  match e, r.known with
  | .index n, some id => .fromTable id (Edict.stride * n)
  | .offset k, some id => .fromTable id k
  | _, _ => .null

/-- Carries out a step. An entry point is served, by `serve`, until it returns. -/
def perform (serve : Nat → Rehearsal → Rehearsal) (r : Rehearsal) (s : ScriptStep) :
    StepResult × Rehearsal :=
  let call (e : Entry) (r : Rehearsal) : Rehearsal :=
    serve r.machine.stack.length (r.move (.enter e))
  let r := if s.disturbs then { r with disturbances := r.disturbances + 1 } else r
  match s with
  | .start exports =>
    let before := r.disturbances
    let r := call (.start exports) r
    match r.lastResult with
    | .table (some id) =>
      let certain := exports.maxEdicts && r.disturbances = before
      (.opened true, { r with known := if certain then some id else none })
    | _ => (.opened false, r)
  | .stop => (.nothing, call .stop { r with known := none })
  | .request q =>
    let r := call (.request (q.map r.resolve id id)) r
    match r.lastResult with
    | .verdict accepted => (.verdict accepted, r)
    | _ => (.nothing, r)
  | .apiVersion => (.version Limits.apiVersion, r)
  | .setInts ints => (.nothing, r.move (.writeInts ints))
  | .setArgs args => (.nothing, { r with host := r.host.setArgs args })
  | .setCvar c => (.nothing, { r with host := r.host.setCvar c })
  | .reveal symbols => (.nothing, r.move (.reveal symbols))
  | .edicts =>
    match r.knownGame? with
    | some (_, g) => (.table g.edicts.length g.rows, r)
    | none => (.nothing, r)
  | .poke n field value =>
    match r.knownGame? with
    | some (id, g) =>
      match g.poke? n field value with
      | some w => (.nothing, r.move (.write id w))
      | none => (.nothing, r)
    | none => (.nothing, r)

/-- Answers calls until only `height` of them are outstanding. Before each answer the first hook
on that call is looked at, and its steps are run if they are due. -/
def serve : (fuel height : Nat) → Rehearsal → Rehearsal
  | 0, _, r => r
  | fuel + 1, height, r =>
    match r.machine.stack with
    | [] => r
    | frame :: rest =>
      if rest.length < height then r
      else
        let (steps, hooks) := Hook.fire frame.call.name r.hooks
        let r := steps.foldl
          (fun r s =>
            let (result, r) := (r.log [.enter s.name]).perform (serve fuel) s
            r.log [.leave s.name result])
          { r with hooks }
        serve fuel height (r.move (.answer r.host.reply))

/-- More calls than one entry point can make, the closing of an earlier game included. -/
def callsPerEntry : Nat := 8

/-- Enough for every hook to run inside the last call of the one before. -/
def budget (r : Rehearsal) : Nat := callsPerEntry * (r.hooks.length + 1)

/-- Carries out a step of the script, with a journal of its own. -/
def step (r : Rehearsal) (s : ScriptStep) : StepResult × Rehearsal :=
  { r with journal := [] }.perform (serve r.budget) s

end Rehearsal

end GameModule
